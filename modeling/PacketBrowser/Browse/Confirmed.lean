import PacketBrowser.Browse.Handler
import PacketBrowser.Foundation.Triple

/-!
# Serving what was confirmed

A conditional request carries the etag of the entry a handler found. Until the answer is
there and the handler has touched the entry and looked it up again, other handlers may
replace, remove or evict it: both statements go by the URL alone.

If the entry still has the etag when the confirmation arrives, and no other handler
disturbs it before it has been looked up, the handler touches and serves what was
confirmed. Otherwise it may extend the lifetime of another page and serve that one, or
have nothing to serve.
-/

namespace PacketBrowser.Browse

open Protocol Foundation Program Setting

/-- A reply that confirms the etag. -/
def confirms (reply : Client.Reply) (etag : Text) : Bool :=
  (confirmation reply).any fun header => header.etag == etag

/-- A handler whose request for the URL carried the etag was told that it is current. -/
def Confirmed (thread : Nat) (url etag : Text) (history : List BrowseEvent) : Prop :=
  ∃ reply, (⟨thread, .exchange (.get url (some etag)), reply⟩ : BrowseEvent) ∈ history ∧
    confirms reply etag = true

/-- A body was stored for the URL with the etag. -/
def StoredWith (url etag : Text) (body : Bytes) (history : List BrowseEvent) : Prop :=
  ∃ thread row queries, (⟨thread, .write url row, some queries⟩ : BrowseEvent) ∈ history ∧
    row.etag = etag ∧ row.brotliBody = body

/-- The page is the one of a body stored with the etag. -/
def ServesStored (libraries : Libraries) (url etag : Text) (page : Page)
    (history : List BrowseEvent) : Prop :=
  page ≠ .errorPage noEntryMessage ∧ ∃ hit now, hit.etag = etag ∧
    StoredWith url etag hit.brotliBody history ∧ page = storedPage libraries url hit now

/-- What is served after a confirmation is what was confirmed, and a touch after it
extends the lifetime of no other entry. -/
def ServesConfirmed (libraries : Libraries) (event : BrowseEvent) (earlier : List BrowseEvent) :
    Prop :=
  ∀ url etag, Confirmed event.thread url etag earlier →
    (∀ page, event.op = .respond page → ServesStored libraries url etag page earlier) ∧
      ∀ now touched, event = ⟨event.thread, .touchFresh url now, some touched⟩ → touched = etag

/-- The confirmed entry that a handler has still to look up. -/
def confirming (thread : Nat) : List BrowseEvent → Option (Text × Text)
  | [] => none
  | ⟨other, op, answer⟩ :: earlier =>
    if other = thread then
      match op, answer with
      | .exchange (.get url (some etag)), reply =>
        if confirms reply etag then some (url, etag) else none
      | .lookup _, _ => none
      | _, _ => confirming thread earlier
    else confirming thread earlier

/-- The statement removes or evicts the entry of the URL, or gives it another etag. One that
fails does not. -/
def disturbs (cache : Cache) (url etag : Text) : (op : Op) → Answer op → Bool
  | .write stored row, some queries => (stored == url && row.etag != etag) ||
    (cache.victims stored queries).any fun victim => victim.1 == url
  | .delete deleted, executed => executed && deleted == url
  | .clear, executed => executed
  | _, _ => false

/-- When a confirmation arrives the entry has the etag, and it is not disturbed before
the handler has looked it up. -/
def Undisturbed (cache : Cache) (now : Moment) (event : BrowseEvent) : Prop :=
  (∀ url etag reply, event = ⟨event.thread, .exchange (.get url (some etag)), reply⟩ →
    confirms reply etag = true → (lookup now.world url).map Hit.etag = some etag) ∧
  ∀ thread url etag, confirming thread now.history = some (url, etag) →
    disturbs cache url etag event.op event.answer = false

/-- Every row was written. -/
def RowsStored (now : Moment) : Prop :=
  ∀ url row, now.world.lookup url = some row → StoredWith url row.etag row.brotliBody now.history

/-- Runs in which what was confirmed is not disturbed. -/
def confirmedSetting (cache : Cache) (libraries : Libraries) : Setting Entries Nat Answer where
  exec := exec cache
  meets := Undisturbed cache
  inv now := Throughout (ServesConfirmed libraries) now.history ∧ RowsStored now

section Rows

variable {cache : Cache} {entries : Entries} {url etag : Text}

/-- A statement that does not disturb an entry leaves it there with its etag. -/
theorem etag_kept {op : Op} {answer : Answer op}
    (spared : disturbs cache url etag op answer = false)
    (held : (lookup entries url).map Hit.etag = some etag) :
    (lookup (apply cache entries op answer) url).map Hit.etag = some etag := by
  have updated : ∀ touched change, (∀ row : CacheRow, (change row).hit.etag = row.hit.etag) →
      (lookup (update entries touched change) url).map Hit.etag = some etag := by
    intro touched change same
    rw [← held]
    simp only [lookup, lookup_update]
    split
    · cases entries.lookup url <;> simp [same]
    · rfl
  cases op with
  | write stored row =>
    cases answer with
    | none => exact held
    | some queries =>
      simp only [disturbs, Bool.or_eq_false_iff, Bool.and_eq_false_imp, beq_iff_eq,
        bne_eq_false_iff_eq, List.any_eq_false] at spared
      have unevicted : url ∉ (cache.victims stored queries).map Sigma.fst := by
        intro evicted
        obtain ⟨victim, member, key⟩ := List.mem_map.mp evicted
        exact spared.2 victim member key
      simp only [apply, lookup, Cache.lookup_write]
      by_cases same : url = stored
      · rw [if_pos same]
        exact congrArg some (spared.1 same.symm)
      · rw [if_neg same, if_neg unevicted]
        exact held
  | touchFresh touched now => exact updated touched _ fun _ => rfl
  | touchLastUsed touched now => exact updated touched _ fun _ => rfl
  | delete deleted =>
    cases answer with
    | false => exact held
    | true =>
      have other : url ≠ deleted := fun same => by simp [disturbs, same] at spared
      simp only [apply, if_true, lookup, lookup_delete, if_neg other]
      exact held
  | clear =>
    cases answer with
    | false => exact held
    | true => exact absurd spared (by simp [disturbs])
  | _ => exact held

end Rows

section History

variable {thread other : Nat} {url etag : Text} {body : Bytes} {earlier : List BrowseEvent}

/-- What was stored stays stored behind any later event. -/
theorem stored_later (event : BrowseEvent) (before : StoredWith url etag body earlier) :
    StoredWith url etag body (event :: earlier) := by
  obtain ⟨writer, row, queries, member, same⟩ := before
  exact ⟨writer, row, queries, List.mem_cons_of_mem _ member, same⟩

/-- Only its own exchange tells a handler that an entry is current. -/
theorem confirmed_before {event : BrowseEvent}
    (quiet : ∀ request, event.thread = thread → event.op ≠ .exchange request)
    (now : Confirmed thread url etag (event :: earlier)) : Confirmed thread url etag earlier := by
  obtain ⟨reply, member, confirmed⟩ := now
  rcases List.mem_cons.mp member with same | old
  · exact absurd (congrArg Event.op same.symm) (quiet _ (congrArg Event.thread same.symm))
  · exact ⟨reply, old, confirmed⟩

/-- What another request does confirms nothing for this one. -/
theorem confirming_other {event : BrowseEvent} (different : event.thread ≠ thread) :
    confirming thread (event :: earlier) = confirming thread earlier := by
  obtain ⟨other, op, answer⟩ := event
  exact if_neg different

/-- Whoever waits for an entry sent a conditional request. -/
theorem confirming_asked {history : List BrowseEvent}
    (waits : confirming thread history = some (url, etag)) :
    ∃ event ∈ history, ∃ url etag, event.op = .exchange (.get url (some etag)) := by
  induction history with
  | nil => exact absurd waits (by simp [confirming])
  | cons event earlier inductionHypothesis =>
    by_cases asked : ∃ url etag, event.op = .exchange (.get url (some etag))
    · exact ⟨event, List.mem_cons_self .., asked⟩
    · obtain ⟨before, member, found⟩ : ∃ event ∈ earlier, ∃ url etag,
          event.op = .exchange (.get url (some etag)) := by
        apply inductionHypothesis
        obtain ⟨other, op, answer⟩ := event
        unfold confirming at waits
        split at waits
        · split at waits
          · rename_i url etag reply
            exact absurd ⟨url, etag, rfl⟩ asked
          · exact absurd waits (by simp)
          · exact waits
        · exact waits
      exact ⟨before, List.mem_cons_of_mem _ member, found⟩

end History

section Proof

variable {cache : Cache} {libraries : Libraries} {thread : Nat}

/-- A move is an answer that the table gives, and what becomes of the table. -/
theorem moves_given {before after : Moment} {event : BrowseEvent}
    (moves : (confirmedSetting cache libraries).Moves before event after) :
    gives before.world event.op event.answer = true ∧
      after.world = apply cache before.world event.op event.answer :=
  (exec_iff cache).mp moves.occurs.1

/-- A step keeps the invariant if its event serves and touches what was confirmed. -/
theorem serves_kept {before after : Moment} {event : BrowseEvent}
    (moves : (confirmedSetting cache libraries).Moves before event after)
    (serves : ServesConfirmed libraries event before.history) :
    (confirmedSetting cache libraries).inv after := by
  obtain ⟨world, history⟩ := after
  obtain ⟨executed, grown⟩ := moves.occurs
  obtain rfl : history = event :: before.history := grown
  obtain ⟨_, rfl⟩ := (exec_iff cache).mp executed
  obtain ⟨throughout, rows⟩ := moves.inv
  refine ⟨⟨serves, throughout⟩, ?_⟩
  intro url row stored
  rcases row_after stored with ⟨queries, written⟩ | ⟨old, found, ⟨etag, body, _⟩, _⟩
  · obtain ⟨writer, op, answer⟩ := event
    obtain ⟨rfl, same⟩ := Sigma.mk.inj written
    obtain rfl := eq_of_heq same
    exact ⟨writer, row, queries, List.mem_cons_self .., rfl, rfl⟩
  · rw [etag, body]
    exact stored_later event (rows url old found)

/-- The handler was not told that an entry is current. -/
def Unconfirmed (thread : Nat) (now : Moment) : Prop :=
  ∀ url etag, ¬ Confirmed thread url etag now.history

/-- If the handler was told that an entry is current, the page is one stored with its etag. -/
def Fulfilled (libraries : Libraries) (thread : Nat) (page : Page) (now : Moment) : Prop :=
  ∀ url etag, Confirmed thread url etag now.history →
    ServesStored libraries url etag page now.history

/-- The only entry the handler was told to be current. -/
def Sole (thread : Nat) (url etag : Text) (now : Moment) : Prop :=
  ∀ other tag, Confirmed thread other tag now.history → other = url ∧ tag = etag

/-- The confirmed entry is there, and the handler has still to look it up. -/
def Pending (thread : Nat) (url etag : Text) (now : Moment) : Prop :=
  confirming thread now.history = some (url, etag) ∧
    (lookup now.world url).map Hit.etag = some etag

/-- What no exchange of the handler changes, others do not change either. -/
theorem confirmed_elsewhere {before after : Moment}
    (elsewhere : (confirmedSetting cache libraries).Elsewhere thread before after) {url etag : Text}
    (confirmed : Confirmed thread url etag after.history) :
    Confirmed thread url etag before.history := by
  obtain ⟨event, different, moves, _⟩ := elsewhere
  rw [moves.occurs.2] at confirmed
  exact confirmed_before (fun _ same => absurd same different) confirmed

/-- Another request leaves this one unconfirmed. -/
theorem unconfirmed_stable : (confirmedSetting cache libraries).Stable thread (Unconfirmed thread) :=
  fun _ _ unconfirmed elsewhere url etag confirmed =>
    unconfirmed url etag (confirmed_elsewhere elsewhere confirmed)

/-- Another request changes nothing about the one confirmation of this one. -/
theorem sole_stable (url etag : Text) :
    (confirmedSetting cache libraries).Stable thread (Sole thread url etag) :=
  fun _ _ sole elsewhere other tag confirmed => sole other tag (confirmed_elsewhere elsewhere confirmed)

/-- A page that was stored when it was served stays one behind later events. -/
theorem servesStored_later {url etag : Text} {page : Page} {earlier : List BrowseEvent}
    (event : BrowseEvent) (serves : ServesStored libraries url etag page earlier) :
    ServesStored libraries url etag page (event :: earlier) := by
  obtain ⟨answered, hit, now, same, stored, shown⟩ := serves
  exact ⟨answered, hit, now, same, stored_later event stored, shown⟩

/-- Another request changes nothing about what this one has shown. -/
theorem fulfilled_stable (page : Page) :
    (confirmedSetting cache libraries).Stable thread (Fulfilled libraries thread page) := by
  intro before after fulfilled elsewhere url etag confirmed
  have serves := fulfilled url etag (confirmed_elsewhere elsewhere confirmed)
  obtain ⟨event, _, moves, _⟩ := elsewhere
  rw [moves.occurs.2]
  exact servesStored_later event serves

/-- Other handlers do not disturb the entry. -/
theorem pending_stable (url etag : Text) :
    (confirmedSetting cache libraries).Stable thread (Pending thread url etag) := by
  rintro before after ⟨waits, held⟩ ⟨event, different, moves, _⟩
  constructor
  · rw [moves.occurs.2, confirming_other different]
    exact waits
  · rw [(moves_given moves).2]
    exact etag_kept (moves.met.2 thread url etag waits) held

/-- Operations other than an exchange and an answer. -/
def Op.silent : Op → Prop
  | .exchange _ => False
  | .respond _ => False
  | _ => True

/-- An operation that looks only at the table asks no server. -/
theorem plain_silent (op : Op) (plain : op.plain) : op.silent := by
  cases op with
  | exchange request => exact plain.elim
  | respond page => exact plain.elim
  | _ => trivial

/-- Without a confirmation nothing is promised. -/
theorem unconfirmed_step {before after : Moment} {op : Op} {answer : Answer op}
    (unconfirmed : Unconfirmed thread before) (quiet : ∀ request, op ≠ .exchange request)
    (moves : (confirmedSetting cache libraries).Moves before ⟨thread, op, answer⟩ after) :
    (confirmedSetting cache libraries).inv after ∧ Unconfirmed thread after := by
  constructor
  · apply serves_kept moves
    intro url etag confirmed
    exact absurd confirmed (unconfirmed url etag)
  · intro url etag confirmed
    rw [moves.occurs.2] at confirmed
    exact unconfirmed url etag (confirmed_before (fun request _ => quiet request) confirmed)

/-- A part that asks no server leaves the request unconfirmed. -/
theorem unconfirmed_triple {α : Type} {program : Routine α} (only : program.Only Op.silent) :
    (confirmedSetting cache libraries).Triple thread (Unconfirmed thread) program
      fun _ => Unconfirmed thread := by
  apply triple_only unconfirmed_stable only
  intro op silent before answer after unconfirmed moves
  apply unconfirmed_step unconfirmed _ moves
  rintro request rfl
  exact silent

/-- Pages of errors in other steps begin otherwise. -/
theorem noEntryMessage_front {start rest : Text} {first : Char} (front : start.head? = some first)
    (different : first ≠ 'S') : noEntryMessage ≠ start ++ rest := by
  intro same
  have head : noEntryMessage.head? = some 'S' := by decide
  rw [same, List.head?_append, front] at head
  exact different (Option.some.inj head)

/-- A page from the cache is not the error that there is none. -/
theorem storedPage_answers (libraries : Libraries) (url : Text) (hit : Hit) (now : SystemTime) :
    storedPage libraries url hit now ≠ .errorPage noEntryMessage := by
  unfold storedPage
  split
  · rename_i message failed
    intro same
    obtain rfl := Page.errorPage.inj same
    rcases renderHtml_error failed with invalid | ⟨err, stage⟩ | ⟨err, stage⟩
    · exact absurd invalid (by decide)
    · exact noEntryMessage_front (by decide : _ = some 'D') (by decide) stage
    · exact noEntryMessage_front (by decide : _ = some 'F') (by decide) stage
  · simp

/-- A hit is one stored with the etag, and the handler was told of no other entry. -/
def Found (thread : Nat) (url etag : Text) (hit : Hit) (now : Moment) : Prop :=
  Sole thread url etag now ∧ hit.etag = etag ∧ StoredWith url etag hit.brotliBody now.history

/-- Another request changes nothing about what this one has found. -/
theorem found_stable (url etag : Text) (hit : Hit) :
    (confirmedSetting cache libraries).Stable thread (Found thread url etag hit) := by
  rintro before after ⟨sole, same, stored⟩ elsewhere
  refine ⟨sole_stable url etag before after sole elsewhere, same, ?_⟩
  obtain ⟨event, _, moves, _⟩ := elsewhere
  rw [moves.occurs.2]
  exact stored_later event stored

/-- Showing what was found is showing what was stored. -/
theorem Found.fulfilled {url etag : Text} {hit : Hit} {now : Moment}
    (found : Found thread url etag hit now) (clock : SystemTime) :
    Fulfilled libraries thread (storedPage libraries url hit clock) now := by
  intro other tag confirmed
  obtain ⟨sole, same, stored⟩ := found
  obtain ⟨rfl, rfl⟩ := sole other tag confirmed
  exact ⟨storedPage_answers libraries other hit clock, hit, clock, same, stored, rfl⟩

/-- An operation of the handler that is no exchange, answer or touch keeps the invariant
and tells the handler nothing. -/
theorem harmless_step {before after : Moment} {op : Op} {answer : Answer op}
    (moves : (confirmedSetting cache libraries).Moves before ⟨thread, op, answer⟩ after)
    (quiet : ∀ request, op ≠ .exchange request) (unanswered : ∀ page, op ≠ .respond page)
    (untouched : ∀ url now, op ≠ .touchFresh url now) :
    (confirmedSetting cache libraries).inv after ∧
      (∀ url etag, Sole thread url etag before → Sole thread url etag after) ∧
      ∀ url etag body, StoredWith url etag body before.history →
        StoredWith url etag body after.history := by
  refine ⟨?_, ?_, ?_⟩
  · apply serves_kept moves
    intro url etag _
    constructor
    · intro page same
      exact absurd same (unanswered page)
    · intro now touched same
      exact absurd (congrArg Event.op same) (untouched url now)
  · intro url etag sole other tag confirmed
    rw [moves.occurs.2] at confirmed
    exact sole other tag (confirmed_before (fun request _ => quiet request) confirmed)
  · intro url etag body stored
    rw [moves.occurs.2]
    exact stored_later _ stored

variable (ctx : AppContext) (url : Text)

/-- A hit that was found is served as it was stored. -/
theorem serveFromHit_fulfilled (etag : Text) (hit : Hit) :
    (confirmedSetting cache ctx.libraries).Triple thread (Found thread url etag hit)
      (serveFromHit ctx url hit) (Fulfilled ctx.libraries thread) := by
  unfold serveFromHit
  split
  · rename_i message failed
    apply triple_done (fulfilled_stable _)
    intro now found
    have shown : Fulfilled ctx.libraries thread (storedPage ctx.libraries url hit 0) now :=
      found.fulfilled 0
    simpa only [storedPage, failed] using shown
  · rename_i rewritten shown
    apply triple_bind (fun _ => Found thread url etag hit)
    · apply triple_ask (found_stable url etag hit) fun _ => found_stable url etag hit
      rintro now answer later ⟨sole, same, stored⟩ moves
      obtain ⟨kept, soleLater, storedLater⟩ := harmless_step moves (by simp) (by simp) (by simp)
      exact ⟨kept, soleLater url etag sole, same, storedLater url etag _ stored⟩
    · intro clock
      apply triple_done (fulfilled_stable _)
      intro now found
      have shown' : Fulfilled ctx.libraries thread (storedPage ctx.libraries url hit clock) now :=
        found.fulfilled clock
      simpa only [storedPage, shown] using shown'

/-- The touch of a confirmed entry extends its lifetime and no other. -/
theorem touchFreshNow_pending (etag : Text) :
    (confirmedSetting cache libraries).Triple thread
      (fun now => Sole thread url etag now ∧ Pending thread url etag now) (touchFreshNow url)
      fun _ now => Sole thread url etag now ∧ Pending thread url etag now := by
  have stable : (confirmedSetting cache libraries).Stable thread fun now =>
      Sole thread url etag now ∧ Pending thread url etag now :=
    (sole_stable url etag).and (pending_stable url etag)
  apply triple_bind (fun _ now => Sole thread url etag now ∧ Pending thread url etag now)
  · apply triple_ask stable fun _ => stable
    rintro now answer later ⟨sole, waits, held⟩ moves
    obtain ⟨kept, soleLater, _⟩ := harmless_step moves (by simp) (by simp) (by simp)
    refine ⟨kept, soleLater url etag sole, ?_, ?_⟩
    · rw [moves.occurs.2]
      simpa [confirming] using waits
    · rw [(moves_given moves).2]
      exact held
  · intro clock
    apply triple_bind (fun _ now => Sole thread url etag now ∧ Pending thread url etag now)
    · apply triple_ask stable fun _ => stable
      rintro now answer later ⟨sole, waits, held⟩ moves
      obtain ⟨given, same⟩ := moves_given moves
      have touched : answer = some etag := by
        simpa [gives, held] using given
      refine ⟨serves_kept moves ?_, ?_, ?_, ?_⟩
      · intro other tag confirmed
        obtain ⟨rfl, rfl⟩ := sole other tag confirmed
        refine ⟨fun page same => absurd same (by simp), ?_⟩
        rintro clock' found same
        cases same
        exact Option.some.inj touched
      · intro other tag confirmed
        rw [moves.occurs.2] at confirmed
        exact sole other tag (confirmed_before (by simp) confirmed)
      · rw [moves.occurs.2]
        simpa [confirming] using waits
      · rw [same]
        exact etag_kept rfl held
    · exact fun _ => triple_done stable fun _ => id

/-- The second lookup finds what was confirmed. -/
theorem lookup_found (etag : Text) :
    (confirmedSetting cache libraries).Triple thread
      (fun now => Sole thread url etag now ∧ Pending thread url etag now) (ask (.lookup url))
      fun answer now => ∃ hit, answer = some hit ∧ Found thread url etag hit now := by
  apply triple_ask ((sole_stable url etag).and (pending_stable url etag))
  · rintro answer before after ⟨hit, same, found⟩ elsewhere
    exact ⟨hit, same, found_stable url etag hit before after found elsewhere⟩
  · rintro now answer later ⟨sole, _, held⟩ moves
    obtain ⟨kept, soleLater, storedLater⟩ := harmless_step moves (by simp) (by simp) (by simp)
    have given : answer = lookup now.world url := by simpa [gives] using (moves_given moves).1
    obtain ⟨row, stored, same⟩ : ∃ row, now.world.lookup url = some row ∧ row.etag = etag := by
      simpa [lookup, CacheRow.hit] using held
    refine ⟨kept, row.hit, ?_, soleLater url etag sole, same, ?_⟩
    · rw [given, lookup, stored]
      rfl
    · apply storedLater
      rw [← same]
      exact moves.inv.2 url row stored

/-- Behind a confirmation the page that is served was stored with that ETag. -/
theorem serveConfirmed_fulfilled (etag : Text) :
    (confirmedSetting cache ctx.libraries).Triple thread
      (fun now => Sole thread url etag now ∧ Pending thread url etag now) (serveConfirmed ctx url)
      (Fulfilled ctx.libraries thread) := by
  apply triple_bind _ (touchFreshNow_pending url etag)
  intro _
  apply triple_bind _ (lookup_found url etag)
  rintro answer now ⟨hit, rfl, found⟩
  exact serveFromHit_fulfilled ctx url etag hit now found

/-- Without a confirmation any page may be shown. -/
theorem unconfirmed_fulfilled {program : Routine Page} (only : program.Only Op.silent) :
    (confirmedSetting cache libraries).Triple thread (Unconfirmed thread) program
      (Fulfilled libraries thread) := by
  intro now unconfirmed
  apply ((unconfirmed_triple only).consequence (fun _ => id) _) now unconfirmed
  intro page later unconfirmed url etag confirmed
  exact absurd confirmed (unconfirmed url etag)

/-- The request carried the etag, and the reply confirms it. -/
def Confirming (request : Request) (reply : Client.Reply) (url etag : Text) : Prop :=
  request = .get url (some etag) ∧ confirms reply etag = true

/-- The handler is told what its exchange tells it. -/
def Told (thread : Nat) (request : Request) (reply : Client.Reply) (now : Moment) : Prop :=
  (∀ url etag, Confirmed thread url etag now.history → Confirming request reply url etag) ∧
    ∀ url etag, Confirming request reply url etag → Pending thread url etag now

/-- Another request changes nothing about what this one was told. -/
theorem told_stable (request : Request) (reply : Client.Reply) :
    (confirmedSetting cache libraries).Stable thread (Told thread request reply) := by
  rintro before after ⟨told, pending⟩ elsewhere
  exact ⟨fun url etag confirmed => told url etag (confirmed_elsewhere elsewhere confirmed),
    fun url etag positive => pending_stable url etag before after (pending url etag positive) elsewhere⟩

/-- The exchange is where a request is told whether its copy is still good. -/
theorem exchange_told (request : Request) :
    (confirmedSetting cache libraries).Triple thread (Unconfirmed thread) (ask (.exchange request))
      (Told thread request) := by
  apply triple_ask unconfirmed_stable (told_stable request)
  intro now reply later unconfirmed moves
  refine ⟨?_, ?_, ?_⟩
  · apply serves_kept moves
    intro url etag confirmed
    exact absurd confirmed (unconfirmed url etag)
  · intro url etag confirmed
    rw [moves.occurs.2] at confirmed
    obtain ⟨answer, member, positive⟩ := confirmed
    rcases List.mem_cons.mp member with here | old
    · cases here
      exact ⟨rfl, positive⟩
    · exact absurd ⟨answer, old, positive⟩ (unconfirmed url etag)
  · rintro url etag ⟨rfl, positive⟩
    constructor
    · rw [moves.occurs.2]
      simp [confirming, positive]
    · rw [(moves_given moves).2]
      exact moves.met.1 url etag reply rfl positive

end Proof

section Silence

variable (ctx : AppContext) (url : Text)

/-- Storing a page asks no server. -/
theorem insertNow_silent (cache : Cache) (header : Header) (body : Bytes) :
    (cache.insertNow url header body).Only Op.silent := by
  unfold Cache.insertNow
  split
  · trivial
  · exact only_bind _ (only_ask _ trivial) fun _ => only_bind _ (only_ask _ trivial) fun _ => trivial

/-- Rendering a reply asks no server. -/
theorem renderResult_silent (cacheForWrite : Option Cache) (cachedEtag : Option Text)
    (reply : Client.Reply) :
    (renderResult ctx url cacheForWrite cachedEtag reply).Only Op.silent := by
  cases accepts : acceptedPage reply with
  | some page =>
    rw [renderResult_accepted cacheForWrite cachedEtag accepts]
    apply only_bind
    · unfold storePage
      split
      · exact insertNow_silent url _ _ _
      · trivial
    · intro _
      trivial
  | none =>
    by_cases told : ∃ header, confirmation reply = some header ∧ cacheForWrite.isSome ∧
        cachedEtag = some header.etag
    · obtain ⟨header, confirms, writable, rfl⟩ := told
      rw [renderResult_confirmed confirms writable]
      exact (serveConfirmed_plain ctx url).mono plain_silent
    · obtain ⟨page, _, same⟩ := renderResult_other accepts fun header confirms both =>
        told ⟨header, confirms, both⟩
      rw [same]
      trivial

end Silence

section Runs

variable {ctx : AppContext} {cache : Cache} {thread : Nat} {url : Text}

/-- A reply is rendered as promised, if there is a cache to serve from whenever the request
carried an etag. -/
theorem renderResult_fulfilled {request : Request} {cacheForWrite : Option Cache}
    (own : ∀ other etag, request = .get other (some etag) → other = url ∧ cacheForWrite.isSome)
    (reply : Client.Reply) :
    (confirmedSetting cache ctx.libraries).Triple thread (Told thread request reply)
      (renderResult ctx url cacheForWrite (Client.sentEtag request) reply)
      (Fulfilled ctx.libraries thread) := by
  rintro now ⟨told, pending⟩
  by_cases positive : ∃ other etag, Confirming request reply other etag
  · obtain ⟨other, etag, rfl, confirmed⟩ := positive
    obtain ⟨rfl, writable⟩ := own other etag rfl
    have sole : Sole thread other etag now := by
      intro another tag known
      obtain ⟨asked, _⟩ := told another tag known
      obtain ⟨same, sent⟩ := Request.get.inj asked
      exact ⟨same.symm, (Option.some.inj sent).symm⟩
    have ready := pending other etag ⟨rfl, confirmed⟩
    obtain ⟨header, confirms, same⟩ := (Option.any_eq_true _ _).mp confirmed
    obtain rfl : header.etag = etag := by simpa using same
    rw [Client.sentEtag, renderResult_confirmed confirms writable]
    exact serveConfirmed_fulfilled ctx other header.etag now ⟨sole, ready⟩
  · have unconfirmed : Unconfirmed thread now := fun other etag known =>
      positive ⟨other, etag, told other etag known⟩
    exact unconfirmed_fulfilled (renderResult_silent ctx url _ _ reply) now unconfirmed

/-- A request over the air shows a stored page only as it was confirmed. -/
theorem dispatchAx25_fulfilled {request : Request} {cacheForWrite : Option Cache}
    (own : ∀ other etag, request = .get other (some etag) → other = url ∧ cacheForWrite.isSome) :
    (confirmedSetting cache ctx.libraries).Triple thread (Unconfirmed thread)
      (dispatchAx25 ctx url request cacheForWrite) (Fulfilled ctx.libraries thread) :=
  triple_bind _ (exchange_told request) fun reply => renderResult_fulfilled own reply

/-- A page that is browsed is shown as it was stored or confirmed. -/
theorem browseGet_fulfilled (enabled : ctx.cache = some cache) (nocache : Bool)
    (browserIfNoneMatch : Option Text) :
    (confirmedSetting cache ctx.libraries).Triple thread (Unconfirmed thread)
      (browseGet ctx url nocache browserIfNoneMatch) (Fulfilled ctx.libraries thread) := by
  apply triple_bind _ (unconfirmed_triple ((serveFresh_plain ctx url _ _).mono plain_silent))
  intro fresh
  cases fresh with
  | some page =>
    apply triple_done (fulfilled_stable page)
    intro now unconfirmed url etag confirmed
    exact absurd confirmed (unconfirmed url etag)
  | none =>
    apply triple_bind _ (unconfirmed_triple ((lookupEtag_plain url _).mono plain_silent))
    intro cachedEtag
    apply dispatchAx25_fulfilled
    intro other etag same
    rw [enabled]
    exact ⟨(Request.get.inj same).1.symm, rfl⟩

/-- Every request shows a stored page only as it was confirmed. -/
theorem page_fulfilled (enabled : ctx.cache = some cache) (entry : Entry) :
    (confirmedSetting cache ctx.libraries).Triple thread (Unconfirmed thread) (entry.page ctx)
      (Fulfilled ctx.libraries thread) := by
  cases entry with
  | browse request =>
    have connected : (ask .readConnectionState).Only Op.silent := only_ask _ trivial
    apply triple_bind _ (unconfirmed_triple connected)
    intro state
    split
    · have redirected : (Program.done Page.redirectToConnect : Routine Page).Only Op.silent := trivial
      exact unconfirmed_fulfilled redirected
    · split
      · apply dispatchAx25_fulfilled
        exact fun other etag same => absurd same (by simp)
      · exact browseGet_fulfilled enabled _ _
  | cacheDelete url =>
    apply unconfirmed_fulfilled
    simp only [Entry.page, apiCacheDelete, enabled]
    exact only_bind _ (only_ask _ trivial) fun _ => trivial
  | cacheClear =>
    apply unconfirmed_fulfilled
    simp only [Entry.page, apiCacheClear, enabled]
    exact only_bind _ (only_ask _ trivial) fun _ => trivial

/-- Every request keeps the invariant to its end. -/
theorem routine_safe (enabled : ctx.cache = some cache) (entry : Entry) :
    (confirmedSetting cache ctx.libraries).Triple thread (Unconfirmed thread) (entry.routine ctx)
      fun _ _ => True := by
  apply triple_bind _ (page_fulfilled enabled entry)
  intro page
  apply triple_ask (fulfilled_stable page) fun _ => stable_const _
  intro now answer later fulfilled moves
  refine ⟨serves_kept moves ?_, trivial⟩
  intro url etag confirmed
  constructor
  · intro shown same
    obtain rfl := Op.respond.inj same
    exact fulfilled url etag confirmed
  · intro clock touched same
    exact absurd (congrArg Event.op same) (by simp)

/-- Where the entry still has the confirmed etag when the confirmation arrives, and no
other handler disturbs it before it has been looked up again, what is touched and served
is what was confirmed.

Every row was stored by a reply with its etag and body, which is an invariant; and as nothing
disturbs the entry, the row that is looked up again still has the etag that was confirmed. -/
theorem revalidation_served (cache : Cache) (cacheMaxTtl : Nat) (libraries : Libraries)
    (entries : Nat → Entry) {pool : Pool Entries Nat Answer}
    (reaches : Reaches (exec cache) (Undisturbed cache)
      (handlers ⟨some cache, cacheMaxTtl, libraries⟩ entries) pool) :
    Throughout (ServesConfirmed libraries) pool.now.history := by
  let ctx : AppContext := ⟨some cache, cacheMaxTtl, libraries⟩
  let setting := confirmedSetting cache ctx.libraries
  have safe : ∀ thread, setting.Safe thread ((handlers ctx entries).threads thread)
      (fun _ _ => True) ⟨∅, []⟩ := by
    intro thread
    have enabled : ctx.cache = some cache := rfl
    apply routine_safe enabled (entries thread)
    rintro url etag ⟨reply, member, _⟩
    exact absurd member (by simp)
  have start : setting.inv ⟨∅, []⟩ := ⟨trivial, fun url row stored => absurd stored (by simp)⟩
  exact (sound (S := setting) reaches start safe).1.1

end Runs

section Samples

/-! Runs on one page: handler 0 stores it, handler 1 asks whether it is current, and in the
meantime handler 2 reloads it or handler 3 deletes it. -/

/-- A page that is loaded, one that is reloaded, and one that is deleted. -/
def sampleEntries : Nat → Entry
  | 2 => .browse ⟨sampleUrl, none, true, none⟩
  | 3 => .cacheDelete sampleUrl
  | _ => .browse ⟨sampleUrl, none, false, none⟩

/-- A reply with a page and an ETag of one letter. -/
def sampleReply (status : Status) (letter : Char) (body : Bytes) : Client.Reply :=
  .ok (Response.encode ⟨status, sampleEtag letter, 0, body⟩)

/-- The row of such a page. -/
def sampleRow (letter : Char) (body : Bytes) : CacheRow :=
  sampleCache.freshRow (sampleEtag letter) body 0 0

/-- A handler receives a page, stores and shows it. -/
def receives (index : Nat) (letter : Char) (byte : UInt8) : List BrowseEvent :=
  [⟨index, .exchange (.get sampleUrl none), sampleReply .ok letter [byte]⟩,
    ⟨index, .systemTime, 0⟩,
    ⟨index, .write sampleUrl (sampleRow letter [byte]),
      some ⟨1, [⟨sampleUrl, sampleRow letter [byte]⟩], []⟩⟩,
    ⟨index, .respond (.browsePage [Char.ofNat byte.toNat] sampleUrl (sampleEtag letter) 0), ()⟩]

/-- A handler finds the page stale and asks about it. -/
def asksAgain (index : Nat) (letter : Char) (byte : UInt8) : List BrowseEvent :=
  [⟨index, .readConnectionState, .connected⟩,
    ⟨index, .lookup sampleUrl, some (sampleRow letter [byte]).hit⟩,
    ⟨index, .systemTime, 0⟩,
    ⟨index, .lookup sampleUrl, some (sampleRow letter [byte]).hit⟩]

/-- The first request stores the page. -/
def storesFirst : List BrowseEvent :=
  [⟨0, .readConnectionState, .connected⟩, ⟨0, .lookup sampleUrl, none⟩,
    ⟨0, .lookup sampleUrl, none⟩] ++ receives 0 'a' 65

/-- The page is confirmed, and the clock read for the touch. -/
def isTold (index : Nat) (letter : Char) : List BrowseEvent :=
  [⟨index, .exchange (.get sampleUrl (some (sampleEtag letter))), sampleReply .notModified letter []⟩,
    ⟨index, .systemTime, 0⟩]

/-- The touch finds an etag, or no entry. -/
def touches (index : Nat) (found : Option Text) : BrowseEvent :=
  ⟨index, .touchFresh sampleUrl 0, found⟩

/-- A request shows what is stored. -/
def showsStored (index : Nat) (letter : Char) (byte : UInt8) : List BrowseEvent :=
  [⟨index, .lookup sampleUrl, some (sampleRow letter [byte]).hit⟩, ⟨index, .systemTime, 0⟩,
    ⟨index, .respond (.browsePage [Char.ofNat byte.toNat] sampleUrl (sampleEtag letter) 0), ()⟩]

/-- The third request brings another page. -/
def reloads : List BrowseEvent := ⟨2, .readConnectionState, .connected⟩ :: receives 2 'b' 66

/-- The fourth request deletes the page. -/
def deletes : List BrowseEvent := [⟨3, .delete sampleUrl, true⟩, ⟨3, .respond .redirectToCache, ()⟩]

/-- In a run in which statements that disturb come before any conditional request, nothing
is disturbed. -/
def calm (now : Moment) (event : BrowseEvent) : Bool :=
  match event with
  | ⟨_, .exchange (.get url (some etag)), _⟩ => (lookup now.world url).map Hit.etag == some etag
  | ⟨_, .write _ _, _⟩ => now.history.all unconditional
  | ⟨_, .delete _, _⟩ => now.history.all unconditional
  | ⟨_, .clear, _⟩ => now.history.all unconditional
  | _ => true
where
  unconditional (event : BrowseEvent) : Bool :=
    match event.op with
    | .exchange (.get _ (some _)) => false
    | _ => true

/-- The check says that a step disturbs no confirmation. -/
theorem calm_undisturbed {cache : Cache} {now : Moment} {event : BrowseEvent}
    (quiet : calm now event = true) : Undisturbed cache now event := by
  constructor
  · rintro url etag reply same _
    rw [same] at quiet
    simpa [calm] using quiet
  · intro thread url etag waits
    obtain ⟨asked, member, other, tag, op⟩ := confirming_asked waits
    have refused : now.history.all calm.unconditional = true → False := by
      intro every
      have plain := List.all_eq_true.mp every asked member
      simp [calm.unconditional, op] at plain
    obtain ⟨index, op, answer⟩ := event
    cases op with
    | write stored row => exact (refused quiet).elim
    | delete deleted => exact (refused quiet).elim
    | clear => exact (refused quiet).elim
    | _ => rfl

/-- A page is stored, asked about, confirmed and served again. -/
theorem revalidation_served_sample : ∃ pool, Reaches (exec sampleCache) (Undisturbed sampleCache)
      (handlers sampleContext sampleEntries) pool ∧
    Confirmed 1 sampleUrl (sampleEtag 'a') pool.now.history ∧
    touches 1 (some (sampleEtag 'a')) ∈ pool.now.history ∧
    Throughout (ServesConfirmed sampleContext.libraries) pool.now.history := by
  obtain ⟨pool, reaches, history⟩ := handlers_replay sampleContext sampleCache calm sampleEntries
    (storesFirst ++ asksAgain 1 'a' 65 ++ isTold 1 'a' ++ [touches 1 (some (sampleEtag 'a'))] ++
      showsStored 1 'a' 65) (by decide +kernel)
  have undisturbed : Reaches (exec sampleCache) (Undisturbed sampleCache)
      (handlers sampleContext sampleEntries) pool := reaches.mono fun _ _ => calm_undisturbed
  refine ⟨pool, undisturbed, ⟨sampleReply .notModified 'a' [], ?_, by decide⟩, ?_,
    revalidation_served sampleCache 600 sampleContext.libraries sampleEntries undisturbed⟩
  · rw [history]
    simp [isTold]
  · rw [history]
    simp

/-- A reload replaces the entry before the confirmation arrives: the handler extends the
lifetime of the new page. A deletion removes it: the handler answers with an error. -/
theorem confirmed_disturbed : ∃ replaced deleted : Pool Entries Nat Answer,
    Reaches (exec sampleCache) (fun _ _ => True) (handlers sampleContext sampleEntries) replaced ∧
    Reaches (exec sampleCache) (fun _ _ => True) (handlers sampleContext sampleEntries) deleted ∧
    ¬ Throughout (ServesConfirmed sampleContext.libraries) replaced.now.history ∧
    ¬ Throughout (ServesConfirmed sampleContext.libraries) deleted.now.history := by
  obtain ⟨replaced, one, first⟩ := handlers_replay sampleContext sampleCache (fun _ _ => true)
    sampleEntries ((storesFirst ++ asksAgain 1 'a' 65 ++ reloads ++ isTold 1 'a') ++
      touches 1 (some (sampleEtag 'b')) :: showsStored 1 'b' 66) (by decide +kernel)
  obtain ⟨deleted, two, second⟩ := handlers_replay sampleContext sampleCache (fun _ _ => true)
    sampleEntries ((storesFirst ++ asksAgain 1 'a' 65 ++ deletes ++ isTold 1 'a' ++
      [touches 1 none, ⟨1, .lookup sampleUrl, none⟩]) ++
      ⟨1, .respond (.errorPage noEntryMessage), ()⟩ :: []) (by decide +kernel)
  have told : ∀ events, ⟨1, .exchange (.get sampleUrl (some (sampleEtag 'a'))),
      sampleReply .notModified 'a' []⟩ ∈ events → Confirmed 1 sampleUrl (sampleEtag 'a') events :=
    fun events member => ⟨_, member, by decide⟩
  refine ⟨replaced, deleted, one.mono fun _ _ _ => trivial, two.mono fun _ _ _ => trivial, ?_, ?_⟩
  · intro every
    rw [first] at every
    have serves := throughout_performed every sampleUrl (sampleEtag 'a') (told _ (by simp [isTold]))
    exact absurd (serves.2 0 (sampleEtag 'b') rfl) (by decide)
  · intro every
    rw [second] at every
    have serves := throughout_performed every sampleUrl (sampleEtag 'a') (told _ (by simp [isTold]))
    exact (serves.1 _ rfl).1 rfl

end Samples

end PacketBrowser.Browse
