import PacketBrowser.Browse.Handler

/-!
# Browsing one page after the other

A visit is one browse request carried out from beginning to end with nobody else at work:
what was asked, what happened, and the page it ended with. `Course` lists the five courses
a visit can take and what each does to the table; `Visits` strings visits together.
-/

namespace PacketBrowser.Browse

open Protocol Foundation Program

/-- A browse request, the operations it led to in order, and the page shown. -/
structure Visit where
  request : BrowseRequest
  events : List (Sigma Answer)
  page : Page

/-- The first reading of the clock. -/
def firstReading : List (Sigma Answer) → Option SystemTime
  | [] => none
  | ⟨.systemTime, now⟩ :: _ => some now
  | _ :: later => firstReading later

/-- The request that was sent, the reply, and what happened after it. -/
def exchanged : List (Sigma Answer) → Option (Request × Client.Reply × List (Sigma Answer))
  | [] => none
  | ⟨.exchange request, reply⟩ :: later => some (request, reply, later)
  | _ :: later => exchanged later

section Read

variable (visit : Visit)

/-- What the visit asked the server for. -/
def Visit.sent : Option Request := (exchanged visit.events).map fun found => found.1

/-- What the visit was told. -/
def Visit.reply : Option Client.Reply := (exchanged visit.events).map fun found => found.2.1

/-- The first reading of the clock after the reply. -/
def Visit.receivedAt : Option SystemTime :=
  (exchanged visit.events).bind fun found => firstReading found.2.2

/-- The header of a reply that says that the page has not changed. -/
def Visit.confirmed : Option Header := visit.reply.bind confirmation

/-- The header and the body of the page that a GET brought. -/
def Visit.brought : Option (Header × Bytes) :=
  if visit.request.postBody.isSome then none else visit.reply.bind acceptedPage

/-- A transaction that was to store the page failed. -/
def Visit.unwritten : Bool :=
  visit.events.any fun event =>
    match event with
    | ⟨.write _ _, none⟩ => true
    | _ => false

end Read

/-- A visit that leads from one table to another. -/
def Browses (ctx : AppContext) (cache : Cache) (entries : Entries) (visit : Visit)
    (after : Entries) : Prop :=
  Returns (logged (exec cache)) (handleBrowse ctx visit.request) (entries, []) visit.page
    (after, visit.events)

/-- Visits one after the other, newest first, and the table they lead to. Each meets a
condition on the table it found and what happened. -/
inductive Visits (ctx : AppContext) (cache : Cache) (meets : Entries → Visit → Prop) :
    List Visit → Entries → Prop
  | start : Visits ctx cache meets [] ∅
  | visit {earlier : List Visit} {entries after : Entries} {visit : Visit}
      (before : Visits ctx cache meets earlier entries)
      (browses : Browses ctx cache entries visit after) (met : meets entries visit) :
      Visits ctx cache meets (visit :: earlier) after

/-- Visits that meet a condition meet every weaker one. -/
theorem Visits.mono {ctx : AppContext} {cache : Cache} {meets weaker : Entries → Visit → Prop}
    (implies : ∀ entries visit, meets entries visit → weaker entries visit) {visits : List Visit}
    {entries : Entries} (run : Visits ctx cache meets visits entries) :
    Visits ctx cache weaker visits entries := by
  induction run with
  | start => exact .start
  | visit before browses met inductionHypothesis =>
    exact .visit inductionHypothesis browses (implies _ _ met)

/-- The request a visit sends if it sends one. -/
def Visit.sends (visit : Visit) (entries : Entries) : Request :=
  match visit.request.postBody with
  | some body => .post visit.request.url body
  | none => .get visit.request.url
    (if visit.request.nocache then none else (lookup entries visit.request.url).map Hit.etag)

/-- The courses of a visit: nothing is done without a session; a fresh entry is served; a
stale one is confirmed, touched and served; a page arrives, and is dropped or stored; any
other reply ends in an error page. A page is dropped if it answers a POST, if it must not be
stored, or if the transaction that was to store it failed. -/
inductive Course (ctx : AppContext) (cache : Cache) (entries : Entries) (visit : Visit) :
    Entries → Prop
  | redirected (silent : exchanged visit.events = none)
      (page : visit.page = .redirectToConnect) : Course ctx cache entries visit entries
  | fresh {hit : Hit} {now used : SystemTime} (silent : exchanged visit.events = none)
      (get : visit.request.postBody = none) (found : lookup entries visit.request.url = some hit)
      (first : firstReading visit.events = some now) (fresh : hit.isFresh now = true)
      (page : visit.page = .notModified hit.etag ∨
        ∃ later, visit.page = storedPage ctx.libraries visit.request.url hit later) :
      Course ctx cache entries visit (touchLastUsed entries visit.request.url used)
  | confirmed {header : Header} {reply : Client.Reply} {rest : List (Sigma Answer)} {hit : Hit}
      {now later : SystemTime}
      (asked : exchanged visit.events =
        some (.get visit.request.url (some header.etag), reply, rest))
      (get : visit.request.postBody = none) (confirms : confirmation reply = some header)
      (found : lookup entries visit.request.url = some hit) (current : hit.etag = header.etag)
      (touched : firstReading rest = some now)
      (page : visit.page = storedPage ctx.libraries visit.request.url
        { hit with fetchedAt := unixSecs now } later) :
      Course ctx cache entries visit (touchFresh entries visit.request.url now)
  | dropped {header : Header} {compressed : Bytes} {reply : Client.Reply}
      {rest : List (Sigma Answer)}
      (asked : exchanged visit.events = some (visit.sends entries, reply, rest))
      (accepts : acceptedPage reply = some (header, compressed))
      (dropped : visit.request.postBody.isSome ∨ header.maxAge < 0 ∨ visit.unwritten)
      (page : visit.page =
        freshPage ctx.libraries ctx.cacheMaxTtl visit.request.url header compressed) :
      Course ctx cache entries visit entries
  | stored {header : Header} {compressed : Bytes} {reply : Client.Reply}
      {rest : List (Sigma Answer)} {now : SystemTime} {queries : Queries}
      (asked : exchanged visit.events = some (visit.sends entries, reply, rest))
      (get : visit.request.postBody = none)
      (accepts : acceptedPage reply = some (header, compressed)) (kept : ¬ header.maxAge < 0)
      (page : visit.page =
        freshPage ctx.libraries ctx.cacheMaxTtl visit.request.url header compressed) :
      Course ctx cache entries visit (cache.write entries visit.request.url
        (cache.freshRow header.etag compressed header.maxAge now) (some queries))
  | other {reply : Client.Reply} {rest : List (Sigma Answer)}
      (asked : exchanged visit.events = some (visit.sends entries, reply, rest))
      (accepts : acceptedPage reply = none)
      (unconfirmed : ∀ header, confirmation reply = some header →
        Client.sentEtag (visit.sends entries) ≠ some header.etag)
      (page : visit.page.failed = true) : Course ctx cache entries visit entries

section Events

/-- No request is sent. -/
def Quiet (events : List (Sigma Answer)) : Prop := ∀ event ∈ events, event.1.plain

variable {events later : List (Sigma Answer)}

/-- The exchange is found behind a part without one. -/
theorem exchanged_append (quiet : Quiet events) : exchanged (events ++ later) = exchanged later := by
  induction events with
  | nil => rfl
  | cons event rest inductionHypothesis =>
    obtain ⟨op, answer⟩ := event
    have behind := inductionHypothesis fun event member => quiet event (List.mem_cons_of_mem _ member)
    have here : op.plain := quiet ⟨op, answer⟩ (List.mem_cons_self ..)
    cases op with
    | exchange request => exact here.elim
    | _ => exact behind

/-- A part without an exchange has none. -/
theorem exchanged_quiet (quiet : Quiet events) : exchanged events = none := by
  have whole : exchanged (events ++ []) = exchanged [] := exchanged_append quiet
  rwa [List.append_nil] at whole

/-- Two parts without an exchange have none together. -/
theorem quiet_append (first : Quiet events) (second : Quiet later) : Quiet (events ++ later) :=
  fun event member => (List.mem_append.mp member).elim (first event) (second event)

end Events

section Returns

variable {ctx : AppContext} {cache : Cache} {url : Text} {entries after : Entries}
variable {log log' : List (Sigma Answer)}

/-- What an operation answers and leaves. -/
theorem asked_returns {op : Op} {answer : Answer op}
    (returns : Returns (logged (exec cache)) (ask op) (entries, log) answer (after, log')) :
    gives entries op answer = true ∧ after = apply cache entries op answer ∧
      log' = log ++ [⟨op, answer⟩] := by
  obtain ⟨executed, grown⟩ := returns_logged_ask.mp returns
  obtain ⟨given, same⟩ := (exec_iff cache).mp executed
  exact ⟨given, same, grown⟩

/-- An operation that leaves the table alone. -/
theorem unchanged_returns {op : Op} {answer : Answer op}
    (returns : Returns (logged (exec cache)) (ask op) (entries, log) answer (after, log'))
    (same : apply cache entries op answer = entries) :
    entries = after ∧ log' = log ++ [⟨op, answer⟩] := by
  obtain ⟨_, changed, grown⟩ := asked_returns returns
  exact ⟨(changed.trans same).symm, grown⟩

/-- A lookup tells what is stored, and changes nothing. -/
theorem lookup_returns {answer : Option Hit}
    (returns : Returns (logged (exec cache)) (ask (.lookup url)) (entries, log) answer
      (after, log')) :
    answer = lookup entries url ∧ entries = after ∧ log' = log ++ [⟨.lookup url, answer⟩] := by
  obtain ⟨given, same, grown⟩ := asked_returns returns
  exact ⟨by simpa [gives] using given, same.symm, grown⟩

/-- The row is touched at a time the clock gave. -/
theorem touchFreshNow_returns {ended : Unit}
    (returns : Returns (logged (exec cache)) (touchFreshNow url) (entries, log) ended (after, log')) :
    ∃ now events, after = touchFresh entries url now ∧ log' = log ++ ⟨.systemTime, now⟩ :: events ∧
      Quiet events := by
  obtain ⟨now, ⟨middle, log₁⟩, first, rest⟩ := returns_bind.mp returns
  obtain ⟨touched, ⟨last, log₂⟩, second, done⟩ := returns_bind.mp rest
  obtain ⟨_, rfl, rfl⟩ := asked_returns first
  obtain ⟨_, rfl, rfl⟩ := asked_returns second
  obtain ⟨_, same⟩ := returns_done.mp done
  obtain ⟨rfl, rfl⟩ := Prod.mk.inj same
  refine ⟨now, [⟨.touchFresh url now, touched⟩], rfl, by simp, ?_⟩
  intro event member
  obtain rfl := List.mem_singleton.mp member
  trivial

/-- The row is used at a time the clock gave. -/
theorem touchLastUsedNow_returns {ended : Unit}
    (returns : Returns (logged (exec cache)) (touchLastUsedNow url) (entries, log) ended (after, log')) :
    ∃ now, after = touchLastUsed entries url now := by
  obtain ⟨now, ⟨middle, log₁⟩, first, rest⟩ := returns_bind.mp returns
  obtain ⟨_, rfl, rfl⟩ := asked_returns first
  obtain ⟨_, rfl, _⟩ := asked_returns rest
  exact ⟨now, rfl⟩

/-- The page is shown as stored, and nothing changes. -/
theorem serveFromHit_returns {hit : Hit} {page : Page}
    (returns : Returns (logged (exec cache)) (serveFromHit ctx url hit) (entries, log) page
      (after, log')) :
    after = entries ∧ ∃ later, page = storedPage ctx.libraries url hit later := by
  unfold serveFromHit at returns
  split at returns
  · rename_i message failed
    obtain ⟨rfl, same⟩ := returns_done.mp returns
    exact ⟨congrArg Prod.fst same, 0, by rw [storedPage, failed]⟩
  · rename_i rewritten rendered
    obtain ⟨now, ⟨middle, log₁⟩, first, ended⟩ := returns_bind.mp returns
    obtain ⟨_, rfl, rfl⟩ := asked_returns first
    obtain ⟨rfl, same⟩ := returns_done.mp ended
    exact ⟨congrArg Prod.fst same, now, by rw [storedPage, rendered]⟩

/-- Either nothing is served and nothing changed, or a fresh hit. -/
theorem serveFresh_returns {readable : Option Cache} {browserIfNoneMatch : Option Text}
    {fresh : Option Page}
    (returns : Returns (logged (exec cache)) (serveFresh ctx url readable browserIfNoneMatch)
      (entries, log) fresh (after, log')) :
    (fresh = none ∧ entries = after) ∨
    ∃ page hit now used events, fresh = some page ∧ lookup entries url = some hit ∧
      hit.isFresh now = true ∧ log' = log ++ ⟨.lookup url, some hit⟩ :: ⟨.systemTime, now⟩ :: events ∧
      after = touchLastUsed entries url used ∧
      (page = .notModified hit.etag ∨ ∃ later, page = storedPage ctx.libraries url hit later) := by
  unfold serveFresh at returns
  split at returns
  · obtain ⟨answer, ⟨middle, log₁⟩, first, rest⟩ := returns_bind.mp returns
    obtain ⟨found, rfl, rfl⟩ := lookup_returns first
    cases answer with
    | none =>
      obtain ⟨rfl, same⟩ := returns_done.mp rest
      exact Or.inl ⟨rfl, (congrArg Prod.fst same).symm⟩
    | some hit =>
      obtain ⟨now, ⟨middle, log₂⟩, second, rest⟩ := returns_bind.mp rest
      obtain ⟨_, rfl, rfl⟩ := asked_returns second
      split at rest
      · rename_i young
        obtain ⟨_, ⟨middle, log₃⟩, third, rest⟩ := returns_bind.mp rest
        obtain ⟨used, rfl⟩ := touchLastUsedNow_returns third
        obtain ⟨between, grown, _⟩ := returns_logged_only (touchLastUsedNow_plain url) third
        obtain rfl : log₃ = _ := grown
        right
        split at rest
        · obtain ⟨rfl, same⟩ := returns_done.mp rest
          obtain ⟨rfl, rfl⟩ := Prod.mk.inj same
          exact ⟨_, hit, now, used, between, rfl, found.symm, young, by simp, rfl, Or.inl rfl⟩
        · obtain ⟨page, ⟨middle, log₄⟩, fourth, ended⟩ := returns_bind.mp rest
          obtain ⟨rfl, same⟩ := returns_done.mp ended
          obtain ⟨rfl, rfl⟩ := Prod.mk.inj same
          obtain ⟨rfl, shown⟩ := serveFromHit_returns fourth
          obtain ⟨events, grown, _⟩ := returns_logged_only (serveFromHit_plain ctx url hit) fourth
          obtain rfl : log' = _ := grown
          exact ⟨page, hit, now, used, between ++ events, rfl, found.symm, young, by simp, rfl,
            Or.inr shown⟩
      · obtain ⟨rfl, same⟩ := returns_done.mp rest
        exact Or.inl ⟨rfl, (congrArg Prod.fst same).symm⟩
  · obtain ⟨rfl, same⟩ := returns_done.mp returns
    exact Or.inl ⟨rfl, (congrArg Prod.fst same).symm⟩

/-- The ETag is that of the stored page, where there is a cache. -/
theorem lookupEtag_returns {readable : Option Cache} {cachedEtag : Option Text}
    (returns : Returns (logged (exec cache)) (lookupEtag url readable) (entries, log) cachedEtag
      (after, log')) :
    entries = after ∧
      cachedEtag = if readable.isSome then (lookup entries url).map Hit.etag else none := by
  unfold lookupEtag at returns
  split at returns
  · rename_i some
    obtain ⟨answer, ⟨middle, log₁⟩, first, ended⟩ := returns_bind.mp returns
    obtain ⟨found, rfl, rfl⟩ := lookup_returns first
    obtain ⟨rfl, same⟩ := returns_done.mp ended
    exact ⟨(congrArg Prod.fst same).symm, by rw [if_pos some, found]⟩
  · rename_i none
    obtain ⟨rfl, same⟩ := returns_done.mp returns
    exact ⟨(congrArg Prod.fst same).symm, by rw [if_neg none]⟩

/-- A touch changes times only. -/
theorem lookup_touchFresh (now : SystemTime) : lookup (touchFresh entries url now) url =
    (lookup entries url).map fun hit => { hit with fetchedAt := unixSecs now } := by
  simp only [lookup, touchFresh, lookup_update, if_true, Option.map_map]
  rfl

/-- A confirmed entry that is there is touched and served. -/
theorem serveConfirmed_returns {page : Page} {hit : Hit} (found : lookup entries url = some hit)
    (returns : Returns (logged (exec cache)) (serveConfirmed ctx url) (entries, log) page
      (after, log')) :
    ∃ now later events, after = touchFresh entries url now ∧
      log' = log ++ ⟨.systemTime, now⟩ :: events ∧
      page = storedPage ctx.libraries url { hit with fetchedAt := unixSecs now } later := by
  obtain ⟨_, ⟨middle, log₁⟩, first, rest⟩ := returns_bind.mp returns
  obtain ⟨now, between, rfl, rfl, _⟩ := touchFreshNow_returns first
  obtain ⟨answer, ⟨middle, log₂⟩, second, rest⟩ := returns_bind.mp rest
  obtain ⟨again, rfl, rfl⟩ := lookup_returns second
  have touched : answer = some { hit with fetchedAt := unixSecs now } := by
    rw [again, lookup_touchFresh, found]
    rfl
  subst touched
  obtain ⟨rfl, later, shown⟩ := serveFromHit_returns rest
  obtain ⟨events, grown, _⟩ := returns_logged_only (only_true _) rest
  refine ⟨now, later, between ++ ⟨.lookup url, some { hit with fetchedAt := unixSecs now }⟩ :: events,
    rfl, ?_, shown⟩
  rw [show log' = _ from grown]
  simp

/-- The insertion of a page is one transaction that is committed, one that fails, or
nothing. -/
theorem insertNow_returns {header : Header} {body : Bytes} {ended : Unit}
    (returns : Returns (logged (exec cache)) (cache.insertNow url header body) (entries, log) ended
      (after, log')) :
    (after = entries ∧ (header.maxAge < 0 ∨ ∃ row, (⟨.write url row, none⟩ : Sigma Answer) ∈ log')) ∨
      (¬ header.maxAge < 0 ∧ ∃ now queries, after = cache.write entries url
        (cache.freshRow header.etag body header.maxAge now) (some queries)) := by
  unfold Cache.insertNow at returns
  split at returns
  · rename_i negative
    obtain ⟨_, same⟩ := returns_done.mp returns
    exact Or.inl ⟨congrArg Prod.fst same, Or.inl negative⟩
  · rename_i kept
    obtain ⟨now, ⟨middle, log₁⟩, first, rest⟩ := returns_bind.mp returns
    obtain ⟨_, rfl, rfl⟩ := asked_returns first
    obtain ⟨committed, ⟨middle, log₂⟩, second, done⟩ := returns_bind.mp rest
    obtain ⟨_, rfl, rfl⟩ := asked_returns second
    obtain ⟨_, same⟩ := returns_done.mp done
    obtain ⟨rfl, rfl⟩ := Prod.mk.inj same
    cases committed with
    | none => exact Or.inl ⟨rfl, Or.inr ⟨_, List.mem_append_right _ (List.mem_singleton.mpr rfl)⟩⟩
    | some queries => exact Or.inr ⟨kept, now, queries, rfl⟩

end Returns

section Course

variable {ctx : AppContext} {cache : Cache} {entries after : Entries} {visit : Visit}
variable {log : List (Sigma Answer)}

/-- The course of a visit that sends a request. -/
theorem dispatchAx25_course (quiet : Quiet log) {cacheForWrite : Option Cache}
    (writable : cacheForWrite = if visit.request.postBody.isSome then none else some cache)
    (returns : Returns (logged (exec cache))
      (dispatchAx25 ctx visit.request.url (visit.sends entries) cacheForWrite) (entries, log)
      visit.page (after, visit.events)) : Course ctx cache entries visit after := by
  obtain ⟨reply, ⟨middle, log₁⟩, first, rest⟩ := returns_bind.mp returns
  obtain ⟨rfl, rfl⟩ := unchanged_returns first rfl
  obtain ⟨behind, grown, _⟩ := returns_logged_only (only_true _) rest
  have asked : exchanged visit.events = some (visit.sends entries, reply, behind) := by
    rw [show visit.events = _ from grown, List.append_assoc, exchanged_append quiet]
    rfl
  cases accepts : acceptedPage reply with
  | some found =>
    obtain ⟨header, compressed⟩ := found
    rw [renderResult_accepted _ _ accepts] at rest
    obtain ⟨_, ⟨stored, log₂⟩, storing, done⟩ := returns_bind.mp rest
    obtain ⟨page, same⟩ := returns_done.mp done
    obtain ⟨rfl, rfl⟩ := Prod.mk.inj same
    by_cases post : visit.request.postBody.isSome
    · rw [writable, if_pos post] at storing
      obtain ⟨_, same⟩ := returns_done.mp storing
      obtain ⟨rfl, _⟩ := Prod.mk.inj same
      exact .dropped asked accepts (Or.inl post) page
    · rw [writable, if_neg post] at storing
      rcases insertNow_returns storing with ⟨rfl, reason⟩ | ⟨kept, now, queries, rfl⟩
      · refine .dropped asked accepts (Or.inr (reason.imp_right ?_)) page
        rintro ⟨row, failed⟩
        exact List.any_eq_true.mpr ⟨_, failed, rfl⟩
      · exact .stored asked (Option.not_isSome_iff_eq_none.mp post) accepts kept page
  | none =>
    by_cases told : ∃ header, confirmation reply = some header ∧
        Client.sentEtag (visit.sends entries) = some header.etag
    · obtain ⟨header, confirms, sent⟩ := told
      cases post : visit.request.postBody with
      | some body => exact absurd sent (by simp [Visit.sends, post, Client.sentEtag])
      | none =>
        have writes : cacheForWrite.isSome := by
          rw [writable, post]
          rfl
        rw [sent, renderResult_confirmed confirms writes] at rest
        have cached : (if visit.request.nocache then none
            else (lookup entries visit.request.url).map Hit.etag) = some header.etag := by
          simpa [Visit.sends, post, Client.sentEtag] using sent
        have conditional : visit.sends entries = .get visit.request.url (some header.etag) := by
          simp only [Visit.sends, post, cached]
        split at cached
        · exact absurd cached (by simp)
        · obtain ⟨hit, found, current⟩ := Option.map_eq_some_iff.mp cached
          obtain ⟨now, later, events, rfl, shown, page⟩ := serveConfirmed_returns found rest
          refine .confirmed (asked.trans (by rw [conditional])) post confirms found current ?_ page
          have same := grown.symm.trans shown
          rw [List.append_cancel_left same]
          rfl
    · obtain ⟨page, failed, same⟩ := renderResult_other accepts fun header confirms both =>
        told ⟨header, confirms, both.2⟩
      rw [same] at rest
      obtain ⟨shown, same⟩ := returns_done.mp rest
      obtain ⟨rfl, _⟩ := Prod.mk.inj same
      exact .other asked accepts (fun header confirms sent => told ⟨header, confirms, sent⟩)
        (by rw [shown]; exact failed)

/-- A visit takes one of its courses. -/
theorem browse_course (enabled : ctx.cache = some cache) (browses : Browses ctx cache entries visit after) :
    Course ctx cache entries visit after := by
  obtain ⟨state, ⟨middle, log₁⟩, first, rest⟩ := returns_bind.mp browses
  obtain ⟨rfl, rfl⟩ := unchanged_returns first rfl
  have opening : Quiet [⟨.readConnectionState, state⟩] := by
    intro event member
    obtain rfl := List.mem_singleton.mp member
    trivial
  split at rest
  · obtain ⟨page, same⟩ := returns_done.mp rest
    obtain ⟨rfl, events⟩ := Prod.mk.inj same
    exact .redirected (by rw [events]; rfl) page
  · cases post : visit.request.postBody with
    | some body =>
      simp only [post] at rest
      have sends : visit.sends entries = .post visit.request.url body := by rw [Visit.sends, post]
      rw [← sends] at rest
      exact dispatchAx25_course opening (by rw [post]; rfl) rest
    | none =>
      rw [post] at rest
      obtain ⟨fresh, ⟨middle, log₂⟩, second, chosen⟩ := returns_bind.mp rest
      obtain ⟨before, grown, quiet⟩ := returns_logged_only (serveFresh_plain ctx _ _ _) second
      rcases serveFresh_returns second with
        ⟨rfl, rfl⟩ | ⟨page, hit, now, used, events, rfl, found, young, shown, rfl, served⟩
      · obtain ⟨cachedEtag, ⟨middle, log₃⟩, third, sent⟩ := returns_bind.mp chosen
        obtain ⟨between, grown', quiet'⟩ := returns_logged_only (lookupEtag_plain _ _) third
        obtain ⟨rfl, etag⟩ := lookupEtag_returns third
        have sends : visit.sends entries = .get visit.request.url cachedEtag := by
          rw [Visit.sends, post, etag, enabled]
          cases visit.request.nocache <;> rfl
        rw [← sends, enabled] at sent
        apply dispatchAx25_course _ _ sent
        · rw [show log₃ = _ from grown', show log₂ = _ from grown]
          exact quiet_append (quiet_append opening quiet) quiet'
        · rw [post]
          rfl
      · obtain ⟨page, same⟩ := returns_done.mp chosen
        obtain ⟨rfl, events⟩ := Prod.mk.inj same
        refine .fresh ?_ post found ?_ young (by rw [page]; exact served)
        · rw [events, show log₂ = _ from grown]
          exact exchanged_quiet (quiet_append opening quiet)
        · rw [events, shown]
          rfl

/-- A reply that brings a page does not confirm one. -/
theorem accepted_unconfirmed {reply : Client.Reply} {page : Header × Bytes}
    (accepts : acceptedPage reply = some page) : confirmation reply = none := by
  unfold acceptedPage at accepts
  unfold confirmation
  split at accepts
  · split at accepts
    · rename_i status
      simp [status]
    · exact absurd accepts (by simp)
  · exact absurd accepts (by simp)

/-- A page is brought, or confirmed, by a reply that can be read. -/
theorem Visit.brought_opened {page : Header × Bytes} (brought : visit.brought = some page) :
    (visit.reply.bind opened).isSome := by
  unfold Visit.brought at brought
  split at brought
  · exact absurd brought (by simp)
  · obtain ⟨reply, received, accepts⟩ := Option.bind_eq_some_iff.mp brought
    rw [received, Option.bind_some]
    cases read : opened reply with
    | none => exact absurd accepts (by simp [acceptedPage, read])
    | some found => rfl

/-- A confirmation is a response that can be opened. -/
theorem Visit.confirmed_opened (confirmed : visit.confirmed.isSome) :
    (visit.reply.bind opened).isSome := by
  obtain ⟨header, found⟩ := Option.isSome_iff_exists.mp confirmed
  obtain ⟨reply, received, confirms⟩ := Option.bind_eq_some_iff.mp found
  rw [received, Option.bind_some]
  cases read : opened reply with
  | none => exact absurd confirms (by simp [confirmation, read])
  | some found => rfl

/-- A row that is there after a visit is the page it brought, or was there before but for
its times. Only a confirmation makes it younger. -/
theorem Course.row (course : Course ctx cache entries visit after) {url : Text} {row : CacheRow}
    (stored : after.lookup url = some row) :
    (url = visit.request.url ∧ ∃ header compressed now, visit.brought = some (header, compressed) ∧
      ¬ header.maxAge < 0 ∧ row = cache.freshRow header.etag compressed header.maxAge now) ∨
    ∃ old, entries.lookup url = some old ∧ row.Alike old ∧ (row.fetchedAt = old.fetchedAt ∨
      url = visit.request.url ∧ visit.confirmed.isSome ∧ ∃ now, visit.receivedAt = some now ∧
        row.fetchedAt = unixSecs now) := by
  have unchanged : entries.lookup url = some row → ∃ old, entries.lookup url = some old ∧
      row.Alike old ∧ (row.fetchedAt = old.fetchedAt ∨ url = visit.request.url ∧
        visit.confirmed.isSome ∧ ∃ now, visit.receivedAt = some now ∧
          row.fetchedAt = unixSecs now) :=
    fun same => ⟨row, same, ⟨rfl, rfl, rfl⟩, Or.inl rfl⟩
  cases course with
  | redirected silent page => exact Or.inr (unchanged stored)
  | @fresh hit now used silent get found first fresh page =>
    have touched : (apply cache entries (.touchLastUsed visit.request.url used) ()).lookup url =
        some row := stored
    rcases row_after touched with ⟨_, written⟩ | ⟨old, before, alike, fetched⟩
    · exact absurd (congrArg Sigma.fst written) (by simp)
    · exact Or.inr ⟨old, before, alike, fetched.imp_right fun other => absurd other (by simp)⟩
  | @confirmed header reply rest hit now later asked get confirms found current touched page =>
    have renewed : (apply cache entries (.touchFresh visit.request.url now) none).lookup url =
        some row := stored
    rcases row_after renewed with ⟨_, written⟩ | ⟨old, before, alike, fetched⟩
    · exact absurd (congrArg Sigma.fst written) (by simp)
    · refine Or.inr ⟨old, before, alike, fetched.imp_right ?_⟩
      rintro ⟨clock, same, second⟩
      obtain ⟨rfl, rfl⟩ := Op.touchFresh.inj same
      refine ⟨rfl, ?_, now, ?_, second⟩
      · simp [Visit.confirmed, Visit.reply, asked, confirms]
      · simp [Visit.receivedAt, asked, touched]
  | dropped asked accepts dropped page => exact Or.inr (unchanged stored)
  | @stored header compressed reply rest now queries asked get accepts kept page =>
    have written : (apply cache entries (.write visit.request.url
        (cache.freshRow header.etag compressed header.maxAge now)) (some queries)).lookup url =
        some row := stored
    rcases row_after written with ⟨_, same⟩ | ⟨old, before, alike, fetched⟩
    · obtain ⟨rfl, rfl⟩ := Op.write.inj (congrArg Sigma.fst same)
      exact Or.inl ⟨rfl, header, compressed, now,
        by simp [Visit.brought, Visit.reply, get, asked, accepts], kept, rfl⟩
    · exact Or.inr ⟨old, before, alike, fetched.imp_right fun other => absurd other (by simp)⟩
  | other asked accepts unconfirmed page => exact Or.inr (unchanged stored)

/-- A visit that a reply brings a page shows that page, and stores it unless its lifetime
is negative or the transaction fails. -/
theorem Course.brings (course : Course ctx cache entries visit after) {header : Header}
    {compressed : Bytes} (brought : visit.brought = some (header, compressed)) :
    visit.page = freshPage ctx.libraries ctx.cacheMaxTtl visit.request.url header compressed ∧
      (((header.maxAge < 0 ∨ visit.unwritten) ∧ after = entries) ∨
        ∃ now queries, after = cache.write entries visit.request.url
          (cache.freshRow header.etag compressed header.maxAge now) (some queries)) := by
  unfold Visit.brought at brought
  split at brought
  · exact absurd brought (by simp)
  · rename_i get
    cases course with
    | redirected silent => exact absurd brought (by simp [Visit.reply, silent])
    | fresh silent => exact absurd brought (by simp [Visit.reply, silent])
    | confirmed asked _ confirms =>
      simp only [Visit.reply, asked, Option.map_some, Option.bind_some] at brought
      exact absurd confirms (by simp [accepted_unconfirmed brought])
    | dropped asked accepts dropped page =>
      simp only [Visit.reply, asked, Option.map_some, Option.bind_some, accepts,
        Option.some.injEq, Prod.mk.injEq] at brought
      obtain ⟨rfl, rfl⟩ := brought
      exact ⟨page, Or.inl ⟨dropped.resolve_left get, rfl⟩⟩
    | @stored _ _ _ _ now queries asked _ accepts kept page =>
      simp only [Visit.reply, asked, Option.map_some, Option.bind_some, accepts,
        Option.some.injEq, Prod.mk.injEq] at brought
      obtain ⟨rfl, rfl⟩ := brought
      exact ⟨page, Or.inr ⟨now, queries, rfl⟩⟩
    | other asked accepts =>
      exact absurd brought (by simp [Visit.reply, asked, accepts])

/-- A GET that no reply brings a page shows what was stored for its URL, if it shows a page. -/
theorem Course.served (course : Course ctx cache entries visit after)
    (get : visit.request.postBody = none) (unbrought : visit.brought = none)
    (shown : visit.page.failed = false) :
    visit.page = .redirectToConnect ∨ ∃ hit, lookup entries visit.request.url = some hit ∧
      (visit.page = .notModified hit.etag ∨ ∃ fetchedAt later, visit.page =
        storedPage ctx.libraries visit.request.url { hit with fetchedAt := fetchedAt } later) := by
  have unaccepted : ∀ {request : Request} {reply : Client.Reply} {rest : List (Sigma Answer)},
      exchanged visit.events = some (request, reply, rest) → acceptedPage reply = none := by
    intro request reply rest asked
    simpa [Visit.brought, get, Visit.reply, asked] using unbrought
  cases course with
  | redirected silent page => exact Or.inl page
  | @fresh hit now used silent get found first fresh page =>
    right
    rcases page with page | ⟨later, page⟩
    · exact ⟨hit, found, Or.inl page⟩
    · exact ⟨hit, found, Or.inr ⟨hit.fetchedAt, later, page⟩⟩
  | @confirmed _ _ _ hit now later asked get confirms found current touched page =>
    exact Or.inr ⟨hit, found, Or.inr ⟨unixSecs now, later, page⟩⟩
  | dropped asked accepts => exact absurd accepts (by simp [unaccepted asked])
  | stored asked _ accepts => exact absurd accepts (by simp [unaccepted asked])
  | other asked accepts unconfirmed page => exact absurd shown (by simp [page])

/-- A normal GET that sends a request although a page is stored asks whether that page has
changed. -/
theorem Course.asks (course : Course ctx cache entries visit after)
    (get : visit.request.postBody = none) (normal : visit.request.nocache = false) {hit : Hit}
    (found : lookup entries visit.request.url = some hit) {request : Request}
    (sent : visit.sent = some request) : request = .get visit.request.url (some hit.etag) := by
  have sends : visit.sends entries = .get visit.request.url (some hit.etag) := by
    simp [Visit.sends, get, normal, found]
  have same : ∀ {asked : Request} {reply : Client.Reply} {rest : List (Sigma Answer)},
      exchanged visit.events = some (asked, reply, rest) → request = asked := by
    intro asked reply rest happened
    simpa [Visit.sent, happened] using sent.symm
  cases course with
  | redirected silent => exact absurd sent (by simp [Visit.sent, silent])
  | fresh silent => exact absurd sent (by simp [Visit.sent, silent])
  | confirmed asked _ _ found' current =>
    obtain rfl := Option.some.inj (found.symm.trans found')
    rw [same asked, current]
  | dropped asked => rw [same asked, sends]
  | stored asked => rw [same asked, sends]
  | other asked => rw [same asked, sends]

/-- A stored page that is confirmed is served. -/
theorem Course.revalidated (course : Course ctx cache entries visit after)
    (get : visit.request.postBody = none) (normal : visit.request.nocache = false) {hit : Hit}
    (found : lookup entries visit.request.url = some hit) {header : Header}
    (confirmed : visit.confirmed = some header) (same : header.etag = hit.etag) :
    ∃ fetchedAt later, visit.page =
      storedPage ctx.libraries visit.request.url { hit with fetchedAt := fetchedAt } later := by
  have sends : visit.sends entries = .get visit.request.url (some hit.etag) := by
    simp [Visit.sends, get, normal, found]
  have confirms : ∀ {asked : Request} {reply : Client.Reply} {rest : List (Sigma Answer)},
      exchanged visit.events = some (asked, reply, rest) → confirmation reply = some header := by
    intro asked reply rest happened
    simpa [Visit.confirmed, Visit.reply, happened] using confirmed
  cases course with
  | redirected silent => exact absurd confirmed (by simp [Visit.confirmed, Visit.reply, silent])
  | fresh silent => exact absurd confirmed (by simp [Visit.confirmed, Visit.reply, silent])
  | @confirmed _ _ _ hit' now later asked _ _ found' current touched page =>
    obtain rfl := Option.some.inj (found.symm.trans found')
    exact ⟨unixSecs now, later, page⟩
  | dropped asked accepts =>
    exact absurd (confirms asked) (by simp [accepted_unconfirmed accepts])
  | stored asked _ accepts =>
    exact absurd (confirms asked) (by simp [accepted_unconfirmed accepts])
  | other asked accepts unconfirmed =>
    exact absurd (by rw [sends, same]; rfl) (unconfirmed header (confirms asked))

end Course

section Samples

/-- Enact visits, oldest last, each of which passes a check. -/
def enactVisits (ctx : AppContext) (cache : Cache) (check : Entries → Visit → Bool) :
    List Visit → Option Entries
  | [] => some ∅
  | visit :: earlier =>
    (enactVisits ctx cache check earlier).bind fun entries =>
      match (handleBrowse ctx visit.request).enact (exec cache) entries visit.events with
      | some (page, after, []) => if page = visit.page ∧ check entries visit then some after else none
      | _ => none

/-- Visits that are enacted with a check are visits that meet the condition. -/
theorem enactVisits_visits {ctx : AppContext} {cache : Cache} {check : Entries → Visit → Bool}
    {meets : Entries → Visit → Prop} (implies : ∀ entries visit, check entries visit = true →
      meets entries visit) {visits : List Visit} {entries : Entries}
    (enacted : enactVisits ctx cache check visits = some entries) :
    Visits ctx cache meets visits entries := by
  induction visits generalizing entries with
  | nil =>
    obtain rfl := Option.some.inj enacted
    exact .start
  | cons visit earlier inductionHypothesis =>
    obtain ⟨before, first, last⟩ := Option.bind_eq_some_iff.mp enacted
    split at last
    · rename_i page after returned
      split at last
      · rename_i passed
        obtain rfl := Option.some.inj last
        obtain ⟨rfl, checked⟩ := passed
        exact .visit (inductionHypothesis first) (enact_all returned [])
          (implies _ _ checked)
      · exact absurd last (by simp)
    · exact absurd last (by simp)

/-- A visit of the sample page, at a time in seconds. -/
def sampleVisit (nocache : Bool) (events : List (Sigma Answer)) (letter : Char) (ttlSecs : Nat) :
    Visit where
  request := ⟨sampleUrl, none, nocache, none⟩
  events := ⟨.readConnectionState, .connected⟩ :: events
  page := .browsePage [letter] sampleUrl (sampleEtag letter) ttlSecs

/-- A response with an ETag of one letter, and with a page where the status says so. -/
def sampleResponse (status : Status) (letter : Char) (maxAge : Int32) : Client.Reply :=
  .ok (Response.encode ⟨status, sampleEtag letter, maxAge,
    if status = .ok then [letter.toNat.toUInt8] else []⟩)

/-- The row of the sample page. -/
def sampleStored (letter : Char) (maxAge : Int32) (seconds : Nat) : CacheRow :=
  sampleCache.freshRow (sampleEtag letter) [letter.toNat.toUInt8] maxAge (seconds * nanosPerSec)

/-- The page is fetched for the first time. -/
def fetchesFirst (letter : Char) (maxAge : Int32) : Visit :=
  sampleVisit false [⟨.lookup sampleUrl, none⟩, ⟨.lookup sampleUrl, none⟩,
    ⟨.exchange (.get sampleUrl none), sampleResponse .ok letter maxAge⟩, ⟨.systemTime, 0⟩,
    ⟨.write sampleUrl (sampleStored letter maxAge 0),
      some ⟨1, [⟨sampleUrl, sampleStored letter maxAge 0⟩], []⟩⟩]
    letter (effectiveTtlSecs maxAge 600)

/-- The page is fetched again, and what is stored of it is replaced unless it must not be
stored. -/
def fetchesAgain (letter : Char) (maxAge : Int32) (seconds : Nat) : Visit :=
  sampleVisit true (⟨.exchange (.get sampleUrl none), sampleResponse .ok letter maxAge⟩ ::
    if maxAge < 0 then []
    else [⟨.systemTime, seconds * nanosPerSec⟩, ⟨.write sampleUrl (sampleStored letter maxAge seconds),
      some ⟨1, [⟨sampleUrl, sampleStored letter maxAge seconds⟩], []⟩⟩])
    letter (effectiveTtlSecs maxAge 600)

/-- A page stored at some time is served without asking. -/
def servesFresh (letter : Char) (maxAge : Int32) (stored seconds : Nat) : Visit :=
  sampleVisit false [⟨.lookup sampleUrl, some (sampleStored letter maxAge stored).hit⟩,
    ⟨.systemTime, seconds * nanosPerSec⟩, ⟨.systemTime, seconds * nanosPerSec⟩,
    ⟨.touchLastUsed sampleUrl (seconds * nanosPerSec), ()⟩, ⟨.systemTime, seconds * nanosPerSec⟩]
    letter (effectiveTtlSecs maxAge 600 - (seconds - stored))

end Samples

end PacketBrowser.Browse
