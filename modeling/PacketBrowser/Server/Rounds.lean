import PacketBrowser.Protocol.Framing
import PacketBrowser.Server.Connection

/-!
# One round of a session

A round reads a request and answers it. If the request is a GET and the browser loads the
page, exactly one response is written. It says that the page has not changed exactly if
the request names the etag of the page that was loaded.
-/

namespace PacketBrowser.Server

open Protocol Foundation Program

section Etags

/-- A symbol becomes a character of an ETag. -/
theorem urlSafe_symbol (value : Nat) (small : value < 64) :
    base64Url (urlSafe (Base64.symbol value)) = true := by
  have every : ∀ v : Fin 64, base64Url (urlSafe (Base64.symbol v)) = true := by decide
  exact every ⟨value, small⟩

/-- Bytes that make up whole groups are encoded without padding. -/
theorem encode_groups (groups : Nat) (bytes : Bytes) (whole : bytes.length = 3 * groups) :
    (Base64.encode bytes).length = 4 * groups ∧
      ∀ b ∈ Base64.encode bytes, base64Url (urlSafe b) = true := by
  induction groups generalizing bytes with
  | zero =>
    obtain rfl := List.length_eq_zero_iff.mp whole
    exact ⟨rfl, by simp [Base64.encode]⟩
  | succ groups inductionHypothesis =>
    obtain ⟨a, b, c, rest, rfl⟩ : ∃ a b c rest, bytes = a :: b :: c :: rest := by
      rcases bytes with _ | ⟨a, _ | ⟨b, _ | ⟨c, rest⟩⟩⟩
      · exact absurd whole (by simp)
      · exact absurd whole (by simp; omega)
      · exact absurd whole (by simp; omega)
      · exact ⟨a, b, c, rest, rfl⟩
    simp only [List.length_cons] at whole
    obtain ⟨size, letters⟩ := inductionHypothesis rest (by omega)
    have first := a.toNat_lt
    have second := b.toNat_lt
    have third := c.toNat_lt
    constructor
    · simp only [Base64.encode, List.length_cons, size]
      omega
    · intro symbol member
      simp only [Base64.encode, List.mem_cons] at member
      rcases member with rfl | rfl | rfl | rfl | later
      · exact urlSafe_symbol _ (by omega)
      · exact urlSafe_symbol _ (by omega)
      · exact urlSafe_symbol _ (by omega)
      · exact urlSafe_symbol _ (by omega)
      · exact letters symbol later

/-- The etag of a page is sixteen base64url characters. -/
theorem sanitizedHtmlEtag_shape {sha256 : Bytes → Bytes} (digest : ∀ data, (sha256 data).length = 32)
    (html : Text) : (sanitizedHtmlEtag sha256 html).length = 16 ∧
      (sanitizedHtmlEtag sha256 html).all base64Url := by
  have twelve : ((sha256 (Utf8.encode html)).take 12).length = 3 * 4 := by
    rw [List.length_take, digest]
    rfl
  obtain ⟨size, letters⟩ := encode_groups 4 _ twelve
  constructor
  · rw [sanitizedHtmlEtag, List.length_map, size]
  · rw [sanitizedHtmlEtag, List.all_map]
    exact List.all_eq_true.mpr letters

end Etags

section Events

/-- The request that was read first. -/
def requested : List (Sigma Answer) → Option Request
  | [] => none
  | ⟨.readRequest _, .ok request⟩ :: _ => request
  | _ :: later => requested later

/-- The page that was loaded. -/
def loaded : List (Sigma Answer) → Option Text
  | [] => none
  | ⟨.fetchPage _ _, answer⟩ :: later =>
    match answer.result with
    | .ok html => some html
    | .error _ => loaded later
  | _ :: later => loaded later

/-- The pieces that the connection was given to send, whatever came of it. -/
def offered : List (Sigma Answer) → List Bytes
  | [] => []
  | ⟨.write bytes, _⟩ :: later => bytes :: offered later
  | _ :: later => offered later

/-- Operations other than loading a page. -/
def Op.fetchless : Op → Prop
  | .fetchPage _ _ => False
  | _ => True

/-- Operations that neither load a page nor write. -/
def Op.aside : Op → Prop
  | .fetchPage _ _ => False
  | .write _ => False
  | _ => True

variable {log events : List (Sigma Answer)}

/-- The page of two parts is that of the first one that has one. -/
theorem loaded_append : loaded (log ++ events) = (loaded log).or (loaded events) := by
  induction log with
  | nil => rfl
  | cons event later inductionHypothesis =>
    obtain ⟨op, answer⟩ := event
    cases op with
    | fetchPage browser url =>
      simp only [List.cons_append, loaded]
      cases answer.result with
      | ok html => rfl
      | error err => exact inductionHypothesis
    | _ => exact inductionHypothesis

/-- What is offered in two parts. -/
theorem offered_append : offered (log ++ events) = offered log ++ offered events := by
  induction log with
  | nil => rfl
  | cons event later inductionHypothesis =>
    obtain ⟨op, answer⟩ := event
    cases op with
    | write bytes => exact congrArg (bytes :: ·) inductionHypothesis
    | _ => exact inductionHypothesis

/-- A part that loads nothing has no page. -/
theorem loaded_fetchless (each : ∀ event ∈ events, event.1.fetchless) : loaded events = none := by
  induction events with
  | nil => rfl
  | cons event later inductionHypothesis =>
    have others := inductionHypothesis fun other member => each other (List.mem_cons_of_mem _ member)
    have first := each event (List.mem_cons_self ..)
    obtain ⟨op, answer⟩ := event
    cases op with
    | fetchPage browser url => exact first.elim
    | _ => exact others

/-- A part aside offers nothing. -/
theorem offered_aside (each : ∀ event ∈ events, event.1.aside) : offered events = [] := by
  induction events with
  | nil => rfl
  | cons event later inductionHypothesis =>
    have others := inductionHypothesis fun other member => each other (List.mem_cons_of_mem _ member)
    have first := each event (List.mem_cons_self ..)
    obtain ⟨op, answer⟩ := event
    cases op with
    | write bytes => exact first.elim
    | _ => exact others

/-- An operation aside loads nothing. -/
theorem Op.aside.fetchless {op : Op} (aside : op.aside) : op.fetchless := by
  cases op with
  | fetchPage browser url => exact aside
  | _ => trivial

variable {α : Type} {program : Routine α} {world after : World} {value : α}
variable {log' : List (Sigma Answer)}

/-- A part that loads nothing leaves the page. -/
theorem loaded_unchanged (only : program.Only Op.fetchless)
    (returns : Returns (logged exec) program (world, log) value (after, log')) :
    loaded log' = loaded log := by
  obtain ⟨events, grown, each⟩ := returns_logged_only only returns
  rw [show log' = _ from grown, loaded_append, loaded_fetchless each, Option.or_none]

/-- What is done aside loads nothing and writes nothing. -/
theorem aside_unchanged (only : program.Only Op.aside)
    (returns : Returns (logged exec) program (world, log) value (after, log')) :
    loaded log' = loaded log ∧ offered log' = offered log := by
  obtain ⟨events, grown, each⟩ := returns_logged_only only returns
  constructor
  · exact loaded_unchanged (only.mono fun _ => Op.aside.fetchless) returns
  · rw [show log' = _ from grown, offered_append, offered_aside each, List.append_nil]

/-- A write adds one piece, and loads nothing. -/
theorem writeBytes_written {bytes : Bytes} {sent : Except IoError Unit}
    (returns : Returns (logged exec) (writeBytes bytes).run (world, log) sent (after, log')) :
    loaded log' = loaded log ∧ offered log' = offered log ++ [bytes] := by
  obtain ⟨answer, ⟨middle, log₁⟩, first, ended⟩ := returns_bind.mp returns
  obtain ⟨_, grown⟩ := returns_logged_ask.mp first
  obtain ⟨_, same⟩ := returns_done.mp ended
  obtain ⟨rfl, rfl⟩ := Prod.mk.inj same
  rw [show log' = _ from grown, loaded_append, offered_append]
  exact ⟨Option.or_none, rfl⟩

end Events

section Responses

variable (sha256 : Bytes → Bytes) (config : Config) (callsign url : Text)
variable (ifNoneMatch : Option Text) (html : Text)

/-- A response to a request of a page that was loaded. It says that the page has not
changed exactly if the request names its etag; else it is an error, or has the page as it
was compressed. -/
structure RespondsTo (events : List (Sigma Answer)) (response : Response) : Prop where
  unchanged : response.status = .notModified ↔ ifNoneMatch = some (sanitizedHtmlEtag sha256 html)
  named : response.Named
  etag : response.status = .notModified ∨ response.status = .ok →
    response.etag = sanitizedHtmlEtag sha256 html
  compressed : response.status = .ok → ∃ answer : Timed (Option Bytes),
    ⟨.compress (Utf8.encode html) config.brotliQuality, answer⟩ ∈ events ∧
      answer.result = some response.payload

variable {sha256} {config} {callsign} {url} {ifNoneMatch} {html}
variable {world after : World} {log log' : List (Sigma Answer)} {sent : Except IoError Unit}

/-- A response stays the right one when more is known. -/
theorem RespondsTo.later {events : List (Sigma Answer)} {response : Response}
    (responds : RespondsTo sha256 config ifNoneMatch html log response)
    (within : ∀ event ∈ log, event ∈ events) :
    RespondsTo sha256 config ifNoneMatch html events response := by
  obtain ⟨unchanged, named, etag, compressed⟩ := responds
  refine ⟨unchanged, named, etag, ?_⟩
  intro ok
  obtain ⟨answer, member, result⟩ := compressed ok
  exact ⟨answer, within _ member, result⟩

/-- Logging is aside. -/
theorem logEntry_aside (entry : LogEntry) : (logEntry entry).Only Op.aside :=
  only_bind _ (only_ask _ trivial) fun _ => trivial

/-- An error response is one piece. -/
theorem sendErrorResponse_written {message : Text}
    (returns : Returns (logged exec) (sendErrorResponse message).run (world, log) sent (after, log')) :
    loaded log' = loaded log ∧ ∃ response : Response,
      offered log' = offered log ++ [response.encode] ∧ response.status = .err ∧
        response.etag = ['-'] := by
  obtain ⟨compressed, ⟨middle, log₁⟩, asked, rest⟩ := returns_lift.mp returns
  obtain ⟨unloaded, unwritten⟩ := aside_unchanged (only_ask _ (by exact trivial)) asked
  obtain ⟨kept, writes⟩ := writeBytes_written rest
  rw [kept, writes, unloaded, unwritten]
  exact ⟨rfl, _, rfl, rfl, rfl⟩

/-- What is sent for a page that was loaded. -/
theorem sendPage_responds (digest : ∀ data, (sha256 data).length = 32)
    (returns : Returns (logged exec) (sendPage sha256 config callsign url ifNoneMatch html).run
      (world, log) sent (after, log')) :
    loaded log' = loaded log ∧ ∃ response : Response,
      offered log' = offered log ++ [response.encode] ∧
        RespondsTo sha256 config ifNoneMatch html log' response := by
  have shape := sanitizedHtmlEtag_shape digest html
  obtain ⟨probed, ⟨middle, log₁⟩, first, rest⟩ := returns_lift.mp returns
  obtain ⟨unloaded₁, unwritten₁⟩ := aside_unchanged (only_ask _ (by exact trivial)) first
  obtain ⟨_, ⟨middle, log₂⟩, second, rest⟩ := returns_lift.mp rest
  obtain ⟨unloaded₂, unwritten₂⟩ := aside_unchanged (logEntry_aside _) second
  rw [← unloaded₁, ← unwritten₁, ← unloaded₂, ← unwritten₂]
  split at rest
  · rename_i matched
    obtain ⟨kept, writes⟩ := writeBytes_written rest
    refine ⟨kept, _, writes, ?_, Or.inr shape, fun _ => rfl, fun ok => absurd ok (by simp)⟩
    exact ⟨fun _ => matched, fun _ => rfl⟩
  · rename_i different
    obtain ⟨compressed, ⟨middle, log₃⟩, third, rest⟩ := returns_lift.mp rest
    obtain ⟨unloaded₃, unwritten₃⟩ := aside_unchanged (only_ask _ (by exact trivial)) third
    obtain ⟨_, grown⟩ := returns_logged_ask.mp third
    rw [← unloaded₃, ← unwritten₃]
    split at rest
    · obtain ⟨kept, response, writes, err, dash⟩ := sendErrorResponse_written rest
      refine ⟨kept, response, writes, ?_, Or.inl dash, ?_, ?_⟩
      · exact ⟨fun unchanged => absurd (err.symm.trans unchanged) (by simp),
          fun matched => absurd matched different⟩
      · rintro (unchanged | ok)
        · exact absurd (err.symm.trans unchanged) (by simp)
        · exact absurd (err.symm.trans ok) (by simp)
      · exact fun ok => absurd (err.symm.trans ok) (by simp)
    · rename_i payload result
      obtain ⟨events, same, _⟩ := returns_logged_only (only_true _) rest
      obtain ⟨kept, writes⟩ := writeBytes_written rest
      refine ⟨kept, _, writes, ?_, Or.inr shape, fun _ => rfl, ?_⟩
      · exact ⟨fun unchanged => absurd unchanged (by simp), fun matched => absurd matched different⟩
      · intro _
        refine ⟨compressed, ?_, result⟩
        rw [show log' = _ from same, show log₃ = _ from grown]
        simp

end Responses

section Fetching

variable {callsign url : Text} {log log' : List (Sigma Answer)} {world after : World}

/-- What a loop round leaves: nothing was loaded and nothing written, or the page was
loaded, or it was not and will not be. -/
def Fetching : Option BrowserId ⊕ Fetched × Option BrowserId → List (Sigma Answer) → Prop
  | .inl _, log => loaded log = none ∧ offered log = []
  | .inr (.page html, _), log => loaded log = some html ∧ offered log = []
  | .inr (.answered _, _), log => loaded log = none

/-- An error is no page. -/
theorem sendErrorResponse_fetchless (message : Text) :
    (sendErrorResponse message).run.Only Op.fetchless :=
  only_attempt _ (only_lift _ (only_ask _ trivial)) fun _ =>
    only_bind _ (only_ask _ trivial) fun _ => trivial

/-- A browser that starts goes on fetching. -/
theorem restartBrowser_fetching {result : Option BrowserId ⊕ Fetched × Option BrowserId}
    (quiet : loaded log = none ∧ offered log = [])
    (returns : Returns (logged exec) (restartBrowser callsign) (world, log) result (after, log')) :
    Fetching result log' := by
  obtain ⟨created, ⟨middle, log₁⟩, first, rest⟩ := returns_bind.mp returns
  obtain ⟨unloaded, unwritten⟩ := aside_unchanged (only_ask _ (by exact trivial)) first
  split at rest
  · obtain ⟨rfl, same⟩ := returns_done.mp rest
    obtain ⟨rfl, rfl⟩ := Prod.mk.inj same
    exact ⟨unloaded.trans quiet.1, unwritten.trans quiet.2⟩
  · obtain ⟨sent, ⟨last, log₂⟩, second, done⟩ := returns_bind.mp rest
    have kept := loaded_unchanged (sendErrorResponse_fetchless _) second
    obtain ⟨rfl, same⟩ := returns_done.mp done
    obtain ⟨rfl, rfl⟩ := Prod.mk.inj same
    exact kept.trans (unloaded.trans quiet.1)

/-- A try goes on fetching, or has loaded the page. -/
theorem tryFetch_fetching {browser : Option BrowserId}
    {result : Option BrowserId ⊕ Fetched × Option BrowserId}
    (quiet : loaded log = none ∧ offered log = [])
    (returns : Returns (logged exec) (tryFetch callsign url browser) (world, log) result
      (after, log')) : Fetching result log' := by
  cases browser with
  | none => exact restartBrowser_fetching quiet returns
  | some browser =>
    obtain ⟨fetched, ⟨middle, log₁⟩, first, rest⟩ := returns_bind.mp returns
    obtain ⟨_, grown⟩ := returns_logged_ask.mp first
    obtain rfl : log₁ = log ++ [⟨.fetchPage browser url, fetched⟩] := grown
    have unwritten : offered (log ++ [⟨.fetchPage browser url, fetched⟩]) = [] := by
      rw [offered_append, quiet.2]
      rfl
    have page : loaded (log ++ [⟨.fetchPage browser url, fetched⟩]) = fetched.result.toOption := by
      rw [loaded_append, quiet.1, Option.none_or]
      cases result : fetched.result <;> simp [loaded, result, Except.toOption]
    cases outcome : fetched.result with
    | ok html =>
      rw [outcome] at page
      simp only [outcome] at rest
      obtain ⟨rfl, same⟩ := returns_done.mp rest
      obtain ⟨rfl, rfl⟩ := Prod.mk.inj same
      exact ⟨page, unwritten⟩
    | error err =>
      rw [outcome] at page
      have failed : ∀ {message : Text}, Returns (logged exec) (do
          logEntry ⟨callsign, url, .error, some err.display⟩
          let sent ← (sendErrorResponse message).run
          return (.inr (.answered sent, some browser) : Option BrowserId ⊕ Fetched × Option BrowserId))
          (middle, log ++ [⟨.fetchPage browser url, fetched⟩]) result (after, log') →
          Fetching result log' := by
        intro message returned
        obtain ⟨_, ⟨between, log₂⟩, second, behind⟩ := returns_bind.mp returned
        obtain ⟨sent, ⟨last, log₃⟩, third, done⟩ := returns_bind.mp behind
        have logged := aside_unchanged (logEntry_aside _) second
        have kept := loaded_unchanged (sendErrorResponse_fetchless _) third
        obtain ⟨rfl, same⟩ := returns_done.mp done
        obtain ⟨rfl, rfl⟩ := Prod.mk.inj same
        exact kept.trans (logged.1.trans page)
      simp only [outcome] at rest
      cases err with
      | browserCrashed => exact restartBrowser_fetching ⟨page, unwritten⟩ rest
      | _ => exact failed rest

/-- How the loop of attempts ends. -/
theorem fetch_fetching {browser : Option BrowserId} {fetched : Fetched × Option BrowserId}
    (quiet : loaded log = none ∧ offered log = [])
    (returns : Returns (logged exec) (Program.loop (tryFetch callsign url) browser) (world, log)
      fetched (after, log')) : Fetching (.inr fetched) log' := by
  refine returns_loop
    (fun _ (env : World × List (Sigma Answer)) => loaded env.2 = none ∧ offered env.2 = [])
    (fun fetched env => Fetching (.inr fetched) env.2) ?_ quiet returns
  intro browser env result env' quiet round
  have fetching := tryFetch_fetching quiet round
  cases result with
  | inl browser => exact fetching
  | inr fetched => exact fetching

end Fetching

section Rounds

variable {sha256 : Bytes → Bytes} {config : Config} {callsign url : Text}
variable {ifNoneMatch : Option Text} {html : Text} {browser : Option BrowserId}
variable {world after : World} {log log' : List (Sigma Answer)}

/-- A page that was loaded is responded to with one piece. -/
theorem handleRequest_responds (digest : ∀ data, (sha256 data).length = 32)
    (quiet : loaded log = none ∧ offered log = []) {result : Except IoError Unit × Option BrowserId}
    (returns : Returns (logged exec) (handleRequest sha256 config callsign browser url ifNoneMatch)
      (world, log) result (after, log')) (page : loaded log' = some html) :
    ∃ response : Response, offered log' = [response.encode] ∧
      RespondsTo sha256 config ifNoneMatch html log' response := by
  obtain ⟨valid, ⟨middle, log₁⟩, first, rest⟩ := returns_bind.mp returns
  obtain ⟨unloaded, unwritten⟩ := aside_unchanged (only_ask _ (by exact trivial)) first
  split at rest
  · rename_i err _
    have rejecting : (rejectUrl callsign url err).run.Only Op.fetchless := by
      apply only_attempt _ (only_lift _ ((logEntry_aside _).mono fun _ => Op.aside.fetchless))
      exact fun _ => only_attempt _ (only_lift _ (only_ask _ trivial)) fun _ =>
        only_bind _ (only_ask _ trivial) fun _ => trivial
    obtain ⟨sent, ⟨last, log₂⟩, second, done⟩ := returns_bind.mp rest
    have kept := loaded_unchanged rejecting second
    obtain ⟨_, same⟩ := returns_done.mp done
    obtain ⟨_, rfl⟩ := Prod.mk.inj same
    rw [kept, unloaded, quiet.1] at page
    exact absurd page (by simp)
  · obtain ⟨_, ⟨middle, log₂⟩, second, rest⟩ := returns_bind.mp rest
    obtain ⟨unloaded', unwritten'⟩ := aside_unchanged (only_ask _ (by exact trivial)) second
    obtain ⟨⟨fetched, left⟩, ⟨middle, log₃⟩, third, rest⟩ := returns_bind.mp rest
    have fetching := fetch_fetching
      ⟨unloaded'.trans (unloaded.trans quiet.1), unwritten'.trans (unwritten.trans quiet.2)⟩ third
    cases fetched with
    | answered sent =>
      obtain ⟨_, same⟩ := returns_done.mp rest
      obtain ⟨_, rfl⟩ := Prod.mk.inj same
      exact absurd (page.symm.trans fetching) (by simp)
    | page found =>
      obtain ⟨sent, ⟨last, log₄⟩, fourth, done⟩ := returns_bind.mp rest
      obtain ⟨kept, response, writes, responds⟩ := sendPage_responds digest fourth
      obtain ⟨_, same⟩ := returns_done.mp done
      obtain ⟨_, rfl⟩ := Prod.mk.inj same
      obtain rfl : found = html := Option.some.inj (fetching.1.symm.trans (kept.symm.trans page))
      exact ⟨response, by rw [writes, fetching.2]; rfl, responds⟩

/-- Looking at the clock is aside. -/
theorem touch_aside (session : Session) : (touch session).Only Op.aside :=
  only_bind _ (only_ask _ trivial) fun _ => trivial

/-- A refused form is no page. -/
theorem refusePost_fetchless (session : Session) :
    (refusePost session browser).Only Op.fetchless := by
  apply only_bind _ (sendErrorResponse_fetchless _)
  rintro (err | _)
  · trivial
  · exact only_bind _ ((touch_aside session).mono fun _ => Op.aside.fetchless) fun _ => trivial

/-- A round in which a page is loaded has read a GET, and responds to it with one piece. -/
theorem serveNext_responds (digest : ∀ data, (sha256 data).length = 32)
    {state : Session × Option BrowserId}
    {result : Session × Option BrowserId ⊕ Except IoError Unit}
    (returns : Returns (logged exec) (serveNext sha256 config state) (world, []) result (after, log))
    (page : loaded log = some html) :
    ∃ url ifNoneMatch, requested log = some (.get url ifNoneMatch) ∧
      ∃ response : Response, offered log = [response.encode] ∧
        RespondsTo sha256 config ifNoneMatch html log response := by
  obtain ⟨answer, ⟨middle, log₁⟩, first, rest⟩ := returns_bind.mp returns
  obtain ⟨_, grown⟩ := returns_logged_ask.mp first
  obtain ⟨unloaded, unwritten⟩ := aside_unchanged (only_ask _ (by exact trivial)) first
  obtain ⟨behind, grown', _⟩ := returns_logged_only (only_true _) rest
  have read : requested log = requested (log₁ ++ behind) := congrArg requested grown'
  rw [show log₁ = _ from grown] at read
  have idle : ∀ {program : Routine (Session × Option BrowserId ⊕ Except IoError Unit)},
      program.Only Op.fetchless →
      ¬ Returns (logged exec) program (middle, log₁) result (after, log) := by
    intro program only returned
    have kept := loaded_unchanged only returned
    exact absurd (page.symm.trans (kept.trans unloaded)) (by simp [loaded])
  rcases answer with err | _ | request
  · refine absurd rest (idle ?_)
    show Only Op.fetchless (ite _ _ _)
    split
    · exact only_bind _ (only_bind _ (only_ask _ trivial) fun _ => trivial) fun _ => trivial
    · trivial
  · exact absurd rest (idle trivial)
  · obtain ⟨session, ⟨between, log₂⟩, second, served⟩ := returns_bind.mp rest
    obtain ⟨unloaded', unwritten'⟩ := aside_unchanged (touch_aside _) second
    cases request with
    | post url body =>
      have kept := loaded_unchanged (refusePost_fetchless session) served
      exact absurd (page.symm.trans (kept.trans (unloaded'.trans unloaded))) (by simp [loaded])
    | get url ifNoneMatch =>
      obtain ⟨⟨sent, browser⟩, ⟨last, log₃⟩, third, rest⟩ := returns_bind.mp served
      obtain ⟨session', ⟨last', log₄⟩, fourth, done⟩ := returns_bind.mp rest
      obtain ⟨unloaded₄, unwritten₄⟩ := aside_unchanged (touch_aside _) fourth
      obtain ⟨events, grown₄, _⟩ := returns_logged_only (only_true _) fourth
      obtain ⟨_, same⟩ := returns_done.mp done
      obtain ⟨_, rfl⟩ := Prod.mk.inj same
      obtain ⟨response, writes, responds⟩ := handleRequest_responds digest
        ⟨unloaded'.trans unloaded, unwritten'.trans unwritten⟩ third (unloaded₄.symm.trans page)
      refine ⟨url, ifNoneMatch, read, response, unwritten₄.trans writes, responds.later ?_⟩
      intro event member
      rw [show log = _ from grown₄]
      exact List.mem_append_left _ member

/-- A round of a session: what it found, what happened, and how it ended. -/
structure Round (sha256 : Bytes → Bytes) (config : Config) where
  state : Session × Option BrowserId
  world : World
  events : List (Sigma Answer)
  result : Session × Option BrowserId ⊕ Except IoError Unit
  after : World
  returns : Returns (logged exec) (serveNext sha256 config state) (world, []) result (after, events)

/-- The time until which the round waits for a request. -/
def Round.deadline (round : Round sha256 config) : Nat :=
  round.state.1.lastActivity + config.idleTimeout

/-- A round reads the request that is next. -/
theorem Round.reads (round : Round sha256 config) {read : Option Request} {later : Reader}
    (found : readRequest round.deadline round.world.reader = (.ok read, later)) :
    requested round.events = read := by
  obtain ⟨answer, ⟨middle, log₁⟩, first, rest⟩ := returns_bind.mp round.returns
  obtain ⟨executed, grown⟩ := returns_logged_ask.mp first
  obtain ⟨given, _⟩ := exec_iff.mp executed
  obtain ⟨behind, grown', _⟩ := returns_logged_only (only_true _) rest
  have same : answer = .ok read := by
    have read : answer = (readRequest round.deadline round.world.reader).1 := beq_iff_eq.mp given
    rw [read, found]
  rw [show round.events = _ from grown', show log₁ = _ from grown, same]
  rfl

end Rounds

end PacketBrowser.Server
