import PacketBrowser.Server.Admission
import PacketBrowser.Server.Rounds

/-!
# The access log as an audit trail

A GET for which the origin was contacted, or whose URL was rejected, should leave one
entry with the callsign and the URL. It does so in every round in which no browser has to
be created in vain. Where one could not be created, the client is told so and the log is
not, although the probe has been started and the page may have been asked for.
-/

namespace PacketBrowser.Server

open Protocol Foundation Program

section Trail

/-- The entry that an operation is to append. -/
def entryOf : (op : Op) → Answer op → Option LogEntry
  | .log entry, _ => some entry
  | _, _ => none

/-- The entry that an operation has appended. -/
def appendedOf : (op : Op) → Answer op → Option LogEntry
  | .log entry, ⟨.ok _, _⟩ => some entry
  | _, _ => none

/-- An entry could not be appended. -/
def unlogged : (op : Op) → Answer op → Bool
  | .log _, ⟨.error _, _⟩ => true
  | _, _ => false

/-- The page was asked for, or the probe of its origin was started. -/
def contacts : (op : Op) → Answer op → Bool
  | .fetchPage _ _, _ => true
  | .startProbe _, _ => true
  | _, _ => false

/-- The URL was rejected. -/
def rejects : (op : Op) → Answer op → Bool
  | .validateUrl _, ⟨.error _, _⟩ => true
  | _, _ => false

/-- A browser could not be created. -/
def browserless : (op : Op) → Answer op → Bool
  | .newBrowser _, ⟨.error _, _⟩ => true
  | _, _ => false

/-- Something of this kind has happened. -/
def happened (kind : (op : Op) → Answer op → Bool) (log : List (Sigma Answer)) : Bool :=
  log.any fun event => kind event.1 event.2

/-- The entries that were logged. -/
def entries (log : List (Sigma Answer)) : List LogEntry :=
  log.filterMap fun event => entryOf event.1 event.2

/-- The entries with this callsign and this URL that were appended. -/
def appended (callsign url : Text) (log : List (Sigma Answer)) : List LogEntry :=
  (log.filterMap fun event => appendedOf event.1 event.2).filter fun entry =>
    entry.call == callsign && entry.url == url

/-- A GET for which the origin was contacted, or which was rejected, has one entry. -/
def Audited (callsign url : Text) (log : List (Sigma Answer)) : Prop :=
  happened contacts log = true ∨ happened rejects log = true →
    (appended callsign url log).length = 1

/-- Operations other than creating a browser and writing to the log. -/
def Op.unaudited : Op → Prop
  | .log _ => False
  | .newBrowser _ => False
  | _ => True

variable {log log' events : List (Sigma Answer)} {callsign url : Text}

/-- If appending never fails, every entry is appended. -/
theorem appended_entries (succeeds : happened unlogged log = false) :
    appended callsign url log =
      (entries log).filter fun entry => entry.call == callsign && entry.url == url := by
  unfold appended entries
  congr 1
  apply List.filterMap_congr
  intro event member
  have appends := List.any_eq_false.mp succeeds event member
  obtain ⟨op, answer⟩ := event
  cases op with
  | log entry =>
    obtain ⟨result, elapsed⟩ := answer
    cases result with
    | ok _ => rfl
    | error err => exact absurd rfl appends
  | _ => rfl

/-- What has happened in two parts happened in one of them. -/
theorem happened_append (kind : (op : Op) → Answer op → Bool) :
    happened kind (log ++ events) = (happened kind log || happened kind events) :=
  List.any_append

/-- What the log of a request says of it until it is answered. -/
def Unsettled (log : List (Sigma Answer)) : Prop :=
  entries log = [] ∧ happened browserless log = false

/-- The origin was contacted. -/
def Open (log : List (Sigma Answer)) : Prop := Unsettled log ∧ happened contacts log = true

/-- How a request is settled: with its entry, or for want of a browser. -/
def Settled (callsign url : Text) (log : List (Sigma Answer)) : Prop :=
  (∃ entry, entries log = [entry] ∧ entry.call = callsign ∧ entry.url = url ∧
      happened browserless log = false) ∨
    entries log = [] ∧ happened browserless log = true ∧ happened contacts log = true

variable {α : Type} {program : Routine α} {world after : World} {value : α}

/-- What is not audited changes neither. -/
theorem unaudited_unchanged (only : program.Only Op.unaudited)
    (returns : Returns (logged exec) program (world, log) value (after, log')) :
    entries log' = entries log ∧ happened browserless log' = happened browserless log ∧
      (happened contacts log = true → happened contacts log' = true) := by
  obtain ⟨events, grown, each⟩ := returns_logged_only only returns
  obtain rfl : log' = log ++ events := grown
  have silent : entries events = [] ∧ happened browserless events = false := by
    constructor
    · apply List.filterMap_eq_nil_iff.mpr
      rintro ⟨op, answer⟩ member
      have plain := each _ member
      cases op with
      | log entry => exact plain.elim
      | _ => rfl
    · apply List.any_eq_false.mpr
      rintro ⟨op, answer⟩ member
      have plain := each _ member
      cases op with
      | newBrowser callsign => exact plain.elim
      | _ => exact Bool.false_ne_true
  refine ⟨?_, ?_, ?_⟩
  · rw [entries, List.filterMap_append]
    exact (congrArg (entries log ++ ·) silent.1).trans (List.append_nil _)
  · rw [happened_append, silent.2, Bool.or_false]
  · intro contacted
    rw [happened_append, contacted, Bool.true_or]

/-- A part that is not audited leaves a request open. -/
theorem Open.unaudited (open' : Open log) (only : program.Only Op.unaudited)
    (returns : Returns (logged exec) program (world, log) value (after, log')) : Open log' := by
  obtain ⟨same, same', kept⟩ := unaudited_unchanged only returns
  exact ⟨⟨same.trans open'.1.1, same'.trans open'.1.2⟩, kept open'.2⟩

/-- A part that is not audited leaves a request settled. -/
theorem Settled.unaudited (settled : Settled callsign url log) (only : program.Only Op.unaudited)
    (returns : Returns (logged exec) program (world, log) value (after, log')) :
    Settled callsign url log' := by
  obtain ⟨same, same', kept⟩ := unaudited_unchanged only returns
  rcases settled with ⟨entry, found, call, name, browser⟩ | ⟨none', browser, contacted⟩
  · exact Or.inl ⟨entry, same.trans found, call, name, same'.trans browser⟩
  · exact Or.inr ⟨same.trans none', same'.trans browser, kept contacted⟩

/-- An entry settles what was not settled. -/
theorem logEntry_settles {entry : LogEntry} {result : Unit} (unsettled : Unsettled log)
    (returns : Returns (logged exec) (logEntry entry) (world, log) result (after, log')) :
    Settled entry.call entry.url log' := by
  obtain ⟨answer, ⟨middle, log₁⟩, first, ended⟩ := returns_bind.mp returns
  obtain ⟨_, grown⟩ := returns_logged_ask.mp first
  obtain ⟨_, same⟩ := returns_done.mp ended
  obtain ⟨rfl, rfl⟩ := Prod.mk.inj same
  obtain rfl : log' = log ++ [⟨.log entry, answer⟩] := grown
  refine Or.inl ⟨entry, ?_, rfl, rfl, ?_⟩
  · rw [entries, List.filterMap_append]
    exact congrArg (· ++ [entry]) unsettled.1
  · rw [happened_append, unsettled.2]
    rfl

/-- A request is audited exactly if it was settled with its entry. -/
theorem Settled.audited (settled : Settled callsign url log)
    (succeeds : happened unlogged log = false) :
    Audited callsign url log ↔ happened browserless log = false := by
  unfold Audited
  rw [appended_entries succeeds]
  rcases settled with ⟨entry, found, rfl, rfl, browser⟩ | ⟨none', browser, contacted⟩
  · simp [found, browser]
  · simp [none', browser, contacted]

end Trail

section Requests

variable {sha256 : Bytes → Bytes} {config : Config} {callsign url : Text}
variable {ifNoneMatch : Option Text} {browser : Option BrowserId}
variable {log log' : List (Sigma Answer)} {world after : World}

/-- Writing is not audited. -/
theorem writeBytes_unaudited (bytes : Bytes) : (writeBytes bytes).run.Only Op.unaudited :=
  only_bind _ (only_ask _ trivial) fun _ => trivial

/-- A status response is not audited. -/
theorem sendStatusResponse_unaudited (status : Status) (message : Text) :
    (sendStatusResponse status message).run.Only Op.unaudited :=
  only_attempt _ (only_lift _ (only_ask _ trivial)) fun _ => writeBytes_unaudited _

/-- Looking at the clock is not audited. -/
theorem touch_unaudited (session : Session) : (touch session).Only Op.unaudited :=
  only_bind _ (only_ask _ trivial) fun _ => trivial

/-- A refusal is settled by its entry. -/
theorem rejectUrl_settles {err : UrlError} {sent : Except IoError Unit}
    (unsettled : Unsettled log)
    (returns : Returns (logged exec) (rejectUrl callsign url err).run (world, log) sent
      (after, log')) : Settled callsign url log' := by
  obtain ⟨_, ⟨middle, log₁⟩, first, rest⟩ := returns_lift.mp returns
  have settled := logEntry_settles unsettled first
  exact settled.unaudited (sendStatusResponse_unaudited _ _) rest

/-- What the log says after an attempt to load the page. -/
def Tried (callsign url : Text) :
    Option BrowserId ⊕ Fetched × Option BrowserId → List (Sigma Answer) → Prop
  | .inl _ => Open
  | .inr (.page _, _) => Open
  | .inr (.answered _, _) => Settled callsign url

/-- A browser that cannot be created leaves no entry. -/
theorem restartBrowser_tried {result : Option BrowserId ⊕ Fetched × Option BrowserId}
    (contacted : Open log)
    (returns : Returns (logged exec) (restartBrowser callsign) (world, log) result (after, log')) :
    Tried callsign url result log' := by
  obtain ⟨created, ⟨middle, log₁⟩, first, rest⟩ := returns_bind.mp returns
  obtain ⟨_, grown⟩ := returns_logged_ask.mp first
  obtain rfl : log₁ = log ++ [⟨.newBrowser callsign, created⟩] := grown
  obtain ⟨⟨unlogged, browser⟩, contacted⟩ := contacted
  have same : entries (log ++ [⟨.newBrowser callsign, created⟩]) = [] := by
    rw [entries, List.filterMap_append]
    exact (congrArg (· ++ []) unlogged)
  have still : happened contacts (log ++ [⟨.newBrowser callsign, created⟩]) = true := by
    rw [happened_append, contacted, Bool.true_or]
  obtain ⟨outcome, elapsed⟩ := created
  cases outcome with
  | ok browser' =>
    obtain ⟨rfl, same'⟩ := returns_done.mp rest
    obtain ⟨rfl, rfl⟩ := Prod.mk.inj same'
    refine ⟨⟨same, ?_⟩, still⟩
    rw [happened_append, browser]
    rfl
  | error err =>
    obtain ⟨sent, ⟨last, log₂⟩, second, done⟩ := returns_bind.mp rest
    obtain ⟨rfl, same'⟩ := returns_done.mp done
    obtain ⟨rfl, rfl⟩ := Prod.mk.inj same'
    have settled : Settled callsign url (log ++ [⟨.newBrowser callsign, ⟨.error err, elapsed⟩⟩]) := by
      refine Or.inr ⟨same, ?_, still⟩
      rw [happened_append, browser]
      rfl
    exact settled.unaudited (sendStatusResponse_unaudited _ _) second

/-- A try leaves the request open, or settles it by its entry. -/
theorem tryFetch_tried {result : Option BrowserId ⊕ Fetched × Option BrowserId}
    (contacted : Open log)
    (returns : Returns (logged exec) (tryFetch callsign url browser) (world, log) result
      (after, log')) : Tried callsign url result log' := by
  cases browser with
  | none => exact restartBrowser_tried contacted returns
  | some browser =>
    obtain ⟨fetched, ⟨middle, log₁⟩, first, rest⟩ := returns_bind.mp returns
    have asked := contacted.unaudited (only_ask _ (by exact trivial)) first
    have failed : ∀ {message : Text} {err : BrowserError}, Returns (logged exec) (do
        logEntry ⟨callsign, url, .error, some err.display⟩
        let sent ← (sendErrorResponse message).run
        return (.inr (.answered sent, some browser) : Option BrowserId ⊕ Fetched × Option BrowserId))
        (middle, log₁) result (after, log') → Tried callsign url result log' := by
      intro message err returned
      obtain ⟨_, ⟨between, log₂⟩, second, behind⟩ := returns_bind.mp returned
      obtain ⟨sent, ⟨last, log₃⟩, third, done⟩ := returns_bind.mp behind
      obtain ⟨rfl, same⟩ := returns_done.mp done
      obtain ⟨rfl, rfl⟩ := Prod.mk.inj same
      have settled := logEntry_settles asked.1 second
      exact settled.unaudited (sendStatusResponse_unaudited _ _) third
    cases outcome : fetched.result with
    | ok html =>
      simp only [outcome] at rest
      obtain ⟨rfl, same⟩ := returns_done.mp rest
      obtain ⟨rfl, rfl⟩ := Prod.mk.inj same
      exact asked
    | error err =>
      simp only [outcome] at rest
      cases err with
      | browserCrashed => exact restartBrowser_tried asked rest
      | _ => exact failed rest

/-- However often the browser crashes, an answer to the client is settled. -/
theorem fetch_tried {fetched : Fetched × Option BrowserId} (contacted : Open log)
    (returns : Returns (logged exec) (Program.loop (tryFetch callsign url) browser) (world, log)
      fetched (after, log')) : Tried callsign url (.inr fetched) log' := by
  refine returns_loop (fun _ (env : World × List (Sigma Answer)) => Open env.2)
    (fun fetched env => Tried callsign url (.inr fetched) env.2) ?_ contacted returns
  intro browser env result env' contacted round
  have tried := tryFetch_tried contacted round
  cases result with
  | inl browser => exact tried
  | inr fetched => exact tried

/-- A page that is sent is settled by its entry. -/
theorem sendPage_settles {html : Text} {sent : Except IoError Unit} (contacted : Open log)
    (returns : Returns (logged exec) (sendPage sha256 config callsign url ifNoneMatch html).run
      (world, log) sent (after, log')) : Settled callsign url log' := by
  obtain ⟨probed, ⟨middle, log₁⟩, first, rest⟩ := returns_lift.mp returns
  have joined := contacted.unaudited (only_ask _ (by exact trivial)) first
  obtain ⟨_, ⟨middle, log₂⟩, second, rest⟩ := returns_lift.mp rest
  have settled := logEntry_settles joined.1 second
  apply settled.unaudited _ rest
  split
  · exact writeBytes_unaudited _
  · apply only_attempt _ (only_lift _ (only_ask _ trivial))
    intro compressed
    cases compressed.result with
    | none => exact sendStatusResponse_unaudited _ _
    | some compressed => exact writeBytes_unaudited _

/-- Every GET is settled when it was handled. -/
theorem handleRequest_settles {result : Except IoError Unit × Option BrowserId}
    (unsettled : Unsettled log)
    (returns : Returns (logged exec) (handleRequest sha256 config callsign browser url ifNoneMatch)
      (world, log) result (after, log')) : Settled callsign url log' := by
  obtain ⟨valid, ⟨middle, log₁⟩, first, rest⟩ := returns_bind.mp returns
  obtain ⟨same, same', _⟩ := unaudited_unchanged (only_ask _ (by exact trivial)) first
  have validated : Unsettled log₁ := ⟨same.trans unsettled.1, same'.trans unsettled.2⟩
  split at rest
  · obtain ⟨sent, ⟨last, log₂⟩, second, done⟩ := returns_bind.mp rest
    obtain ⟨_, same⟩ := returns_done.mp done
    obtain ⟨_, rfl⟩ := Prod.mk.inj same
    exact rejectUrl_settles validated second
  · obtain ⟨_, ⟨middle, log₂⟩, second, rest⟩ := returns_bind.mp rest
    obtain ⟨same, same', _⟩ := unaudited_unchanged (only_ask _ (by exact trivial)) second
    obtain ⟨_, grown⟩ := returns_logged_ask.mp second
    have contacted : Open log₂ := by
      refine ⟨⟨same.trans validated.1, same'.trans validated.2⟩, ?_⟩
      rw [show log₂ = _ from grown, happened_append]
      exact Bool.or_true _
    obtain ⟨⟨fetched, left⟩, ⟨middle, log₃⟩, third, rest⟩ := returns_bind.mp rest
    have tried := fetch_tried contacted third
    cases fetched with
    | answered sent =>
      obtain ⟨_, same⟩ := returns_done.mp rest
      obtain ⟨_, rfl⟩ := Prod.mk.inj same
      exact tried
    | page html =>
      obtain ⟨sent, ⟨last, log₄⟩, fourth, done⟩ := returns_bind.mp rest
      obtain ⟨_, same⟩ := returns_done.mp done
      obtain ⟨_, rfl⟩ := Prod.mk.inj same
      exact sendPage_settles tried fourth

/-- Looking at the clock keeps the callsign. -/
theorem touch_callsign {session touched : Session}
    (returns : Returns (logged exec) (touch session) (world, log) touched (after, log')) :
    touched.callsign = session.callsign := by
  obtain ⟨now, ⟨middle, log₁⟩, _, done⟩ := returns_bind.mp returns
  obtain ⟨rfl, _⟩ := returns_done.mp done
  rfl

/-- Operations other than reading a request. -/
def Op.unread : Op → Prop
  | .readRequest _ => False
  | _ => True

/-- A part that reads no request has none. -/
theorem requested_unread {events : List (Sigma Answer)} (each : ∀ event ∈ events, event.1.unread) :
    requested events = none := by
  induction events with
  | nil => rfl
  | cons event later inductionHypothesis =>
    have others := inductionHypothesis fun other member => each other (List.mem_cons_of_mem _ member)
    have first := each event (List.mem_cons_self ..)
    obtain ⟨op, answer⟩ := event
    cases op with
    | readRequest deadline => exact first.elim
    | _ => exact others

/-- A round that has read a request goes on to serve it. -/
theorem Round.reading (round : Round sha256 config) {request : Request}
    (read : requested round.events = some request) : ∃ deadline middle, Returns (logged exec)
      (do
        let session ← touch round.state.1
        match request with
        | .post _ _ => refusePost session round.state.2
        | .get url ifNoneMatch => serveGet sha256 config session round.state.2 url ifNoneMatch)
      (middle, [⟨.readRequest deadline, .ok (some request)⟩]) round.result
      (round.after, round.events) := by
  obtain ⟨answer, ⟨middle, log₁⟩, first, rest⟩ := returns_bind.mp round.returns
  obtain ⟨_, grown⟩ := returns_logged_ask.mp first
  obtain rfl : log₁ = [⟨_, answer⟩] := grown
  rcases answer with err | _ | found
  · have silent : Program.Only Op.unread (if err.kind = .timedOut then do
        tryWriteText timedOutNotice
        return .inr (.ok ())
      else return .inr (.ok ()) :
        Routine (Session × Option BrowserId ⊕ Except IoError Unit)) := by
      split
      · exact only_bind _ (only_bind _ (only_ask _ trivial) fun _ => trivial) fun _ => trivial
      · trivial
    obtain ⟨behind, grown, each⟩ := returns_logged_only silent rest
    have nothing : requested round.events = requested behind := by
      rw [show round.events = _ from grown]
      rfl
    rw [requested_unread each] at nothing
    exact absurd (read.symm.trans nothing) (by simp)
  · obtain ⟨_, same⟩ := returns_done.mp rest
    obtain ⟨_, same⟩ := Prod.mk.inj same
    exact absurd (read.symm.trans (congrArg requested same)) (by simp [requested])
  · obtain ⟨behind, grown, _⟩ := returns_logged_only (only_true _) rest
    have same : requested round.events = some found := congrArg requested grown
    obtain rfl : found = request := Option.some.inj (same.symm.trans read)
    exact ⟨_, middle, rest⟩

/-- A round that reads a GET settles it. -/
theorem Round.settles (round : Round sha256 config)
    (get : requested round.events = some (.get url ifNoneMatch)) :
    Settled round.state.1.callsign url round.events := by
  obtain ⟨deadline, middle, served⟩ := round.reading get
  obtain ⟨session, ⟨between, log₁⟩, first, rest⟩ := returns_bind.mp served
  obtain ⟨same, same', _⟩ := unaudited_unchanged (touch_unaudited _) first
  obtain ⟨⟨sent, browser⟩, ⟨last, log₂⟩, second, rest⟩ := returns_bind.mp rest
  obtain ⟨touched, ⟨final, log₃⟩, third, done⟩ := returns_bind.mp rest
  obtain ⟨_, ended⟩ := returns_done.mp done
  obtain ⟨_, rfl⟩ := Prod.mk.inj ended
  have settled := handleRequest_settles ⟨same, same'⟩ second
  rw [touch_callsign first] at settled
  exact settled.unaudited (touch_unaudited _) third

/-- If appending to the log succeeds, a GET leaves one entry with the callsign of the session
and its URL exactly if no browser has to be created in vain while it is handled.

A round settles in one of a few ways, each with its entries of the log. -/
theorem audited_iff (round : Round sha256 config)
    (get : requested round.events = some (.get url ifNoneMatch))
    (appends : happened unlogged round.events = false) :
    Audited round.state.1.callsign url round.events ↔
      happened browserless round.events = false :=
  (round.settles get).audited appends

end Requests

section Samples

/-- The session of the runs below. -/
def auditedSession : Session × Option BrowserId := (⟨"N0CALL".toList, true, 0⟩, some 0)

/-- A client that asks for one page. -/
def auditedWorld : World := ⟨⟨ascii "GET a\n", [⟨0, .closed⟩], 0⟩, []⟩

/-- The browser crashes while it loads the page. -/
def crashEvents : List (Sigma Answer) :=
  [⟨.readRequest 600000, .ok (some (.get ['a'] none))⟩, ⟨.now, (0 : Nat)⟩,
    ⟨.validateUrl ['a'], ⟨.ok (), 0⟩⟩, ⟨.startProbe ['a'], ()⟩,
    ⟨.fetchPage 0 ['a'], ⟨.error .browserCrashed, 0⟩⟩]

/-- No browser can be created in its place. -/
def lostEvents : List (Sigma Answer) :=
  [⟨.newBrowser "N0CALL".toList, ⟨.error (.launchFailed []), 0⟩⟩,
    ⟨.compress (Utf8.encode "Browser unavailable".toList) 11, ⟨some [7], 0⟩⟩,
    ⟨.write (Response.encode ⟨.err, ['-'], -1, [7]⟩),
      ⟨⟨.ok (), (Response.encode ⟨.err, ['-'], -1, [7]⟩).length⟩, 0⟩⟩, ⟨.now, (0 : Nat)⟩]

/-- Another one loads the page. -/
def savedEvents : List (Sigma Answer) :=
  [⟨.newBrowser "N0CALL".toList, ⟨.ok 1, 0⟩⟩, ⟨.fetchPage 1 ['a'], ⟨.ok ['A'], 0⟩⟩,
    ⟨.joinProbe, ⟨some 60, 0⟩⟩, ⟨.log ⟨"N0CALL".toList, ['a'], .ok, none⟩, ⟨.ok (), 0⟩⟩,
    ⟨.compress (Utf8.encode ['A']) 11, ⟨some [7], 0⟩⟩,
    ⟨.write (Response.encode ⟨.ok, [], 60, [7]⟩),
      ⟨⟨.ok (), (Response.encode ⟨.ok, [], 60, [7]⟩).length⟩, 0⟩⟩, ⟨.now, (0 : Nat)⟩]

/-- A hash without bytes. -/
def emptyHash (_ : Bytes) : Bytes := []

/-- Events that are enacted to their end are a round. -/
theorem audited_round (events : List (Sigma Answer))
    (whole : ((serveNext emptyHash sampleConfig auditedSession).enact exec auditedWorld
      events).any (fun left => left.2.2.isEmpty) = true) :
    ∃ round : Round emptyHash sampleConfig, round.state = auditedSession ∧
      round.events = events := by
  obtain ⟨result, after, returns⟩ := enact_exists whole
  exact ⟨⟨auditedSession, auditedWorld, events, result, after, returns⟩, rfl, rfl⟩

/-- The probe was started and the page asked for, and nothing was logged. -/
theorem unaudited_fetch : ∃ round : Round emptyHash sampleConfig,
    requested round.events = some (.get ['a'] none) ∧ happened unlogged round.events = false ∧
      happened contacts round.events = true ∧
      ¬ Audited round.state.1.callsign ['a'] round.events := by
  obtain ⟨round, state, events⟩ := audited_round (crashEvents ++ lostEvents) (by decide)
  refine ⟨round, ?_, ?_, ?_, ?_⟩
  · rw [events]
    decide
  · rw [events]
    decide
  · rw [events]
    decide
  · intro audited
    rw [events, state] at audited
    exact absurd (audited (Or.inl (by decide))) (by decide)

/-- A page that is loaded and logged. -/
theorem audited_iff_sample : ∃ round : Round emptyHash sampleConfig,
    requested round.events = some (.get ['a'] none) ∧ happened unlogged round.events = false ∧
      (Audited round.state.1.callsign ['a'] round.events ↔
        happened browserless round.events = false) ∧ happened browserless round.events = false := by
  obtain ⟨round, _, events⟩ := audited_round (crashEvents ++ savedEvents) (by decide)
  have get : requested round.events = some (.get ['a'] none) := by
    rw [events]
    decide
  have appends : happened unlogged round.events = false := by
    rw [events]
    decide
  refine ⟨round, get, appends, audited_iff round get appends, ?_⟩
  rw [events]
  decide

end Samples

end PacketBrowser.Server
