import PacketBrowser.Server.Connection

/-!
# Nothing is served before the agreement

Until the operator has agreed, a session reads lines and writes its own plain texts.
Everything else it does only after it has read a callsign line, lines it skips, and the
line with the word AGREE, and these are the lines its input begins with.
-/

namespace PacketBrowser.Server

open Protocol Foundation Program Setting

/-- The bytes begin with these lines, and this is what is behind them. -/
inductive Begins : List Text → Bytes → Bytes → Prop
  | none (whole : Bytes) : Begins [] whole whole
  | line {text : Text} {texts : List Text} {whole middle rest : Bytes}
      (first : FirstLine text whole middle) (others : Begins texts middle rest) :
      Begins (text :: texts) whole rest

/-- The line that an answer of the connection is. -/
def lineOf : (op : Op) → Answer op → Option Text
  | .readLine _, .ok (some line) => some line
  | _, _ => none

/-- The lines read so far, in their order. -/
def linesRead (history : List SessionEvent) : List Text :=
  (history.filterMap fun event => lineOf event.op event.answer).reverse

/-- The texts of a session whose operator has not agreed. -/
def plainTexts : List Bytes :=
  [callsignPrompt, invalidCallsignNotice, termsPrompt, refusalNotice].map Utf8.encode

/-- What is done before the agreement. -/
def Op.preAuth : Op → Prop
  | .write bytes => bytes ∈ plainTexts
  | .now => True
  | .readLine _ => True
  | _ => False

section Lines

variable (casing : Text.Casing) (allowlist : List Text)

/-- A line that does not count as an answer: the callsign again, or a notice. -/
def Skipped (callsign line : Text) : Prop :=
  casing.toUppercase (Text.trim line) = callsign ∨
    noticeMark <+: casing.toUppercase (Text.trim line)

/-- A callsign line that is accepted, any number of skipped lines, and a line with the
word AGREE that is not skipped itself. -/
inductive Admitted : List Text → Prop
  | agreed {first last callsign : Text} {noise : List Text}
      (accepted : validateCallsignWithAllowlist casing (Text.trim first) allowlist = some callsign)
      (skipped : ∀ line ∈ noise, Skipped casing callsign line)
      (agrees : casing.toUppercase (Text.trim last) = agreeWord)
      (answer : ¬ Skipped casing callsign last) : Admitted (first :: (noise ++ [last]))

/-- An event is one of those before the agreement, or the lines that were read until
then are admitted and stand at the beginning of the input. -/
def Guarded (whole : Bytes) (event : SessionEvent) (earlier : List SessionEvent) : Prop :=
  event.op.preAuth ∨
    Admitted casing allowlist (linesRead earlier) ∧ ∃ rest, Begins (linesRead earlier) whole rest

variable {casing} {allowlist}

/-- A line is skipped exactly if it is no candidate. -/
theorem skipped_iff {callsign line : Text} :
    Skipped casing callsign line ↔ classifyPreauthLine casing line callsign ≠ .candidate := by
  unfold Skipped classifyPreauthLine
  dsimp only
  split <;> rename_i duplicate
  · simp [duplicate]
  · split <;> rename_i notice <;> simp [duplicate, notice]

/-- One more line is the next of the stream. -/
theorem Begins.concat {texts : List Text} {text : Text} {whole middle rest : Bytes}
    (begins : Begins texts whole middle) (last : FirstLine text middle rest) :
    Begins (texts ++ [text]) whole rest := by
  induction begins with
  | none whole => exact .line last (.none rest)
  | line first _ inductionHypothesis => exact .line first (inductionHypothesis last)

/-- The lines that were read, with the latest event. -/
theorem linesRead_cons (event : SessionEvent) (history : List SessionEvent) :
    linesRead (event :: history) = linesRead history ++ (lineOf event.op event.answer).toList := by
  unfold linesRead
  cases found : lineOf event.op event.answer <;> simp [found]

/-- None of the plain texts has a response frame in it. -/
theorem plainTexts_unframed : ∀ bytes ∈ plainTexts, ¬ Response.magic <:+: bytes := by
  intro bytes member
  rw [← Search.occurs_iff, Bool.not_eq_true]
  simp only [plainTexts, List.map_cons, List.map_nil, List.mem_cons, List.not_mem_nil, or_false]
    at member
  rcases member with rfl | rfl | rfl | rfl <;> decide

end Lines

section Gate

variable (casing : Text.Casing) (sha256 : Bytes → Bytes) (config : Config) (whole : Bytes)

/-- Every run of a session on its own, with guarded events. -/
def gate : Setting World Unit Answer where
  exec := exec
  meets := fun _ _ => True
  inv := fun now => Throughout (Guarded casing config.allowedCallsigns whole) now.history

/-- The lines read so far, and the input still to be read behind them. -/
def Before (lines : List Text) (now : Moment) : Prop :=
  linesRead now.history = lines ∧ Begins lines whole now.world.reader.pending

/-- The lines read so far are admitted. -/
def Passed (now : Moment) : Prop :=
  Admitted casing config.allowedCallsigns (linesRead now.history) ∧
    ∃ rest, Begins (linesRead now.history) whole rest

variable {casing} {config} {whole} {lines : List Text}

/-- What is done before the agreement without reading leaves the input alone. -/
theorem before_step {op : Op} {answer : Answer op} {now later : Moment} (plain : op.preAuth)
    (unread : ∀ deadline, op ≠ .readLine deadline) (before : Before whole lines now)
    (moves : (gate casing config whole).Moves now ⟨(), op, answer⟩ later) :
    (gate casing config whole).inv later ∧ Before whole lines later := by
  obtain ⟨⟨executed, history⟩, _, kept⟩ := moves
  obtain ⟨_, world⟩ := exec_iff.mp executed
  constructor
  · show Throughout _ later.history
    rw [history]
    exact ⟨Or.inl plain, kept⟩
  · obtain ⟨read, begins⟩ := before
    unfold Before
    rw [history, linesRead_cons, world]
    cases op with
    | readLine deadline => exact absurd rfl (unread deadline)
    | write bytes => exact ⟨by simp [lineOf, read], begins⟩
    | now => exact ⟨by simp [lineOf, read], begins⟩
    | _ => exact absurd plain (by simp [Op.preAuth])

/-- Writing a plain text reads no line. -/
theorem writeText_before {text : Text} (plain : Utf8.encode text ∈ plainTexts) :
    (gate casing config whole).Triple () (Before whole lines) (writeText text).run
      (outcome (fun _ => Before whole lines) fun _ _ => True) := by
  apply triple_ask_return (stable_alone _) fun _ => stable_alone _
  intro now answer later before moves
  have permitted : (Op.write (Utf8.encode text)).preAuth := plain
  obtain ⟨kept, still⟩ := before_step permitted (by simp) before moves
  refine ⟨kept, ?_⟩
  cases answer.result.result with
  | ok _ => exact still
  | error _ => trivial

/-- Writing a plain text reads no line, whether or not it is written. -/
theorem tryWriteText_before {text : Text} (plain : Utf8.encode text ∈ plainTexts) :
    (gate casing config whole).Triple () (Before whole lines) (tryWriteText text)
      fun _ => Before whole lines := by
  apply triple_ask_return (stable_alone _) fun _ => stable_alone _
  intro now answer later before moves
  have permitted : (Op.write (Utf8.encode text)).preAuth := plain
  exact before_step permitted (by simp) before moves

/-- Looking at the clock reads no line. -/
theorem clock_before : (gate casing config whole).Triple () (Before whole lines) clock
    fun _ => Before whole lines := by
  apply triple_ask (stable_alone _) fun _ => stable_alone _
  intro now answer later before moves
  have permitted : Op.now.preAuth := trivial
  exact before_step permitted (by simp) before moves

/-- What is known after a line was read. -/
def Line (whole : Bytes) (lines : List Text) : Except IoError (Option Text) → Moment → Prop
  | .ok (some line) => Before whole (lines ++ [line])
  | _ => fun _ => True

/-- A line that is read is the next of the stream. -/
theorem askLine_before (deadline : Nat) :
    (gate casing config whole).Triple () (Before whole lines) (ask (.readLine deadline))
      (Line whole lines) := by
  apply triple_ask (stable_alone _) fun _ => stable_alone _
  rintro now answer later ⟨read, begins⟩ ⟨⟨executed, history⟩, _, kept⟩
  obtain ⟨given, world⟩ := exec_iff.mp executed
  constructor
  · show Throughout _ later.history
    rw [history]
    exact ⟨Or.inl trivial, kept⟩
  · have result : readBoundedLineUntil deadline now.world.reader = (answer, later.world.reader) := by
      rw [world]
      exact Prod.ext (beq_iff_eq.mp given).symm rfl
    unfold Line
    split
    · rename_i line
      obtain ⟨first, _⟩ := readLine_some result
      unfold Before
      rw [history, linesRead_cons, read]
      exact ⟨rfl, begins.concat first⟩
    · trivial

/-- What is known once a callsign was accepted. -/
def Called (casing : Text.Casing) (config : Config) (whole : Bytes) : Option Text → Moment → Prop
  | some callsign => fun now => ∃ first,
      validateCallsignWithAllowlist casing (Text.trim first) config.allowedCallsigns =
        some callsign ∧ Before whole [first] now
  | none => fun _ => True

/-- What is known once a line was not skipped. -/
def Answered (casing : Text.Casing) (whole : Bytes) (first callsign : Text) :
    Option Text → Moment → Prop
  | some input => fun now => ∃ noise, (∀ line ∈ noise, Skipped casing callsign line) ∧
      ¬ Skipped casing callsign input ∧ Before whole (first :: (noise ++ [input])) now
  | none => fun _ => True

/-- What is known once the handshake is over. -/
def Agreed (casing : Text.Casing) (config : Config) (whole : Bytes) :
    Option Session → Moment → Prop
  | some _ => Passed casing config whole
  | none => fun _ => True

/-- A callsign that is accepted is the first line of the stream. -/
theorem awaitCallsign_called (deadline : Nat) :
    (gate casing config whole).Triple () (Before whole []) (awaitCallsign casing config deadline).run
      (outcome (Called casing config whole) fun _ _ => True) := by
  apply triple_attempt (fun line => Line whole [] (.ok line)) fun _ => stable_alone _
  · apply (askLine_before deadline).consequence fun _ => id
    rintro (_ | _ | line) now read
    · trivial
    · trivial
    · exact read
  · rintro (_ | line)
    · exact triple_done (stable_alone _) fun _ _ => trivial
    · show Triple _ _ _ (checkCallsign casing config line).run _
      unfold checkCallsign
      split
      · rename_i callsign accepted
        exact triple_done (stable_alone _) fun now before => ⟨line, accepted, before⟩
      · apply triple_lift fun _ => stable_alone _
        apply triple_bind _ (tryWriteText_before (by simp [plainTexts]))
        exact fun _ => triple_done (stable_alone _) fun _ _ => trivial

/-- The lines skipped so far, behind the callsign line. -/
def Skipping (casing : Text.Casing) (whole : Bytes) (first callsign : Text) (now : Moment) : Prop :=
  ∃ noise, (∀ line ∈ noise, Skipped casing callsign line) ∧ Before whole (first :: noise) now

/-- The line that decides stands behind lines that are skipped. -/
theorem awaitLine_answered (deadline : Nat) (first callsign : Text) :
    (gate casing config whole).Triple () (Skipping casing whole first callsign)
      (awaitLine casing deadline callsign)
      (Sum.elim (fun _ => Skipping casing whole first callsign)
        (outcome (Answered casing whole first callsign) fun _ _ => True)) := by
  rintro now ⟨noise, skipped, before⟩
  refine triple_bind _ (askLine_before deadline) ?_ now before
  rintro (_ | _ | line)
  · exact triple_done (stable_alone _) fun _ _ => trivial
  · exact triple_done (stable_alone _) fun _ _ => trivial
  · have again : ∀ now, classifyPreauthLine casing line callsign ≠ .candidate →
        Line whole (first :: noise) (.ok (some line)) now →
        Skipping casing whole first callsign now := by
      intro now noisy read
      refine ⟨noise ++ [line], ?_, read⟩
      intro other member
      rcases List.mem_append.mp member with earlier | last
      · exact skipped other earlier
      · rw [List.mem_singleton.mp last]
        exact skipped_iff.mpr noisy
    apply triple_done (stable_alone _)
    intro now read
    cases kind : classifyPreauthLine casing line callsign with
    | duplicateCallsign => exact again now (by simp [kind]) read
    | linbpqStatus => exact again now (by simp [kind]) read
    | candidate => exact ⟨noise, skipped, fun noisy => skipped_iff.mp noisy kind, read⟩

/-- The line that is returned is the first that is not skipped. -/
theorem awaitInput_answered (deadline : Nat) (first callsign : Text) :
    (gate casing config whole).Triple () (Before whole [first])
      (awaitInput casing deadline callsign).run
      (outcome (Answered casing whole first callsign) fun _ _ => True) := by
  apply (triple_loop (fun _ => Skipping casing whole first callsign)
    (fun _ => stable_alone _) (fun _ => stable_alone _)
    (fun _ => awaitLine_answered deadline first callsign) ()).consequence
  · exact fun now before => ⟨[], by simp, before⟩
  · exact fun _ _ => id

/-- The acknowledgement reads no line. -/
theorem acknowledge_before (session : Session) :
    (gate casing config whole).Triple () (Before whole lines) (acknowledge session)
      fun _ => Before whole lines :=
  triple_bind _ clock_before fun _ => triple_done (stable_alone _) fun _ => id

/-- A new session reads no line. -/
theorem newSession_before (callsign : Text) :
    (gate casing config whole).Triple () (Before whole lines) (newSession callsign)
      fun _ => Before whole lines :=
  triple_bind _ clock_before fun _ => triple_done (stable_alone _) fun _ => id

/-- The agreement is a last line that was not skipped. -/
theorem checkAgreement_agreed (session : Session) {first callsign input : Text}
    (accepted : validateCallsignWithAllowlist casing (Text.trim first) config.allowedCallsigns =
      some callsign) :
    (gate casing config whole).Triple () (Answered casing whole first callsign (some input))
      (checkAgreement casing session input).run
      (outcome (Agreed casing config whole) fun _ _ => True) := by
  rintro now ⟨noise, skipped, answer, before⟩
  unfold checkAgreement
  split
  · refine triple_attempt _ (fun _ => stable_alone _) (writeText_before (by simp [plainTexts])) ?_
      now before
    exact fun _ => triple_done (stable_alone _) fun _ _ => trivial
  · rename_i agrees
    refine triple_lift (fun _ => stable_alone _) ?_ now before
    refine triple_bind _ (acknowledge_before session) fun _ => triple_done (stable_alone _) ?_
    rintro now ⟨read, begins⟩
    exact ⟨read ▸ .agreed accepted skipped (not_not.mp agrees) answer, _, read ▸ begins⟩

/-- A session begins only behind the line of consent. -/
theorem awaitAgreement_agreed (deadline : Nat) (callsign : Text) :
    (gate casing config whole).Triple () (Called casing config whole (some callsign))
      (awaitAgreement casing deadline callsign).run
      (outcome (Agreed casing config whole) fun _ _ => True) := by
  rintro now ⟨first, accepted, before⟩
  refine triple_attempt (fun _ => Before whole [first]) (fun _ => stable_alone _) ?_ ?_ now before
  · exact triple_lift (fun _ => stable_alone _) (newSession_before callsign)
  · intro session
    apply triple_attempt _ (fun _ => stable_alone _) (writeText_before (by simp [plainTexts]))
    intro _
    apply triple_attempt _ (fun _ => stable_alone _) (awaitInput_answered deadline first callsign)
    rintro (_ | input)
    · exact triple_done (stable_alone _) fun _ _ => trivial
    · exact checkAgreement_agreed session accepted

/-- A session that is let in has agreed. -/
theorem authenticate_agreed :
    (gate casing config whole).Triple () (Before whole []) (authenticate casing config).run
      (outcome (Agreed casing config whole) fun _ _ => True) := by
  apply triple_attempt _ (fun _ => stable_alone _) (writeText_before (by simp [plainTexts]))
  intro _
  apply triple_attempt (fun _ => Before whole []) (fun _ => stable_alone _)
  · exact triple_lift (fun _ => stable_alone _) clock_before
  · intro now
    apply triple_attempt _ (fun _ => stable_alone _) (awaitCallsign_called _)
    rintro (_ | callsign)
    · exact triple_done (stable_alone _) fun _ _ => trivial
    · exact awaitAgreement_agreed _ callsign

/-- Reading lines is over. -/
def Op.serves (op : Op) : Prop := ∀ deadline, op ≠ .readLine deadline

/-- Once the lines are admitted, everything but reading further lines is guarded. -/
theorem passed_step {op : Op} {answer : Answer op} {now later : Moment} (serves : op.serves)
    (passed : Passed casing config whole now)
    (moves : (gate casing config whole).Moves now ⟨(), op, answer⟩ later) :
    (gate casing config whole).inv later ∧ Passed casing config whole later := by
  obtain ⟨⟨executed, history⟩, _, kept⟩ := moves
  have same : linesRead later.history = linesRead now.history := by
    rw [history, linesRead_cons]
    cases op with
    | readLine deadline => exact absurd rfl (serves deadline)
    | _ => simp [lineOf]
  constructor
  · show Throughout _ later.history
    rw [history]
    exact ⟨Or.inr passed, kept⟩
  · unfold Passed
    rw [same]
    exact passed

end Gate

section Serving

variable (casing : Text.Casing) (sha256 : Bytes → Bytes) (config : Config) (callsign : Text)

/-- A status response is service. -/
theorem sendStatusResponse_serves (status : Status) (message : Text) :
    (sendStatusResponse status message).run.Only Op.serves :=
  ⟨by simp [Op.serves], fun _ => ⟨by simp [Op.serves], fun _ => trivial⟩⟩

/-- Writing is service. -/
theorem writeBytes_serves (bytes : Bytes) : (writeBytes bytes).run.Only Op.serves :=
  only_bind _ (only_ask _ (by simp [Op.serves])) fun _ => trivial

/-- Logging is service. -/
theorem logEntry_serves (entry : LogEntry) : (logEntry entry).Only Op.serves :=
  only_bind _ (only_ask _ (by simp [Op.serves])) fun _ => trivial

/-- Looking at the clock is service. -/
theorem touch_serves (session : Session) : (touch session).Only Op.serves :=
  only_bind _ (only_ask _ (by simp [Op.serves])) fun _ => trivial

/-- Starting a browser is service. -/
theorem restartBrowser_serves : (restartBrowser callsign).Only Op.serves := by
  apply only_bind _ (only_ask _ (by simp [Op.serves]))
  intro created
  cases created.result with
  | ok browser => trivial
  | error err => exact only_bind _ (sendStatusResponse_serves _ _) fun _ => trivial

/-- Loading a page is service. -/
theorem tryFetch_serves (url : Text) (browser : Option BrowserId) :
    (tryFetch callsign url browser).Only Op.serves := by
  cases browser with
  | none => exact restartBrowser_serves callsign
  | some browser =>
    apply only_bind _ (only_ask _ (by simp [Op.serves]))
    intro fetched
    have failed : ∀ err : BrowserError, Only Op.serves (do
        logEntry ⟨callsign, url, .error, some err.display⟩
        let sent ← (sendErrorResponse "Failed to load page".toList).run
        return (.inr (.answered sent, some browser) : Option BrowserId ⊕ Fetched × Option BrowserId)) := by
      intro err
      apply only_bind _ (logEntry_serves _)
      exact fun _ => only_bind _ (sendStatusResponse_serves _ _) fun _ => trivial
    rcases fetched.result with err | html
    · cases err with
      | browserCrashed => exact restartBrowser_serves callsign
      | _ => exact failed _
    · trivial

/-- Sending a page is service. -/
theorem sendPage_serves (url : Text) (ifNoneMatch : Option Text) (html : Text) :
    (sendPage sha256 config callsign url ifNoneMatch html).run.Only Op.serves := by
  apply only_attempt _ (only_lift _ (only_ask _ (by simp [Op.serves])))
  intro probed
  apply only_attempt _ (only_lift _ (logEntry_serves _))
  intro _
  split
  · exact writeBytes_serves _
  · apply only_attempt _ (only_lift _ (only_ask _ (by simp [Op.serves])))
    intro compressed
    cases compressed.result with
    | none => exact sendStatusResponse_serves _ _
    | some compressed => exact writeBytes_serves _

/-- A request is service. -/
theorem handleRequest_serves (browser : Option BrowserId) (url : Text) (ifNoneMatch : Option Text) :
    (handleRequest sha256 config callsign browser url ifNoneMatch).Only Op.serves := by
  apply only_bind _ (only_ask _ (by simp [Op.serves]))
  intro valid
  cases valid.result with
  | error err =>
    have rejected : (rejectUrl callsign url err).run.Only Op.serves :=
      only_attempt _ (only_lift _ (logEntry_serves _)) fun _ => sendStatusResponse_serves _ _
    exact only_bind _ rejected fun _ => trivial
  | ok _ =>
    apply only_bind _ (only_ask _ (by simp [Op.serves]))
    intro _
    apply only_bind _ (only_loop _ (tryFetch_serves callsign url) browser)
    rintro ⟨html | sent, browser⟩
    · exact only_bind _ (sendPage_serves sha256 config callsign url ifNoneMatch html) fun _ => trivial
    · trivial

/-- A round is service. -/
theorem serveNext_serves (state : Session × Option BrowserId) :
    (serveNext sha256 config state).Only Op.serves := by
  apply only_bind _ (only_ask _ (by simp [Op.serves]))
  rintro (err | _ | request)
  · show Only Op.serves (ite _ _ _)
    split
    · exact only_bind _ (only_bind _ (only_ask _ (by simp [Op.serves])) fun _ => trivial) fun _ => trivial
    · trivial
  · trivial
  · apply only_bind _ (touch_serves _)
    intro session
    cases request with
    | get url ifNoneMatch =>
      apply only_bind _ (handleRequest_serves sha256 config _ _ url ifNoneMatch)
      exact fun _ => only_bind _ (touch_serves _) fun _ => trivial
    | post url body =>
      apply only_bind _ (sendStatusResponse_serves _ _)
      rintro (_ | _)
      · trivial
      · exact only_bind _ (touch_serves _) fun _ => trivial

/-- What comes behind the handshake is service. -/
theorem serve_serves (session : Session) : (serve sha256 config session).run.Only Op.serves := by
  apply only_attempt _ (only_lift _ (logEntry_serves _))
  intro _
  apply only_attempt _ (only_lift _ (only_ask _ (by simp [Op.serves])))
  intro created
  cases created.result with
  | error err => exact sendStatusResponse_serves _ _
  | ok browser => exact only_loop _ (serveNext_serves sha256 config) _

/-- Service is done only for a session that has agreed. -/
theorem serve_passed {whole : Bytes} (session : Session) :
    (gate casing config whole).Triple () (Passed casing config whole)
      (serve sha256 config session).run fun _ => Passed casing config whole :=
  triple_only (stable_alone _) (serve_serves sha256 config session)
    fun _ serves _ _ _ => passed_step serves

/-- Every event of a session is guarded. -/
theorem session_guarded (r : Reader) {now : Moment} {left : Routine (Except IoError Unit)}
    (leads : Leads exec (fun _ _ => True) (handleConnection casing sha256 config).run
      (Moment.opening r) now left) :
    Throughout (Guarded casing config.allowedCallsigns r.pending) now.history := by
  have safe : (gate casing config r.pending).Triple () (Before r.pending [])
      (handleConnection casing sha256 config).run fun _ _ => True := by
    apply triple_attempt (Agreed casing config r.pending) fun _ => stable_alone _
    · exact authenticate_agreed.consequence (fun _ => id) fun result now holds =>
        match result with
        | .ok _ => holds
        | .error _ => trivial
    · rintro (_ | session)
      · exact triple_done (stable_alone _) fun _ _ => trivial
      · exact (serve_passed casing sha256 config session).consequence (fun _ => id) fun _ _ _ => trivial
  have start := safe (Moment.opening r) ⟨rfl, .none _⟩
  exact (Setting.alone leads trivial start).1

/-- Whatever a session does beyond its own plain texts, it does after lines that are
admitted and stand at the beginning of its input.

The session is guarded from its first operation on; the plain texts hold no frame. -/
theorem no_service_before_agreement (r : Reader) {now : Moment}
    {left : Routine (Except IoError Unit)}
    (leads : Leads exec (fun _ _ => True) (handleConnection casing sha256 config).run
      (Moment.opening r) now left) :
    (∀ bytes ∈ plainTexts, ¬ Response.magic <:+: bytes) ∧
      Throughout (Guarded casing config.allowedCallsigns r.pending) now.history :=
  ⟨plainTexts_unframed, session_guarded casing sha256 config r leads⟩

/-- A write of everything in no time. -/
def allSent (bytes : Bytes) : Timed Written := ⟨⟨.ok (), bytes.length⟩, 0⟩

/-- Every callsign is let in. -/
def sampleConfig : Config := ⟨[], 10, 11, 3600⟩

/-- A peer that is spoken to by its node before it agrees. -/
def sampleReader : Reader := ⟨ascii "N0CALL\nn0call\n*** X\nAgree\n", [⟨0, .closed⟩], 0⟩

/-- A session up to its browser: a callsign line, a copy of it, a notice, the word. -/
def sampleEvents : List (Sigma Answer) :=
  [⟨.write (Utf8.encode callsignPrompt), allSent (Utf8.encode callsignPrompt)⟩, ⟨.now, (0 : Nat)⟩,
    ⟨.readLine 300000, .ok (some "N0CALL\n".toList)⟩, ⟨.now, (0 : Nat)⟩,
    ⟨.write (Utf8.encode termsPrompt), allSent (Utf8.encode termsPrompt)⟩,
    ⟨.readLine 300000, .ok (some "n0call\n".toList)⟩,
    ⟨.readLine 300000, .ok (some "*** X\n".toList)⟩,
    ⟨.readLine 300000, .ok (some "Agree\n".toList)⟩, ⟨.now, (0 : Nat)⟩,
    ⟨.log (agreedEntry "N0CALL".toList), ⟨.ok (), 0⟩⟩,
    ⟨.newBrowser "N0CALL".toList, ⟨.ok 0, 0⟩⟩]

/-- The events above are a run. -/
theorem sample_runs : ((handleConnection .onlyAscii id sampleConfig).run.follow exec 2
    (Moment.opening sampleReader) sampleEvents).isSome := by decide

/-- The handshake behind lines that are skipped. -/
theorem no_service_before_agreement_sample : ∃ now left,
    Leads exec (fun _ _ => True) (handleConnection .onlyAscii id sampleConfig).run
      (Moment.opening sampleReader) now left ∧ now.history = (sampleEvents.map eventOf).reverse ∧
      (∀ bytes ∈ plainTexts, ¬ Response.magic <:+: bytes) ∧
      Throughout (Guarded .onlyAscii [] sampleReader.pending) now.history := by
  obtain ⟨⟨now, left⟩, followed⟩ := Option.isSome_iff_exists.mp sample_runs
  obtain ⟨leads, history⟩ := follow_leads 2 sampleEvents (fun _ _ => trivial) followed
  rw [Moment.opening, List.append_nil] at history
  exact ⟨now, left, leads, history,
    no_service_before_agreement .onlyAscii id sampleConfig sampleReader leads⟩

end Serving

end PacketBrowser.Server
