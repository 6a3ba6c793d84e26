import PacketBrowser.Vara.CommandLines

/-!
# The lines that decide on a session

Opening a session sends two commands. The first line behind the one is taken for the answer
to it, whatever it is; behind the other, lines are passed over that mean nothing to the
transport, and the first other line is the answer. Lines by which the modem only informs are
not all of them passed over. They leave the result alone exactly if none of them comes
first, and none with a number of bytes or a registered link comes in front of the second
answer.
-/

namespace PacketBrowser.Vara

open Protocol Client Foundation Program Setting

/-- What the lines to come make of waiting for the answer to a command. -/
def okResult (ending : Ending) (lines : List Text) : Except TransportError Unit :=
  match nextLine ending lines with
  | .ok line => okOutcome (parseLine line)
  | .error err => .error err

/-- What a line means while the connection is awaited. -/
def connectStep : Except TransportError Text → Unit ⊕ Except TransportError Unit
  | .ok line => connectOutcome (parseLine line)
  | .error err => .inr (.error err)

/-- What they make of waiting for the connection. -/
def connectResult (ending : Ending) : List Text → Except TransportError Unit
  | [] => .error ending.error
  | line :: lines =>
    match connectOutcome (parseLine line) with
    | .inl () => connectResult ending lines
    | .inr result => result

/-- What they make of opening a session. -/
def sessionResult (ending : Ending) (lines : List Text) : Except TransportError Unit :=
  match okResult ending lines with
  | .ok () => connectResult ending lines.tail
  | .error err => .error err

/-- The modem only informs. -/
def VaraResponse.informational : VaraResponse → Bool
  | .buffer _ => true
  | .linkRegistered => true
  | .unknown _ => true
  | _ => false

section Settling

/-! In time, the lines determine the result. -/

/-- The first line comes within the time for an answer to a command, and all of them within
a minute. -/
structure Schedule.Fits (schedule : Schedule) (start : Nat) : Prop where
  first : schedule.limit 0 ≤ start + seconds okTimeoutSecs
  whole : ∀ count, schedule.limit count ≤ start + seconds 60

variable {start count : Nat} {schedule : Schedule} {ending : Ending} {lines : List Text}
variable {now : VaraMoment}

/-- A connected transport finds its port open. -/
theorem requireOpen_settles (port : Port) (timely : Timely start schedule count lines now) :
    Settles varaExec (InTime schedule ending) (fun result later => ∃ value, result = .ok value ∧
      Timely start schedule count lines later) (requireOpen port).run now := by
  apply (still_settles (.isOpen port) rfl (by simp)
    ⟨now.world.connected, beq_self_eq_true _, trivial⟩ timely).bind
  rintro connected later ⟨given, _, left, _⟩
  obtain rfl : connected = true := (beq_iff_eq.mp given).trans timely.connected
  exact .ended (.done _) ⟨(), rfl, left⟩

/-- A write that succeeds keeps the lines. -/
theorem write_settles (port : Port) (bytes : Bytes) (timely : Timely start schedule count lines now) :
    Settles varaExec (InTime schedule ending) (fun result later => ∃ value, result = .ok value ∧
      Timely start schedule count lines later) (write port bytes).run now := by
  apply (still_settles (.write port bytes) rfl (by simp) ⟨.ok (), rfl, rfl⟩ timely).bind
  rintro _ later ⟨_, rfl, left, _⟩
  exact .ended (.done _) ⟨(), rfl, left⟩

/-- A flush that succeeds keeps them. -/
theorem flush_settles (port : Port) (timely : Timely start schedule count lines now) :
    Settles varaExec (InTime schedule ending) (fun result later => ∃ value, result = .ok value ∧
      Timely start schedule count lines later) (flush port).run now := by
  apply (still_settles (.flush port) rfl (by simp) ⟨.ok (), rfl, rfl⟩ timely).bind
  rintro _ later ⟨_, rfl, left, _⟩
  exact .ended (.done _) ⟨(), rfl, left⟩

/-- Sending a command takes no line. -/
theorem sendCmd_settles (line : Text) (timely : Timely start schedule count lines now) :
    Settles varaExec (InTime schedule ending) (fun result later => ∃ value, result = .ok value ∧
      Timely start schedule count lines later) (sendCmd line).run now := by
  apply settles_attempt (requireOpen_settles .cmd timely)
  intro _ later timely
  apply settles_attempt (write_settles .cmd _ timely)
  intro _ later timely
  apply settles_attempt (write_settles .cmd _ timely)
  intro _ later timely
  exact flush_settles .cmd timely

/-- The answer to a command is read from the next line, whichever it is. -/
theorem awaitOk_settles (timely : Timely start schedule 0 lines now) (fits : schedule.Fits start) :
    Settles varaExec (InTime schedule ending) (fun result later => result = okResult ending lines ∧
      ∃ count, Timely start schedule count lines.tail later) awaitOk.run now := by
  apply settles_attempt (settles_lift (clock_settles timely))
  rintro time later ⟨begun, _, timely, _⟩
  rw [run_attempt]
  have short := fits.first
  apply (readCmdLine_settles timely (by omega)).bind
  rintro _ last ⟨rfl, left⟩
  unfold okResult
  cases nextLine ending lines with
  | ok line => exact .ended (.done _) ⟨rfl, left⟩
  | error err => exact .ended (.done _) ⟨rfl, left⟩

/-- One line is read, and is the answer or is passed over. -/
theorem connectRound_settles {deadline : Nat} (late : ∀ count, schedule.limit count ≤ deadline)
    (timely : Timely start schedule count lines now) :
    Settles varaExec (InTime schedule ending) (fun result later =>
      (∃ count, Timely start schedule count lines.tail later) ∧
      result = connectStep (nextLine ending lines)) (connectRound deadline) now := by
  apply (readCmdLine_settles timely (late count)).bind
  rintro _ later ⟨rfl, left⟩
  cases nextLine ending lines with
  | ok line => exact .ended (.done _) ⟨left, rfl⟩
  | error err => exact .ended (.done _) ⟨left, rfl⟩

/-- Lines are read up to the answer. The induction is on those that are to come. -/
theorem connectLoop_settles {deadline : Nat} (late : ∀ count, schedule.limit count ≤ deadline)
    (timely : Timely start schedule count lines now) :
    Settles varaExec (InTime schedule ending) (fun result _ => result = connectResult ending lines)
      (Program.loop (fun _ => connectRound deadline) ()) now := by
  induction lines generalizing now count with
  | nil =>
    apply Settles.unroll
    apply (connectRound_settles late timely).bind
    rintro _ later ⟨_, rfl⟩
    exact .ended (.done _) rfl
  | cons line lines inductionHypothesis =>
    apply Settles.unroll
    apply (connectRound_settles late timely).bind
    rintro _ later ⟨⟨count, left⟩, rfl⟩
    have step : connectStep (nextLine ending (line :: lines)) = connectOutcome (parseLine line) := rfl
    rw [step, connectResult]
    cases connectOutcome (parseLine line) with
    | inl goes => exact inductionHypothesis left
    | inr result => exact .ended (.done _) rfl

/-- The lines that are to come determine the result. -/
theorem openSession_settles (config : SessionConfig) (timely : Timely start schedule 0 lines now)
    (fits : schedule.Fits start) :
    Settles varaExec (InTime schedule ending) (fun result _ => result = sessionResult ending lines)
      (openSession config).run now := by
  apply settles_attempt (sendCmd_settles _ timely)
  intro _ later timely
  rw [run_attempt]
  apply (awaitOk_settles timely fits).bind
  rintro _ later ⟨rfl, count, timely⟩
  unfold sessionResult
  cases okResult ending lines with
  | error err => exact .ended (.done _) rfl
  | ok value =>
    apply settles_attempt (sendCmd_settles _ timely)
    intro _ later timely
    apply settles_attempt (settles_lift (clock_settles timely))
    rintro time last ⟨begun, _, timely, _⟩
    apply connectLoop_settles _ timely
    intro count
    exact Nat.le_trans (fits.whole count) (Nat.add_le_add_right begun _)

end Settling

section Insertions

/-- Informational lines are inserted, at any positions. -/
inductive Inserted : List Text → List Text → Prop
  | nil : Inserted [] []
  | keep {lines more : List Text} (line : Text) (rest : Inserted lines more) :
      Inserted (line :: lines) (line :: more)
  | insert {lines more : List Text} (line : Text)
      (informs : (parseLine line).informational = true) (rest : Inserted lines more) :
      Inserted lines (line :: more)

/-- Waiting for the connection passes over the response. -/
def VaraResponse.passedOver : VaraResponse → Bool
  | .pending => true
  | .unknown _ => true
  | _ => false

/-- The line that ends the wait for the connection. -/
def decidingLine (lines : List Text) : Option Text :=
  lines.find? fun line => !(parseLine line).passedOver

/-- The line behind each command that is taken for the answer is no informational one. -/
structure Undistracted (lines : List Text) : Prop where
  first : ∀ line ∈ lines.head?, (parseLine line).informational = false
  second : (∃ line ∈ lines.head?, parseLine line = .ok) →
    ∀ line ∈ decidingLine lines.tail, (parseLine line).informational = false

variable {ending : Ending} {lines more : List Text} {response other : VaraResponse}

/-- A response that is passed over is followed by a wait for another one. -/
theorem connectOutcome_passed (passed : response.passedOver = true) :
    connectOutcome response = .inl () := by
  cases response <;> first | rfl | exact absurd passed (by simp [VaraResponse.passedOver])

/-- Any other response ends the wait. -/
theorem connectOutcome_decides (decides : response.passedOver = false) :
    ∃ result, connectOutcome response = .inr result := by
  cases response <;> first | exact ⟨_, rfl⟩ | exact absurd decides (by simp [VaraResponse.passedOver])

/-- A line that is passed over does not matter for the connection. -/
theorem connectResult_passed (line : Text) (passed : (parseLine line).passedOver = true)
    (lines : List Text) : connectResult ending (line :: lines) = connectResult ending lines := by
  rw [connectResult, connectOutcome_passed passed]

/-- Nor does it end the wait for it. -/
theorem decidingLine_passed (line : Text) (passed : (parseLine line).passedOver = true)
    (lines : List Text) : decidingLine (line :: lines) = decidingLine lines :=
  List.find?_cons_of_neg (by simp [passed])

/-- Any other line does. -/
theorem decidingLine_decides (line : Text) (decides : (parseLine line).passedOver = false)
    (lines : List Text) : decidingLine (line :: lines) = some line :=
  List.find?_cons_of_pos (by simp [decides])

/-- Insertions in front of an answer to `CONNECT` that is no informational line. -/
theorem connectResult_inserted (inserted : Inserted lines more)
    (answered : ∀ line ∈ decidingLine more, (parseLine line).informational = false) :
    connectResult ending more = connectResult ending lines := by
  induction inserted with
  | nil => rfl
  | keep line _ inductionHypothesis =>
    cases passed : (parseLine line).passedOver with
    | true =>
      rw [decidingLine_passed line passed] at answered
      rw [connectResult_passed line passed, connectResult_passed line passed]
      exact inductionHypothesis answered
    | false =>
      obtain ⟨result, outcome⟩ := connectOutcome_decides passed
      rw [connectResult, connectResult, outcome]
  | insert line informs _ inductionHypothesis =>
    cases passed : (parseLine line).passedOver with
    | true =>
      rw [decidingLine_passed line passed] at answered
      rw [connectResult_passed line passed]
      exact inductionHypothesis answered
    | false =>
      have silent := answered line (by rw [decidingLine_decides line passed]; rfl)
      exact absurd (informs.symm.trans silent) (by decide)

/-- Informational lines do not change the result, unless one of them is taken for an answer. By
induction on where they were inserted. -/
theorem sessionResult_inserted (inserted : Inserted lines more) (quiet : Undistracted more) :
    sessionResult ending more = sessionResult ending lines := by
  cases inserted with
  | nil => rfl
  | insert line informs _ =>
    exact absurd (informs.symm.trans (quiet.first line rfl)) (by decide)
  | keep line rest =>
    unfold sessionResult
    show (match okOutcome (parseLine line) with | .ok () => _ | .error err => _) =
      match okOutcome (parseLine line) with | .ok () => _ | .error err => _
    cases response : parseLine line with
    | ok => exact connectResult_inserted rest (quiet.second ⟨line, rfl, response⟩)
    | _ => rfl

/-- The first letters of a response in the text of an error. -/
def VaraResponse.letters : VaraResponse → Text
  | .ok => ['O', 'k']
  | .pending => ['P', 'e', 'n']
  | .connected _ _ => ['C', 'o', 'n']
  | .disconnected => ['D', 'i', 's']
  | .busyDetected => ['B', 'u', 's']
  | .linkRegistered => ['L', 'i', 'n']
  | .buffer _ => ['B', 'u', 'f']
  | .missing _ => ['M', 'i', 's']
  | .unknown _ => ['U', 'n', 'k']

/-- These are its first letters. -/
theorem debug_letters (response : VaraResponse) : response.debug.take 3 = response.letters := by
  cases response <;> rfl

/-- The first letters tell whether the modem only informs. -/
theorem informational_letters (response : VaraResponse) : response.informational =
    [['L', 'i', 'n'], ['B', 'u', 'f'], ['U', 'n', 'k']].contains response.letters := by
  cases response <;> rfl

/-- Responses by which the modem only informs read differently from others. -/
theorem debug_differs (informs : response.informational = true)
    (answers : other.informational = false) : other.debug ≠ response.debug := by
  intro same
  have letters : other.letters = response.letters := by
    rw [← debug_letters, ← debug_letters, same]
  rw [informational_letters, letters, ← informational_letters, informs] at answers
  exact absurd answers (by decide)

/-- How an informational response is reported while the answer to a command is awaited. -/
theorem okOutcome_informs (informs : response.informational = true) :
    okOutcome response = .error (.modemError ("expected OK, got ".toList ++ response.debug)) := by
  cases response with
  | linkRegistered => rfl
  | buffer count => rfl
  | unknown line => rfl
  | _ => exact absurd informs (by simp [VaraResponse.informational])

/-- How it is reported while the connection is awaited. -/
theorem connectOutcome_informs (informs : response.informational = true)
    (decides : response.passedOver = false) : connectOutcome response =
      .inr (.error (.modemError ("unexpected during CONNECT: ".toList ++ response.debug))) := by
  cases response with
  | linkRegistered => rfl
  | buffer count => rfl
  | unknown line => exact absurd decides (by simp [VaraResponse.passedOver])
  | _ => exact absurd informs (by simp [VaraResponse.informational])

/-- An informational line that is taken for the answer to a command is reported as nothing else
would be. -/
theorem okOutcome_answers (informs : response.informational = true)
    (answers : other.informational = false) : okOutcome other ≠ okOutcome response := by
  rw [okOutcome_informs informs]
  have general : okOutcome other = .error (.modemError ("expected OK, got ".toList ++ other.debug)) →
      okOutcome other ≠ .error (.modemError ("expected OK, got ".toList ++ response.debug)) := by
    intro reported same
    rw [reported] at same
    simp only [Except.error.injEq, TransportError.modemError.injEq, List.append_cancel_left_eq] at same
    exact debug_differs informs answers same
  cases other with
  | ok => exact fun same => absurd same (by simp [okOutcome])
  | missing field =>
    intro same
    simp only [okOutcome, Except.error.injEq, TransportError.modemError.injEq] at same
    have letters : some 'M' = some 'e' := congrArg List.head? same
    exact absurd letters (by decide)
  | _ => exact general rfl

/-- The lines that are left without the informational ones. -/
def answerLines (lines : List Text) : List Text :=
  lines.filter fun line => !(parseLine line).informational

/-- An informational line is left out. -/
theorem answerLines_informs (line : Text) (informs : (parseLine line).informational = true)
    (lines : List Text) : answerLines (line :: lines) = answerLines lines :=
  List.filter_cons_of_neg (by simp [informs])

/-- Any other line is kept. -/
theorem answerLines_answers (line : Text) (answers : (parseLine line).informational = false)
    (lines : List Text) : answerLines (line :: lines) = line :: answerLines lines :=
  List.filter_cons_of_pos (by simp [answers])

/-- None of those that are left is informational. -/
theorem answerLines_member {line : Text} (member : line ∈ answerLines lines) :
    (parseLine line).informational = false := by
  simpa using (List.mem_filter.mp member).2

/-- All informational lines are insertions. -/
theorem inserted_answerLines (lines : List Text) : Inserted (answerLines lines) lines := by
  induction lines with
  | nil => exact .nil
  | cons line lines inductionHypothesis =>
    cases informs : (parseLine line).informational with
    | true =>
      rw [answerLines_informs line informs]
      exact .insert line informs inductionHypothesis
    | false =>
      rw [answerLines_answers line informs]
      exact .keep line inductionHypothesis

/-- What is reported of a modem while the connection is awaited was one of the lines. -/
theorem connectResult_modemError {message : Text}
    (failed : connectResult ending lines = .error (.modemError message)) :
    ∃ line ∈ lines, message = "unexpected during CONNECT: ".toList ++ (parseLine line).debug := by
  induction lines with
  | nil => cases ending <;> exact absurd failed (by simp [connectResult, Ending.error])
  | cons line lines inductionHypothesis =>
    have later : connectResult ending lines = .error (.modemError message) → ∃ other ∈ line :: lines,
        message = "unexpected during CONNECT: ".toList ++ (parseLine other).debug := by
      intro behind
      obtain ⟨other, member, same⟩ := inductionHypothesis behind
      exact ⟨other, List.mem_cons_of_mem _ member, same⟩
    have here : message = "unexpected during CONNECT: ".toList ++ (parseLine line).debug →
        ∃ other ∈ line :: lines,
          message = "unexpected during CONNECT: ".toList ++ (parseLine other).debug :=
      fun same => ⟨line, List.mem_cons_self, same⟩
    rw [connectResult] at failed
    cases response : parseLine line with
    | pending =>
      rw [response] at failed
      exact later failed
    | unknown text =>
      rw [response] at failed
      exact later failed
    | connected localCall remote =>
      rw [response] at failed
      exact absurd failed (by simp [connectOutcome])
    | disconnected =>
      rw [response] at failed
      exact absurd failed (by simp [connectOutcome])
    | busyDetected =>
      rw [response] at failed
      exact absurd failed (by simp [connectOutcome])
    | _ =>
      rw [response] at failed
      simp only [connectOutcome, Except.error.injEq, TransportError.modemError.injEq] at failed
      apply here
      rw [response]
      exact failed.symm

/-- Without the informational lines the connection is decided as with them only if the line
that decides is none. -/
theorem connectResult_answers (same : connectResult ending (answerLines lines) = connectResult ending lines) :
    ∀ line ∈ decidingLine lines, (parseLine line).informational = false := by
  induction lines with
  | nil => simp [decidingLine]
  | cons line lines inductionHypothesis =>
    cases informs : (parseLine line).informational with
    | false =>
      rw [answerLines_answers line informs] at same
      cases passed : (parseLine line).passedOver with
      | true =>
        rw [connectResult_passed line passed, connectResult_passed line passed] at same
        rw [decidingLine_passed line passed]
        exact inductionHypothesis same
      | false =>
        rw [decidingLine_decides line passed]
        rintro _ ⟨⟩
        exact informs
    | true =>
      rw [answerLines_informs line informs] at same
      cases passed : (parseLine line).passedOver with
      | true =>
        rw [connectResult_passed line passed] at same
        rw [decidingLine_passed line passed]
        exact inductionHypothesis same
      | false =>
        have reported : connectResult ending (line :: lines) =
            .error (.modemError ("unexpected during CONNECT: ".toList ++ (parseLine line).debug)) := by
          rw [connectResult, connectOutcome_informs informs passed]
        obtain ⟨other, member, texts⟩ := connectResult_modemError (same.trans reported)
        have alike := List.append_cancel_left texts
        exact absurd alike.symm (debug_differs informs (answerLines_member member))

/-- If leaving out informational lines does not change the result, then none of them was taken
for an answer. -/
theorem sessionResult_answers
    (same : sessionResult ending (answerLines lines) = sessionResult ending lines) :
    Undistracted lines := by
  cases lines with
  | nil => exact ⟨by simp, by simp⟩
  | cons line lines =>
    cases informs : (parseLine line).informational with
    | false =>
      rw [answerLines_answers line informs] at same
      constructor
      · rintro _ ⟨⟩
        exact informs
      · rintro ⟨_, ⟨⟩, accepted⟩
        have results : ∀ rest, sessionResult ending (line :: rest) = connectResult ending rest := by
          intro rest
          show (match okOutcome (parseLine line) with | .ok () => _ | .error err => _) = _
          rw [accepted]
          rfl
        rw [results, results] at same
        exact connectResult_answers same
    | true =>
      have reported : sessionResult ending (line :: lines) =
          .error (.modemError ("expected OK, got ".toList ++ (parseLine line).debug)) := by
        show (match okOutcome (parseLine line) with | .ok () => _ | .error err => _) = _
        rw [okOutcome_informs informs]
      rw [answerLines_informs line informs, reported] at same
      cases answers : answerLines lines with
      | nil =>
        rw [answers] at same
        cases ending <;> exact absurd same (by simp [sessionResult, okResult, nextLine, Ending.error])
      | cons answer others =>
        have member : answer ∈ answerLines lines := by
          rw [answers]
          exact List.mem_cons_self
        have answered := answerLines_member member
        rw [answers] at same
        have first : (match okOutcome (parseLine answer) with
          | .ok () => connectResult ending others
          | .error err => .error err) = _ := same
        cases outcome : okOutcome (parseLine answer) with
        | ok value =>
          rw [outcome] at first
          obtain ⟨_, _, texts⟩ := connectResult_modemError first
          have letters : some 'e' = some 'u' := congrArg List.head? texts
          exact absurd letters (by decide)
        | error err =>
          rw [outcome] at first
          exact absurd (outcome.trans (first.trans (okOutcome_informs informs).symm))
            (okOutcome_answers informs answered)

end Insertions

section Sessions

/-- Opening a session can have this result, with a modem that answers in time. -/
def OpensWith (config : SessionConfig) (ending : Ending) (world : VaraWorld)
    (result : Except TransportError Unit) : Prop :=
  ∃ schedule : Schedule, world.now < schedule.limit 0 ∧ schedule.Fits world.now ∧ ∃ now left,
    Leads varaExec (InTime schedule ending) (openSession config).run ⟨world, []⟩ now left ∧
    left.Ends result

/-- However the informational lines were inserted among the lines that are to come, the
result is the one without them. -/
def Unaffected (config : SessionConfig) (ending : Ending) (world : VaraWorld) : Prop :=
  ∀ other : VaraWorld, other.connected = true → Inserted other.lines world.lines →
    ∀ result, OpensWith config ending other result ↔ OpensWith config ending world result

variable {config : SessionConfig} {ending : Ending} {world : VaraWorld}

/-- A connected transport opens a session with the result that its lines determine, and with no
other one. -/
theorem opensWith_iff (connected : world.connected = true) (result : Except TransportError Unit) :
    OpensWith config ending world result ↔ result = sessionResult ending world.lines := by
  have settles : ∀ schedule : Schedule, world.now < schedule.limit 0 → schedule.Fits world.now →
      Settles varaExec (InTime schedule ending) (fun result _ =>
        result = sessionResult ending world.lines) (openSession config).run ⟨world, []⟩ :=
    fun schedule early fits =>
      openSession_settles config ⟨connected, Nat.le_refl _, rfl, early, rfl⟩ fits
  constructor
  · rintro ⟨schedule, early, fits, now, left, leads, ends⟩
    exact (settles schedule early fits).ends leads ends
  · rintro rfl
    have window : seconds okTimeoutSecs = 5000 ∧ seconds 60 = 60000 := by decide
    have prompt : Schedule.Fits ⟨fun _ => world.now + 1, fun _ => Nat.le_refl _⟩ world.now :=
      ⟨by show world.now + 1 ≤ _; omega, fun _ => by show world.now + 1 ≤ _; omega⟩
    obtain ⟨now, left, _, leads, ends, rfl⟩ := (settles _ (Nat.lt_succ_self _) prompt).reached
    exact ⟨_, Nat.lt_succ_self _, prompt, now, left, leads, ends⟩

/-- If the lines without informational ones give the same result, then none of these was taken
for an answer. -/
theorem Unaffected.undistracted (connected : world.connected = true)
    (unaffected : Unaffected config ending world) : Undistracted world.lines := by
  have within : ∀ line ∈ answerLines world.lines, ∀ c ∈ line, terminator c = false :=
    fun line member => linesTo_within _ _ line (List.mem_of_mem_filter member)
  have held : VaraWorld.lines ⟨true, heldLines (answerLines world.lines), [], 0⟩ =
      answerLines world.lines := linesTo_held _ within
  have same := unaffected ⟨true, heldLines (answerLines world.lines), [], 0⟩ rfl
    (by rw [held]; exact inserted_answerLines _) (sessionResult ending world.lines)
  rw [opensWith_iff rfl, opensWith_iff connected, held] at same
  exact sessionResult_answers (same.mpr rfl).symm

/-- Informational lines leave the result of opening a session alone exactly if the first
line is none of them, and if it accepts the callsign, the line that ends the wait for the
connection is none of them either.

A session opens with the result that the lines determine. Informational lines may be left out or
put in where they are passed over, and one that is taken for an answer gives a result of its
own. -/
theorem opening_unaffected_iff (config : SessionConfig) (ending : Ending) (world : VaraWorld)
    (connected : world.connected = true) :
    Unaffected config ending world ↔ Undistracted world.lines := by
  constructor
  · exact fun unaffected => unaffected.undistracted connected
  · intro quiet other up inserted result
    rw [opensWith_iff up, opensWith_iff connected, sessionResult_inserted inserted quiet]

/-- A number of bytes from an earlier session is still in the buffer. -/
def distractedWorld : VaraWorld := ⟨true, "BUFFER 0\r".toList, [okBatch, connectedBatch], 0⟩

/-- A session with another station. -/
def someStation : SessionConfig := ⟨"W1TEST".toList, "N0CALL".toList, [], true, 0⟩

/-- The lines in which an informational one is taken for an answer. -/
theorem opening_unaffected_iff_sample :
    Unaffected someStation .silent distractedWorld ↔ Undistracted distractedWorld.lines :=
  opening_unaffected_iff someStation .silent distractedWorld rfl

/-- The line that is left from the earlier session is taken for the answer to `MYCALL`. -/
theorem opening_affected : ¬ ∀ config ending world, world.connected = true →
    Unaffected config ending world := by
  intro every
  have quiet := (every someStation .silent distractedWorld rfl).undistracted rfl
  have lines : distractedWorld.lines =
      "BUFFER 0".toList :: linesTo [] (texts [okBatch, connectedBatch]) := linesTo_taken (by decide) _
  have first := quiet.first "BUFFER 0".toList (by rw [lines]; rfl)
  exact absurd first (by decide)

end Sessions

end PacketBrowser.Vara
