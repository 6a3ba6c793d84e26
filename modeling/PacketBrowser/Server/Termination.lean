import PacketBrowser.Foundation.Budget
import PacketBrowser.Server.Duplicates

/-!
# When a session ends

A session that is over gives its place to another one, so it must not go on for ever. Each
line and each request takes bytes away from what the peer sends, and a page is tried again
only when the browser has crashed. A session on a finite input is therefore over after a
number of operations that depends on the length of the input and on how often the browser
crashes for one request, and it is never stuck before: no operation waits for something that
need not come, since reads give up in silence. Where the browser crashes again and again for
one request, the session goes on as long as it does.
-/

namespace PacketBrowser.Server

open Protocol Foundation Program Setting

section Measures

/-- The browser has crashed. -/
def crashed (event : SessionEvent) : Bool :=
  match event.op, event.answer with
  | .fetchPage _ _, ⟨.error .browserCrashed, _⟩ => true
  | _, _ => false

/-- A request is read. -/
def readsRequest (event : SessionEvent) : Bool :=
  match event.op with
  | .readRequest _ => true
  | _ => false

/-- The crashes since the last request was read. -/
def crashRow (history : List SessionEvent) : Nat :=
  (history.takeWhile fun event => !readsRequest event).countP crashed

/-- The browser crashes so many times at most for one request. -/
def Bears (crashes : Nat) (now : Moment) (event : SessionEvent) : Prop :=
  crashed event = true → crashRow now.history < crashes

/-- So many bytes are still to come at most, and so many crashes for this request. -/
def Left (crashes bytes fuel : Nat) (now : Moment) : Prop :=
  now.world.reader.pending.length ≤ bytes ∧ crashes ≤ crashRow now.history + fuel

/-- What is left when something was read, if there is something. -/
def Fewer {α : Type} (crashes bytes : Nat) : Except IoError (Option α) → Moment → Prop
  | .ok (some _), now => ∃ fewer < bytes, Left crashes fewer crashes now
  | _, _ => True

/-- The operation neither reads nor loads a page. -/
def Op.calm : Op → Bool
  | .readLine _ => false
  | .readRequest _ => false
  | .fetchPage _ _ => false
  | _ => true

end Measures

section Operations

variable {crashes bytes fuel : Nat} {now later : Moment} {op : Op} {answer : Answer op}

/-- Every operation has an answer. -/
theorem answerable (world : World) (op : Op) : ∃ answer, world.gives op answer = true := by
  cases op with
  | write data => exact ⟨allSent data, beq_self_eq_true data.length⟩
  | now => exact ⟨world.reader.now, beq_self_eq_true _⟩
  | readLine deadline => exact ⟨_, beq_self_eq_true (readBoundedLineUntil deadline world.reader).1⟩
  | readRequest deadline => exact ⟨_, beq_self_eq_true (readRequest deadline world.reader).1⟩
  | log entry => exact ⟨⟨.ok (), 0⟩, rfl⟩
  | newBrowser callsign => exact ⟨⟨.ok 0, 0⟩, rfl⟩
  | validateUrl url => exact ⟨⟨.ok (), 0⟩, rfl⟩
  | startProbe url => exact ⟨(), rfl⟩
  | fetchPage browser url => exact ⟨⟨.ok [], 0⟩, rfl⟩
  | joinProbe => exact ⟨⟨none, 0⟩, rfl⟩
  | compress data quality => exact ⟨⟨none, 0⟩, rfl⟩

/-- With any number of crashes before, there are no more to come than are borne at all. -/
theorem Left.renew (left : Left crashes bytes fuel now) : Left crashes bytes crashes now :=
  ⟨left.1, Nat.le_add_left _ _⟩

/-- At any moment there are the bytes to come and all the crashes. -/
theorem Left.anywhere (crashes : Nat) (now : Moment) :
    Left crashes now.world.reader.pending.length crashes now :=
  ⟨Nat.le_refl _, Nat.le_add_left _ _⟩

/-- A calm operation leaves the bytes to come. -/
theorem pending_calm (calm : op.calm = true) (world : World) :
    (world.apply op answer).reader.pending = world.reader.pending := by
  cases op <;> first | rfl | cases calm

/-- The crashes since the request, with the latest event. -/
theorem crashRow_cons {event : SessionEvent} (within : readsRequest event = false)
    (history : List SessionEvent) :
    crashRow (event :: history) = crashRow history + if crashed event then 1 else 0 := by
  rw [crashRow, List.takeWhile_cons, within, Bool.not_false, if_pos rfl, List.countP_cons]
  rfl

/-- A calm operation leaves what is left. -/
theorem Left.calm (left : Left crashes bytes fuel now) (calm : op.calm = true)
    (occurs : Occurs exec now ⟨(), op, answer⟩ later) : Left crashes bytes fuel later := by
  obtain ⟨-, moved⟩ := exec_iff.mp occurs.1
  constructor
  · rw [moved, pending_calm calm]
    exact left.1
  · have quiet : readsRequest ⟨(), op, answer⟩ = false := by cases op <;> first | rfl | cases calm
    rw [occurs.2, crashRow_cons quiet]
    have before := left.2
    omega

/-- An operation that neither reads nor loads a page leaves everything as it is. -/
theorem calm_ends (calm : op.calm = true) (left : Left crashes bytes fuel now) :
    EndsWithin exec (Bears crashes) 1 (fun _ => Left crashes bytes fuel) (ask op) now := by
  apply ends_ask
  · obtain ⟨answer, given⟩ := answerable now.world op
    refine ⟨answer, _, occurs_of given, fun crash => ?_⟩
    cases op <;> first | cases crash | cases calm
  · exact fun answer after occurs _ => left.calm calm occurs

end Operations

section Responding

variable {crashes bytes fuel : Nat} {now : Moment}

/-- A calm operation ends after one operation, whatever is made of its answer. -/
theorem calm_returns {α : Type} {op : Op} (calm : op.calm = true)
    (left : Left crashes bytes fuel now) (value : Answer op → α) :
    EndsWithin exec (Bears crashes) 1 (fun _ => Left crashes bytes fuel)
      (ask op >>= fun answer => return value answer) now :=
  (calm_ends calm left).returns fun _ _ left => left

/-- Writing is one operation. -/
theorem writeBytes_ends (data : Bytes) (left : Left crashes bytes fuel now) :
    EndsWithin exec (Bears crashes) 1 (fun _ => Left crashes bytes fuel)
      (writeBytes data).run now :=
  calm_returns rfl left _

/-- Writing a text is one operation. -/
theorem tryWriteText_ends (text : Text) (left : Left crashes bytes fuel now) :
    EndsWithin exec (Bears crashes) 1 (fun _ => Left crashes bytes fuel)
      (tryWriteText text) now :=
  calm_returns rfl left _

/-- Logging is one operation. -/
theorem logEntry_ends (entry : LogEntry) (left : Left crashes bytes fuel now) :
    EndsWithin exec (Bears crashes) 1 (fun _ => Left crashes bytes fuel) (logEntry entry) now :=
  calm_returns rfl left _

/-- Looking at the clock is one operation. -/
theorem touch_ends (session : Session) (left : Left crashes bytes fuel now) :
    EndsWithin exec (Bears crashes) 1 (fun _ => Left crashes bytes fuel) (touch session) now :=
  calm_returns rfl left _

/-- A status response takes two operations at most. -/
theorem sendStatusResponse_ends (status : Status) (message : Text)
    (left : Left crashes bytes fuel now) :
    EndsWithin exec (Bears crashes) 2 (fun _ => Left crashes bytes fuel)
      (sendStatusResponse status message).run now :=
  ends_attempt (ends_lift (calm_ends rfl left)) fun _ _ left => writeBytes_ends _ left

/-- A refusal takes three operations at most. -/
theorem rejectUrl_ends (callsign url : Text) (err : UrlError)
    (left : Left crashes bytes fuel now) :
    EndsWithin exec (Bears crashes) 3 (fun _ => Left crashes bytes fuel)
      (rejectUrl callsign url err).run now :=
  ends_attempt (ends_lift (logEntry_ends _ left)) fun _ _ left =>
    sendStatusResponse_ends _ _ left

/-- Sending a page takes five operations at most. -/
theorem sendPage_ends (sha256 : Bytes → Bytes) (config : Config) (callsign url : Text)
    (ifNoneMatch : Option Text) (html : Text) (left : Left crashes bytes fuel now) :
    EndsWithin exec (Bears crashes) 5 (fun _ => Left crashes bytes fuel)
      (sendPage sha256 config callsign url ifNoneMatch html).run now := by
  apply ends_attempt (ends_lift (calm_ends rfl left))
  intro probed later left
  apply ends_attempt (ends_lift (logEntry_ends _ left))
  intro _ later left
  split
  · exact (writeBytes_ends _ left).within (by omega)
  · apply ends_attempt (ends_lift (calm_ends rfl left))
    intro compressed later left
    cases compressed.result with
    | none => exact sendStatusResponse_ends _ _ left
    | some data => exact (writeBytes_ends _ left).within (by omega)

end Responding

section Loading

variable {crashes bytes fuel : Nat} {now : Moment} (callsign url : Text)

/-- How many rounds may follow, this one included, as long as the page is to be loaded. -/
def rounds (fuel : Nat) (browser : Option BrowserId) : Nat :=
  2 * fuel + if browser.isSome then 0 else 1

/-- A browser is to load the page, with so many rounds behind this one at most. -/
def Loads (crashes bytes : Nat) (browser : Option BrowserId) (left : Nat) (now : Moment) : Prop :=
  ∃ fuel, Left crashes bytes fuel now ∧ left = rounds fuel browser

/-- Starting a browser takes three operations at most. -/
theorem restartBrowser_ends (left : Left crashes bytes fuel now) :
    EndsWithin exec (Bears crashes) 3 (fun result later => Left crashes bytes fuel later ∧
      ∀ browser, result = .inl browser → browser.isSome = true) (restartBrowser callsign) now := by
  apply (calm_ends rfl left).bind
  intro created later left
  cases created.result with
  | ok browser =>
    apply ends_done
    exact ⟨left, fun other same => by rw [← Sum.inl.inj same, Option.isSome_some]⟩
  | error err =>
    apply (sendStatusResponse_ends _ _ left).bind
    intro sent latest left
    exact ends_done 0 ⟨left, fun other same => by cases same⟩

/-- A page is loaded, or not; a browser that crashes takes one of the crashes away. -/
theorem fetchPage_ends (browser : BrowserId) (left : Left crashes bytes fuel now) :
    EndsWithin exec (Bears crashes) 1 (fun (answer : Answer (.fetchPage browser url)) later =>
      ∃ rest ≤ fuel, Left crashes bytes rest later ∧
        (answer.result = .error .browserCrashed → rest < fuel)) (ask (.fetchPage browser url))
      now := by
  apply ends_ask
  · exact ⟨⟨.ok [], 0⟩, _, occurs_of rfl, fun crash => by cases crash⟩
  · intro answer after occurs borne
    obtain ⟨-, moved⟩ := exec_iff.mp occurs.1
    have pending : after.world.reader.pending.length ≤ bytes := by
      rw [moved]
      exact left.1
    let event : SessionEvent := ⟨(), .fetchPage browser url, answer⟩
    have row := crashRow_cons (rfl : readsRequest event = false) now.history
    rw [← occurs.2] at row
    have before := left.2
    obtain ⟨result, elapsed⟩ := answer
    by_cases crash : result = .error .browserCrashed
    · subst crash
      have room : crashRow now.history < crashes := borne rfl
      have again : crashRow after.history = crashRow now.history + 1 := row
      exact ⟨fuel - 1, by omega, ⟨pending, by omega⟩, fun _ => by omega⟩
    · exact ⟨fuel, Nat.le_refl _, ⟨pending, by omega⟩, fun same => absurd same crash⟩

/-- The page cannot be loaded, and the browser stays. -/
theorem giveUp_ends (entry : LogEntry) (browser : BrowserId)
    {again : Option BrowserId → Moment → Prop}
    (left : Left crashes bytes fuel now) :
    EndsWithin exec (Bears crashes) 3
      (fun result later => Sum.elim (fun browser => again browser later)
        (fun _ => Left crashes bytes fuel later) result)
      (do
        logEntry entry
        let sent ← (sendErrorResponse "Failed to load page".toList).run
        return .inr (Fetched.answered sent, some browser)) now := by
  apply (logEntry_ends entry left).bind
  intro _ later left
  apply (sendStatusResponse_ends _ _ left).bind
  intro sent latest left
  exact ends_done 0 left

/-- A try takes four operations at most, and another one follows only behind a crash. -/
theorem tryFetch_ends (browser : Option BrowserId) {count : Nat}
    (loads : Loads crashes bytes browser count now) :
    EndsWithin exec (Bears crashes) 4 (fun result later =>
      Sum.elim (fun browser => ∃ fewer < count, Loads crashes bytes browser fewer later)
        (fun _ => Left crashes bytes crashes later) result) (tryFetch callsign url browser) now := by
  obtain ⟨fuel, left, rfl⟩ := loads
  cases browser with
  | none =>
    apply (restartBrowser_ends callsign left).mono (by omega)
    rintro (browser | _) later ⟨left, starts⟩
    · refine ⟨rounds fuel browser, ?_, fuel, left, rfl⟩
      rw [rounds, rounds, starts browser rfl]
      simp
    · exact left.renew
  | some browser =>
    apply (fetchPage_ends url browser left).bind
    rintro ⟨result, elapsed⟩ later ⟨rest, -, left, crash⟩
    cases result with
    | ok html => exact ends_done 3 left.renew
    | error err =>
      cases err with
      | browserCrashed =>
        have less := crash rfl
        apply (restartBrowser_ends callsign left).mono (by omega)
        rintro (browser | _) latest ⟨left, starts⟩
        · refine ⟨rounds rest browser, ?_, rest, left, rfl⟩
          rw [rounds, rounds, starts browser rfl, Option.isSome_some]
          omega
        · exact left.renew
      | launchFailed message => exact giveUp_ends _ browser left.renew
      | navigationFailed message => exact giveUp_ends _ browser left.renew
      | extractionFailed message => exact giveUp_ends _ browser left.renew

/-- The page is loaded, or the request is answered. -/
theorem loadPage_ends (browser : Option BrowserId) (left : Left crashes bytes crashes now) :
    EndsWithin exec (Bears crashes) (8 * crashes + 8) (fun _ => Left crashes bytes crashes)
      (Program.loop (tryFetch callsign url) browser) now := by
  have loads : Loads crashes bytes browser (rounds crashes browser) now := ⟨crashes, left, rfl⟩
  have most : rounds crashes browser ≤ 2 * crashes + 1 := by
    rw [rounds]
    split <;> omega
  apply EndsWithin.within (ends_loop (Loads crashes bytes)
    (fun browser _ _ loads => tryFetch_ends callsign url browser loads) browser loads)
  have cost := Nat.mul_le_mul_right 4 (Nat.succ_le_succ most)
  omega

/-- A request takes eight operations for each crash and fifteen besides. -/
theorem handleRequest_ends (sha256 : Bytes → Bytes) (config : Config)
    (browser : Option BrowserId) (ifNoneMatch : Option Text) (left : Left crashes bytes crashes now) :
    EndsWithin exec (Bears crashes) (8 * crashes + 15) (fun _ => Left crashes bytes crashes)
      (handleRequest sha256 config callsign browser url ifNoneMatch) now := by
  apply (calm_ends rfl left).bind
  intro valid later left
  cases valid.result with
  | error err =>
    have rejected := rejectUrl_ends callsign url err left
    exact (rejected.within (by omega)).returns fun _ _ left => left
  | ok accepted =>
    refine EndsWithin.within
      (?_ : EndsWithin exec (Bears crashes) (5 + (8 * crashes + 8) + 1) _ _ _) (by omega)
    apply (calm_ends rfl left).bind
    intro _ later left
    apply (loadPage_ends callsign url browser left).bind
    rintro ⟨fetched, browser⟩ later left
    cases fetched with
    | answered sent => exact ends_done 5 left
    | page html =>
      have sent := sendPage_ends sha256 config callsign url ifNoneMatch html left
      exact sent.returns fun _ _ left => left

end Loading

section Sessions

variable {crashes bytes fuel : Nat} {now : Moment}

/-- A line that was read is gone. -/
theorem FirstLine.shorter {text : Text} {whole rest : Bytes} (first : FirstLine text whole rest) :
    rest.length < whole.length := by
  obtain ⟨line, _, _, split, _⟩ := first
  rw [← split, List.length_append, List.length_cons]
  omega

/-- A request takes a byte at least. -/
theorem Parses.shorter {request : Request} {whole rest : Bytes}
    (parses : Parses request whole rest) : rest.length < whole.length := by
  cases parses with
  | get first _ _ => exact first.shorter
  | post length body first =>
    have less := first.shorter
    rw [List.length_append, List.length_append] at less
    omega

/-- Fewer bytes to come are less left, and all the crashes are there again. -/
theorem Left.shrinks {after : Moment} (left : Left crashes bytes fuel now)
    (less : after.world.reader.pending.length < now.world.reader.pending.length) :
    ∃ fewer < bytes, Left crashes fewer crashes after :=
  ⟨_, Nat.lt_of_lt_of_le less left.1, Nat.le_refl _, Nat.le_add_left _ _⟩

/-- A line that is read takes a byte at least. -/
theorem readLine_ends (deadline : Nat) (left : Left crashes bytes fuel now) :
    EndsWithin exec (Bears crashes) 1
      (fun (answer : Answer (.readLine deadline)) => Fewer crashes bytes answer)
      (ask (.readLine deadline)) now := by
  apply ends_ask
  · obtain ⟨answer, given⟩ := answerable now.world (.readLine deadline)
    exact ⟨answer, _, occurs_of given, fun crash => by cases crash⟩
  · intro answer after occurs _
    obtain ⟨given, moved⟩ := exec_iff.mp occurs.1
    have told : answer = (readBoundedLineUntil deadline now.world.reader).1 := beq_iff_eq.mp given
    match answer, told with
    | .error _, _ => trivial
    | .ok none, _ => trivial
    | .ok (some line), told =>
      obtain ⟨first, -⟩ := readLine_some (Prod.ext told.symm rfl)
      apply left.shrinks
      rw [moved]
      exact first.shorter

/-- A request that is read takes a byte at least. -/
theorem readRequest_ends (deadline : Nat) (left : Left crashes bytes fuel now) :
    EndsWithin exec (Bears crashes) 1
      (fun (answer : Answer (.readRequest deadline)) => Fewer crashes bytes answer)
      (ask (.readRequest deadline)) now := by
  apply ends_ask
  · obtain ⟨answer, given⟩ := answerable now.world (.readRequest deadline)
    exact ⟨answer, _, occurs_of given, fun crash => by cases crash⟩
  · intro answer after occurs _
    obtain ⟨given, moved⟩ := exec_iff.mp occurs.1
    have told : answer = (readRequest deadline now.world.reader).1 := beq_iff_eq.mp given
    match answer, told with
    | .error _, _ => trivial
    | .ok none, _ => trivial
    | .ok (some request), told =>
      obtain ⟨parses, -⟩ := readRequest_parses (Prod.ext told.symm rfl)
      apply left.shrinks
      rw [moved]
      exact parses.shorter

/-- A refused form takes three operations at most. -/
theorem refusePost_ends (session : Session) (browser : Option BrowserId)
    (left : Left crashes bytes crashes now) :
    EndsWithin exec (Bears crashes) 3 (fun _ => Left crashes bytes crashes)
      (refusePost session browser) now := by
  apply (sendStatusResponse_ends _ _ left).bind
  intro sent later left
  cases sent with
  | error err => exact ends_done 1 left
  | ok value => exact (touch_ends session left).returns fun _ _ left => left

/-- A page takes one operation more than its request. -/
theorem serveGet_ends (sha256 : Bytes → Bytes) (config : Config) (session : Session)
    (browser : Option BrowserId) (url : Text) (ifNoneMatch : Option Text)
    (left : Left crashes bytes crashes now) :
    EndsWithin exec (Bears crashes) (8 * crashes + 16) (fun _ => Left crashes bytes crashes)
      (serveGet sha256 config session browser url ifNoneMatch) now := by
  refine EndsWithin.within
    (?_ : EndsWithin exec (Bears crashes) (1 + (8 * crashes + 15)) _ _ _) (by omega)
  apply (handleRequest_ends session.callsign url sha256 config browser ifNoneMatch left).bind
  rintro ⟨sent, browser⟩ later left
  exact (touch_ends session left).returns fun _ _ left => left

/-- One request is served, or the session is over. -/
theorem serveNext_ends (sha256 : Bytes → Bytes) (config : Config)
    (state : Session × Option BrowserId) (left : Left crashes bytes crashes now) :
    EndsWithin exec (Bears crashes) (8 * crashes + 18)
      (fun result later => Sum.elim
        (fun _ => ∃ fewer < bytes, Left crashes fewer crashes later) (fun _ => True) result)
      (serveNext sha256 config state) now := by
  apply (readRequest_ends _ left).bind
  rintro (err | _ | request) later fewer
  · change EndsWithin _ _ _ _ (if err.kind = .timedOut then _ else _) later
    split
    · have noticed := tryWriteText_ends timedOutNotice (Left.anywhere crashes later)
      exact (noticed.within (by omega)).returns fun _ _ _ => trivial
    · exact ends_done _ trivial
  · exact ends_done _ trivial
  · obtain ⟨fewer, less, left⟩ := fewer
    apply (touch_ends state.1 left).bind
    intro session latest left
    cases request with
    | post url body =>
      apply (refusePost_ends session state.2 left).mono (by omega)
      rintro (next | result) last left
      · exact ⟨fewer, less, left⟩
      · trivial
    | get url ifNoneMatch =>
      apply (serveGet_ends sha256 config session state.2 url ifNoneMatch left).mono (by omega)
      rintro (next | result) last left
      · exact ⟨fewer, less, left⟩
      · trivial

/-- Behind the handshake each byte pays for a round. -/
theorem serve_ends (sha256 : Bytes → Bytes) (config : Config) (session : Session)
    (left : Left crashes bytes crashes now) :
    EndsWithin exec (Bears crashes) ((bytes + 1) * (8 * crashes + 18) + 2) (fun _ _ => True)
      (serve sha256 config session).run now := by
  apply ends_attempt (ends_lift (logEntry_ends _ left))
  intro _ later left
  apply ends_attempt (ends_lift (calm_ends rfl left))
  intro created latest left
  cases created.result with
  | error err =>
    have least := Nat.le_mul_of_pos_left (8 * crashes + 18) (Nat.zero_lt_succ bytes)
    have fits : 2 ≤ (bytes + 1) * (8 * crashes + 18) := Nat.le_trans (by omega) least
    exact (sendStatusResponse_ends _ _ left).mono fits fun _ _ _ => trivial
  | ok browser =>
    exact ends_loop (fun _ bytes now => Left crashes bytes crashes now)
      (fun state _ _ left => serveNext_ends sha256 config state left) _ left

end Sessions

section Handshake

variable {crashes bytes fuel : Nat} {now : Moment}
variable (casing : Text.Casing) (config : Config) (deadline : Nat)

/-- What is left when the handshake goes on. -/
def Going {α : Type} (crashes bytes : Nat) : Option α → Moment → Prop
  | some _, now => Left crashes bytes crashes now
  | none, _ => True

/-- More may be left. -/
theorem Left.grows {more : Nat} (left : Left crashes bytes fuel now) (fits : bytes ≤ more) :
    Left crashes more fuel now :=
  ⟨left.1.trans fits, left.2⟩

/-- Looking at a callsign takes one operation at most. -/
theorem checkCallsign_ends (line : Text) (left : Left crashes bytes crashes now) :
    EndsWithin exec (Bears crashes) 1 (outcome (Going crashes bytes) fun _ _ => True)
      (checkCallsign casing config line).run now := by
  rw [checkCallsign]
  split
  · exact ends_done 1 left
  · apply ends_lift
    exact (tryWriteText_ends invalidCallsignNotice left).returns fun _ _ _ => trivial

/-- A line goes on with less left, or fails. -/
theorem readLine_goes {β : Type} {last : Except IoError β → Moment → Prop}
    (left : Left crashes bytes crashes now) (failed : ∀ err later, last (.error err) later) :
    EndsWithin exec (Bears crashes) 1
      (outcome (Going crashes bytes) fun err => last (.error err)) (readLine deadline).run now := by
  apply (readLine_ends deadline left).mono (Nat.le_refl 1)
  rintro (err | _ | line) later fewer
  · exact failed err later
  · trivial
  · obtain ⟨fewer, less, left⟩ := fewer
    exact left.grows (Nat.le_of_lt less)

/-- A text goes on, or fails. -/
theorem writeText_goes {β : Type} {last : Except IoError β → Moment → Prop} (text : Text)
    (left : Left crashes bytes crashes now) (failed : ∀ err later, last (.error err) later) :
    EndsWithin exec (Bears crashes) 1
      (outcome (fun _ => Left crashes bytes crashes) fun err => last (.error err))
      (writeText text).run now := by
  apply (writeBytes_ends _ left).mono (Nat.le_refl 1)
  rintro (err | _) later left
  · exact failed err later
  · exact left

/-- Waiting for the callsign takes two operations at most. -/
theorem awaitCallsign_ends (left : Left crashes bytes crashes now) :
    EndsWithin exec (Bears crashes) 2 (outcome (Going crashes bytes) fun _ _ => True)
      (awaitCallsign casing config deadline).run now := by
  apply ends_attempt (readLine_goes deadline left fun _ _ => trivial)
  rintro (_ | line) later going
  · exact ends_done 1 trivial
  · exact checkCallsign_ends casing config line going

/-- A line that is skipped takes a byte at least. -/
theorem awaitLine_ends (callsign : Text) (left : Left crashes bytes crashes now) :
    EndsWithin exec (Bears crashes) 1 (fun result later => Sum.elim
      (fun _ => ∃ fewer < bytes, Left crashes fewer crashes later)
      (fun input => outcome (Going crashes bytes) (fun _ _ => True) input later) result)
      (awaitLine casing deadline callsign) now := by
  apply (readLine_ends deadline left).bind
  rintro (err | _ | line) later fewer
  · exact ends_done 0 trivial
  · exact ends_done 0 trivial
  · obtain ⟨fewer, less, left⟩ := fewer
    apply ends_done
    cases classifyPreauthLine casing line callsign with
    | duplicateCallsign => exact ⟨fewer, less, left⟩
    | linbpqStatus => exact ⟨fewer, less, left⟩
    | candidate => exact left.grows (Nat.le_of_lt less)

/-- Lines are skipped only as long as there are any. -/
theorem awaitInput_ends (callsign : Text) (left : Left crashes bytes crashes now) :
    EndsWithin exec (Bears crashes) (bytes + 1) (outcome (Going crashes bytes) fun _ _ => True)
      (awaitInput casing deadline callsign).run now := by
  apply EndsWithin.within (ends_loop
    (fun _ fewer now => fewer ≤ bytes ∧ Left crashes fewer crashes now)
    _ () ⟨Nat.le_refl bytes, left⟩) (Nat.le_of_eq (Nat.mul_one _))
  rintro _ fewer now ⟨fits, left⟩
  apply (awaitLine_ends casing deadline callsign left).mono (Nat.le_refl 1)
  rintro (_ | _ | _ | line) later outcome
  · obtain ⟨less, below, left⟩ := outcome
    exact ⟨less, below, by omega, left⟩
  · trivial
  · trivial
  · exact outcome.grows fits

/-- Looking at the consent takes one operation at most. -/
theorem checkAgreement_ends (session : Session) (input : Text)
    (left : Left crashes bytes crashes now) :
    EndsWithin exec (Bears crashes) 1 (outcome (Going crashes bytes) fun _ _ => True)
      (checkAgreement casing session input).run now := by
  rw [checkAgreement]
  split
  · exact EndsWithin.within (ends_attempt (writeText_goes refusalNotice left fun _ _ => trivial)
      fun _ _ _ => ends_done 0 trivial) (by omega)
  · apply ends_lift
    exact (touch_ends _ left).returns fun _ _ left => left

/-- Waiting for the consent takes an operation for each byte and four besides. -/
theorem awaitAgreement_ends (callsign : Text) (left : Left crashes bytes crashes now) :
    EndsWithin exec (Bears crashes) (bytes + 4) (outcome (Going crashes bytes) fun _ _ => True)
      (awaitAgreement casing deadline callsign).run now := by
  apply ends_attempt (ends_lift (calm_returns rfl left _))
  intro session later left
  apply ends_attempt (writeText_goes termsPrompt left fun _ _ => trivial)
  intro _ later left
  refine EndsWithin.within
    (?_ : EndsWithin exec (Bears crashes) (1 + (bytes + 1)) _ _ _) (by omega)
  refine ends_attempt (awaitInput_ends casing deadline callsign left) ?_
  rintro (_ | input) latest going
  · exact ends_done 1 trivial
  · exact checkAgreement_ends casing session input going

/-- The handshake is over, too, when as many lines were skipped as there are. -/
theorem authenticate_ends (left : Left crashes bytes crashes now) :
    EndsWithin exec (Bears crashes) (bytes + 8) (outcome (Going crashes bytes) fun _ _ => True)
      (authenticate casing config).run now := by
  apply ends_attempt (writeText_goes callsignPrompt left fun _ _ => trivial)
  intro _ later left
  apply ends_attempt (ends_lift (calm_ends rfl left))
  intro begun later left
  refine EndsWithin.within
    (?_ : EndsWithin exec (Bears crashes) (bytes + 4 + 2) _ _ _) (by omega)
  refine ends_attempt (awaitCallsign_ends casing config _ left) ?_
  rintro (_ | callsign) latest going
  · exact ends_done _ trivial
  · exact awaitAgreement_ends casing _ callsign going

end Handshake

/-- A session ends if the number of crashes of the browser for one request is bounded: the
number of its operations is then bounded by that and by what the peer sends.

The measure is the bytes that are still to come, each of which pays for a line or a request,
and behind it the crashes that are still to come for the request at hand. -/
theorem session_ends (casing : Text.Casing) (sha256 : Bytes → Bytes) (config : Config)
    (reader : Reader) (crashes : Nat) :
    EndsWithin exec (Bears crashes) ((reader.pending.length + 1) * (8 * crashes + 19) + 9)
      (fun _ _ => True) (handleConnection casing sha256 config).run (Moment.opening reader) := by
  have left := Left.anywhere crashes (Moment.opening reader)
  have whole : (reader.pending.length + 1) * (8 * crashes + 18) + 2 + (reader.pending.length + 8) =
      (reader.pending.length + 1) * (8 * crashes + 19) + 9 := by
    rw [Nat.mul_succ _ (8 * crashes + 18)]
    omega
  rw [← whole]
  refine ends_attempt (authenticate_ends casing config left) ?_
  rintro (_ | session) later going
  · exact ends_done _ trivial
  · exact serve_ends sha256 config session going

end PacketBrowser.Server
