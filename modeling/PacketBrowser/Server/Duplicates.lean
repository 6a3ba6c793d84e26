import PacketBrowser.Server.Admission
import PacketBrowser.Server.Readable

/-!
# Copies of the callsign line

A node may deliver the callsign line again before the operator's answer. The session
compares the whole line with the callsign it accepted, and that is the line without its
SSID; so copies are skipped exactly if the line has no SSID.
-/

namespace PacketBrowser.Server

open Protocol Foundation Program

/-- Lines as they are delivered. -/
def onWire (lines : List Text) : Bytes := lines.flatMap fun line => Utf8.encode line ++ [lineFeed]

/-- A line without a line feed in it, and not too long. -/
structure OneLine (line : Text) : Prop where
  unbroken : '\n' ∉ line
  fits : Utf8.byteLength line ≤ maxLineLength

/-- Writes succeed in bounded time. -/
def smooth (slack : Nat) : (op : Op) → Answer op → Prop
  | .write _, written => written.result.result = .ok () ∧ written.elapsed ≤ slack
  | _, _ => True

/-- The answers are smooth, and take no more time than there is. -/
def Smooth (slack : Nat) (_ : Moment) (event : SessionEvent) : Prop :=
  smooth slack event.op event.answer

/-- Everything arrives in time for the handshake. -/
structure Prompt (slack : Nat) (r : Reader) : Prop where
  steady : r.steady = true
  early : delays r.incoming + slack < preAuthTimeout

section Lines

/-- The bytes of a line stand in front of the others. -/
theorem onWire_cons (line : Text) (lines : List Text) (rest : Bytes) :
    onWire (line :: lines) ++ rest = Utf8.encode line ++ lineFeed :: (onWire lines ++ rest) := by
  simp [onWire]

/-- A line on the wire is read as itself. -/
theorem firstLine_onWire {line text : Text} {rest behind : Bytes} (one : OneLine line) :
    FirstLine text (Utf8.encode line ++ lineFeed :: behind) rest ↔
      text = line ++ ['\n'] ∧ rest = behind := by
  constructor
  · intro first
    obtain ⟨other, rfl, _, whole⟩ := firstLine_text first
    rcases whole with ⟨rfl, rfl, _⟩ | broken
    · exact ⟨rfl, rfl⟩
    · exact absurd broken one.unbroken
  · rintro ⟨rfl, rfl⟩
    have feed : [lineFeed] = Utf8.encode ['\n'] := by decide
    refine .line (Utf8.encode line) ?_ one.fits rfl ?_
    · exact fun member => one.unbroken ((Utf8.mem_encode_iff _ '\n' (by decide)).mp member)
    · rw [feed, ← Utf8.encode_append, Utf8.decode_encode]

/-- Lines read from a wire are lines that were put on it. -/
theorem begins_onWire {lines texts : List Text} {rest : Bytes} (each : ∀ line ∈ lines, OneLine line)
    (begins : Begins texts (onWire lines) rest) : texts <+: lines.map (· ++ ['\n']) := by
  induction lines generalizing texts with
  | nil =>
    cases begins with
    | none => exact List.nil_prefix
    | line first others =>
      obtain ⟨line, _, _, split, _⟩ := first
      exact absurd split (by simp [onWire])
  | cons line lines inductionHypothesis =>
    cases begins with
    | none => exact List.nil_prefix
    | line first others =>
      have whole := onWire_cons line lines []
      rw [List.append_nil, List.append_nil] at whole
      rw [whole] at first
      obtain ⟨rfl, rfl⟩ := (firstLine_onWire (each line List.mem_cons_self)).mp first
      have tail := inductionHypothesis (fun other member => each other (List.mem_cons_of_mem _ member))
        others
      exact List.cons_prefix_cons.mpr ⟨rfl, tail⟩

end Lines

section Reading

variable {slack deadline : Nat} {now : Moment}

/-- An answer the world can give may be given. -/
theorem occurs_of {op : Op} {answer : Answer op} (given : now.world.gives op answer = true) :
    Occurs exec now ⟨(), op, answer⟩
      ⟨now.world.apply op answer, ⟨(), op, answer⟩ :: now.history⟩ :=
  ⟨exec_iff.mpr ⟨given, rfl⟩, rfl⟩

/-- A write that succeeds takes its time and leaves the input alone. -/
theorem writeText_settles (text : Text) :
    Settles exec (Smooth slack) (fun result later => ∃ value : Unit, result = .ok value ∧
      ∃ elapsed ≤ slack, later.world.reader = (now.world.elapse elapsed).reader)
      (writeText text).run now := by
  have asked : Settles exec (Smooth slack) (fun (written : Answer (.write (Utf8.encode text))) later =>
      written.result.result = .ok () ∧
        ∃ elapsed ≤ slack, later.world.reader = (now.world.elapse elapsed).reader)
      (ask (.write (Utf8.encode text))) now := by
    apply settles_ask
    · exact ⟨allSent (Utf8.encode text), _, occurs_of (beq_self_eq_true _), rfl, Nat.zero_le _⟩
    · rintro written after ⟨executed, _⟩ ⟨sent, quick⟩
      refine ⟨sent, written.elapsed, quick, ?_⟩
      rw [(exec_iff.mp executed).2]
      rfl
  apply asked.bind
  rintro written later ⟨sent, timely⟩
  exact .ended (.done _) ⟨(), sent, timely⟩

/-- The clock tells the time. -/
theorem clock_settles : Settles exec (Smooth slack)
    (fun (time : Answer .now) later => time = now.world.reader.now ∧ later.world = now.world)
    (ask .now) now := by
  apply settles_ask
  · exact ⟨now.world.reader.now, _, occurs_of (beq_self_eq_true _), trivial⟩
  · rintro time after ⟨executed, _⟩ _
    obtain ⟨given, world⟩ := exec_iff.mp executed
    exact ⟨beq_iff_eq.mp given, world⟩

/-- A new session has its callsign. -/
theorem newSession_settles (callsign : Text) : Settles exec (Smooth slack)
    (fun session later => session.callsign = callsign ∧ later.world = now.world)
    (newSession callsign) now := by
  apply clock_settles.bind
  rintro time later ⟨_, same⟩
  exact .ended (.done _) ⟨rfl, same⟩

/-- A session keeps its callsign. -/
theorem acknowledge_settles (session : Session) : Settles exec (Smooth slack)
    (fun acknowledged _ => acknowledged.callsign = session.callsign) (acknowledge session) now := by
  apply clock_settles.bind
  intro time later _
  exact .ended (.done _) rfl

/-- Lines are still to be read, with time to spare before the deadline. -/
structure Waiting (deadline spare : Nat) (bytes : Bytes) (reader : Reader) : Prop where
  pending : reader.pending = bytes
  steady : reader.steady = true
  early : reader.horizon + spare < deadline

/-- Time that passes is no longer to spare. -/
theorem Waiting.elapse {spare elapsed : Nat} {bytes : Bytes} {world : World}
    (waiting : Waiting deadline spare bytes world.reader) (within : elapsed ≤ spare) :
    Waiting deadline 0 bytes (world.elapse elapsed).reader := by
  obtain ⟨pending, steady, early⟩ := waiting
  refine ⟨pending, steady, ?_⟩
  simp only [Reader.horizon, World.elapse] at early ⊢
  omega

/-- The next line is read within the time. -/
theorem askLine_settles {spare : Nat} {line : Text} {rest : Bytes} (one : OneLine line)
    (waiting : Waiting deadline spare (Utf8.encode line ++ lineFeed :: rest) now.world.reader) :
    Settles exec (Smooth slack) (fun (result : Answer (.readLine deadline)) later =>
      result = .ok (some (line ++ ['\n'])) ∧ Waiting deadline spare rest later.world.reader)
      (ask (.readLine deadline)) now := by
  obtain ⟨pending, steady, early⟩ := waiting
  have calm : Undisturbed deadline now.world.reader := ⟨steady, by omega⟩
  have feed : [lineFeed] = Utf8.encode ['\n'] := by decide
  have fresh : lineFeed ∉ Utf8.encode line := fun member =>
    one.unbroken ((Utf8.mem_encode_iff _ '\n' (by decide)).mp member)
  obtain ⟨later, read, tail, follows⟩ := readLine_of calm fresh one.fits pending.symm
  rw [lineText, feed, ← Utf8.encode_append, Utf8.decode_encode] at read
  apply settles_ask
  · have given : now.world.gives (.readLine deadline) (.ok (some (line ++ ['\n']))) = true := by
      rw [World.gives, read]
      exact beq_self_eq_true _
    exact ⟨.ok (some (line ++ ['\n'])), _, occurs_of given, trivial⟩
  · rintro result after ⟨executed, _⟩ _
    obtain ⟨given, world⟩ := exec_iff.mp executed
    have answered : result = (readBoundedLineUntil deadline now.world.reader).1 := beq_iff_eq.mp given
    have left : after.world.reader = (readBoundedLineUntil deadline now.world.reader).2 := by
      rw [world]
      rfl
    rw [answered, left, read]
    exact ⟨rfl, tail, follows.steady steady, follows.horizon ▸ early⟩

end Reading

section Handshake

variable {casing : Text.Casing} {sha256 : Bytes → Bytes} {config : Config}
variable {slack deadline spare : Nat} {callsign agree : Text} {rest : Bytes}

/-- A line that is skipped. -/
theorem awaitLine_skips {line : Text} (one : OneLine line)
    (skipped : Skipped casing callsign (line ++ ['\n'])) {now : Moment}
    (waiting : Waiting deadline spare (Utf8.encode line ++ lineFeed :: rest) now.world.reader) :
    Settles exec (Smooth slack) (fun result later => result = .inl () ∧
      Waiting deadline spare rest later.world.reader) (awaitLine casing deadline callsign) now := by
  apply (askLine_settles one waiting).bind
  rintro _ later ⟨rfl, left⟩
  refine .ended (.done _) ⟨?_, left⟩
  have noisy := skipped_iff.mp skipped
  cases kind : classifyPreauthLine casing (line ++ ['\n']) callsign with
  | candidate => exact absurd kind noisy
  | _ => rfl

/-- A line that is an answer. -/
theorem awaitLine_answers {line : Text} (one : OneLine line)
    (answer : ¬ Skipped casing callsign (line ++ ['\n'])) {now : Moment}
    (waiting : Waiting deadline spare (Utf8.encode line ++ lineFeed :: rest) now.world.reader) :
    Settles exec (Smooth slack) (fun result _ => result = .inr (.ok (some (line ++ ['\n']))))
      (awaitLine casing deadline callsign) now := by
  apply (askLine_settles one waiting).bind
  rintro _ later ⟨rfl, _⟩
  refine .ended (.done _) ?_
  have candidate : classifyPreauthLine casing (line ++ ['\n']) callsign = .candidate := by
    by_contra other
    exact answer (skipped_iff.mpr other)
  simp only [candidate]

/-- Skipped lines are read one after the other, up to the answer. The induction is on
the skipped lines. -/
theorem awaitInput_settles (noise : List Text) (each : ∀ line ∈ noise ++ [agree], OneLine line)
    (skipped : ∀ line ∈ noise, Skipped casing callsign (line ++ ['\n']))
    (answer : ¬ Skipped casing callsign (agree ++ ['\n'])) {now : Moment}
    (waiting : Waiting deadline spare (onWire (noise ++ [agree]) ++ rest) now.world.reader) :
    Settles exec (Smooth slack) (fun result _ => ∃ value, result = .ok value ∧
      value = some (agree ++ ['\n'])) (awaitInput casing deadline callsign).run now := by
  apply Settles.unroll
  induction noise generalizing now with
  | nil =>
    rw [List.nil_append, onWire_cons] at waiting
    apply (awaitLine_answers (each agree (by simp)) answer waiting).bind
    rintro _ later rfl
    exact .ended (.done _) ⟨_, rfl, rfl⟩
  | cons line noise inductionHypothesis =>
    rw [List.cons_append, onWire_cons] at waiting
    apply (awaitLine_skips (each line (by simp)) (skipped line List.mem_cons_self) waiting).bind
    rintro _ later ⟨rfl, left⟩
    apply Settles.unroll
    exact inductionHypothesis (fun other member => each other (List.mem_cons_of_mem _ member))
      (fun other member => skipped other (List.mem_cons_of_mem _ member)) left

variable {line : Text}
variable (accepted : validateCallsignWithAllowlist casing (Text.trim line) config.allowedCallsigns =
  some callsign)
include accepted

/-- The callsign that comes first is accepted. -/
theorem awaitCallsign_settles (one : OneLine line) {now : Moment}
    (waiting : Waiting deadline spare (Utf8.encode line ++ lineFeed :: rest) now.world.reader) :
    Settles exec (Smooth slack) (fun result later => ∃ value, result = .ok value ∧
      value = some callsign ∧ Waiting deadline spare rest later.world.reader)
      (awaitCallsign casing config deadline).run now := by
  have read : Settles exec (Smooth slack) (fun result later => ∃ value, result = .ok value ∧
      value = some (line ++ ['\n']) ∧ Waiting deadline spare rest later.world.reader)
      (readLine deadline).run now :=
    (askLine_settles one waiting).mono fun result later ⟨same, left⟩ => ⟨_, same, rfl, left⟩
  apply settles_attempt read
  rintro _ later ⟨rfl, left⟩
  show Settles _ _ _ (checkCallsign casing config (line ++ ['\n'])).run later
  unfold checkCallsign
  rw [Text.trim_concat _ _ (by decide), accepted]
  exact .ended (.done _) ⟨_, rfl, rfl, left⟩

/-- The handshake ends with a session. -/
theorem authenticate_settles (noise : List Text)
    (each : ∀ other ∈ line :: (noise ++ [agree]), OneLine other)
    (skipped : ∀ line ∈ noise, Skipped casing callsign (line ++ ['\n']))
    (answer : ¬ Skipped casing callsign (agree ++ ['\n']))
    (agrees : casing.toUppercase (Text.trim agree) = agreeWord) {r : Reader}
    (prompt : Prompt slack r)
    (sent : r.pending = onWire (line :: (noise ++ [agree])) ++ rest) :
    Settles exec (Smooth slack) (fun result _ => ∃ value, result = .ok value ∧
      ∃ session : Session, value = some session ∧ session.callsign = callsign)
      (authenticate casing config).run (Moment.opening r) := by
  rw [onWire_cons] at sent
  apply settles_attempt (writeText_settles callsignPrompt)
  rintro _ first ⟨_, _, opened⟩
  apply settles_attempt (settles_lift clock_settles)
  rintro _ second ⟨rfl, sameWorld⟩
  have waiting : Waiting (first.world.reader.now + preAuthTimeout) slack
      (Utf8.encode line ++ lineFeed :: (onWire (noise ++ [agree]) ++ rest)) second.world.reader := by
    obtain ⟨steady, early⟩ := prompt
    rw [sameWorld, opened]
    refine ⟨sent, steady, ?_⟩
    simp only [Reader.horizon, World.elapse, Moment.opening]
    omega
  apply settles_attempt (awaitCallsign_settles accepted (each line (by simp)) waiting)
  rintro _ third ⟨rfl, left⟩
  apply settles_attempt (settles_lift (newSession_settles callsign))
  rintro session fourth ⟨named, same⟩
  apply settles_attempt (writeText_settles termsPrompt)
  rintro _ fifth ⟨elapsed, within, written⟩
  have ready : Waiting (first.world.reader.now + preAuthTimeout) 0
      (onWire (noise ++ [agree]) ++ rest) fifth.world.reader := by
    rw [written, same]
    exact left.elapse within
  apply settles_attempt (awaitInput_settles noise (fun other member => each other (by simp_all))
    skipped answer ready)
  rintro _ sixth rfl
  show Settles _ _ _ (checkAgreement casing session (agree ++ ['\n'])).run sixth
  unfold checkAgreement
  rw [Text.trim_concat _ _ (by decide), if_neg (not_not.mpr agrees)]
  apply settles_lift
  apply (acknowledge_settles session).bind
  intro agreed last same
  exact .ended (.done _) ⟨agreed, rfl, same.trans named⟩

/-- Under the same conditions the session goes on to the log entry of an agreement. -/
theorem agreement_inevitable (noise : List Text)
    (each : ∀ other ∈ line :: (noise ++ [agree]), OneLine other)
    (skipped : ∀ line ∈ noise, Skipped casing callsign (line ++ ['\n']))
    (answer : ¬ Skipped casing callsign (agree ++ ['\n']))
    (agrees : casing.toUppercase (Text.trim agree) = agreeWord) {r : Reader}
    (prompt : Prompt slack r)
    (sent : r.pending = onWire (line :: (noise ++ [agree])) ++ rest) :
    Inevitable exec (Smooth slack) (· = .log (agreedEntry callsign))
      (handleConnection casing sha256 config).run (Moment.opening r) := by
  unfold handleConnection
  rw [run_attempt]
  apply (authenticate_settles accepted noise each skipped answer agrees prompt sent).inevitable
  rintro _ later ⟨_, rfl, session, rfl, named⟩
  exact .here (.here _ _) (by rw [named])

end Handshake

section Copies

variable (casing : Text.Casing) (sha256 : Bytes → Bytes) (config : Config) (line callsign : Text)

/-- A copy of the line is classified as one; and whatever mix of copies and notices
stands between the line and the operator's AGREE, a session whose writes succeed comes to
log the agreement. -/
def Tolerated : Prop :=
  classifyPreauthLine casing (line ++ ['\n']) callsign = .duplicateCallsign ∧
    ∀ (noise : List Text) (agree : Text) (rest : Bytes) (slack : Nat) (r : Reader),
      (∀ other ∈ noise, other = line ∨ noticeMark <+: other) →
      (∀ other ∈ line :: (noise ++ [agree]), OneLine other) →
      casing.toUppercase (Text.trim agree) = agreeWord → Prompt slack r →
      r.pending = onWire (line :: (noise ++ [agree])) ++ rest →
      Inevitable exec (Smooth slack) (· = .log (agreedEntry callsign))
        (handleConnection casing sha256 config).run (Moment.opening r)

variable {casing} {sha256} {config} {line} {callsign}

/-- A line is its own base exactly if it has no dash. -/
theorem toUppercase_base_iff (text : Text) :
    casing.toUppercase text = casing.toUppercase (baseCallsign text) ↔ '-' ∉ text := by
  constructor
  · intro same member
    obtain ⟨front, back, rfl, absent⟩ := List.eq_append_cons_of_mem member
    have base : baseCallsign (front ++ '-' :: back) = front := by
      unfold baseCallsign
      rw [List.takeWhile_append_of_pos]
      · simp
      · intro c inside
        apply bne_iff_ne.mpr
        rintro rfl
        exact absent inside
    have dash : casing.upper '-' = ['-'] := by
      rw [casing.ascii '-' (by decide)]
      rfl
    have lengths := congrArg List.length same
    rw [base] at lengths
    simp only [Text.Casing.toUppercase, List.flatMap_append, List.flatMap_cons, dash,
      List.length_append, List.length_singleton] at lengths
    omega
  · intro absent
    have base : baseCallsign text = text := by
      apply List.takeWhile_eq_self_iff.mpr
      intro c inside
      apply bne_iff_ne.mpr
      rintro rfl
      exact absent inside
    rw [base]

/-- What an accepted callsign is. -/
theorem accepted_base {text : Text} {allowlist : List Text}
    (accepted : validateCallsignWithAllowlist casing text allowlist = some callsign) :
    callsign = casing.toUppercase (baseCallsign text) := by
  unfold validateCallsignWithAllowlist at accepted
  dsimp only at accepted
  split at accepted
  · exact (Option.some.inj accepted).symm
  · split at accepted
    · exact (Option.some.inj accepted).symm
    · exact absurd accepted (by simp)

/-- A line is a second copy exactly if it is the callsign, in any letters. -/
theorem duplicate_iff {text : Text} :
    classifyPreauthLine casing text callsign = .duplicateCallsign ↔
      casing.toUppercase (Text.trim text) = callsign := by
  unfold classifyPreauthLine
  dsimp only
  split
  · simp_all
  · split <;> simp_all

/-- A line that begins as a notice is one. -/
theorem notice_skipped {text : Text} (notice : noticeMark <+: text) :
    Skipped casing callsign (text ++ ['\n']) := by
  right
  obtain ⟨rest, rfl⟩ := notice
  rw [List.append_assoc]
  obtain ⟨more, trimmed⟩ := Text.trim_visible noticeMark (rest ++ ['\n'])
    (List.all_iff_forall_prop.mp (by decide))
  have upper : casing.toUppercase noticeMark = noticeMark := by
    simp only [Text.Casing.toUppercase, noticeMark, List.flatMap_cons, List.flatMap_nil,
      casing.ascii '*' (by decide)]
    rfl
  rw [← trimmed, Text.Casing.toUppercase, List.flatMap_append, ← Text.Casing.toUppercase, upper]
  exact List.prefix_append _ _

/-- The accepted callsign is not the word AGREE, or the operator's answer is skipped. -/
theorem answer_iff {agree : Text} (agrees : casing.toUppercase (Text.trim agree) = agreeWord) :
    ¬ Skipped casing callsign (agree ++ ['\n']) ↔ callsign ≠ agreeWord := by
  unfold Skipped
  rw [Text.trim_concat _ _ (by decide), agrees]
  have noNotice : ¬ noticeMark <+: agreeWord := by decide
  simp only [noNotice, or_false]
  exact not_congr eq_comm

/-- A session that comes to log an agreement has admitted lines at the beginning of its
input. -/
theorem admitted_of_inevitable {slack : Nat} {r : Reader}
    (inevitable : Inevitable exec (Smooth slack) (· = .log (agreedEntry callsign))
      (handleConnection casing sha256 config).run (Moment.opening r)) :
    ∃ lines rest, Admitted casing config.allowedCallsigns lines ∧ Begins lines r.pending rest := by
  obtain ⟨now, left, _, next, leads, performs, rfl⟩ := inevitable.reached
  have free : Leads exec (fun _ _ => True) _ _ now left := leads.mono fun _ _ _ => trivial
  let logged : Answer (.log (agreedEntry callsign)) := ⟨.ok (), 0⟩
  have occurs : Occurs exec now ⟨(), .log (agreedEntry callsign), logged⟩ _ := occurs_of rfl
  have further := free.step performs occurs trivial
  obtain ⟨guarded, _⟩ := session_guarded casing sha256 config r further
  rcases guarded with plain | ⟨admitted, rest, begins⟩
  · exact absurd plain (by simp [Op.preAuth])
  · exact ⟨_, rest, admitted, begins⟩

/-- The word of consent fits in a line. -/
theorem oneLine_agreeWord (one : OneLine line) : ∀ other ∈ [line, agreeWord], OneLine other := by
  intro other member
  rcases List.mem_cons.mp member with rfl | word
  · exact one
  · rw [List.mem_singleton.mp word]
    exact ⟨by decide, by decide⟩

/-- Where the callsign itself is the word, the operator's answer is taken for a copy. -/
theorem word_skipped
    (accepted : validateCallsignWithAllowlist casing (Text.trim line) config.allowedCallsigns =
      some agreeWord) (one : OneLine line)
    (begins : ∃ lines rest, Admitted casing config.allowedCallsigns lines ∧
      Begins lines (onWire [line, agreeWord]) rest) : False := by
  obtain ⟨lines, rest, admitted, begins⟩ := begins
  have read := begins_onWire (oneLine_agreeWord one) begins
  cases admitted with
  | @agreed first last callsign noise accepted' skipped agrees answer =>
    obtain ⟨rfl, tail⟩ := List.cons_prefix_cons.mp read
    have short := tail.length_le
    simp only [List.length_append, List.length_map, List.length_cons, List.length_nil] at short
    obtain rfl := List.length_eq_zero_iff.mp (show noise.length = 0 by omega)
    obtain ⟨rfl, _⟩ := List.cons_prefix_cons.mp tail
    rw [Text.trim_concat _ _ (by decide), accepted] at accepted'
    obtain rfl := Option.some.inj accepted'
    exact answer (Or.inl agrees)

/-- The word of consent is in upper case. -/
theorem toUppercase_agreeWord : casing.toUppercase (Text.trim agreeWord) = agreeWord := by
  have trimmed : Text.trim agreeWord = agreeWord := by decide
  rw [trimmed]
  simp only [Text.Casing.toUppercase, agreeWord, List.flatMap_cons, List.flatMap_nil,
    casing.ascii 'A' (by decide), casing.ascii 'G' (by decide), casing.ascii 'R' (by decide),
    casing.ascii 'E' (by decide)]
  rfl

variable (casing) (sha256) (config) (line) (callsign)

/-- All copies of an accepted callsign line are tolerated if and only if the line has no
SSID, and the callsign is not itself the word the operator answers with.

A copy is a duplicate exactly if it has no SSID. A copy of the word that agrees is skipped like
any other duplicate, so the agreement is never noticed; otherwise each copy and each notice is
skipped, and the answer is inevitable. -/
theorem duplicates_tolerated_iff
    (accepted : validateCallsignWithAllowlist casing (Text.trim line) config.allowedCallsigns =
      some callsign) (one : OneLine line) :
    Tolerated casing sha256 config line callsign ↔ '-' ∉ Text.trim line ∧ callsign ≠ agreeWord := by
  have base := accepted_base accepted
  have classified : classifyPreauthLine casing (line ++ ['\n']) callsign = .duplicateCallsign ↔
      '-' ∉ Text.trim line := by
    rw [duplicate_iff, Text.trim_concat _ _ (by decide), base]
    exact toUppercase_base_iff _
  constructor
  · rintro ⟨duplicate, every⟩
    refine ⟨classified.mp duplicate, ?_⟩
    rintro rfl
    let r : Reader := ⟨onWire [line, agreeWord], [⟨0, .closed⟩], 0⟩
    have early : delays [⟨0, .closed⟩] + 0 < preAuthTimeout := by decide
    have inevitable := every [] agreeWord [] 0 r (by simp) (oneLine_agreeWord one)
      toUppercase_agreeWord ⟨rfl, early⟩ rfl
    have sent : r.pending = onWire [line, agreeWord] := List.append_nil _
    have admitted := admitted_of_inevitable inevitable
    rw [sent] at admitted
    exact word_skipped accepted one admitted
  · rintro ⟨noDash, notWord⟩
    refine ⟨classified.mpr noDash, ?_⟩
    intro noise agree rest slack r mixed each agrees prompt sent
    apply agreement_inevitable accepted noise each _ ((answer_iff agrees).mpr notWord) agrees prompt sent
    intro other member
    rcases mixed other member with rfl | notice
    · exact Or.inl (duplicate_iff.mp (classified.mpr noDash))
    · exact notice_skipped notice

/-- A line without an SSID. -/
theorem duplicates_tolerated_iff_sample :
    Tolerated .onlyAscii id sampleConfig " n0call\r".toList "N0CALL".toList ↔
      '-' ∉ Text.trim " n0call\r".toList ∧ "N0CALL".toList ≠ agreeWord :=
  duplicates_tolerated_iff .onlyAscii id sampleConfig _ _ (by decide)
    ⟨by decide, by decide⟩

/-- A copy of a line with an SSID is taken for the operator's answer. -/
theorem duplicate_refused : ¬ ∀ (casing : Text.Casing) (sha256 : Bytes → Bytes) (config : Config)
    (line callsign : Text),
    validateCallsignWithAllowlist casing (Text.trim line) config.allowedCallsigns = some callsign →
    OneLine line → Tolerated casing sha256 config line callsign := by
  intro every
  obtain ⟨duplicate, _⟩ := every .onlyAscii id sampleConfig "N0CALL-5".toList "N0CALL".toList
    (by decide) ⟨by decide, by decide⟩
  exact absurd duplicate (by decide)

end Copies

end PacketBrowser.Server
