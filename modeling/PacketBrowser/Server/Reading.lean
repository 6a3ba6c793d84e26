import PacketBrowser.Foundation.Reader
import PacketBrowser.Protocol.Message

/-!
# Reading lines and bodies from a connection

The server polls its socket and looks at the clock whenever the socket wakes it up, so
only the deadline ends a wait. A line is kept below a maximal length; a body is read
to the announced length. Both readers return in every case, and `LineRead` and
`ExactRead` say with what. A line is read in turns, and `Turning` says what one turn can do.

Silence ends at the deadline: the wakeups until then are not listed as arrivals.
-/

namespace PacketBrowser.Server

open Foundation Protocol

/-- The kinds of errors that the session tells apart. -/
inductive IoErrorKind where
  | timedOut
  | invalidData
  | unexpectedEof
  | other
  deriving DecidableEq, Repr

/-- An error of the operating system. -/
structure IoError where
  kind : IoErrorKind
  message : Text
  deriving DecidableEq, Repr

/-- The longest line, in bytes. -/
def maxLineLength : Nat := 1024

/-- The longest body, in bytes. -/
def maxBodySize : Nat := 1024 * 1024

/-- A line is kept with its line feed. -/
def lineCap : Nat := maxLineLength + 1

/-- The error about a line that has not come in time. -/
def idleDeadline : IoError := ⟨.timedOut, "Idle deadline exceeded".toList⟩

/-- The error about a body that has not come in time. -/
def bodyDeadline : IoError := ⟨.timedOut, "Body read deadline exceeded".toList⟩

/-- The error about a line that is too long. -/
def lineTooLong : IoError := ⟨.invalidData, "Line exceeded maximum length".toList⟩

/-- The error about a line that breaks off. -/
def eofMidLine : IoError := ⟨.unexpectedEof, "EOF mid-line".toList⟩

/-- The error about a body that breaks off. -/
def shortBody : IoError := ⟨.unexpectedEof, "Short body".toList⟩

/-- A complete line has to be UTF-8. -/
def lineText (buf : Bytes) : Except IoError (Option Text) :=
  match Utf8.decode buf with
  | some line => .ok (some line)
  | none => .error ⟨.invalidData, "Invalid UTF-8 in line".toList⟩

/-- The rounds of `readBoundedLineUntil`; they never run out. -/
def lineRounds (deadline : Nat) : Nat → Bytes → Reader → Except IoError (Option Text) × Reader
  | 0, _, r => (.error idleDeadline, r)
  | rounds + 1, buf, r =>
    if r.now ≥ deadline then (.error idleDeadline, r)
    else if lineCap - buf.length = 0 then (.error lineTooLong, r)
    else match r.readUntil lineFeed (lineCap - buf.length) buf with
      | (.ok read, buf, r) =>
        if read = 0 then
          if buf = [] then (.ok none, r) else (.error eofMidLine, r)
        else if buf.getLast? = some lineFeed then (lineText buf, r)
        else if buf.length ≥ lineCap then (.error lineTooLong, r)
        else lineRounds deadline rounds buf r
      | (.error .wakeup, buf, r) =>
        if buf.getLast? = some lineFeed then (lineText buf, r)
        else lineRounds deadline rounds buf r
      | (.error (.failed message), _, r) => (.error ⟨.other, message⟩, r)
      | (.error .silence, _, r) => (.error idleDeadline, { r with now := max r.now deadline })

/-- One line of bounded length, or none at the end of the input. -/
def readBoundedLineUntil (deadline : Nat) (r : Reader) : Except IoError (Option Text) × Reader :=
  lineRounds deadline (r.incoming.length + 2) [] r

/-- The rounds of `readExactUntil`; they never run out. -/
def exactRounds (deadline need : Nat) : Nat → Bytes → Reader → Except IoError Bytes × Reader
  | 0, _, r => (.error bodyDeadline, r)
  | rounds + 1, filled, r =>
    if filled.length ≥ need then (.ok filled, r)
    else if r.now ≥ deadline then (.error bodyDeadline, r)
    else match r.read (need - filled.length) with
      | (.ok bytes, r) =>
        if bytes = [] then (.error shortBody, r)
        else exactRounds deadline need rounds (filled ++ bytes) r
      | (.error .wakeup, r) => exactRounds deadline need rounds filled r
      | (.error (.failed message), r) => (.error ⟨.other, message⟩, r)
      | (.error .silence, r) => (.error bodyDeadline, { r with now := max r.now deadline })

/-- Exactly as many bytes as needed. -/
def readExactUntil (deadline need : Nat) (r : Reader) : Except IoError Bytes × Reader :=
  exactRounds deadline need (r.steps + 2) [] r

/-- What reading a line from these bytes ends with. -/
inductive LineRead (deadline : Nat) (whole : Bytes) (r : Reader) :
    Except IoError (Option Text) → Reader → Prop
  | line (line : Bytes) (later : Reader) (fresh : lineFeed ∉ line)
      (fits : line.length ≤ maxLineLength) (kept : line ++ lineFeed :: later.pending = whole)
      (follows : r.Later later) : LineRead deadline whole r (lineText (line ++ [lineFeed])) later
  | tooLong (later : Reader) (fresh : lineFeed ∉ whole.take lineCap)
      (long : lineCap ≤ whole.length) : LineRead deadline whole r (.error lineTooLong) later
  | ended (later : Reader) (empty : whole = []) (closes : r.closes = true) :
      LineRead deadline whole r (.ok none) later
  | cut (later : Reader) (fresh : lineFeed ∉ whole) (short : whole.length < lineCap)
      (nonempty : whole ≠ []) (closes : r.closes = true) :
      LineRead deadline whole r (.error eofMidLine) later
  | expired (later : Reader) (late : deadline ≤ r.horizon) :
      LineRead deadline whole r (.error idleDeadline) later
  | silent (later : Reader) (fresh : lineFeed ∉ whole) (short : whole.length < lineCap)
      (open' : r.closes = false) : LineRead deadline whole r (.error idleDeadline) later
  | broken (later : Reader) (message : Text) (unsteady : r.steady = false) :
      LineRead deadline whole r (.error ⟨.other, message⟩) later

/-- What reading exactly so many of these bytes ends with. -/
inductive ExactRead (deadline need : Nat) (whole : Bytes) (r : Reader) :
    Except IoError Bytes → Reader → Prop
  | filled (body : Bytes) (later : Reader) (length : body.length = need)
      (kept : body ++ later.pending = whole) (follows : r.Later later) :
      ExactRead deadline need whole r (.ok body) later
  | short (later : Reader) (short : whole.length < need) (closes : r.closes = true) :
      ExactRead deadline need whole r (.error shortBody) later
  | expired (later : Reader) (late : deadline ≤ r.horizon) :
      ExactRead deadline need whole r (.error bodyDeadline) later
  | silent (later : Reader) (short : whole.length < need) (open' : r.closes = false) :
      ExactRead deadline need whole r (.error bodyDeadline) later
  | broken (later : Reader) (message : Text) (unsteady : r.steady = false) :
      ExactRead deadline need whole r (.error ⟨.other, message⟩) later

/-- One turn of `lineRounds`: a result, or what the next turn starts with. -/
def lineTurn (deadline : Nat) (buf : Bytes) (r : Reader) :
    (Except IoError (Option Text) × Reader) ⊕ (Bytes × Reader) :=
  if r.now ≥ deadline then .inl (.error idleDeadline, r)
  else if lineCap - buf.length = 0 then .inl (.error lineTooLong, r)
  else match r.readUntil lineFeed (lineCap - buf.length) buf with
    | (.ok read, buf, r) =>
      if read = 0 then
        if buf = [] then .inl (.ok none, r) else .inl (.error eofMidLine, r)
      else if buf.getLast? = some lineFeed then .inl (lineText buf, r)
      else if buf.length ≥ lineCap then .inl (.error lineTooLong, r)
      else .inr (buf, r)
    | (.error .wakeup, buf, r) =>
      if buf.getLast? = some lineFeed then .inl (lineText buf, r) else .inr (buf, r)
    | (.error (.failed message), _, r) => .inl (.error ⟨.other, message⟩, r)
    | (.error .silence, _, r) =>
      .inl (.error idleDeadline, { r with now := max r.now deadline })

/-- How many turns may still go on. -/
def turns (r : Reader) : Nat := r.incoming.length + if r.pending = [] then 0 else 1

/-- A turn is woken up. -/
def Woken (buf : Bytes) (r : Reader) : Prop :=
  ∃ left, r.readUntil lineFeed (lineCap - buf.length) buf = (.error .wakeup, left)

/-- What a turn can do. -/
inductive Turning (deadline : Nat) (buf : Bytes) (r : Reader) :
    (Except IoError (Option Text) × Reader) ⊕ (Bytes × Reader) → Prop
  | late (passed : deadline ≤ r.now) : Turning deadline buf r (.inl (.error idleDeadline, r))
  | line (line : Bytes) (later : Reader) (fresh : lineFeed ∉ line)
      (fits : buf.length + line.length ≤ maxLineLength)
      (kept : r.pending = line ++ lineFeed :: later.pending) (follows : r.Later later) :
      Turning deadline buf r (.inl (lineText (buf ++ line ++ [lineFeed]), later))
  | tooLong (taken : Bytes) (later : Reader) (fresh : lineFeed ∉ taken)
      (fits : buf.length + taken.length = lineCap) (kept : r.pending = taken ++ later.pending)
      (follows : r.Later later) : Turning deadline buf r (.inl (.error lineTooLong, later))
  | ended (later : Reader) (empty : r.pending = []) (left : later.pending = [])
      (closes : r.closes = true) (follows : r.Later later) :
      Turning deadline buf r (.inl (if buf = [] then .ok none else .error eofMidLine, later))
  | more (taken : Bytes) (later : Reader) (fresh : lineFeed ∉ taken)
      (fits : buf.length + taken.length < lineCap) (kept : r.pending = taken ++ later.pending)
      (follows : r.Later later) (fewer : turns later < turns r)
      (grows : ¬ Woken buf r → taken ≠ []) :
      Turning deadline buf r (.inr (buf ++ taken, later))
  | broken (message : Text) (later : Reader) (unsteady : r.steady = false) :
      Turning deadline buf r (.inl (.error ⟨.other, message⟩, later))
  | silent (later : Reader) (fresh : lineFeed ∉ r.pending)
      (fits : buf.length + r.pending.length < lineCap) (left : later.pending = [])
      (open' : r.closes = false) : Turning deadline buf r (.inl (.error idleDeadline, later))

section Lines

variable {deadline : Nat} {whole : Bytes} {r next later : Reader}

/-- Reading on after some arrivals. -/
theorem LineRead.earlier {outcome : Except IoError (Option Text)} (follows : r.Later next)
    (read : LineRead deadline whole next outcome later) :
    LineRead deadline whole r outcome later := by
  cases read with
  | line line later fresh fits kept further =>
    exact .line line later fresh fits kept (follows.trans further)
  | tooLong later fresh long => exact .tooLong later fresh long
  | ended later empty closes => exact .ended later empty (follows.closes ▸ closes)
  | cut later fresh short nonempty closes =>
    exact .cut later fresh short nonempty (follows.closes ▸ closes)
  | expired later late => exact .expired later (follows.horizon ▸ late)
  | silent later fresh short open' => exact .silent later fresh short (follows.closes ▸ open')
  | broken later message unsteady =>
    refine .broken later message (Bool.eq_false_iff.mpr fun steady => ?_)
    exact absurd (follows.steady steady) (by simp [unsteady])

/-- Everything comes now or later. -/
theorem now_le_horizon (r : Reader) : r.now ≤ r.horizon := Nat.le_add_right _ _

/-- A delimiter that is not there is not the last byte. -/
theorem not_last {delimiter : UInt8} {bytes : Bytes} (fresh : delimiter ∉ bytes) :
    bytes.getLast? ≠ some delimiter := fun last => fresh (List.mem_of_getLast? last)

/-- The rounds of a line, turn by turn. -/
theorem lineRounds_turn (rounds : Nat) (buf : Bytes) (r : Reader) :
    lineRounds deadline (rounds + 1) buf r =
      (lineTurn deadline buf r).elim id fun next => lineRounds deadline rounds next.1 next.2 := by
  rw [lineRounds]
  unfold lineTurn
  split
  · rfl
  split
  · rfl
  obtain ⟨outcome, appended, later⟩ := r.readUntil lineFeed (lineCap - buf.length) buf
  cases outcome with
  | ok read =>
    dsimp only
    split
    · split <;> rfl
    split
    · rfl
    split <;> rfl
  | error trouble =>
    cases trouble with
    | wakeup =>
      dsimp only
      split <;> rfl
    | failed message => rfl
    | silence => rfl

/-- What every turn does with a buffer that holds no line yet. -/
theorem lineTurn_turning (deadline : Nat) {buf : Bytes} {r : Reader} (fresh : lineFeed ∉ buf)
    (short : buf.length < lineCap) : Turning deadline buf r (lineTurn deadline buf r) := by
  unfold lineTurn
  split
  · rename_i passed
    exact .late passed
  have room : lineCap - buf.length ≠ 0 := by omega
  have absent : ∀ {bytes : Bytes}, lineFeed ∉ bytes → lineFeed ∉ buf ++ bytes :=
    fun new member => (List.mem_append.mp member).elim fresh new
  rw [if_neg room]
  obtain ⟨outcome, taken, later, reads, scanned⟩ :=
    r.readUntil_scanned lineFeed (lineCap - buf.length) buf
  rw [reads]
  cases scanned with
  | found line later new fits kept follows =>
    have last : (buf ++ (line ++ [lineFeed])).getLast? = some lineFeed := by simp
    simp only [Nat.succ_ne_zero, if_false, last, if_true]
    rw [← List.append_assoc]
    apply Turning.line line later new
    · simp only [lineCap] at fits
      omega
    · exact kept.symm
    · exact follows
  | full taken later new fits kept follows =>
    have length : (buf ++ taken).length = lineCap := by
      rw [List.length_append, fits]
      omega
    simp only [room, if_false, not_last (absent new), length, ge_iff_le, Nat.le_refl, if_true]
    exact .tooLong taken later new (by omega) kept.symm follows
  | ended taken later new fits kept follows finished empty =>
    obtain ⟨rest, finished⟩ := finished
    have closes : r.closes = true := by
      rw [← follows.closes]
      simp [Reader.closes, closing, finished]
    have left : later.pending = [] := by simp [Reader.pending, arriving, finished, empty]
    by_cases nothing : taken = []
    · subst nothing
      have verdict : Turning deadline buf r
        (.inl (if buf = [] then .ok none else .error eofMidLine, later)) :=
        .ended later kept.symm left closes follows
      simp only [List.length_nil, if_true, List.append_nil]
      split
      · rename_i none
        rwa [if_pos none] at verdict
      · rename_i some
        rwa [if_neg some] at verdict
    · have some : taken.length ≠ 0 := by simpa using nothing
      have length : (buf ++ taken).length < lineCap := by
        rw [List.length_append]
        omega
      simp only [some, if_false, not_last (absent new), ge_iff_le, Nat.not_le.mpr length]
      apply Turning.more taken later new (by rwa [List.length_append] at length)
      · rw [left, List.append_nil, kept]
      · exact follows
      · have fewer := follows.fewer
        simp only [turns, left, ← kept, nothing, if_true, if_false]
        omega
      · exact fun _ => nothing
  | woken taken later new fits kept follows fewer =>
    simp only [not_last (absent new), if_false]
    apply Turning.more taken later new (by omega) kept.symm follows
    · have less : later.pending ≠ [] → r.pending ≠ [] := by
        rw [← kept]
        simp +contextual
      unfold turns
      split
      · omega
      · rename_i some
        rw [if_neg (less some)]
        omega
    · exact fun awake => absurd ⟨_, reads⟩ awake
  | broken taken later message new kept unsteady => exact .broken message later unsteady
  | silent taken later new fits kept open' follows empty =>
    refine .silent _ (kept ▸ new) ?_ empty open'
    rw [← kept]
    omega

/-- The verdict on what has been read and what is to come. The induction is on the
rounds; a turn that goes on uses up an arrival or the rest of what has arrived. -/
theorem lineRounds_read (rounds : Nat) (buf : Bytes) (fresh : lineFeed ∉ buf)
    (short : buf.length < lineCap) (enough : turns r < rounds) :
    LineRead deadline (buf ++ r.pending) r (lineRounds deadline rounds buf r).1
      (lineRounds deadline rounds buf r).2 := by
  induction rounds generalizing buf r with
  | zero => exact absurd enough (Nat.not_lt_zero _)
  | succ rounds inductionHypothesis =>
    rw [lineRounds_turn]
    have absent : ∀ {bytes : Bytes}, lineFeed ∉ bytes → lineFeed ∉ buf ++ bytes :=
      fun new member => (List.mem_append.mp member).elim fresh new
    have turning := lineTurn_turning deadline (r := r) fresh short
    generalize lineTurn deadline buf r = result at turning
    cases turning with
    | late passed => exact .expired r (Nat.le_trans passed (now_le_horizon r))
    | line line later new fits kept follows =>
      apply LineRead.line (buf ++ line) later (absent new)
      · rwa [List.length_append]
      · rw [kept, List.append_assoc]
      · exact follows
    | tooLong taken later new fits kept follows =>
      have length : (buf ++ taken).length = lineCap := by rwa [List.length_append]
      rw [kept, ← List.append_assoc]
      apply LineRead.tooLong later
      · rw [← length, List.take_left]
        exact absent new
      · rw [List.length_append, length]
        exact Nat.le_add_right _ _
    | ended later empty left closes follows =>
      rw [empty, List.append_nil]
      simp only [Sum.elim_inl, id_eq]
      split
      · rename_i none
        exact .ended later none closes
      · rename_i some
        exact .cut later fresh short some closes
    | more taken later new fits kept follows fewer grows =>
      rw [kept, ← List.append_assoc]
      have length : (buf ++ taken).length < lineCap := by rwa [List.length_append]
      exact (inductionHypothesis (buf ++ taken) (absent new) length (by omega)).earlier follows
    | broken message later unsteady => exact .broken later message unsteady
    | silent later new fits left open' =>
      exact .silent later (absent new) (by rwa [List.length_append]) open'

/-- The rounds of a line never run out. -/
theorem turns_enough (r : Reader) : turns r < r.incoming.length + 2 := by
  unfold turns
  split <;> omega

/-- Reading a line, whatever the arrivals. -/
theorem readBoundedLineUntil_read (deadline : Nat) (r : Reader) :
    LineRead deadline r.pending r (readBoundedLineUntil deadline r).1
      (readBoundedLineUntil deadline r).2 :=
  lineRounds_read _ [] List.not_mem_nil (by decide) (turns_enough r)

end Lines

section Bodies

variable {deadline need : Nat} {whole : Bytes} {r next later : Reader}

/-- A body that is read from a later reader is read from the earlier one. -/
theorem ExactRead.earlier {outcome : Except IoError Bytes} (follows : r.Later next)
    (read : ExactRead deadline need whole next outcome later) :
    ExactRead deadline need whole r outcome later := by
  cases read with
  | filled body later length kept further =>
    exact .filled body later length kept (follows.trans further)
  | short later short closes => exact .short later short (follows.closes ▸ closes)
  | expired later late => exact .expired later (follows.horizon ▸ late)
  | silent later short open' => exact .silent later short (follows.closes ▸ open')
  | broken later message unsteady =>
    refine .broken later message (Bool.eq_false_iff.mpr fun steady => ?_)
    exact absurd (follows.steady steady) (by simp [unsteady])

/-- The induction is on the rounds; each one uses up the buffer or an arrival, unless
it is the last. -/
theorem exactRounds_read (rounds : Nat) (filled : Bytes) (fits : filled.length ≤ need)
    (enough : filled.length < need → r.steps + 2 ≤ rounds) (positive : 0 < rounds) :
    ExactRead deadline need (filled ++ r.pending) r (exactRounds deadline need rounds filled r).1
      (exactRounds deadline need rounds filled r).2 := by
  induction rounds generalizing filled r with
  | zero => exact absurd positive (Nat.lt_irrefl 0)
  | succ rounds inductionHypothesis =>
    unfold exactRounds
    split
    · rename_i full
      exact .filled filled r (Nat.le_antisymm fits full) rfl (.refl r)
    · rename_i missing
      have steps := enough (by omega)
      split
      · rename_i late
        exact .expired r (Nat.le_trans late (now_le_horizon r))
      · have took := r.read_took (need - filled.length) (by omega)
        generalize r.read (need - filled.length) = result at took
        obtain ⟨outcome, later⟩ := result
        cases took with
        | some taken later nonempty small kept follows fewer =>
          simp only [nonempty, if_false]
          rw [← kept, ← List.append_assoc]
          refine (inductionHypothesis (filled ++ taken) ?_ ?_ (by omega)).earlier follows
          · rw [List.length_append]
            omega
          · intro still
            rw [List.length_append] at still
            have used := fewer (by omega)
            omega
        | finished later kept empty follows closes =>
          simp only [if_true]
          refine .short later ?_ closes
          rw [empty, List.append_nil]
          omega
        | woken later kept follows fewer =>
          simp only
          rw [← kept]
          exact (inductionHypothesis filled fits (fun _ => by omega) (by omega)).earlier follows
        | broken later message kept unsteady => exact .broken later message unsteady
        | silent empty open' =>
          refine .silent _ ?_ open'
          rw [empty, List.append_nil]
          omega

/-- Reading a body, whatever the arrivals. -/
theorem readExactUntil_read (deadline need : Nat) (r : Reader) :
    ExactRead deadline need r.pending r (readExactUntil deadline need r).1
      (readExactUntil deadline need r).2 :=
  exactRounds_read _ [] (Nat.zero_le _) (fun _ => Nat.le_refl _) (Nat.succ_pos _)

end Bodies

end PacketBrowser.Server
