import PacketBrowser.Foundation.Search
import PacketBrowser.Server.Reading

/-!
# Lines from arbitrary input

A line is read in turns. Each turn takes what a delimited read gives, and the next one goes
on where it stopped, so a line may come in any pieces with wakeups between them. `LineEnd`
says what the bytes themselves make of a line: it does not mention pieces, wakeups or
turns, and it leaves no choice. If no read fails and everything arrives before the deadline,
the reader does just that.
-/

namespace PacketBrowser.Server

open Foundation Protocol

section Turns

/-- The states in which a turn starts. -/
inductive Turned (deadline : Nat) (r : Reader) : Bytes → Reader → Prop
  | start : Turned deadline r [] r
  | turn {buf more : Bytes} {now later : Reader} (before : Turned deadline r buf now)
      (goesOn : lineTurn deadline buf now = .inr (more, later)) : Turned deadline r more later

variable {deadline : Nat}

/-- A turn that does not wait in silence is the same if more arrives behind. -/
theorem lineTurn_followed (late : List Delivery) {buf : Bytes} {r : Reader}
    (speaks : ∀ left, lineTurn deadline buf r ≠ .inl (.error idleDeadline, left)) :
    lineTurn deadline buf (r.followed late) =
      (lineTurn deadline buf r).map (fun result => (result.1, result.2.followed late))
        fun next => (next.1, next.2.followed late) := by
  unfold lineTurn at speaks ⊢
  have now : (r.followed late).now = r.now := rfl
  rw [now]
  split
  · rfl
  split
  · rfl
  rename_i early room
  rw [if_neg early, if_neg room] at speaks
  obtain ⟨outcome, appended, later, reads⟩ : ∃ outcome appended later,
    r.readUntil lineFeed (lineCap - buf.length) buf = (outcome, appended, later) := ⟨_, _, _, rfl⟩
  rw [reads] at speaks ⊢
  have heard : outcome ≠ .error .silence := by
    rintro rfl
    exact speaks _ rfl
  rw [Reader.readUntil_followed _ _ _ _ late reads heard]
  cases outcome with
  | ok read =>
    dsimp only
    split
    · split <;> rfl
    split
    · rfl
    split <;> rfl
  | error trouble =>
    cases trouble with
    | wakeup =>
      dsimp only
      split <;> rfl
    | failed message => rfl
    | silence => exact absurd rfl heard

/-- A line that ends before the silence is the same if more arrives behind, and in more
rounds. -/
theorem lineRounds_followed (late : List Delivery) (rounds more : Nat) (enough : rounds ≤ more)
    (buf : Bytes) (r : Reader)
    (speaks : (lineRounds deadline rounds buf r).1 ≠ .error idleDeadline) :
    lineRounds deadline more buf (r.followed late) =
      ((lineRounds deadline rounds buf r).1,
        (lineRounds deadline rounds buf r).2.followed late) := by
  induction rounds generalizing more buf r with
  | zero => exact absurd rfl speaks
  | succ rounds inductionHypothesis =>
    obtain ⟨more, rfl⟩ : ∃ fewer, more = fewer + 1 := ⟨more - 1, by omega⟩
    rw [lineRounds_turn] at speaks ⊢
    rw [lineRounds_turn rounds]
    have heard : ∀ left, lineTurn deadline buf r ≠ .inl (.error idleDeadline, left) := by
      intro left silent
      rw [silent] at speaks
      exact speaks rfl
    rw [lineTurn_followed late heard]
    cases turn : lineTurn deadline buf r with
    | inl result => rfl
    | inr next =>
      rw [turn] at speaks
      exact inductionHypothesis more (by omega) next.1 next.2 speaks

end Turns

section Ends

/-- What bytes make of a line: the verdict, and the bytes that are left. -/
inductive LineEnd (whole : Bytes) (closes : Bool) :
    Except IoError (Option Text) → Bytes → Prop
  | line (line rest : Bytes) (fresh : lineFeed ∉ line) (fits : line.length ≤ maxLineLength)
      (split : whole = line ++ lineFeed :: rest) :
      LineEnd whole closes (lineText (line ++ [lineFeed])) rest
  | tooLong (fresh : lineFeed ∉ whole.take lineCap) (long : lineCap ≤ whole.length) :
      LineEnd whole closes (.error lineTooLong) (whole.drop lineCap)
  | ended (empty : whole = []) (finished : closes = true) : LineEnd whole closes (.ok none) []
  | cut (fresh : lineFeed ∉ whole) (short : whole.length < lineCap) (nonempty : whole ≠ [])
      (finished : closes = true) : LineEnd whole closes (.error eofMidLine) []
  | silent (fresh : lineFeed ∉ whole) (short : whole.length < lineCap)
      (open' : closes = false) : LineEnd whole closes (.error idleDeadline) []

/-- Nothing more can change what these bytes make of a line. -/
def Over (whole : Bytes) (closes : Bool) : Prop :=
  closes = true ∨ lineFeed ∈ whole ∨ lineCap ≤ whole.length

variable {deadline : Nat} {whole : Bytes} {closes : Bool} {r : Reader}
variable {outcome : Except IoError (Option Text)} {left : Bytes}

/-- A line that fits has its line feed within the limit. -/
theorem lineFeed_mem_take {line rest : Bytes} (fits : line.length ≤ maxLineLength) :
    lineFeed ∈ (line ++ lineFeed :: rest).take lineCap := by
  rw [List.take_append, List.mem_append]
  right
  obtain ⟨room, enough⟩ : ∃ room, lineCap - line.length = room + 1 :=
    ⟨lineCap - line.length - 1, by simp only [lineCap]; omega⟩
  rw [enough, List.take_succ_cons]
  exact List.mem_cons_self

/-- A line that fits is read. -/
theorem LineEnd.of_line {line rest : Bytes} (verdict : LineEnd whole closes outcome left)
    (split : whole = line ++ lineFeed :: rest) (fresh : lineFeed ∉ line)
    (fits : line.length ≤ maxLineLength) :
    outcome = lineText (line ++ [lineFeed]) ∧ left = rest := by
  have member : lineFeed ∈ whole := by simp [split]
  cases verdict with
  | line line' left fresh' fits' split' =>
    obtain ⟨rfl, rfl⟩ := Search.split_unique fresh fresh' (split.symm.trans split')
    exact ⟨rfl, rfl⟩
  | tooLong absent long => exact absurd (split ▸ lineFeed_mem_take fits) absent
  | ended empty finished => exact absurd member (by simp [empty])
  | cut absent short nonempty finished => exact absurd member absent
  | silent absent short open' => exact absurd member absent

/-- A line that is too long is an error, and its front is gone. -/
theorem LineEnd.of_tooLong (verdict : LineEnd whole closes outcome left)
    (fresh : lineFeed ∉ whole.take lineCap) (long : lineCap ≤ whole.length) :
    outcome = .error lineTooLong ∧ left = whole.drop lineCap := by
  cases verdict with
  | line line left absent fits split => exact absurd (split ▸ lineFeed_mem_take fits) fresh
  | tooLong absent enough => exact ⟨rfl, rfl⟩
  | ended empty finished => exact absurd long (by simp [empty, lineCap])
  | cut absent short nonempty finished => exact absurd long (Nat.not_le.mpr short)
  | silent absent short open' => exact absurd long (Nat.not_le.mpr short)

/-- Where there is no whole line, the read ends with the connection or with the time. -/
theorem LineEnd.of_short (verdict : LineEnd whole closes outcome left) (fresh : lineFeed ∉ whole)
    (short : whole.length < lineCap) :
    (outcome = if closes then if whole = [] then .ok none else .error eofMidLine
      else .error idleDeadline) ∧ left = [] := by
  cases verdict with
  | line line left absent fits split => exact absurd (by simp [split]) fresh
  | tooLong absent long => exact absurd long (Nat.not_le.mpr short)
  | ended empty finished => simp [empty, finished]
  | cut absent within nonempty finished => simp [nonempty, finished]
  | silent absent within open' => simp [open']

/-- The bytes leave no choice. -/
theorem LineEnd.unique {other : Except IoError (Option Text)} {rest : Bytes}
    (one : LineEnd whole closes outcome left) (two : LineEnd whole closes other rest) :
    other = outcome ∧ rest = left := by
  cases one with
  | line line left fresh fits split => exact two.of_line split fresh fits
  | tooLong fresh long => exact two.of_tooLong fresh long
  | ended empty finished =>
    obtain ⟨verdict, nothing⟩ := two.of_short (by simp [empty]) (by simp [empty, lineCap])
    exact ⟨verdict.trans (by simp [empty, finished]), nothing⟩
  | cut fresh short nonempty finished =>
    obtain ⟨verdict, nothing⟩ := two.of_short fresh short
    exact ⟨verdict.trans (by simp [nonempty, finished]), nothing⟩
  | silent fresh short open' =>
    obtain ⟨verdict, nothing⟩ := two.of_short fresh short
    exact ⟨verdict.trans (by simp [open']), nothing⟩

/-- Decoding a line is no matter of time. -/
theorem lineText_not_idle (buf : Bytes) : lineText buf ≠ .error idleDeadline := by
  unfold lineText
  split <;> simp [idleDeadline]

/-- There is no line if and only if the input ends before any byte. -/
theorem LineEnd.none_iff (verdict : LineEnd whole closes outcome left) :
    outcome = .ok none ↔ whole = [] ∧ closes = true := by
  constructor
  · intro none
    cases verdict with
    | line line left fresh fits split =>
      unfold lineText at none
      split at none <;> simp at none
    | ended empty finished => exact ⟨empty, finished⟩
    | tooLong | cut | silent => exact absurd none (by simp)
  · rintro ⟨empty, finished⟩
    obtain ⟨result, _⟩ := verdict.of_short (by simp [empty]) (by simp [empty, lineCap])
    exact result.trans (by simp [empty, finished])

/-- A line is cut off if and only if the input ends within it. -/
theorem LineEnd.cut_iff (verdict : LineEnd whole closes outcome left) :
    (∃ message, outcome = .error ⟨.unexpectedEof, message⟩) ↔
      whole ≠ [] ∧ lineFeed ∉ whole ∧ whole.length ≤ maxLineLength ∧ closes = true := by
  constructor
  · rintro ⟨message, cut⟩
    cases verdict with
    | line line left fresh fits split =>
      unfold lineText at cut
      split at cut <;> simp at cut
    | cut fresh short nonempty finished =>
      exact ⟨nonempty, fresh, Nat.le_of_lt_succ short, finished⟩
    | tooLong | silent => exact absurd cut (by simp [lineTooLong, idleDeadline])
    | ended => exact absurd cut (by simp)
  · rintro ⟨nonempty, fresh, fits, finished⟩
    obtain ⟨result, _⟩ := verdict.of_short fresh (Nat.lt_succ_of_le fits)
    exact ⟨_, result.trans (by simp only [finished, if_true, if_neg nonempty]; rfl)⟩

/-- What is over is not a matter of silence. -/
theorem LineEnd.not_idle (verdict : LineEnd whole closes outcome left)
    (decided : Over whole closes) :
    outcome ≠ .error idleDeadline := by
  cases verdict with
  | line line left fresh fits split => exact lineText_not_idle _
  | tooLong fresh long => simp [lineTooLong, idleDeadline]
  | ended empty finished => simp
  | cut fresh short nonempty finished => simp [eofMidLine, idleDeadline]
  | silent fresh short open' =>
    rcases decided with finished | member | long
    · exact absurd finished (by simp [open'])
    · exact absurd member fresh
    · exact absurd long (Nat.not_le.mpr short)

/-- What is over stays so, and what comes behind is left. -/
theorem LineEnd.followed (verdict : LineEnd whole closes outcome left)
    (decided : Over whole closes) (more : Bytes) (nothing : closes = true → more = [])
    (finishes : Bool) :
    LineEnd (whole ++ more) (closes || finishes) outcome (left ++ more) := by
  cases verdict with
  | line line left fresh fits split =>
    apply LineEnd.line line (left ++ more) fresh fits
    rw [split, List.append_assoc, List.cons_append]
  | tooLong fresh long =>
    rw [← List.drop_append_of_le_length long]
    apply LineEnd.tooLong
    · rwa [List.take_append_of_le_length long]
    · rw [List.length_append]
      exact Nat.le_trans long (Nat.le_add_right _ _)
  | ended empty finished =>
    rw [nothing finished, List.append_nil, finished, Bool.true_or]
    exact .ended empty rfl
  | cut fresh short nonempty finished =>
    rw [nothing finished, List.append_nil, finished, Bool.true_or]
    exact .cut fresh short nonempty rfl
  | silent fresh short open' =>
    rcases decided with finished | member | long
    · exact absurd finished (by simp [open'])
    · exact absurd member fresh
    · exact absurd long (Nat.not_le.mpr short)

/-- The verdict of the rounds if no read fails and everything arrives before the deadline. -/
theorem lineRounds_ends (rounds : Nat) (buf : Bytes) (fresh : lineFeed ∉ buf)
    (short : buf.length < lineCap) (steady : r.steady = true) (timely : r.horizon < deadline)
    (enough : turns r < rounds) :
    LineEnd (buf ++ r.pending) r.closes (lineRounds deadline rounds buf r).1
      (lineRounds deadline rounds buf r).2.pending ∧
    ((lineRounds deadline rounds buf r).1 = .error idleDeadline ∨
      (lineRounds deadline rounds buf r).2.closes = r.closes) := by
  induction rounds generalizing buf r with
  | zero => exact absurd enough (Nat.not_lt_zero _)
  | succ rounds inductionHypothesis =>
    rw [lineRounds_turn]
    have absent : ∀ {bytes : Bytes}, lineFeed ∉ bytes → lineFeed ∉ buf ++ bytes :=
      fun new member => (List.mem_append.mp member).elim fresh new
    have turning := lineTurn_turning deadline (r := r) fresh short
    generalize lineTurn deadline buf r = result at turning
    cases turning with
    | late passed => exact absurd (Nat.le_trans passed (now_le_horizon r)) (Nat.not_le.mpr timely)
    | line line later new fits kept follows =>
      constructor
      · apply LineEnd.line (buf ++ line) later.pending (absent new)
        · rwa [List.length_append]
        · rw [kept, List.append_assoc]
      · exact .inr follows.closes
    | tooLong taken later new fits kept follows =>
      have length : (buf ++ taken).length = lineCap := by rwa [List.length_append]
      have whole : buf ++ r.pending = (buf ++ taken) ++ later.pending := by
        rw [kept, List.append_assoc]
      constructor
      · have left : (buf ++ r.pending).drop lineCap = later.pending := by
          rw [whole, ← length, List.drop_left]
        show LineEnd _ _ _ later.pending
        rw [← left]
        apply LineEnd.tooLong
        · rw [whole, ← length, List.take_left]
          exact absent new
        · rw [whole, List.length_append, length]
          exact Nat.le_add_right _ _
      · exact .inr follows.closes
    | ended later empty left finished follows =>
      constructor
      · rw [empty, List.append_nil]
        simp only [Sum.elim_inl, id_eq, left]
        split
        · rename_i none
          exact .ended none finished
        · rename_i some
          exact .cut fresh short some finished
      · exact .inr follows.closes
    | more taken later new fits kept follows fewer grows =>
      rw [kept, ← List.append_assoc, ← follows.closes]
      apply inductionHypothesis (buf ++ taken) (absent new) _ (follows.steady steady)
      · rwa [follows.horizon]
      · omega
      · rwa [List.length_append]
    | broken message later unsteady => exact absurd steady (by simp [unsteady])
    | silent later new fits left open' =>
      constructor
      · simp only [Sum.elim_inl, id_eq, left]
        apply LineEnd.silent (absent new) _ open'
        rwa [List.length_append]
      · exact .inl rfl

/-- Reading a line if no read fails and everything arrives before the deadline. -/
theorem readBoundedLineUntil_ends (steady : r.steady = true) (timely : r.horizon < deadline) :
    LineEnd r.pending r.closes (readBoundedLineUntil deadline r).1
      (readBoundedLineUntil deadline r).2.pending ∧
    ((readBoundedLineUntil deadline r).1 = .error idleDeadline ∨
      (readBoundedLineUntil deadline r).2.closes = r.closes) :=
  lineRounds_ends _ [] List.not_mem_nil (by decide) steady timely (turns_enough r)

end Ends

section Timeliness

/-- No read fails before the deadline, and by then the line is over, or nothing comes
any more. -/
def InTime (deadline : Nat) (r : Reader) : Prop :=
  ∃ early late, r = Reader.followed early late ∧ early.steady = true ∧ early.horizon < deadline ∧
    (late = [] ∨ Over early.pending early.closes)

variable {deadline : Nat} {r : Reader}

/-- Nothing follows nothing. -/
theorem followed_nil (r : Reader) : r.followed [] = r := by
  unfold Reader.followed
  rw [List.append_nil]

/-- Only the bytes decide what a line that comes in time ends with. -/
theorem InTime.ends (timely : InTime deadline r) :
    LineEnd r.pending r.closes (readBoundedLineUntil deadline r).1
      (readBoundedLineUntil deadline r).2.pending := by
  obtain ⟨early, late, rfl, steady, timely, rfl | decided⟩ := timely
  · rw [followed_nil]
    exact (readBoundedLineUntil_ends steady timely).1
  obtain ⟨verdict, same⟩ := readBoundedLineUntil_ends steady timely
  have heard := verdict.not_idle decided
  have fewer : early.incoming.length + 2 ≤ (early.followed late).incoming.length + 2 := by
    unfold Reader.followed
    rw [List.length_append]
    omega
  have extended : readBoundedLineUntil deadline (early.followed late) =
      ((readBoundedLineUntil deadline early).1,
        (readBoundedLineUntil deadline early).2.followed late) :=
    lineRounds_followed late _ _ fewer [] early heard
  have closes := same.resolve_left heard
  rw [extended]
  simp only [Reader.pending_followed, Reader.closes_followed, closes]
  apply verdict.followed decided
  intro finished
  rw [if_pos finished]

/-- What a turn starts with. -/
theorem Turned.fresh {buf : Bytes} {now : Reader} (turned : Turned deadline r buf now) :
    lineFeed ∉ buf ∧ buf.length < lineCap := by
  induction turned with
  | start => exact ⟨List.not_mem_nil, by decide⟩
  | turn before goesOn inductionHypothesis =>
    rename_i buf more now later
    have turning := lineTurn_turning deadline (r := now) inductionHypothesis.1 inductionHypothesis.2
    rw [goesOn] at turning
    cases turning with
    | more taken later new fits kept follows fewer grows =>
      constructor
      · intro member
        exact (List.mem_append.mp member).elim inductionHypothesis.1 new
      · rwa [List.length_append]

/-- What the reader of bounded lines does with input that comes in time. -/
structure BoundedLine (deadline : Nat) (r : Reader) : Prop where
  /-- A line that is not too long is taken with its line feed, and nothing else. -/
  line : ∀ line rest, r.pending = line ++ lineFeed :: rest → lineFeed ∉ line →
    line.length ≤ maxLineLength →
    (∀ text, Utf8.decode (line ++ [lineFeed]) = some text →
      (readBoundedLineUntil deadline r).1 = .ok (some text)) ∧
    (Utf8.decode (line ++ [lineFeed]) = none →
      ∃ message, (readBoundedLineUntil deadline r).1 = .error ⟨.invalidData, message⟩) ∧
    (readBoundedLineUntil deadline r).2.pending = rest
  tooLong : lineFeed ∉ r.pending.take lineCap → lineCap ≤ r.pending.length →
    (∃ message, (readBoundedLineUntil deadline r).1 = .error ⟨.invalidData, message⟩) ∧
    (readBoundedLineUntil deadline r).2.pending = r.pending.drop lineCap
  none_iff : (readBoundedLineUntil deadline r).1 = .ok none ↔
    r.pending = [] ∧ r.closes = true
  cut_iff : (∃ message, (readBoundedLineUntil deadline r).1 = .error ⟨.unexpectedEof, message⟩) ↔
    r.pending ≠ [] ∧ lineFeed ∉ r.pending ∧ r.pending.length ≤ maxLineLength ∧ r.closes = true
  silent : lineFeed ∉ r.pending → r.pending.length ≤ maxLineLength → r.closes = false →
    ∃ message, (readBoundedLineUntil deadline r).1 = .error ⟨.timedOut, message⟩
  /-- Other pieces, other wakeups, another deadline: the same line. -/
  same : ∀ other limit, InTime limit other → other.pending = r.pending →
    other.closes = r.closes →
    (readBoundedLineUntil limit other).1 = (readBoundedLineUntil deadline r).1 ∧
    (readBoundedLineUntil limit other).2.pending = (readBoundedLineUntil deadline r).2.pending
  /-- No turn has more than a line in its hands, not even in the middle. -/
  buffered : ∀ buf now, Turned deadline r buf now →
    (now.readUntil lineFeed (lineCap - buf.length) buf).2.1.length ≤ lineCap
  progress : ∀ buf now, Turned deadline r buf now → ∀ more later,
    lineTurn deadline buf now = .inr (more, later) →
    turns later < turns now ∧ (¬ Woken buf now → buf.length < more.length)

/-- The reader of bounded lines on every input that comes in time.

All is read off one fact: what the reader ends with is determined by the bytes that come in
time. -/
theorem readBoundedLineUntil_bounded (timely : InTime deadline r) : BoundedLine deadline r where
  line := by
    intro line rest split fresh fits
    obtain ⟨verdict, left⟩ := timely.ends.of_line split fresh fits
    rw [verdict]
    unfold lineText
    constructor
    · intro text decoded
      rw [decoded]
    · constructor
      · intro undecoded
        rw [undecoded]
        exact ⟨_, rfl⟩
      · exact left
  tooLong := by
    intro fresh long
    obtain ⟨verdict, left⟩ := timely.ends.of_tooLong fresh long
    exact ⟨⟨_, verdict⟩, left⟩
  none_iff := timely.ends.none_iff
  cut_iff := timely.ends.cut_iff
  silent := by
    intro fresh fits open'
    obtain ⟨verdict, _⟩ := timely.ends.of_short fresh (Nat.lt_succ_of_le fits)
    rw [open'] at verdict
    exact ⟨_, verdict⟩
  same := by
    intro other limit alike pending closes
    have verdict := alike.ends
    rw [pending, closes] at verdict
    exact timely.ends.unique verdict
  buffered := by
    intro buf now turned
    have short := turned.fresh.2
    have bound := Reader.readUntil_appended lineFeed (lineCap - buf.length) buf now
    omega
  progress := by
    intro buf now turned more later goesOn
    have turning := lineTurn_turning deadline (r := now) turned.fresh.1 turned.fresh.2
    rw [goesOn] at turning
    cases turning with
    | more taken later new fits kept follows fewer grows =>
      constructor
      · exact fewer
      · intro awake
        have some := List.length_pos_of_ne_nil (grows awake)
        rw [List.length_append]
        omega

/-- A line in two pieces with a wakeup between them, and bytes that come too late. -/
theorem twoPieces_bounded : BoundedLine 100
    ⟨[], [⟨1, .bytes 80 [73]⟩, ⟨20, .wakeup⟩, ⟨9, .bytes 78 [71, 10]⟩, ⟨200, .bytes 88 []⟩],
      0⟩ := by
  apply readBoundedLineUntil_bounded
  exact ⟨⟨[], [⟨1, .bytes 80 [73]⟩, ⟨20, .wakeup⟩, ⟨9, .bytes 78 [71, 10]⟩], 0⟩,
    [⟨200, .bytes 88 []⟩], rfl, by decide, by decide, .inr (.inr (.inl (by decide)))⟩

end Timeliness

end PacketBrowser.Server
