import PacketBrowser.Vara.Attention

/-!
# The lines that are read from the command port

What is in the line buffer and what the command port will still deliver determine the lines
that calls of `readCmdLine` return, one after the other: the port is read only once no line
is left in the buffer. Calls that fail in between, because the modem is silent or a
deadline is over, lose nothing.
-/

namespace PacketBrowser.Vara

open Protocol Client Foundation Program Setting

/-- The lines in a buffer and in the texts that come to it, as they are taken off. -/
def linesTo (cmdLineBuf : Text) (coming : List Text) : List Text :=
  match _taken : takeLine cmdLineBuf with
  | some (line, rest) => line :: linesTo rest coming
  | none =>
    match coming with
    | [] => []
    | text :: coming => linesTo (cmdLineBuf ++ text) coming
termination_by (coming.length, cmdLineBuf.length)
decreasing_by
  · exact Prod.Lex.right _ (takeLine_some _taken).2.2
  · exact Prod.Lex.left _ _ (Nat.lt_succ_self _)

/-- The texts of batches, each decoded on its own. -/
def texts (arriving : List Batch) : List Text := arriving.map fun batch => Utf8.lossy batch.bytes

/-- The lines that a transport will read. -/
def VaraWorld.lines (world : VaraWorld) : List Text := linesTo world.cmdLineBuf (texts world.arriving)

section Buffers

variable {cmdLineBuf line rest : Text} {coming : List Text}

/-- A line that can be taken comes first. -/
theorem linesTo_taken (taken : takeLine cmdLineBuf = some (line, rest)) (coming : List Text) :
    linesTo cmdLineBuf coming = line :: linesTo rest coming := by
  rw [linesTo.eq_def]
  split
  · rename_i found
    obtain ⟨rfl, rfl⟩ := Prod.mk.inj (Option.some.inj (taken.symm.trans found))
    rfl
  · rename_i found
    exact absurd (taken.symm.trans found) (by simp)

/-- Nothing is taken from an unfinished line if nothing else comes. -/
theorem linesTo_over (nothing : takeLine cmdLineBuf = none) : linesTo cmdLineBuf [] = [] := by
  rw [linesTo.eq_def]
  split
  · rename_i found
    exact absurd (nothing.symm.trans found) (by simp)
  · rfl

/-- An unfinished line is continued by the next text. -/
theorem linesTo_more (nothing : takeLine cmdLineBuf = none) (text : Text) (coming : List Text) :
    linesTo cmdLineBuf (text :: coming) = linesTo (cmdLineBuf ++ text) coming := by
  rw [linesTo.eq_def]
  split
  · rename_i found
    exact absurd (nothing.symm.trans found) (by simp)
  · rfl

/-- A line that is taken off, behind which its terminator and a line feed are dropped. -/
theorem takeLine_split (taken : takeLine cmdLineBuf = some (line, rest)) :
    ∃ c behind, terminator c = true ∧ cmdLineBuf = line ++ c :: behind ∧
      (∀ other ∈ line, terminator other = false) ∧ rest = stripNewline behind := by
  obtain ⟨⟨found, behind⟩, first, same⟩ := Option.map_eq_some_iff.mp taken
  obtain ⟨rfl, rfl⟩ := Prod.mk.inj same
  obtain ⟨c, ends, split, within⟩ := Lines.first_some first
  exact ⟨c, behind, ends, split, within, rfl⟩

/-- A line is taken up to its terminator. -/
theorem takeLine_append (within : ∀ other ∈ line, terminator other = false) {c : Char}
    (ends : terminator c = true) (behind : Text) :
    takeLine (line ++ c :: behind) = some (line, stripNewline behind) := by
  unfold takeLine
  rw [Lines.first_append within ends]
  rfl

/-- If no line can be taken, then no terminator is in the buffer. -/
theorem takeLine_within (nothing : takeLine cmdLineBuf = none) :
    ∀ c ∈ cmdLineBuf, terminator c = false :=
  Lines.first_none (Option.map_eq_none_iff.mp nothing)

/-- No terminator is in a line. -/
theorem linesTo_within (cmdLineBuf : Text) (coming : List Text) :
    ∀ line ∈ linesTo cmdLineBuf coming, ∀ c ∈ line, terminator c = false := by
  induction cmdLineBuf, coming using linesTo.induct with
  | case1 cmdLineBuf coming line rest taken inductionHypothesis =>
    rw [linesTo_taken taken]
    obtain ⟨_, _, _, _, within, _⟩ := takeLine_split taken
    exact List.forall_mem_cons.mpr ⟨within, inductionHypothesis⟩
  | case2 cmdLineBuf nothing =>
    rw [linesTo_over nothing]
    simp
  | case3 cmdLineBuf nothing text coming inductionHypothesis =>
    rw [linesTo_more nothing]
    exact inductionHypothesis

/-- Lines that are all in the buffer, each ended by a carriage return. -/
def heldLines (lines : List Text) : Text := lines.flatMap fun line => line ++ ['\r']

/-- Lines that are all in the buffer are read as they are. The induction is on them; no line
begins with a line feed, so none loses anything to the terminator before it. -/
theorem linesTo_held (lines : List Text) (within : ∀ line ∈ lines, ∀ c ∈ line, terminator c = false) :
    linesTo (heldLines lines) [] = lines := by
  induction lines with
  | nil => exact linesTo_over rfl
  | cons line lines inductionHypothesis =>
    obtain ⟨first, others⟩ := List.forall_mem_cons.mp within
    have split : heldLines (line :: lines) = line ++ '\r' :: heldLines lines := by simp [heldLines]
    have kept : stripNewline (heldLines lines) = heldLines lines := by
      cases lines with
      | nil => rfl
      | cons next lines =>
        cases next with
        | nil => rfl
        | cons c next =>
          have ordinary := others _ List.mem_cons_self c List.mem_cons_self
          have whole : heldLines ((c :: next) :: lines) = c :: (next ++ '\r' :: heldLines lines) := by
            simp [heldLines]
          rw [whole, stripNewline]
          intro newline same
          obtain ⟨rfl, _⟩ := List.cons.inj same
          exact absurd ordinary (by decide)
    rw [split, linesTo_taken (takeLine_append first (by decide) _), kept, inductionHypothesis others]

end Buffers

section Any

/-! Whatever the modem answers, what is read are the next lines. -/

variable {lines : List Text}

/-- A transport whose modem answers what it likes. -/
def anyAnswers : Setting VaraWorld Unit VaraAnswer where
  exec := varaExec
  meets := anyRun
  inv := fun _ => True

/-- These lines are to be read. -/
def Ahead (lines : List Text) (now : VaraMoment) : Prop := now.world.lines = lines

/-- No line is in the buffer. -/
structure Emptied (lines : List Text) (now : VaraMoment) : Prop where
  ahead : Ahead lines now
  nothing : takeLine now.world.cmdLineBuf = none

/-- A line that was read is the next one, and an error leaves the lines. -/
def Following (lines : List Text) : Except TransportError Text → VaraMoment → Prop
  | .ok line, now => ∃ rest, lines = line :: rest ∧ Ahead rest now
  | .error _, now => Ahead lines now

/-- What was found in the buffer. -/
def Found (lines : List Text) : Option Text → VaraMoment → Prop
  | some line, now => ∃ rest, lines = line :: rest ∧ Ahead rest now
  | none, now => Emptied lines now

/-- The lines depend on the transport and not on the history. -/
theorem Ahead.same {now later : VaraMoment} (ahead : Ahead lines now)
    (same : later.world = now.world) : Ahead lines later := by
  rw [Ahead, same]
  exact ahead

/-- The buffer and what will be delivered are left alone. -/
def VaraOp.still : VaraOp → Bool
  | .takeLine => false
  | .readCmd => false
  | .attach _ => false
  | .detach => false
  | _ => true

/-- A still operation keeps the buffer, what will be delivered, and the connection. -/
theorem apply_still {op : VaraOp} (still : op.still = true) (answer : VaraAnswer op)
    (world : VaraWorld) : (world.apply op answer).cmdLineBuf = world.cmdLineBuf ∧
      (world.apply op answer).arriving = world.arriving ∧
      (world.apply op answer).connected = world.connected := by
  cases op with
  | takeLine => exact absurd still (by decide)
  | readCmd => exact absurd still (by decide)
  | attach arriving => exact absurd still (by simp [VaraOp.still])
  | detach => exact absurd still (by decide)
  | _ => exact ⟨rfl, rfl, rfl⟩

/-- A still operation keeps the lines. -/
theorem lines_still {op : VaraOp} (still : op.still = true) (answer : VaraAnswer op)
    (world : VaraWorld) : (world.apply op answer).lines = world.lines := by
  obtain ⟨buffer, arriving, _⟩ := apply_still still answer world
  rw [VaraWorld.lines, buffer, arriving]
  rfl

/-- Taking a line gives the next one; if there is none, then the buffer has none. -/
theorem takeLine_triple : anyAnswers.Triple () (Ahead lines) (ask .takeLine) (Found lines) := by
  apply triple_ask (stable_alone _) (fun _ => stable_alone _)
  intro now taken later ahead moves
  obtain ⟨given, world⟩ := varaExec_iff.mp moves.occurs.1
  obtain rfl : taken = (takeLine now.world.cmdLineBuf).map Prod.fst := beq_iff_eq.mp given
  constructor
  · trivial
  · cases found : takeLine now.world.cmdLineBuf with
    | none =>
      have same : later.world = now.world := by rw [world, VaraWorld.apply, found]
      exact ⟨ahead.same same, same ▸ found⟩
    | some pair =>
      obtain ⟨line, rest⟩ := pair
      refine ⟨linesTo rest (texts now.world.arriving), ?_, ?_⟩
      · rw [← linesTo_taken found]
        exact ahead.symm
      · rw [Ahead, VaraWorld.lines, world, VaraWorld.apply, found]

/-- Reading the command port costs no line, whatever the answer is. -/
theorem readCmd_triple : anyAnswers.Triple () (Emptied lines) (ask .readCmd)
    fun read => Sum.elim (fun _ => Ahead lines) (Following lines) (readOutcome read) := by
  apply triple_ask (stable_alone _) (fun _ => stable_alone _)
  intro now read later emptied moves
  obtain ⟨given, world⟩ := varaExec_iff.mp moves.occurs.1
  constructor
  · trivial
  · cases read with
    | bytes batch =>
      obtain ⟨more, arriving⟩ := List.head?_eq_some_iff.mp (beq_iff_eq.mp given)
      have ahead : linesTo now.world.cmdLineBuf (texts now.world.arriving) = lines := emptied.ahead
      rw [arriving, texts, List.map_cons, linesTo_more emptied.nothing] at ahead
      show later.world.lines = lines
      rw [world, VaraWorld.lines, VaraWorld.apply, arriving]
      exact ahead
    | closed => exact emptied.ahead.same world
    | failed message => exact emptied.ahead.same world
    | silent => exact emptied.ahead.same world

/-- An operation that leaves the buffer alone. -/
theorem still_triple (op : VaraOp) (still : op.still = true) :
    anyAnswers.Triple () (Emptied lines) (ask op) fun _ => Emptied lines := by
  apply triple_ask (stable_alone _) (fun _ => stable_alone _)
  intro now answer later emptied moves
  obtain ⟨_, world⟩ := varaExec_iff.mp moves.occurs.1
  obtain ⟨buffer, _⟩ := apply_still still answer now.world
  refine ⟨trivial, ?_, ?_⟩
  · rw [Ahead, world, lines_still still]
    exact emptied.ahead
  · rw [world, buffer]
    exact emptied.nothing

/-- One more read, unless the deadline is over, costs no line. -/
theorem readMore_triple (deadline : Nat) : anyAnswers.Triple () (Emptied lines) (readMore deadline)
    (Sum.elim (fun _ => Ahead lines) (Following lines)) := by
  apply triple_bind _ (still_triple .clock rfl)
  intro now
  split
  · exact triple_done (stable_alone _) fun _ emptied => emptied.ahead
  · apply triple_bind _ (still_triple (.isOpen .cmd) rfl)
    intro connected
    split
    · apply triple_bind _ readCmd_triple
      exact fun read => triple_done (stable_alone _) fun _ => id
    · exact triple_done (stable_alone _) fun _ emptied => emptied.ahead

/-- The line that is returned is the next one; an error costs none. -/
theorem readCmdLine_triple (deadline : Nat) :
    anyAnswers.Triple () (Ahead lines) (readCmdLine deadline) (Following lines) := by
  apply triple_loop (fun _ => Ahead lines) (fun _ => stable_alone _) (fun _ => stable_alone _)
  intro _
  apply triple_bind _ takeLine_triple
  intro taken
  cases taken with
  | some line => exact triple_done (stable_alone _) fun _ found => found
  | none => exact readMore_triple deadline

end Any

section Timely

/-! A modem that answers in time is read to the last line it sends. -/

/-- What comes once everything has been delivered. -/
inductive Ending where
  | silent
  | closed
  | failed (message : Text)
  deriving DecidableEq

/-- How a read ends once everything has been delivered. -/
def Ending.read : Ending → CmdRead
  | .silent => .silent
  | .closed => .closed
  | .failed message => .failed message

/-- The error that this read is reported as. -/
def Ending.error : Ending → TransportError
  | .silent => .timeout
  | .closed => .notConnected
  | .failed message => .io message

/-- The time by which the modem answers, which depends on how many lines were read. -/
structure Schedule where
  limit : Nat → Nat
  grows : ∀ count, limit count ≤ limit (count + 1)

/-- Writes succeed, the time is not up, and a read brings what there is to bring. -/
def answersInTime (limit : Nat) (ending : Ending) (world : VaraWorld) :
    (op : VaraOp) → VaraAnswer op → Prop
  | .clock, time => time < limit
  | .readCmd, read => if world.arriving = [] then read = ending.read else ∃ batch, read = .bytes batch
  | .write _ _, result => result = .ok ()
  | .flush _, result => result = .ok ()
  | _, _ => True

/-- A line was taken out of the buffer. -/
def takesLine (event : VaraEvent) : Bool :=
  match event.op, event.answer with
  | .takeLine, some _ => true
  | _, _ => false

/-- How many lines were taken during the call. -/
def linesTaken (history : List VaraEvent) : Nat := history.countP takesLine

/-- The modem answers by the time that the lines taken so far allow. -/
def InTime (schedule : Schedule) (ending : Ending) (now : VaraMoment) (event : VaraEvent) : Prop :=
  answersInTime (schedule.limit (linesTaken now.history)) ending now.world event.op event.answer

/-- A connected transport that has read so many lines, with time left for these. -/
structure Timely (start : Nat) (schedule : Schedule) (count : Nat) (lines : List Text)
    (now : VaraMoment) : Prop where
  connected : now.world.connected = true
  begun : start ≤ now.world.now
  taken : linesTaken now.history = count
  early : now.world.now < schedule.limit count
  ahead : now.world.lines = lines

/-- What the next call returns. -/
def nextLine (ending : Ending) : List Text → Except TransportError Text
  | [] => .error ending.error
  | line :: _ => .ok line

variable {start count deadline : Nat} {schedule : Schedule} {ending : Ending}
variable {lines : List Text} {now later : VaraMoment}

/-- What was there to be read is still there. -/
structure SameInput (now later : VaraMoment) : Prop where
  buffer : later.world.cmdLineBuf = now.world.cmdLineBuf
  arriving : later.world.arriving = now.world.arriving

/-- Other operations take no line. -/
theorem linesTaken_other {op : VaraOp} {answer : VaraAnswer op} (other : op ≠ .takeLine)
    (grown : later.history = ⟨(), op, answer⟩ :: now.history) :
    linesTaken later.history = linesTaken now.history := by
  have ignored : takesLine ⟨(), op, answer⟩ = false := by
    cases op <;> first | rfl | exact absurd rfl other
  rw [grown, linesTaken, List.countP_cons_of_neg (by simp [ignored])]
  rfl

/-- Nothing but the history has changed, and no line was taken. -/
theorem Timely.same (timely : Timely start schedule count lines now) (world : later.world = now.world)
    (taken : linesTaken later.history = linesTaken now.history) :
    Timely start schedule count lines later := by
  refine ⟨?_, ?_, taken.trans timely.taken, ?_, ?_⟩
  · rw [world]
    exact timely.connected
  · rw [world]
    exact timely.begun
  · rw [world]
    exact timely.early
  · rw [world]
    exact timely.ahead

/-- An operation that leaves the buffer alone and takes no time. -/
theorem still_settles (op : VaraOp) (still : op.still = true) (timeless : op ≠ .clock)
    (possible : ∃ answer, now.world.gives op answer = true ∧
      answersInTime (schedule.limit count) ending now.world op answer)
    (timely : Timely start schedule count lines now) :
    Settles varaExec (InTime schedule ending) (fun answer later =>
      now.world.gives op answer = true ∧
      answersInTime (schedule.limit count) ending now.world op answer ∧
      Timely start schedule count lines later ∧ SameInput now later) (ask op) now := by
  obtain ⟨answer, given, met⟩ := possible
  apply settles_ask
  · refine ⟨answer, ⟨_, _⟩, ⟨varaExec_iff.mpr ⟨given, rfl⟩, rfl⟩, ?_⟩
    rw [← timely.taken] at met
    exact met
  · rintro answer later ⟨executed, grown⟩ met
    obtain ⟨given, world⟩ := varaExec_iff.mp executed
    have same : now.world.apply op answer = now.world := by
      cases op with
      | clock => exact absurd rfl timeless
      | takeLine => exact absurd still (by decide)
      | readCmd => exact absurd still (by decide)
      | attach arriving => exact absurd still (by simp [VaraOp.still])
      | detach => exact absurd still (by decide)
      | _ => rfl
    have other : op ≠ .takeLine := by
      rintro rfl
      exact absurd still (by decide)
    have inTime : answersInTime (schedule.limit (linesTaken now.history)) ending now.world op answer :=
      met
    rw [timely.taken] at inTime
    refine ⟨given, inTime, timely.same (world.trans same) (linesTaken_other other grown), ?_, ?_⟩
    · rw [world, same]
    · rw [world, same]

/-- The clock goes on, but not too far. -/
theorem clock_settles (timely : Timely start schedule count lines now) :
    Settles varaExec (InTime schedule ending) (fun (time : VaraAnswer .clock) later =>
      start ≤ time ∧ time < schedule.limit count ∧ Timely start schedule count lines later ∧
      SameInput now later) (ask VaraOp.clock) now := by
  apply settles_ask
  · refine ⟨now.world.now, ⟨_, ⟨(), .clock, now.world.now⟩ :: now.history⟩,
      ⟨clock_still now.world, rfl⟩, ?_⟩
    show now.world.now < schedule.limit (linesTaken now.history)
    rw [timely.taken]
    exact timely.early
  · rintro (time : Nat) later ⟨executed, grown⟩ (met : time < schedule.limit (linesTaken now.history))
    obtain ⟨given, world⟩ := varaExec_iff.mp executed
    have onward : now.world.now ≤ time := of_decide_eq_true given
    have begun : start ≤ time := Nat.le_trans timely.begun onward
    rw [timely.taken] at met
    refine ⟨begun, met, ⟨?_, ?_, ?_, ?_, ?_⟩, ?_, ?_⟩
    · rw [world]
      exact timely.connected
    · rw [world]
      exact begun
    · rw [linesTaken_other (by simp) grown, timely.taken]
    · rw [world]
      exact met
    · rw [world]
      exact timely.ahead
    · rw [world]
      rfl
    · rw [world]
      rfl

/-- A line in the buffer is taken off. -/
theorem takeLine_settles (timely : Timely start schedule count lines now) :
    Settles varaExec (InTime schedule ending) (fun (taken : VaraAnswer .takeLine) later =>
      (∃ line rest, taken = some line ∧ lines = line :: rest ∧
        Timely start schedule (count + 1) rest later) ∨
      taken = none ∧ takeLine now.world.cmdLineBuf = none ∧ later.world = now.world ∧
        linesTaken later.history = linesTaken now.history) (ask VaraOp.takeLine) now := by
  apply settles_ask
  · exact ⟨(takeLine now.world.cmdLineBuf).map Prod.fst, ⟨_, _⟩,
      ⟨varaExec_iff.mpr ⟨beq_self_eq_true _, rfl⟩, rfl⟩, trivial⟩
  · rintro taken later ⟨executed, grown⟩ _
    obtain ⟨given, world⟩ := varaExec_iff.mp executed
    obtain rfl : taken = (takeLine now.world.cmdLineBuf).map Prod.fst := beq_iff_eq.mp given
    cases found : takeLine now.world.cmdLineBuf with
    | none =>
      rw [found] at grown
      exact Or.inr ⟨rfl, rfl, by rw [world, VaraWorld.apply, found], by rw [grown]; rfl⟩
    | some pair =>
      obtain ⟨line, rest⟩ := pair
      have same : later.world = { now.world with cmdLineBuf := rest } := by
        rw [world, VaraWorld.apply, found]
      refine Or.inl ⟨line, linesTo rest (texts now.world.arriving), rfl, ?_, ?_⟩
      · rw [← linesTo_taken found]
        exact timely.ahead.symm
      · rw [found] at grown
        refine ⟨?_, ?_, ?_, ?_, ?_⟩
        · rw [same]
          exact timely.connected
        · rw [same]
          exact timely.begun
        · rw [grown, linesTaken, List.countP_cons_of_pos rfl, ← timely.taken]
          rfl
        · rw [same]
          exact Nat.lt_of_lt_of_le timely.early (schedule.grows count)
        · rw [same]
          rfl

/-- A read brings the next batch, or what comes behind the last one. -/
theorem readCmd_settles (timely : Timely start schedule count lines now)
    (nothing : takeLine now.world.cmdLineBuf = none) :
    Settles varaExec (InTime schedule ending) (fun (read : VaraAnswer .readCmd) later =>
      (∃ batch, read = .bytes batch ∧ Timely start schedule count lines later ∧
        later.world.arriving.length < now.world.arriving.length) ∨
      read = ending.read ∧ lines = [] ∧ Timely start schedule count lines later)
      (ask VaraOp.readCmd) now := by
  have ahead : linesTo now.world.cmdLineBuf (texts now.world.arriving) = lines := timely.ahead
  cases arriving : now.world.arriving with
  | nil =>
    rw [arriving] at ahead
    have exhausted : lines = [] := ahead.symm.trans (linesTo_over nothing)
    have possible : now.world.gives .readCmd ending.read = true := by cases ending <;> rfl
    have still : now.world.apply .readCmd ending.read = now.world := by cases ending <;> rfl
    apply settles_ask
    · refine ⟨ending.read, ⟨_, _⟩, ⟨varaExec_iff.mpr ⟨possible, rfl⟩, rfl⟩, ?_⟩
      show if now.world.arriving = [] then ending.read = ending.read else _
      rw [if_pos arriving]
    · rintro read later ⟨executed, grown⟩ met
      obtain ⟨_, world⟩ := varaExec_iff.mp executed
      have ended : read = ending.read := by
        have told : if now.world.arriving = [] then read = ending.read else _ := met
        rwa [if_pos arriving] at told
      subst ended
      exact Or.inr ⟨rfl, exhausted, timely.same (world.trans still) (linesTaken_other (by simp) grown)⟩
  | cons batch more =>
    apply settles_ask
    · refine ⟨.bytes batch, ⟨_, _⟩, ⟨readCmd_batch arriving, rfl⟩, ?_⟩
      show if now.world.arriving = [] then _ else ∃ other, CmdRead.bytes batch = .bytes other
      rw [if_neg (by simp [arriving])]
      exact ⟨batch, rfl⟩
    · rintro read later ⟨executed, grown⟩ met
      obtain ⟨given, world⟩ := varaExec_iff.mp executed
      obtain ⟨other, rfl⟩ : ∃ other, read = .bytes other := by
        have told : if now.world.arriving = [] then _ else ∃ other, read = .bytes other := met
        rwa [if_neg (by simp [arriving])] at told
      have filled : later.world = now.world.filled batch more := by
        obtain ⟨rest, same⟩ := List.head?_eq_some_iff.mp (beq_iff_eq.mp given)
        obtain ⟨rfl, rfl⟩ := List.cons.inj (arriving.symm.trans same)
        rw [world, VaraWorld.apply, VaraWorld.filled, arriving]
        rfl
      refine Or.inl ⟨other, rfl, ⟨?_, ?_, ?_, ?_, ?_⟩, ?_⟩
      · rw [filled]
        exact timely.connected
      · rw [filled]
        exact timely.begun
      · rw [linesTaken_other (by simp) grown, timely.taken]
      · rw [filled]
        exact timely.early
      · rw [arriving, texts, List.map_cons, linesTo_more nothing] at ahead
        rw [filled]
        exact ahead
      · rw [filled]
        exact Nat.lt_succ_self _

/-- A call returns the next line, or fails once there is none. -/
def Answered (start : Nat) (schedule : Schedule) (ending : Ending) (lines : List Text)
    (result : Except TransportError Text) (now : VaraMoment) : Prop :=
  result = nextLine ending lines ∧ ∃ count, Timely start schedule count lines.tail now

/-- One round of the reader: a batch has come, or the call is over. -/
def Round (start : Nat) (schedule : Schedule) (count : Nat) (ending : Ending) (lines : List Text)
    (before : VaraMoment) : Unit ⊕ Except TransportError Text → VaraMoment → Prop :=
  Sum.elim (fun _ now => Timely start schedule count lines now ∧
    now.world.arriving.length < before.world.arriving.length)
    (Answered start schedule ending lines)

/-- With nothing in the buffer, one more read brings the next batch, or ends as everything
delivered ends. -/
theorem readMore_settles (timely : Timely start schedule count lines now)
    (nothing : takeLine now.world.cmdLineBuf = none) (late : schedule.limit count ≤ deadline) :
    Settles varaExec (InTime schedule ending) (Round start schedule count ending lines now)
      (readMore deadline) now := by
  apply (clock_settles timely).bind
  rintro time later ⟨_, early, waiting, same⟩
  rw [if_neg (Nat.not_le.mpr (Nat.lt_of_lt_of_le early late))]
  apply (still_settles (.isOpen .cmd) rfl (by simp)
    ⟨later.world.connected, beq_self_eq_true _, trivial⟩ waiting).bind
  rintro connected middle ⟨given, _, reading, again⟩
  obtain rfl : connected = true := (beq_iff_eq.mp given).trans waiting.connected
  rw [if_pos rfl]
  have empty : takeLine middle.world.cmdLineBuf = none := by
    rw [again.buffer, same.buffer, nothing]
  apply (readCmd_settles reading empty).bind
  rintro read last (⟨batch, rfl, timely, shorter⟩ | ⟨rfl, exhausted, timely⟩)
  · rw [again.arriving, same.arriving] at shorter
    exact .ended (.done _) ⟨timely, shorter⟩
  · have outcome : readOutcome ending.read = .inr (.error ending.error) := by cases ending <;> rfl
    rw [outcome]
    subst exhausted
    exact .ended (.done _) ⟨rfl, count, timely⟩

/-- One round takes a line, or brings the next batch, or ends as everything delivered ends. -/
theorem readLineRound_settles (timely : Timely start schedule count lines now)
    (late : schedule.limit count ≤ deadline) :
    Settles varaExec (InTime schedule ending) (Round start schedule count ending lines now)
      (readLineRound deadline) now := by
  apply (takeLine_settles timely).bind
  rintro taken later (⟨line, rest, rfl, rfl, left⟩ | ⟨rfl, nothing, same, uncounted⟩)
  · exact .ended (.done _) ⟨rfl, count + 1, left⟩
  · have settled : Settles varaExec (InTime schedule ending)
        (Round start schedule count ending lines later) (readMore deadline) later :=
      readMore_settles (timely.same same uncounted) (same ▸ nothing) late
    rw [Round, same] at settled
    exact settled

/-- In time, the next line is returned. -/
theorem readCmdLine_settles (timely : Timely start schedule count lines now)
    (late : schedule.limit count ≤ deadline) :
    Settles varaExec (InTime schedule ending) (Answered start schedule ending lines)
      (readCmdLine deadline) now := by
  apply settles_loop (fun _ now => Timely start schedule count lines now)
    fun now => now.world.arriving.length
  · intro _ now timely
    apply (readLineRound_settles timely late).mono
    rintro (next | result) later ends
    · exact ends
    · exact ends
  · exact timely

end Timely

end PacketBrowser.Vara
