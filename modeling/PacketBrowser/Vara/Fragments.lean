import PacketBrowser.Foundation.Lossy
import PacketBrowser.Vara.Opening

/-!
# Lines and the reads that deliver them

The bytes of the command port come in reads, and a line feed that belongs to the carriage
return in front of it may come in a later one. It is then taken for an empty line. The lines
that are read are always the lines of the stream with empty lines between them; there are no
empty ones exactly if each terminator that ends no line of its own is a line feed in the
same read as the terminator in front of it.
-/

namespace PacketBrowser.Vara

open Protocol Client Foundation Program Setting

/-- A line begins behind this text. -/
def atLineStart (before : Text) : Bool := before.getLast?.all terminator

/-- The terminator is a line feed that is dropped with the one in front of it: that one ends a
line which is not empty, and both come in one read. -/
structure Joined (cmdLineBuf : Text) (coming : List Text) (before : Text) (c : Char) : Prop where
  feed : c = '\n'
  behind : before ≠ []
  together : ∀ count, before ≠ cmdLineBuf ++ (coming.take count).flatten
  ended : atLineStart before.dropLast = false

/-- Every terminator that stands at the start of a line is dropped with the one before it. -/
def Seamless (cmdLineBuf : Text) (coming : List Text) : Prop :=
  ∀ before c after, cmdLineBuf ++ coming.flatten = before ++ c :: after → terminator c = true →
    atLineStart before = true → Joined cmdLineBuf coming before c

/-- The lines of a stream that are over, without the empty ones. -/
def nonEmptyLines (stream : Text) : List Text :=
  (Lines.complete terminator stream).filter fun line => !line.isEmpty

section Starts

variable {front back line cmdLineBuf text rest : Text} {coming : List Text}

/-- Where a text ends depends on the part of it that comes last. -/
theorem atLineStart_append (some : back ≠ []) : atLineStart (front ++ back) = atLineStart back := by
  unfold atLineStart
  rw [List.getLast?_append_of_ne_nil _ some]

/-- Behind a terminator a line begins. -/
theorem atLineStart_terminator {c : Char} (ends : terminator c = true) (front : Text) :
    atLineStart (front ++ [c]) = true := by
  rw [atLineStart_append (by simp)]
  exact ends

/-- Within a line none does. -/
theorem atLineStart_within (some : line ≠ []) (within : ∀ c ∈ line, terminator c = false) :
    atLineStart line = false := by
  unfold atLineStart
  rw [List.getLast?_eq_some_getLast some]
  exact within _ (List.getLast_mem some)

/-- Behind the end of a line, starts of lines are the same as in what follows. -/
theorem atLineStart_behind (start : atLineStart front = true) (back : Text) :
    atLineStart (front ++ back) = atLineStart back := by
  cases back with
  | nil =>
    rw [List.append_nil, start]
    rfl
  | cons c back => exact atLineStart_append (by simp)

end Starts

section Joining

variable {line cmdLineBuf text rest pre : Text} {coming : List Text}

/-- Behind the end of a line, a terminator is joined if it is joined in what follows. -/
theorem Joined.shift {before : Text} {c : Char} (start : atLineStart pre = true)
    (joined : Joined rest coming before c) : Joined (pre ++ rest) coming (pre ++ before) c := by
  refine ⟨joined.feed, by simp [joined.behind], ?_, ?_⟩
  · intro count same
    rw [List.append_assoc] at same
    exact joined.together count (List.append_cancel_left same)
  · rw [List.dropLast_append_of_ne_nil joined.behind, atLineStart_behind start]
    exact joined.ended

/-- Lines that come first do not matter for where later ones are joined. -/
theorem Joined.unshift {before : Text} {c : Char} (start : atLineStart pre = true)
    (some : before ≠ []) (joined : Joined (pre ++ rest) coming (pre ++ before) c) :
    Joined rest coming before c := by
  refine ⟨joined.feed, some, ?_, ?_⟩
  · rintro count rfl
    exact joined.together count (List.append_assoc _ _ _).symm
  · have ended := joined.ended
    rwa [List.dropLast_append_of_ne_nil some, atLineStart_behind start] at ended

/-- What holds of a stream holds of what follows a line, if nothing is joined to its end. -/
theorem Seamless.behind (seamless : Seamless (pre ++ rest) coming) (start : atLineStart pre = true)
    (unjoined : ∀ c after, rest ++ coming.flatten = c :: after → ¬ Joined (pre ++ rest) coming pre c) :
    Seamless rest coming := by
  intro before c after split ends fresh
  have whole : (pre ++ rest) ++ coming.flatten = (pre ++ before) ++ c :: after := by
    rw [List.append_assoc, split, List.append_assoc]
  have joined := seamless (pre ++ before) c after whole ends ((atLineStart_behind start _).trans fresh)
  by_cases some : before = []
  · subst some
    rw [List.append_nil] at joined
    exact absurd joined (unjoined c after split)
  · exact joined.unshift start some

/-- In front of the next line, only its terminator could stand at the start of a line. -/
theorem split_line {before behind after : Text} {c other : Char} (some : line ≠ [])
    (within : ∀ c ∈ line, terminator c = false) (ends : terminator other = true)
    (fresh : atLineStart before = true) (split : line ++ c :: behind = before ++ other :: after) :
    ∃ more, before = line ++ c :: more ∧ behind = more ++ other :: after := by
  rcases List.append_eq_append_iff.mp split with ⟨more, rfl, tail⟩ | ⟨more, rfl, tail⟩
  · cases more with
    | nil =>
      rw [List.append_nil] at fresh
      exact absurd (fresh.symm.trans (atLineStart_within some within)) (by decide)
    | cons first more =>
      obtain ⟨rfl, rest⟩ := List.cons.inj tail
      exact ⟨more, rfl, rest⟩
  · cases more with
    | nil =>
      rw [List.append_nil] at some within
      exact absurd (fresh.symm.trans (atLineStart_within some within)) (by decide)
    | cons first more =>
      obtain ⟨rfl, _⟩ := List.cons.inj tail
      exact absurd (ends.symm.trans (within other (by simp))) (by decide)

/-- Taking a line off, with the line feed behind its terminator. -/
theorem seamless_feed {c : Char} (within : ∀ c ∈ line, terminator c = false)
    (ends : terminator c = true) :
    Seamless (line ++ c :: '\n' :: rest) coming ↔ line ≠ [] ∧ Seamless rest coming := by
  have shape : line ++ c :: '\n' :: rest = (line ++ [c, '\n']) ++ rest := by simp
  have closes : atLineStart (line ++ [c, '\n']) = true := by
    rw [atLineStart_append (by simp)]
    rfl
  constructor
  · intro seamless
    constructor
    · rintro rfl
      exact (seamless [] c _ rfl ends rfl).behind rfl
    · rw [shape] at seamless
      apply seamless.behind closes
      intro _ _ _ joined
      have ended := joined.ended
      rw [List.dropLast_append_of_ne_nil (by simp)] at ended
      exact absurd (ended.symm.trans (atLineStart_terminator ends line)) (by decide)
  · rintro ⟨some, seamless⟩ before other after split terminates fresh
    rw [List.append_assoc, List.cons_append] at split
    obtain ⟨more, rfl, tail⟩ := split_line some within terminates fresh split
    cases more with
    | nil =>
      obtain ⟨rfl, _⟩ := List.cons.inj tail
      refine ⟨rfl, by simp, ?_, ?_⟩
      · intro count same
        exact absurd (congrArg List.length same) (by simp)
      · rw [List.dropLast_append_of_ne_nil (by simp)]
        show atLineStart (line ++ []) = false
        rw [List.append_nil]
        exact atLineStart_within some within
    | cons first more =>
      obtain ⟨rfl, rest⟩ := List.cons.inj tail
      have again : line ++ c :: '\n' :: more = (line ++ [c, '\n']) ++ more := by simp
      rw [again] at fresh ⊢
      rw [atLineStart_behind closes] at fresh
      rw [shape]
      exact (seamless more other after rest terminates fresh).shift closes

/-- Taking a line off, with nothing to be dropped behind its terminator. -/
theorem seamless_line {c : Char} {behind : Text} (within : ∀ c ∈ line, terminator c = false)
    (ends : terminator c = true) (kept : stripNewline behind = behind) :
    Seamless (line ++ c :: behind) coming ↔ line ≠ [] ∧ Seamless behind coming := by
  have shape : line ++ c :: behind = (line ++ [c]) ++ behind := by simp
  have closes := atLineStart_terminator ends line
  constructor
  · intro seamless
    constructor
    · rintro rfl
      exact (seamless [] c _ rfl ends rfl).behind rfl
    · rw [shape] at seamless
      apply seamless.behind closes
      intro other after split joined
      have apart := joined.together 0
      rw [List.take_zero, List.flatten_nil, List.append_nil] at apart
      cases behind with
      | nil => exact apart (List.append_nil _).symm
      | cons first behind =>
        obtain ⟨rfl, _⟩ := List.cons.inj split
        obtain rfl := joined.feed
        exact absurd (congrArg List.length kept) (by simp [stripNewline])
  · rintro ⟨some, seamless⟩ before other after split terminates fresh
    rw [List.append_assoc, List.cons_append] at split
    obtain ⟨more, rfl, tail⟩ := split_line some within terminates fresh split
    have again : line ++ c :: more = (line ++ [c]) ++ more := by simp
    rw [again] at fresh ⊢
    rw [atLineStart_behind closes] at fresh
    rw [shape]
    exact (seamless more other after tail terminates fresh).shift closes

/-- What comes next is as good as in the buffer, once no line is in it. -/
theorem seamless_more (within : ∀ c ∈ cmdLineBuf, terminator c = false) (text : Text) :
    Seamless cmdLineBuf (text :: coming) ↔ Seamless (cmdLineBuf ++ text) coming := by
  have stream : cmdLineBuf ++ (text :: coming).flatten = (cmdLineBuf ++ text) ++ coming.flatten := by
    simp
  have cuts : ∀ count, cmdLineBuf ++ ((text :: coming).take (count + 1)).flatten =
      (cmdLineBuf ++ text) ++ (coming.take count).flatten := by simp
  constructor
  · intro seamless before c after split ends fresh
    obtain ⟨feed, some, together, ended⟩ := seamless before c after (stream.trans split) ends fresh
    exact ⟨feed, some, fun count => cuts count ▸ together (count + 1), ended⟩
  · intro seamless before c after split ends fresh
    obtain ⟨feed, some, together, ended⟩ := seamless before c after (stream ▸ split) ends fresh
    refine ⟨feed, some, ?_, ended⟩
    intro count
    cases count with
    | zero =>
      rw [List.take_zero, List.flatten_nil, List.append_nil]
      rintro rfl
      exact absurd (fresh.symm.trans (atLineStart_within some within)) (by decide)
    | succ count => exact cuts count ▸ together count

/-- An empty line is read exactly if some terminator at the start of a line is not joined. -/
theorem empty_read_iff (cmdLineBuf : Text) (coming : List Text) :
    [] ∉ linesTo cmdLineBuf coming ↔ Seamless cmdLineBuf coming := by
  induction cmdLineBuf, coming using linesTo.induct with
  | case1 cmdLineBuf coming line rest taken inductionHypothesis =>
    obtain ⟨c, behind, ends, rfl, within, rfl⟩ := takeLine_split taken
    have taken' : Seamless (line ++ c :: behind) coming ↔
        line ≠ [] ∧ Seamless (stripNewline behind) coming := by
      unfold stripNewline
      split
      · exact seamless_feed within ends
      · rename_i other
        apply seamless_line within ends
        unfold stripNewline
        split
        · rename_i rest
          exact absurd rfl (other rest)
        · rfl
    rw [linesTo_taken taken, List.mem_cons, not_or, inductionHypothesis, taken', ne_comm]
  | case2 cmdLineBuf nothing =>
    rw [linesTo_over nothing]
    constructor
    · intro _ before c after split ends _
      have member : c ∈ cmdLineBuf := by
        rw [List.flatten_nil, List.append_nil] at split
        rw [split]
        simp
      exact absurd (ends.symm.trans (takeLine_within nothing c member)) (by decide)
    · simp
  | case3 cmdLineBuf nothing text coming inductionHypothesis =>
    rw [linesTo_more nothing, inductionHypothesis, seamless_more (takeLine_within nothing)]

end Joining

section Streams

/-! The lines that are read are those of the stream, and empty ones. -/

/-- A terminator in front gives an empty line. -/
theorem nonEmptyLines_terminator {c : Char} (ends : terminator c = true) (stream : Text) :
    nonEmptyLines (c :: stream) = nonEmptyLines stream := by
  unfold nonEmptyLines
  rw [Lines.complete_terminator ends]
  rfl

/-- The first line of a stream, and those behind it. -/
theorem nonEmptyLines_line {line : Text} (within : ∀ c ∈ line, terminator c = false) {c : Char}
    (ends : terminator c = true) (behind : Text) : nonEmptyLines (line ++ c :: behind) =
      [line].filter (fun line => !line.isEmpty) ++ nonEmptyLines behind := by
  unfold nonEmptyLines
  rw [Lines.complete_first (Lines.first_append within ends behind), ← List.filter_append]
  rfl

/-- The line feed that may be dropped ends an empty line. -/
theorem nonEmptyLines_feed (behind stream : Text) :
    nonEmptyLines (stripNewline behind ++ stream) = nonEmptyLines (behind ++ stream) := by
  unfold stripNewline
  split
  · exact (nonEmptyLines_terminator (by decide) _).symm
  · rfl

/-- However the stream is cut, the lines that are read are its lines, apart from empty ones. -/
theorem linesTo_nonEmpty (cmdLineBuf : Text) (coming : List Text) :
    (linesTo cmdLineBuf coming).filter (fun line => !line.isEmpty) =
      nonEmptyLines (cmdLineBuf ++ coming.flatten) := by
  induction cmdLineBuf, coming using linesTo.induct with
  | case1 cmdLineBuf coming line rest taken inductionHypothesis =>
    obtain ⟨c, behind, ends, rfl, within, rfl⟩ := takeLine_split taken
    rw [linesTo_taken taken, ← List.singleton_append, List.filter_append, inductionHypothesis,
      nonEmptyLines_feed, List.append_assoc, List.cons_append, nonEmptyLines_line within ends]
  | case2 cmdLineBuf nothing =>
    rw [linesTo_over nothing, List.flatten_nil, List.append_nil, nonEmptyLines,
      (Lines.of_first_none (Option.map_eq_none_iff.mp nothing)).1, List.filter_nil]
  | case3 cmdLineBuf nothing text coming inductionHypothesis =>
    rw [linesTo_more nothing, inductionHypothesis, List.flatten_cons, List.append_assoc]

/-- The lines that are read are those of the stream exactly if the reads are seamless. -/
theorem linesTo_stream_iff (coming : List Text) :
    linesTo [] coming = nonEmptyLines coming.flatten ↔ Seamless [] coming := by
  have filtered := linesTo_nonEmpty [] coming
  rw [List.nil_append] at filtered
  rw [← empty_read_iff, ← filtered, eq_comm, List.filter_eq_self]
  constructor
  · intro each empty
    exact absurd (each [] empty) (by decide)
  · intro none line member
    cases line with
    | nil => exact absurd member none
    | cons c line => rfl

end Streams

section Calls

/-- Successive calls, with these deadlines. -/
def readLines : List Nat → VaraRoutine (List (Except TransportError Text))
  | [] => pure []
  | deadline :: deadlines => do
    let result ← readCmdLine deadline
    let results ← readLines deadlines
    return result :: results

/-- The lines that were returned. -/
def okLines (results : List (Except TransportError Text)) : List Text :=
  results.filterMap Except.toOption

/-- A connected transport with an empty buffer. -/
def freshTransport (arriving : List Batch) (now : Nat) : VaraMoment := ⟨⟨true, [], arriving, now⟩, []⟩

/-- Whoever reads the command port, with these batches to come, reads these lines: successive
calls return nothing else, whatever times out, and all of them as long as nothing does; and
the waits for responses see them. -/
structure ReadAs (batches : List Batch) (lines : List Text) : Prop where
  order : ∀ start deadlines now left results, Leads varaExec anyRun (readLines deadlines)
    (freshTransport batches start) now left → left.Ends results → okLines results <+: lines
  all : ∀ start (schedule : Schedule) ending deadlines, start < schedule.limit 0 →
    (∀ deadline ∈ deadlines, ∀ count, schedule.limit count ≤ deadline) →
    Settles varaExec (InTime schedule ending) (fun results _ =>
      okLines results = lines.take deadlines.length) (readLines deadlines) (freshTransport batches start)
  accepting : ∀ start (schedule : Schedule) ending, start < schedule.limit 0 → schedule.Fits start →
    Settles varaExec (InTime schedule ending) (fun result _ => result = okResult ending lines)
      awaitOk.run (freshTransport batches start)
  opening : ∀ start (schedule : Schedule) ending config, start < schedule.limit 0 →
    schedule.Fits start → Settles varaExec (InTime schedule ending) (fun result _ =>
      result = sessionResult ending lines) (openSession config).run (freshTransport batches start)

variable {lines : List Text} {start count : Nat} {schedule : Schedule} {ending : Ending}
variable {now : VaraMoment}

/-- Whatever the modem answers, the lines that calls return are the first of those that come. -/
theorem readLines_triple (deadlines : List Nat) : anyAnswers.Triple () (Ahead lines)
    (readLines deadlines) fun results _ => okLines results <+: lines := by
  induction deadlines generalizing lines with
  | nil => exact triple_done (stable_alone _) fun _ _ => List.nil_prefix
  | cons deadline deadlines inductionHypothesis =>
    apply triple_bind _ (readCmdLine_triple deadline)
    intro result now following
    cases result with
    | error err =>
      have rest : anyAnswers.Triple () (Ahead lines) (do
          let results ← readLines deadlines
          return .error err :: results) fun results _ => okLines results <+: lines :=
        triple_bind _ inductionHypothesis fun results => triple_done (stable_alone _) fun _ => id
      exact rest now following
    | ok line =>
      obtain ⟨others, rfl, ahead⟩ := following
      have rest : anyAnswers.Triple () (Ahead others) (do
          let results ← readLines deadlines
          return .ok line :: results) fun results _ => okLines results <+: line :: others :=
        triple_bind _ inductionHypothesis fun results => triple_done (stable_alone _)
          fun _ begins => List.cons_prefix_cons.mpr ⟨rfl, begins⟩
      exact rest now ahead

/-- If the modem answers in time, then each call returns a line as long as there are any. -/
theorem readLines_settles (deadlines : List Nat)
    (late : ∀ deadline ∈ deadlines, ∀ count, schedule.limit count ≤ deadline)
    (timely : Timely start schedule count lines now) :
    Settles varaExec (InTime schedule ending) (fun results _ =>
      okLines results = lines.take deadlines.length) (readLines deadlines) now := by
  induction deadlines generalizing lines count now with
  | nil => exact .ended (.done _) rfl
  | cons deadline deadlines inductionHypothesis =>
    obtain ⟨first, others⟩ := List.forall_mem_cons.mp late
    apply (readCmdLine_settles timely (first count)).bind
    rintro _ later ⟨rfl, count, left⟩
    apply (inductionHypothesis others left).bind
    intro results last same
    apply Settles.ended (.done _)
    cases lines with
    | nil => simpa [okLines, nextLine, Except.toOption] using same
    | cons line lines => simpa [okLines, nextLine, Except.toOption] using same

/-- The lines in the buffer and to come are read by all of them. -/
theorem readAs_linesTo (batches : List Batch) : ReadAs batches (linesTo [] (texts batches)) := by
  have timely : ∀ start (schedule : Schedule), start < schedule.limit 0 →
      Timely start schedule 0 (linesTo [] (texts batches)) (freshTransport batches start) :=
    fun start schedule early => ⟨rfl, Nat.le_refl _, rfl, early, rfl⟩
  constructor
  · intro start deadlines now left results leads ends
    have safe : anyAnswers.Safe () (readLines deadlines)
        (fun results _ => okLines results <+: linesTo [] (texts batches))
        (freshTransport batches start) := readLines_triple deadlines _ rfl
    exact (alone leads trivial safe).2.ends ends
  · exact fun start schedule ending deadlines early late =>
      readLines_settles deadlines late (timely start schedule early)
  · intro start schedule ending early fits
    exact (awaitOk_settles (timely start schedule early) fits).mono fun _ _ settled => settled.1
  · exact fun start schedule ending config early fits =>
      openSession_settles config (timely start schedule early) fits

/-- No other lines are read. -/
theorem ReadAs.unique {batches : List Batch} (readAs : ReadAs batches lines) :
    linesTo [] (texts batches) = lines := by
  have same : ∀ count, (linesTo [] (texts batches)).take count = lines.take count := by
    intro count
    have late : ∀ deadline ∈ List.replicate count 1, ∀ _ : Nat, 1 ≤ deadline := by
      intro deadline member _
      rw [List.eq_of_mem_replicate member]
    have one := readAs.all 0 ⟨fun _ => 1, fun _ => Nat.le_refl _⟩ .silent _ Nat.one_pos late
    have two := (readAs_linesTo batches).all 0 ⟨fun _ => 1, fun _ => Nat.le_refl _⟩ .silent _
      Nat.one_pos late
    obtain ⟨later, left, results, leads, ends, first⟩ := one.reached
    have second := two.ends leads ends
    rw [List.length_replicate] at first second
    exact second.symm.trans first
  have long := same (max (linesTo [] (texts batches)).length lines.length)
  rwa [List.take_of_length_le (Nat.le_max_left _ _), List.take_of_length_le (Nat.le_max_right _ _)]
    at long

end Calls

section Cuts

variable {batches : List Batch} {lines : List Text}

/-- The bytes of the stream that is cut into these reads. -/
def streamOf (batches : List Batch) : Bytes := batches.flatMap Batch.bytes

/-- In ASCII, the texts of the reads are the text of the stream. -/
theorem texts_stream (ascii : ∀ b ∈ streamOf batches, b.toNat < 0x80) :
    (texts batches).flatten = Utf8.lossy (streamOf batches) := by
  rw [Utf8.lossy_ascii _ ascii]
  induction batches with
  | nil => rfl
  | cons batch batches inductionHypothesis =>
    have whole : streamOf (batch :: batches) = batch.bytes ++ streamOf batches := rfl
    rw [whole] at ascii ⊢
    rw [texts, List.map_cons, List.flatten_cons, List.map_append,
      Utf8.lossy_ascii _ fun b member => ascii b (List.mem_append_left _ member)]
    congr 1
    exact inductionHypothesis fun b member => ascii b (List.mem_append_right _ member)

/-- If an ASCII stream is read as its lines, then no cut in it separates a carriage return from
the line feed behind it. -/
theorem ReadAs.seamless (ascii : ∀ b ∈ streamOf batches, b.toNat < 0x80)
    (readAs : ReadAs batches (nonEmptyLines (Utf8.lossy (streamOf batches)))) :
    Seamless [] (texts batches) := by
  rw [← texts_stream ascii] at readAs
  exact (linesTo_stream_iff _).mp readAs.unique

/-- A stream of ASCII is read as its lines that are not empty exactly if the reads are
seamless, so that any such reads of it give the same lines.

The lines that are read are those of each batch in turn. They are those of the stream exactly if
no cut gives an empty line, and empty lines are all that could differ. -/
theorem lines_read_iff (batches : List Batch) (ascii : ∀ b ∈ streamOf batches, b.toNat < 0x80) :
    ReadAs batches (nonEmptyLines (Utf8.lossy (streamOf batches))) ↔ Seamless [] (texts batches) := by
  constructor
  · exact ReadAs.seamless ascii
  · intro seamless
    rw [← texts_stream ascii, ← (linesTo_stream_iff _).mpr seamless]
    exact readAs_linesTo batches

/-- A response, and the first half of another one. -/
def frontBatch : Batch := ⟨ascii "OK\r\nBUF", by decide, by decide⟩

/-- The rest of the line, with its terminator. -/
def backBatch : Batch := ⟨ascii "FER 0\r", by decide, by decide⟩

/-- A line feed on its own. -/
def feedBatch : Batch := ⟨ascii "\n", by decide, by decide⟩

/-- The cut goes through a line, and both lines are taken whole. -/
theorem cut_lines :
    linesTo [] (texts [frontBatch, backBatch]) = ["OK".toList, "BUFFER 0".toList] := by
  have decoded : texts [frontBatch, backBatch] = ["OK\r\nBUF".toList, "FER 0\r".toList] := by
    decide +kernel
  have first : takeLine "OK\r\nBUF".toList = some ("OK".toList, "BUF".toList) := by decide
  have second : takeLine "BUFFER 0\r".toList = some ("BUFFER 0".toList, []) := by decide
  calc linesTo [] (texts [frontBatch, backBatch])
      = linesTo "OK\r\nBUF".toList ["FER 0\r".toList] := by
        rw [decoded]
        exact linesTo_more rfl _ _
    _ = "OK".toList :: linesTo "BUF".toList ["FER 0\r".toList] := linesTo_taken first _
    _ = "OK".toList :: linesTo "BUFFER 0\r".toList [] := by
        rw [linesTo_more (by decide)]
        rfl
    _ = ["OK".toList, "BUFFER 0".toList] := by
        rw [linesTo_taken second, linesTo_over rfl]

/-- A cut through a line does not matter, and one in front of a line feed does. -/
theorem lines_read_iff_sample :
    ReadAs [frontBatch, backBatch] (nonEmptyLines (Utf8.lossy (streamOf [frontBatch, backBatch]))) ∧
      ¬ ReadAs [okBatch, feedBatch] (nonEmptyLines (Utf8.lossy (streamOf [okBatch, feedBatch]))) := by
  constructor
  · apply (lines_read_iff [frontBatch, backBatch] (by decide +kernel)).mpr
    apply (linesTo_stream_iff (texts [frontBatch, backBatch])).mp
    rw [cut_lines]
    decide +kernel
  · intro readAs
    have seamless := (lines_read_iff [okBatch, feedBatch] (by decide +kernel)).mp readAs
    have joined := seamless "OK\r".toList '\n' [] (by decide +kernel) (by decide +kernel)
      (by decide +kernel)
    exact absurd (by decide +kernel) (joined.together 1)

/-- The carriage return and the line feed behind a response come in two reads. -/
theorem lines_misread : ¬ ∀ batches : List Batch, (∀ b ∈ streamOf batches, b.toNat < 0x80) →
    ReadAs batches (nonEmptyLines (Utf8.lossy (streamOf batches))) := by
  intro every
  have seamless := (every [okBatch, feedBatch] (by decide +kernel)).seamless (by decide +kernel)
  have joined := seamless "OK\r".toList '\n' [] (by decide +kernel) (by decide +kernel) (by decide +kernel)
  exact absurd (by decide +kernel) (joined.together 1)

end Cuts

end PacketBrowser.Vara
