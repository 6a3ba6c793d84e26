import PacketBrowser.Foundation.Expand
import PacketBrowser.Foundation.JsonStream
import PacketBrowser.Server.Responses

/-!
# The access log on disk

All sessions append to one file, and no lock keeps them apart. An entry is opened for, its
object is written and then its line feed, each by as many system calls as the operating
system needs. Between any two of them another session may write.

As long as the operating system writes what it is given in one piece, or nothing of it, the
file can be read back as a stream of JSON values at every moment: its values are those of
the entries written so far. Each session's own entries stand there in its order, and none is
missing but the one that is being written, unless one of its calls has failed. What may be
lost is only which line an entry stands on.
-/

namespace PacketBrowser.Server

open Protocol Foundation

section Lines

/-- How a status is written. -/
def LogStatus.word : LogStatus → Text
  | .ok => "ok".toList
  | .blocked => "blocked".toList
  | .error => "error".toList
  | .agreed => "agreed".toList

/-- An entry with its time, as the library that keeps the time writes it. -/
structure Record where
  ts : Text
  entry : LogEntry
  deriving DecidableEq

/-- The members of an entry; the reason is left out where there is none. -/
def Record.value (record : Record) : Json.Value :=
  .object ([("ts".toList, .string record.ts), ("call".toList, .string record.entry.call),
    ("url".toList, .string record.entry.url), ("status".toList, .string record.entry.status.word)] ++
    (record.entry.reason.map fun reason => ("reason".toList, .string reason)).toList)

/-- The line of an entry. -/
def Record.toJson (record : Record) : Text := Json.print record.value

end Lines

section Calls

/-- What a session does on its own, and what it does to the log. -/
inductive SharedOp where
  | session (who : Nat) (op : Op)
  /-- An entry is created, and takes the time. -/
  | stamp (entry : LogEntry)
  | openLog
  | append (bytes : Bytes)
  deriving DecidableEq

/-- How one system call ends that appends to the file. -/
inductive Appended where
  | wrote (count : Nat)
  | interrupted
  | failed (err : IoError)
  deriving DecidableEq

/-- What the world answers to an operation. -/
abbrev SharedAnswer : SharedOp → Type
  | .session _ op => Answer op
  | .stamp _ => Text
  | .openLog => Except IoError Unit
  | .append _ => Appended

/-- Each session has its own connection, and the file is shared. -/
structure SharedWorld where
  sessions : Nat → World
  file : Bytes

/-- What a call adds to the file. -/
def Appended.bytes (bytes : Bytes) : Appended → Bytes
  | .wrote count => bytes.take count
  | _ => []

/-- The world may give this answer: what the session's own world may give, and no more bytes
written than there are. -/
def SharedWorld.gives (world : SharedWorld) : (op : SharedOp) → SharedAnswer op → Bool
  | .session who op, answer => (world.sessions who).gives op answer
  | .append bytes, .wrote count => decide (count ≤ bytes.length)
  | _, _ => true

/-- The world behind the operation. -/
def SharedWorld.apply (world : SharedWorld) : (op : SharedOp) → SharedAnswer op → SharedWorld
  | .session who op, answer =>
    let session := (world.sessions who).apply op answer
    { world with sessions := Function.update world.sessions who session }
  | .append bytes, answer => { world with file := world.file ++ answer.bytes bytes }
  | _, _ => world

/-- The world after an answered operation; none where the answer is impossible. -/
def sharedExec (op : SharedOp) (answer : SharedAnswer op) (world : SharedWorld) :
    Option SharedWorld :=
  if world.gives op answer then some (world.apply op answer) else none

/-- An operation occurs exactly if the world gives the answer, and then changes as it says. -/
theorem sharedExec_iff {op : SharedOp} {answer : SharedAnswer op} {world after : SharedWorld} :
    sharedExec op answer world = some after ↔
      world.gives op answer = true ∧ after = world.apply op answer := by
  unfold sharedExec
  by_cases possible : world.gives op answer = true
  · simp only [possible, if_true, Option.some.injEq, true_and]
    exact eq_comm
  · simp [possible]

/-- An operation of a session and its answer. -/
abbrev SharedEvent := Event Nat SharedAnswer

/-- The world at a moment, and what has happened. -/
abbrev SharedMoment := Snapshot SharedWorld Nat SharedAnswer

/-- What a session does. -/
abbrev SharedRoutine := Program SharedOp SharedAnswer

/-- Perform one operation. -/
abbrev askShared (op : SharedOp) : SharedRoutine (SharedAnswer op) := Program.ask op

end Calls

section Writing

/-- The error of a file that takes nothing. -/
def writeZero : IoError := ⟨.other, "failed to write whole buffer".toList⟩

/-- One call of `write_all`. -/
def writeSome (rest : Bytes) : SharedRoutine (Bytes ⊕ Except IoError Unit) :=
  if rest = [] then return .inr (.ok ())
  else do
    let written ← askShared (.append rest)
    match (written : Appended) with
    | .wrote 0 => return .inr (.error writeZero)
    | .wrote count => return .inl (rest.drop count)
    | .interrupted => return .inl rest
    | .failed err => return .inr (.error err)

/-- Write until all bytes are written. -/
def writeAll (bytes : Bytes) : ExceptT IoError SharedRoutine Unit :=
  ExceptT.mk (Program.loop writeSome bytes)

/-- The object of an entry and a line feed, written one after the other. -/
def logRecord (record : Record) : ExceptT IoError SharedRoutine Unit := do
  ExceptT.mk (askShared .openLog)
  writeAll (Utf8.encode record.toJson)
  writeAll (Utf8.encode ['\n'])

/-- How an operation of a session is performed: an entry goes to the file. -/
def sharing (who : Nat) : (op : Op) → SharedRoutine (Answer op)
  | .log entry => do
    let ts ← askShared (.stamp entry)
    let result ← (logRecord ⟨ts, entry⟩).run
    return ⟨result, 0⟩
  | op => askShared (.session who op)

end Writing

section Records

/-- The entry that was created. -/
def created : SharedEvent → Option (Nat × Record)
  | ⟨who, .stamp entry, ts⟩ => some (who, ⟨ts, entry⟩)
  | _ => none

/-- The entries that were created, the newest one last, with their sessions. -/
def stamped : List SharedEvent → List (Nat × Record)
  | [] => []
  | event :: earlier => stamped earlier ++ (created event).toList

/-- What one session has of such a list. -/
def mine (who : Nat) (list : List (Nat × Record)) : List Record :=
  (list.filter fun record => record.1 == who).map Prod.snd

/-- The entry whose object was written: it is the newest one of the session. -/
def inscribed (before : List (Nat × Record)) : SharedEvent → Option (Nat × Record)
  | ⟨who, .append bytes, .wrote _⟩ =>
    ((mine who before).getLast?.filter fun line =>
      bytes == Utf8.encode line.toJson).map fun line => (who, line)
  | _ => none

/-- The entries whose objects were written, in the order of the file. -/
def recorded : List SharedEvent → List (Nat × Record)
  | [] => []
  | event :: earlier => recorded earlier ++ (inscribed (stamped earlier) event).toList

/-- A call to the log that failed. -/
def fails : SharedEvent → Bool
  | ⟨_, .openLog, .error _⟩ => true
  | ⟨_, .append _, .failed _⟩ => true
  | ⟨_, .append _, .wrote 0⟩ => true
  | _ => false

/-- No call of this session to the log has failed. -/
def Unfailed (who : Nat) (history : List SharedEvent) : Prop :=
  ∀ event ∈ history, event.thread = who → fails event = false

end Records

section Keeping

/-- What is written in one call is written as a whole, or not at all. -/
def InOnePiece : SharedMoment → SharedEvent → Prop
  | _, ⟨_, .append bytes, .wrote count⟩ => count = bytes.length
  | _, _ => True

/-- Objects and line feeds in the order of the file. -/
def streamText (pieces : List (Option Record)) : Text :=
  pieces.flatMap fun piece => Json.pieceText (piece.map Record.value)

/-- What is known of the log at every moment. -/
structure LogKept (now : SharedMoment) : Prop where
  reads : ∃ pieces : List (Option Record), now.world.file = Utf8.encode (streamText pieces) ∧
    pieces.reduceOption = (recorded now.history).map Prod.snd
  orders : ∀ who, (mine who (recorded now.history)).Sublist (mine who (stamped now.history))
  misses : ∀ who, Unfailed who now.history → ∃ due : List Record, due.length ≤ 1 ∧
    mine who (stamped now.history) = mine who (recorded now.history) ++ due

/-- What one session still has to write. -/
def Due (who : Nat) (due : List Record) (now : SharedMoment) : Prop :=
  ∃ before, mine who (stamped now.history) = before ++ due ∧
    (mine who (recorded now.history)).Sublist before ∧
    (Unfailed who now.history → mine who (recorded now.history) = before)

/-- Sessions whose appends take all their bytes or none keep the log. -/
def keeping : Setting SharedWorld Nat SharedAnswer := ⟨sharedExec, InOnePiece, LogKept⟩

variable {who other : Nat} {now later : SharedMoment} {event : SharedEvent}
variable {due : List Record} {record : Record}

/-- A session's own of two lists. -/
theorem mine_append (first second : List (Nat × Record)) :
    mine who (first ++ second) = mine who first ++ mine who second := by
  simp [mine]

/-- A session inscribes its own entry. -/
theorem inscribed_own {before : List (Nat × Record)} {found : Nat × Record}
    (inscribes : inscribed before event = some found) : found.1 = event.thread := by
  obtain ⟨thread, op, answer⟩ := event
  cases op with
  | append bytes =>
    cases answer with
    | wrote count =>
      obtain ⟨record, -, rfl⟩ := Option.map_eq_some_iff.mp inscribes
      rfl
    | interrupted => exact absurd inscribes (by simp [inscribed])
    | failed err => exact absurd inscribes (by simp [inscribed])
  | _ => exact absurd inscribes (by simp [inscribed])

/-- A session creates its own entry. -/
theorem created_own {found : Nat × Record} (creates : created event = some found) :
    found.1 = event.thread := by
  obtain ⟨thread, op, answer⟩ := event
  cases op with
  | stamp entry =>
    obtain rfl := Option.some.inj creates
    rfl
  | _ => exact absurd creates (by simp [created])

/-- What another session does is not among one's own. -/
theorem mine_apart {found : Option (Nat × Record)} (apart : event.thread ≠ other)
    (own : ∀ record ∈ found, record.1 = event.thread) : mine other found.toList = [] := by
  cases found with
  | none => rfl
  | some record =>
    have different : record.1 ≠ other := own record rfl ▸ apart
    simp [mine, different]

/-- What another session does leaves this one's entries. -/
theorem mine_others (history : List SharedEvent) (apart : event.thread ≠ other) :
    mine other (stamped (event :: history)) = mine other (stamped history) ∧
      mine other (recorded (event :: history)) = mine other (recorded history) := by
  simp only [stamped, recorded, mine_append, mine_apart apart fun _ => created_own,
    mine_apart apart fun _ => inscribed_own, List.append_nil, and_self]

/-- Where no call has failed, none had. -/
theorem unfailed_earlier {history : List SharedEvent} (unfailed : Unfailed who (event :: history)) :
    Unfailed who history := fun earlier member => unfailed earlier (List.mem_cons_of_mem _ member)

/-- What a session has to write does not depend on the others. -/
theorem due_stable (who : Nat) (due : List Record) : keeping.Stable who (Due who due) := by
  rintro before after ⟨written, stamps, sublist, whole⟩ ⟨event, apart, moves, -⟩
  obtain ⟨same, kept⟩ := mine_others before.history apart
  refine ⟨written, ?_, ?_, ?_⟩
  · rw [moves.occurs.2, same, stamps]
  · rw [moves.occurs.2, kept]
    exact sublist
  · intro unfailed
    rw [moves.occurs.2] at unfailed ⊢
    rw [kept]
    exact whole (unfailed_earlier unfailed)

/-- A step keeps the log, if the file still reads as it should and what the session has to
write is at most one entry. -/
theorem LogKept.step (kept : LogKept now) (history : later.history = event :: now.history)
    (reads : ∃ pieces : List (Option Record),
      later.world.file = Utf8.encode (streamText pieces) ∧
        pieces.reduceOption = (recorded later.history).map Prod.snd)
    (owes : Due event.thread due later) (few : due.length ≤ 1) : LogKept later := by
  obtain ⟨before, stamps, sublist, whole⟩ := owes
  refine ⟨reads, ?_, ?_⟩
  · intro other
    by_cases apart : event.thread = other
    · subst apart
      rw [stamps]
      exact sublist.trans (List.sublist_append_left before due)
    · obtain ⟨same, earlier⟩ := mine_others now.history apart
      rw [history, same, earlier]
      exact kept.orders other
  · intro other unfailed
    by_cases apart : event.thread = other
    · subst apart
      exact ⟨due, few, by rw [stamps, whole unfailed]⟩
    · obtain ⟨same, earlier⟩ := mine_others now.history apart
      rw [history] at unfailed ⊢
      rw [same, earlier]
      exact kept.misses other (unfailed_earlier unfailed)

/-- Nothing is due after a failure. -/
theorem Due.forgiven (owes : Due who due now) (failed : ¬ Unfailed who now.history) :
    Due who [] now := by
  obtain ⟨before, stamps, sublist, whole⟩ := owes
  refine ⟨before ++ due, by rw [stamps, List.append_nil], ?_,
    fun unfailed => absurd unfailed failed⟩
  exact sublist.trans (List.sublist_append_left before due)

/-- An event that neither creates an entry nor writes one leaves what is due. -/
theorem Due.quiet (owes : Due who due now) (history : later.history = event :: now.history)
    (creates : created event = none) (inscribes : inscribed (stamped now.history) event = none) :
    Due who due later := by
  obtain ⟨before, stamps, sublist, whole⟩ := owes
  have same : stamped later.history = stamped now.history ∧
      recorded later.history = recorded now.history := by
    rw [history]
    simp only [stamped, recorded, creates, inscribes, Option.toList_none, List.append_nil, and_self]
  refine ⟨before, by rw [same.1, stamps], by rw [same.2]; exact sublist, fun unfailed => ?_⟩
  rw [history] at unfailed
  rw [same.2]
  exact whole (unfailed_earlier unfailed)

/-- Such an event keeps the log, if it leaves the file alone. -/
theorem LogKept.quiet (kept : LogKept now) (history : later.history = event :: now.history)
    (file : later.world.file = now.world.file) (creates : created event = none)
    (inscribes : inscribed (stamped now.history) event = none) (owes : Due event.thread due now)
    (few : due.length ≤ 1) : LogKept later ∧ Due event.thread due later := by
  have later' := owes.quiet history creates inscribes
  refine ⟨kept.step history ?_ later' few, later'⟩
  obtain ⟨pieces, text, records⟩ := kept.reads
  refine ⟨pieces, file.trans text, ?_⟩
  rw [history, recorded, inscribes, Option.toList_none, List.append_nil, records]

/-- A move is an answer that the world gives, and what becomes of the world. -/
theorem moved (moves : keeping.Moves now event later) :
    now.world.gives event.op event.answer = true ∧
      later.world = now.world.apply event.op event.answer := sharedExec_iff.mp moves.occurs.1

/-- The entries of a session are its own affair: what it does otherwise owes nothing. -/
theorem session_kept (who : Nat) (op : Op) :
    keeping.Triple who (Due who []) (askShared (.session who op)) fun _ => Due who [] := by
  apply Setting.triple_ask (due_stable who []) fun _ => due_stable who []
  intro now answer later owes moves
  have file : later.world.file = now.world.file := by
    rw [(moved moves).2]
    rfl
  exact moves.inv.quiet moves.occurs.2 file rfl rfl owes (Nat.zero_le 1)

/-- Behind its stamp an entry is due. -/
theorem stamp_kept (who : Nat) (entry : LogEntry) :
    keeping.Triple who (Due who []) (askShared (.stamp entry))
      fun ts => Due who [⟨ts, entry⟩] := by
  apply Setting.triple_ask (due_stable who []) fun ts => due_stable who _
  intro now ts later owes moves
  have history : later.history = ⟨who, .stamp entry, ts⟩ :: now.history := moves.occurs.2
  obtain ⟨before, stamps, sublist, whole⟩ := owes
  have later' : Due who [⟨ts, entry⟩] later := by
    refine ⟨before, ?_, ?_, fun unfailed => ?_⟩
    · rw [history, stamped, mine_append, stamps, List.append_nil]
      simp [created, mine]
    · rw [history, recorded]
      simpa [inscribed] using sublist
    · rw [history] at unfailed ⊢
      simpa [recorded, inscribed] using whole (unfailed_earlier unfailed)
  refine ⟨moves.inv.step history ?_ later' (Nat.le_refl 1), later'⟩
  obtain ⟨pieces, text, records⟩ := moves.inv.reads
  refine ⟨pieces, ?_, ?_⟩
  · rw [(moved moves).2]
    exact text
  · rw [history, recorded, records]
    simp [inscribed]

/-- A call that failed is remembered. -/
theorem failed_now (history : later.history = event :: now.history)
    (fails : fails event = true) : ¬ Unfailed event.thread later.history := by
  intro unfailed
  rw [history] at unfailed
  exact absurd (unfailed event List.mem_cons_self rfl) (by rw [fails]; decide)

/-- An entry is due only if the log is open. -/
theorem openLog_kept (who : Nat) (record : Record) :
    keeping.Triple who (Due who [record]) (askShared .openLog) fun result =>
      Due who (match result with
        | .ok () => [record]
        | .error _ => []) := by
  apply Setting.triple_ask (due_stable who [record]) fun result => due_stable who _
  intro now result later owes moves
  have file : later.world.file = now.world.file := by
    rw [(moved moves).2]
    rfl
  obtain ⟨kept, owed⟩ := moves.inv.quiet moves.occurs.2 file rfl rfl owes (Nat.le_refl 1)
  refine ⟨kept, ?_⟩
  cases result with
  | ok _ => exact owed
  | error err => exact owed.forgiven (failed_now moves.occurs.2 rfl)

/-- A line begins with a brace. -/
theorem toJson_head (record : Record) : ∃ rest, record.toJson = '\x7b' :: rest :=
  ⟨_, by rw [Record.toJson, Record.value, Json.print]⟩

/-- The text of an entry is not empty and not a line feed. -/
theorem toJson_apart (record : Record) :
    Utf8.encode record.toJson ≠ [] ∧ Utf8.encode ['\n'] ≠ Utf8.encode record.toJson := by
  obtain ⟨rest, text⟩ := toJson_head record
  rw [text, Utf8.encode_cons]
  have first : String.utf8EncodeChar '\x7b' = [123] := by decide
  have feed : Utf8.encode ['\n'] = [10] := by decide
  rw [first, feed]
  constructor
  · simp
  · simp

/-- The text of one more piece. -/
theorem streamText_append (pieces : List (Option Record)) (piece : Option Record) :
    streamText (pieces ++ [piece]) =
      streamText pieces ++ Json.pieceText (piece.map Record.value) := by
  simp [streamText]

/-- One more piece is written at the end of the file. -/
theorem reads_more {piece : Option Record} {count : Nat} {bytes : Bytes}
    (reads : ∃ pieces : List (Option Record), now.world.file = Utf8.encode (streamText pieces) ∧
      pieces.reduceOption = (recorded now.history).map Prod.snd)
    (moves : keeping.Moves now ⟨who, .append bytes, .wrote count⟩ later)
    (text : bytes = Utf8.encode (Json.pieceText (piece.map Record.value)))
    (records : (inscribed (stamped now.history) ⟨who, .append bytes, .wrote count⟩).map Prod.snd =
      piece) :
    ∃ pieces : List (Option Record), later.world.file = Utf8.encode (streamText pieces) ∧
      pieces.reduceOption = (recorded later.history).map Prod.snd := by
  obtain ⟨pieces, file, same⟩ := reads
  have whole : count = bytes.length := moves.met
  refine ⟨pieces ++ [piece], ?_, ?_⟩
  · rw [(moved moves).2, streamText_append, Utf8.encode_append, ← file, ← text]
    simp [SharedWorld.apply, Appended.bytes, whole]
  · rw [moves.occurs.2, recorded, List.map_append, ← same, List.reduceOption_append]
    congr 1
    rw [← records]
    cases inscribed (stamped now.history) ⟨who, .append bytes, .wrote count⟩ with
    | none => rfl
    | some found => rfl

/-- The next call to write: it writes everything, or it leaves what is due, or it fails and
nothing is due. -/
theorem append_kept {bytes : Bytes} {piece : Option Record} (few : due.length ≤ 1)
    (text : bytes = Utf8.encode (Json.pieceText (piece.map Record.value)))
    (writes : ∀ now count, Due who due now →
      (inscribed (stamped now.history) ⟨who, .append bytes, .wrote count⟩).map Prod.snd = piece)
    (settles : ∀ now later count, Due who due now → later.history =
      ⟨who, .append bytes, .wrote count⟩ :: now.history → Due who [] later) :
    keeping.Triple who (Due who due) (askShared (.append bytes)) fun answer now =>
      match (answer : Appended) with
      | .wrote count => count = bytes.length ∧ Due who [] now
      | .interrupted => Due who due now
      | .failed _ => Due who [] now := by
  apply Setting.triple_ask (due_stable who due)
  · rintro (count | _ | err)
    · exact (Setting.stable_const _).and (due_stable who [])
    · exact due_stable who due
    · exact due_stable who []
  rintro now (count | _ | err) later owes moves
  · have owed := settles now later count owes moves.occurs.2
    have whole : count = bytes.length := moves.met
    exact ⟨moves.inv.step moves.occurs.2 (reads_more moves.inv.reads moves text
      (writes now count owes)) owed (Nat.zero_le 1), whole, owed⟩
  · have file : later.world.file = now.world.file := by
      rw [(moved moves).2]
      simp [SharedWorld.apply, Appended.bytes]
    exact moves.inv.quiet moves.occurs.2 file rfl rfl owes few
  · have file : later.world.file = now.world.file := by
      rw [(moved moves).2]
      simp [SharedWorld.apply, Appended.bytes]
    obtain ⟨kept, owed⟩ := moves.inv.quiet moves.occurs.2 file rfl rfl owes few
    exact ⟨kept, owed.forgiven (failed_now moves.occurs.2 rfl)⟩

/-- All of a piece is written, however often the call has to be repeated. -/
theorem writeAll_kept (due : List Record) (bytes : Bytes) (piece : Option Record)
    (few : due.length ≤ 1)
    (filled : bytes ≠ []) (text : bytes = Utf8.encode (Json.pieceText (piece.map Record.value)))
    (writes : ∀ now count, Due who due now →
      (inscribed (stamped now.history) ⟨who, .append bytes, .wrote count⟩).map Prod.snd = piece)
    (settles : ∀ now later count, Due who due now → later.history =
      ⟨who, .append bytes, .wrote count⟩ :: now.history → Due who [] later) :
    keeping.Triple who (Due who due) (writeAll bytes).run fun _ => Due who [] := by
  let assertion (rest : Bytes) (now : SharedMoment) : Prop :=
    (rest = bytes ∧ Due who due now) ∨ (rest = [] ∧ Due who [] now)
  have stable (rest : Bytes) : keeping.Stable who (assertion rest) :=
    ((Setting.stable_const _).and (due_stable who due)).or
      ((Setting.stable_const _).and (due_stable who []))
  apply (Setting.triple_loop assertion stable (fun _ => due_stable who []) (fun rest => ?_)
    bytes).consequence (fun now owes => .inl ⟨rfl, owes⟩) fun _ _ => id
  rcases eq_or_ne rest [] with rfl | more
  · apply Setting.triple_done (due_stable who [])
    rintro now (⟨same, -⟩ | ⟨-, owes⟩)
    · exact absurd same.symm filled
    · exact owes
  · intro now holds
    obtain ⟨rfl, owes⟩ : rest = bytes ∧ Due who due now :=
      holds.resolve_right fun done => more done.1
    unfold writeSome
    rw [if_neg more]
    refine Setting.triple_bind _ (append_kept few text writes settles) ?_ now owes
    rintro (count | _ | err)
    · cases count with
      | zero => exact fun now holds => absurd (List.eq_nil_of_length_eq_zero holds.1.symm) more
      | succ count =>
        apply Setting.triple_done
        · exact stable (rest.drop (count + 1))
        · rintro now ⟨all, owed⟩
          exact .inr ⟨List.drop_of_length_le (by omega), owed⟩
    · apply Setting.triple_done
      · exact stable rest
      · exact fun now owed => .inl ⟨rfl, owed⟩
    · exact Setting.triple_done (due_stable who []) fun _ => id

/-- The object of the entry that is due. -/
theorem writeObject_kept (who : Nat) (record : Record) :
    keeping.Triple who (Due who [record]) (writeAll (Utf8.encode record.toJson)).run
      fun _ => Due who [] := by
  have newest (now : SharedMoment) (count : Nat) (owes : Due who [record] now) :
      inscribed (stamped now.history)
        ⟨who, .append (Utf8.encode record.toJson), .wrote count⟩ = some (who, record) := by
    obtain ⟨before, stamps, -⟩ := owes
    simp [inscribed, stamps]
  apply writeAll_kept [record] _ (some record) (Nat.le_refl 1) (toJson_apart record).1 rfl
  · intro now count owes
    rw [newest now count owes]
    rfl
  · intro now later count owes history
    have inscribes := newest now count owes
    obtain ⟨before, stamps, sublist, whole⟩ := owes
    have stays : stamped later.history = stamped now.history := by
      rw [history]
      exact List.append_nil _
    have grows : mine who (recorded later.history) =
        mine who (recorded now.history) ++ [record] := by
      rw [history, recorded, inscribes, mine_append]
      simp [mine]
    refine ⟨before ++ [record], by rw [stays, stamps, List.append_nil], ?_, fun unfailed => ?_⟩
    · rw [grows]
      exact sublist.append (List.Sublist.refl _)
    · rw [history] at unfailed
      rw [grows, whole (unfailed_earlier unfailed)]

/-- The line feed behind it. -/
theorem writeFeed_kept (who : Nat) :
    keeping.Triple who (Due who []) (writeAll (Utf8.encode ['\n'])).run fun _ => Due who [] := by
  have nothing (before : List (Nat × Record)) (count : Nat) :
      inscribed before ⟨who, .append (Utf8.encode ['\n']), .wrote count⟩ = none := by
    cases newest : (mine who before).getLast? with
    | none => simp [inscribed, newest]
    | some record =>
      have other : (Utf8.encode ['\n'] == Utf8.encode record.toJson) = false :=
        beq_false_of_ne (toJson_apart record).2
      simp only [inscribed, newest, Option.filter_some, other, Bool.false_eq_true, if_false,
        Option.map_none]
  apply writeAll_kept [] (Utf8.encode ['\n']) none (Nat.zero_le 1) (by decide) rfl
  · intro now count _
    rw [nothing]
    rfl
  · intro now later count owes history
    exact owes.quiet history rfl (nothing _ count)

/-- Behind logging nothing is due. -/
theorem logRecord_kept (who : Nat) (record : Record) :
    keeping.Triple who (Due who [record]) (logRecord record).run fun _ => Due who [] := by
  apply Setting.triple_attempt (fun _ => Due who [record]) fun _ => due_stable who []
  · apply (openLog_kept who record).consequence fun _ => id
    rintro (err | _) now owes
    · exact owes
    · exact owes
  intro _
  apply Setting.triple_attempt (fun _ => Due who []) fun _ => due_stable who []
  · apply (writeObject_kept who record).consequence fun _ => id
    rintro (err | _) now owes
    · exact owes
    · exact owes
  · exact fun _ => writeFeed_kept who

/-- Whatever a session does, it owes nothing to the log afterwards. -/
theorem sharing_kept (who : Nat) (op : Op) :
    keeping.Triple who (Due who []) (sharing who op) fun _ => Due who [] := by
  cases op with
  | log entry =>
    apply Setting.triple_bind (fun ts => Due who [⟨ts, entry⟩]) (stamp_kept who entry)
    intro ts
    apply Setting.triple_bind (fun _ => Due who []) (logRecord_kept who ⟨ts, entry⟩)
    exact fun _ => Setting.triple_done (due_stable who []) fun _ => id
  | _ => exact session_kept who _

end Keeping

section System

variable (casing : Text.Casing) (sha256 : Bytes → Bytes) (config : Config)

/-- A session that shares the log. -/
def sharingSession (who : Nat) : SharedRoutine Unit :=
  ((handleConnection casing sha256 config).run >>= fun _ => pure ()).expand (sharing who)

/-- Any number of sessions, each with what its peer sends; the log is empty. -/
def sharingSystem (readers : Nat → Reader) : Pool SharedWorld Nat SharedAnswer :=
  ⟨⟨⟨fun who => ⟨readers who, []⟩, []⟩, []⟩, sharingSession casing sha256 config⟩

/-- In every run of any number of sessions, the log is UTF-8 and reads back as the entries
that were written, in the order in which they were; what is written of a session's entries
is in its order; and all of them are written but at most the newest one, unless one of its
own calls to the log has failed.

The log is a list of pieces, each an entry or a line feed, that reads back as it is. Each append
adds one piece, and only the session itself adds to what it still owes. -/
theorem access_log_reads_back (readers : Nat → Reader) {pool : Pool SharedWorld Nat SharedAnswer}
    (reaches : Reaches sharedExec InOnePiece (sharingSystem casing sha256 config readers) pool) :
    (∃ text, Utf8.decode pool.now.world.file = some text ∧ Json.parseAll text =
      some ((recorded pool.now.history).map fun record => record.2.value)) ∧
    ∀ who, (mine who (recorded pool.now.history)).Sublist (mine who (stamped pool.now.history)) ∧
      (Unfailed who pool.now.history → ∃ due : List Record, due.length ≤ 1 ∧
        mine who (stamped pool.now.history) = mine who (recorded pool.now.history) ++ due) := by
  have begun : LogKept (sharingSystem casing sha256 config readers).now :=
    ⟨⟨[], rfl, rfl⟩, fun _ => List.Sublist.refl _, fun _ _ => ⟨[], Nat.zero_le 1, rfl⟩⟩
  have safe (who : Nat) : keeping.Safe who (sharingSession casing sha256 config who)
      (fun _ _ => True) (sharingSystem casing sha256 config readers).now := by
    have owes : Due who [] (sharingSystem casing sha256 config readers).now :=
      ⟨[], rfl, List.Sublist.refl _, fun _ => rfl⟩
    exact (Setting.triple_expand (due_stable who []) (sharing_kept who) _ owes).mono
      fun _ _ _ => trivial
  have kept : LogKept pool.now := (keeping.sound reaches begun safe).1
  refine ⟨?_, fun who => ⟨kept.orders who, kept.misses who⟩⟩
  obtain ⟨pieces, file, records⟩ := kept.reads
  refine ⟨streamText pieces, by rw [file, Utf8.decode_encode], ?_⟩
  have whole := Json.parseAll_pieces (pieces.map (Option.map Record.value)) ?_
  · rw [List.flatMap_map] at whole
    rw [streamText, whole, List.reduceOption_map, records, List.map_map]
    rfl
  · intro value member
    rw [List.reduceOption_map] at member
    obtain ⟨record, -, rfl⟩ := List.mem_map.mp member
    exact trivial

/-- The entries can be told from their objects. -/
theorem value_injective : Function.Injective Record.value := by
  have words : Function.Injective LogStatus.word := by
    intro one two same
    cases one <;> cases two <;> first | rfl | exact absurd same (by decide)
  rintro ⟨ts, call, url, status, reason⟩ ⟨ts', call', url', status', reason'⟩ same
  simp only [Record.value, Json.Value.object.injEq, List.cons_append, List.nil_append,
    List.cons.injEq, Prod.mk.injEq, Json.Value.string.injEq, true_and] at same
  obtain ⟨rfl, rfl, rfl, word, reasons⟩ := same
  obtain rfl := words word
  obtain rfl : reason = reason' := by
    cases reason <;> cases reason' <;> simp_all
  rfl

end System

section Sample

/-- What a session does on its own. -/
def actsAs (who : Nat) (events : List (Sigma Answer)) : List SharedEvent :=
  events.map fun event => ⟨who, .session who event.1, event.2⟩

/-- The entry of the first session. -/
def firstRecord : Record := ⟨"2026-03-19T14:32:01Z".toList, agreedEntry "N0CALL".toList⟩

/-- The entry of the second session. -/
def secondRecord : Record := ⟨"2026-03-19T14:32:02Z".toList, agreedEntry "N0CALL".toList⟩

/-- An object or a line feed that is written in one call. -/
def appending (who : Nat) (text : Text) : SharedEvent :=
  ⟨who, .append (Utf8.encode text), .wrote (Utf8.encode text).length⟩

/-- Two sessions write their objects before either of them writes its line feed. -/
def crossedEvents : List SharedEvent :=
  actsAs 0 handshakeEvents ++ actsAs 1 handshakeEvents ++
    [⟨0, .stamp firstRecord.entry, firstRecord.ts⟩, ⟨0, .openLog, .ok ()⟩,
      ⟨1, .stamp secondRecord.entry, secondRecord.ts⟩, ⟨1, .openLog, .ok ()⟩,
      appending 0 firstRecord.toJson, appending 1 secondRecord.toJson, appending 1 ['\n'],
      appending 0 ['\n']]

/-- A peer that agrees and goes. -/
def agreeingReader : Reader := ⟨ascii "N0CALL\nAGREE\n", [⟨0, .closed⟩], 0⟩

/-- A call that writes writes everything. -/
def wholly (_ : SharedMoment) : SharedEvent → Bool
  | ⟨_, .append bytes, .wrote count⟩ => count == bytes.length
  | _ => true

/-- The check says that an append takes all its bytes. -/
theorem wholly_inOnePiece (now : SharedMoment) (event : SharedEvent)
    (passed : wholly now event = true) : InOnePiece now event := by
  obtain ⟨thread, op, answer⟩ := event
  cases op with
  | append bytes =>
    cases answer with
    | wrote count => exact beq_iff_eq.mp passed
    | _ => trivial
  | _ => trivial

/-- The events above are a run, and the line feeds come behind both lines. -/
theorem crossed_runs : ((sharingSystem .onlyAscii id sampleConfig fun _ => agreeingReader).replay
    sharedExec wholly 4 crossedEvents).any (fun pool => pool.now.world.file ==
      Utf8.encode (firstRecord.toJson ++ secondRecord.toJson ++ ['\n', '\n'])) = true := by
  decide

/-- Two entries stand on one line, and both are read back. -/
theorem access_log_reads_back_sample : ∃ pool : Pool SharedWorld Nat SharedAnswer,
    Reaches sharedExec InOnePiece
      (sharingSystem .onlyAscii id sampleConfig fun _ => agreeingReader) pool ∧
    pool.now.world.file =
      Utf8.encode (firstRecord.toJson ++ secondRecord.toJson ++ ['\n', '\n']) ∧
    Json.parseAll (firstRecord.toJson ++ secondRecord.toJson ++ ['\n', '\n']) =
      some [firstRecord.value, secondRecord.value] := by
  obtain ⟨pool, replayed, same⟩ := (Option.any_eq_true _ _).mp crossed_runs
  obtain ⟨reaches, history⟩ :=
    replay_leads wholly_inOnePiece 4 crossedEvents _ pool replayed .start
  have file := beq_iff_eq.mp same
  refine ⟨pool, reaches, file, ?_⟩
  obtain ⟨⟨text, decoded, read⟩, -⟩ :=
    access_log_reads_back .onlyAscii id sampleConfig _ reaches
  rw [file, Utf8.decode_encode] at decoded
  obtain rfl := Option.some.inj decoded
  rw [read, history]
  rfl

end Sample

end PacketBrowser.Server
