import PacketBrowser.Vara.Transport

/-!
# Disconnects that are noticed

The line that ends a session may come in one batch with other lines. It is noticed in time
if it is the first line that a batch completes. Behind another line it stays in the buffer,
and the transport looks at the buffer only once the socket of the command port seems ready.

A transport is attentive if it neither waits nor ends with anything else as long as the
line is in its buffer. Whether it is attentive is decided by the buffer and the batches.
-/

namespace PacketBrowser.Vara

open Protocol Client Foundation Program Setting

/-- One operation of a call, with its answer. No other task shares the transport. -/
abbrev VaraEvent := Event Unit VaraAnswer

/-- The state and the history of one call, newest event first. -/
abbrev VaraMoment := Snapshot VaraWorld Unit VaraAnswer

/-- The line has been taken out of the buffer. -/
def takesDisconnect (event : VaraEvent) : Bool :=
  match event.op, event.answer with
  | .takeLine, some line => parseLine line == .disconnected
  | _, _ => false

/-- The modem has reported the end of the session, in a line that is held in the buffer or
that was taken out of it during the call. -/
def heard (now : VaraMoment) : Bool :=
  holdsDisconnect now.world.cmdLineBuf || now.history.any takesDisconnect

/-- The operation waits for the sockets. -/
def VaraOp.waits : VaraOp → Bool
  | .select => true
  | .readCmd => true
  | _ => false

/-- The call ends with the end of the session, or with data that was ready. -/
def reports : Except TransportError TransportEvent → Bool
  | .ok (.disconnected _) => true
  | .ok (.data _) => true
  | .error _ => false

/-- Once the end of the session is reported, the call does not wait and ends with it. -/
structure Attentive (now : VaraMoment) (left : VaraRoutine (Except TransportError TransportEvent)) :
    Prop where
  awake : heard now = true → ∀ op next, left.Performs op next → op.waits = false
  reporting : heard now = true → ∀ result, left.Ends result → reports result = true

/-- The end of the session is not held in the buffer, and no batch brings it behind the
first line it completes. Where it is the first one, the call ends with it. -/
def attended : Text → List Batch → Bool
  | cmdLineBuf, [] => !holdsDisconnect cmdLineBuf
  | cmdLineBuf, batch :: arriving =>
    !holdsDisconnect cmdLineBuf &&
      let filled := Lines.unfinished terminator cmdLineBuf ++ Utf8.lossy batch.bytes
      match takeLine filled with
      | none => attended filled arriving
      | some (line, rest) => parseLine line == .disconnected || attended rest arriving

section Buffers

variable {cmdLineBuf line rest : Text} {arriving : List Batch}

/-- If a transport attends to what comes, then its buffer does not hold the end of the session. -/
theorem attended_unheld (clean : attended cmdLineBuf arriving = true) :
    holdsDisconnect cmdLineBuf = false := by
  cases arriving with
  | nil => simpa [attended] using clean
  | cons batch arriving =>
    simp only [attended, Bool.and_eq_true, Bool.not_eq_true'] at clean
    exact clean.1

/-- Only the unfinished line matters for what is still to come. -/
theorem attended_same {other : Text} (held : holdsDisconnect other = holdsDisconnect cmdLineBuf)
    (same : Lines.unfinished terminator other = Lines.unfinished terminator cmdLineBuf) :
    attended other arriving = attended cmdLineBuf arriving := by
  cases arriving with
  | nil => simp only [attended, held]
  | cons batch arriving => simp only [attended, held, same]

/-- A line that is taken off does not matter, unless it is the one in question. -/
theorem attended_takeLine (taken : takeLine cmdLineBuf = some (line, rest))
    (other : parseLine line ≠ .disconnected) :
    attended rest arriving = attended cmdLineBuf arriving := by
  obtain ⟨held, unfinished, _⟩ := takeLine_some taken
  apply attended_same
  · rw [held, beq_false_of_ne other, Bool.false_or]
  · exact unfinished.symm

end Buffers

section Moments

/-- The moment after an operation. -/
def VaraMoment.next (now : VaraMoment) (op : VaraOp) (answer : VaraAnswer op) : VaraMoment :=
  ⟨now.world.apply op answer, ⟨(), op, answer⟩ :: now.history⟩

/-- A wait that ended without anything. -/
def inVain (event : VaraEvent) : Bool :=
  match event.op, event.answer with
  | .select, .slept => true
  | .readCmd, .silent => true
  | _, _ => false

/-- Any run of a call. No wait is in vain while the end of the session is known. -/
def attention : Setting VaraWorld Unit VaraAnswer where
  exec := varaExec
  meets := anyRun
  inv := fun now => ∀ event earlier, now.history = event :: earlier → inVain event = true →
    heard now = false

/-- Nothing is known of an end of the session, and none will come behind another line. -/
structure Calm (now : VaraMoment) : Prop where
  fresh : now.history.any takesDisconnect = false
  unheld : holdsDisconnect now.world.cmdLineBuf = false
  clean : now.world.connected = true → attended now.world.cmdLineBuf now.world.arriving = true

/-- The reader of lines may go on: what it finds next is the end of the session, or none
will come behind it. -/
structure Ready (now : VaraMoment) : Prop where
  fresh : now.history.any takesDisconnect = false
  connected : now.world.connected = true
  found : ∀ line rest, takeLine now.world.cmdLineBuf = some (line, rest) →
    parseLine line = .disconnected ∨ attended rest now.world.arriving = true
  nothing : takeLine now.world.cmdLineBuf = none →
    attended now.world.cmdLineBuf now.world.arriving = true

/-- Nothing is in the buffer for the reader of lines. -/
structure Idle (now : VaraMoment) : Prop where
  calm : Calm now
  connected : now.world.connected = true
  nothing : takeLine now.world.cmdLineBuf = none

/-- After a line has been read, it is the end of the session or all is calm. -/
def Heeded (result : Except TransportError Text) (now : VaraMoment) : Prop :=
  (∃ line, result = .ok line ∧ parseLine line = .disconnected) ∨ Calm now

/-- The result of a call fits what is known at its end. -/
def Reported (result : Except TransportError TransportEvent) (now : VaraMoment) : Prop :=
  heard now = true → reports result = true

variable {now later : VaraMoment} {op : VaraOp} {answer : VaraAnswer op}

/-- In a calm moment the end of the session has not been reported. -/
theorem Calm.unheard (calm : Calm now) : heard now = false := by
  rw [heard, calm.fresh, calm.unheld, Bool.false_or]

/-- In a calm moment the reader of lines may go on, since taking off any other line changes
nothing. -/
theorem Calm.ready (calm : Calm now) (connected : now.world.connected = true) : Ready now := by
  refine ⟨calm.fresh, connected, ?_, fun _ => calm.clean connected⟩
  intro line rest taken
  by_cases ended : parseLine line = .disconnected
  · exact Or.inl ended
  · exact Or.inr ((attended_takeLine taken ended).trans (calm.clean connected))

/-- If the reader of lines may go on and finds nothing, then nothing is in the buffer. -/
theorem Ready.idle (ready : Ready now) (nothing : takeLine now.world.cmdLineBuf = none) : Idle now :=
  ⟨⟨ready.fresh, (takeLine_none nothing).1, fun _ => ready.nothing nothing⟩, ready.connected, nothing⟩

/-- An operation that leaves the buffer and the batches alone. -/
def VaraOp.quiet : VaraOp → Bool
  | .clock => true
  | .isOpen _ => true
  | .select => true
  | _ => false

/-- A quiet operation keeps the connection, the buffer, the batches, and what was taken out of
the buffer. -/
theorem quiet_keeps (now : VaraMoment) (answer : VaraAnswer op) (quiet : op.quiet = true) :
    (now.next op answer).world.connected = now.world.connected ∧
      (now.next op answer).world.cmdLineBuf = now.world.cmdLineBuf ∧
      (now.next op answer).world.arriving = now.world.arriving ∧
      (now.next op answer).history.any takesDisconnect = now.history.any takesDisconnect := by
  cases op with
  | clock => exact ⟨rfl, rfl, rfl, rfl⟩
  | isOpen port => exact ⟨rfl, rfl, rfl, rfl⟩
  | select => exact ⟨rfl, rfl, rfl, rfl⟩
  | _ => exact absurd quiet Bool.false_ne_true

/-- A quiet operation leaves a moment calm. -/
theorem Calm.quiet (calm : Calm now) (quiet : op.quiet = true) : Calm (now.next op answer) := by
  obtain ⟨connected, buffer, arriving, taken⟩ := quiet_keeps now answer quiet
  obtain ⟨fresh, unheld, clean⟩ := calm
  constructor
  · rw [taken, fresh]
  · rw [buffer, unheld]
  · rw [connected, buffer, arriving]
    exact clean

/-- A quiet operation leaves the buffer without a line. -/
theorem Idle.quiet (idle : Idle now) (quiet : op.quiet = true) : Idle (now.next op answer) := by
  obtain ⟨connected, buffer, _, _⟩ := quiet_keeps now answer quiet
  obtain ⟨calm, wasConnected, nothing⟩ := idle
  refine ⟨calm.quiet quiet, ?_, ?_⟩
  · rw [connected, wasConnected]
  · rw [buffer, nothing]

/-- One operation, whatever its answer. -/
theorem step_attention (moves : attention.Moves now ⟨(), op, answer⟩ later) :
    later = now.next op answer ∧ now.world.gives op answer = true := by
  obtain ⟨⟨executed, grown⟩, _, _⟩ := moves
  obtain ⟨possible, world⟩ := varaExec_iff.mp executed
  refine ⟨?_, possible⟩
  obtain ⟨after, history⟩ := later
  rw [VaraMoment.next, ← grown]
  exact congrArg (Snapshot.mk · history) world

/-- While nothing is known, any wait may be in vain. -/
theorem kept_unheard (unheard : heard later = false) : attention.inv later :=
  fun _ _ _ _ => unheard

/-- An operation that does not wait is not in vain. -/
theorem kept_awake (awake : op.waits = false) : attention.inv (now.next op answer) := by
  intro event earlier history vain
  obtain ⟨rfl, _⟩ := List.cons.inj history
  cases op with
  | select => exact absurd awake (by decide)
  | readCmd => exact absurd awake (by decide)
  | _ => exact absurd vain Bool.false_ne_true

/-- One operation, in front of what it decides. -/
theorem ask_attention {pre : VaraMoment → Prop} {post : VaraAnswer op → VaraMoment → Prop}
    (each : ∀ now answer, pre now → now.world.gives op answer = true →
      attention.inv (now.next op answer) ∧ post answer (now.next op answer)) :
    attention.Triple () pre (Program.ask op) post := by
  apply triple_ask (stable_alone _) (fun _ => stable_alone _)
  intro now answer later holds moves
  obtain ⟨rfl, possible⟩ := step_attention moves
  exact each now answer holds possible

/-- A quiet operation, performed in a calm moment. -/
theorem ask_calm (quiet : op.quiet = true) :
    attention.Triple () Calm (Program.ask op) fun _ => Calm :=
  ask_attention fun _ _ calm _ => ⟨kept_unheard (calm.quiet quiet).unheard, calm.quiet quiet⟩

/-- A quiet operation, performed while nothing is in the buffer. -/
theorem ask_idle (quiet : op.quiet = true) :
    attention.Triple () Idle (Program.ask op) fun _ => Idle :=
  ask_attention fun _ _ idle _ => ⟨kept_unheard (idle.quiet quiet).calm.unheard, idle.quiet quiet⟩

end Moments

section Calls

/-- The result of a read of the command port. -/
theorem readCmd_ready : attention.Triple () Idle
    (Program.ask .readCmd >>= fun answer => pure (readOutcome answer))
    (Sum.elim (fun _ => Ready) Heeded) := by
  apply triple_bind (fun answer => Sum.elim (fun _ => Ready) Heeded (readOutcome answer))
  · apply ask_attention
    intro now answer idle possible
    have calm := idle.calm
    cases answer with
    | bytes batch =>
      obtain ⟨more, arriving⟩ : ∃ more, now.world.arriving = batch :: more := by
        simp only [VaraWorld.gives, beq_iff_eq, List.head?_eq_some_iff] at possible
        exact possible
      have clean := calm.clean idle.connected
      rw [arriving] at clean
      simp only [attended, (takeLine_none idle.nothing).2, Bool.and_eq_true] at clean
      refine ⟨fun _ _ history vain => ?_, calm.fresh, idle.connected, ?_, ?_⟩
      · obtain ⟨rfl, _⟩ := List.cons.inj history
        exact absurd vain (by simp [inVain])
      · intro line rest taken
        simp only [VaraMoment.next, VaraWorld.apply, arriving, List.tail_cons] at taken ⊢
        simpa [taken] using clean.2
      · intro nothing
        simp only [VaraMoment.next, VaraWorld.apply, arriving, List.tail_cons] at nothing ⊢
        simpa [nothing] using clean.2
    | closed =>
      have later : Calm (now.next .readCmd .closed) := ⟨calm.fresh, calm.unheld, calm.clean⟩
      exact ⟨kept_unheard later.unheard, Or.inr later⟩
    | failed message =>
      have later : Calm (now.next .readCmd (.failed message)) :=
        ⟨calm.fresh, calm.unheld, calm.clean⟩
      exact ⟨kept_unheard later.unheard, Or.inr later⟩
    | silent =>
      have later : Calm (now.next .readCmd .silent) := ⟨calm.fresh, calm.unheld, calm.clean⟩
      exact ⟨kept_unheard later.unheard, Or.inr later⟩
  · exact fun answer => triple_done (stable_alone _) fun _ => id

/-- With nothing in the buffer, one more read is calm: the first line that its batch completes
may be the end of the session, and behind any other line none comes. -/
theorem readMore_ready (deadline : Nat) :
    attention.Triple () Idle (readMore deadline) (Sum.elim (fun _ => Ready) Heeded) := by
  apply triple_bind (fun _ => Idle) (ask_idle rfl)
  intro now
  split
  · exact triple_done (stable_alone _) fun _ idle => Or.inr idle.calm
  · apply triple_bind (fun _ => Idle) (ask_idle rfl)
    intro connected
    cases connected with
    | true => exact readCmd_ready
    | false => exact triple_done (stable_alone _) fun _ idle => Or.inr idle.calm

/-- One round of the reader of lines. -/
theorem readLineRound_ready (deadline : Nat) :
    attention.Triple () Ready (readLineRound deadline) (Sum.elim (fun _ => Ready) Heeded) := by
  apply triple_bind fun taken now => match taken with
    | some line => Heeded (.ok line) now
    | none => Idle now
  · apply ask_attention
    intro now answer ready possible
    refine ⟨kept_awake rfl, ?_⟩
    simp only [VaraWorld.gives, beq_iff_eq] at possible
    cases taken : takeLine now.world.cmdLineBuf with
    | none =>
      obtain rfl : answer = none := by rw [possible, taken, Option.map_none]
      have same : (now.next .takeLine none).world = now.world := by
        simp only [VaraMoment.next, VaraWorld.apply, taken]
      have idle := ready.idle taken
      refine ⟨⟨idle.calm.fresh, ?_, ?_⟩, ?_, ?_⟩
      · rw [same]
        exact idle.calm.unheld
      · rw [same]
        exact idle.calm.clean
      · rw [same]
        exact idle.connected
      · rw [same]
        exact taken
    | some found =>
      obtain ⟨line, rest⟩ := found
      obtain rfl : answer = some line := by rw [possible, taken, Option.map_some]
      by_cases ended : parseLine line = .disconnected
      · exact Or.inl ⟨line, rfl, ended⟩
      have clean := (ready.found line rest taken).resolve_left ended
      refine Or.inr ⟨?_, ?_, fun _ => ?_⟩
      · simp [VaraMoment.next, takesDisconnect, ended, ready.fresh]
      · simp only [VaraMoment.next, VaraWorld.apply, taken]
        exact attended_unheld clean
      · simp only [VaraMoment.next, VaraWorld.apply, taken]
        exact clean
  · intro taken
    cases taken with
    | some line => exact triple_done (stable_alone _) fun _ => id
    | none => exact readMore_ready deadline

/-- A line that is read is the end of the session, or no end of it is known. -/
theorem readCmdLine_heeded (deadline : Nat) :
    attention.Triple () Ready (readCmdLine deadline) Heeded :=
  triple_loop (fun _ => Ready) (fun _ => stable_alone _) (fun _ => stable_alone _)
    (fun _ => readLineRound_ready deadline) ()

/-- In a calm moment any result fits. -/
theorem Calm.reported {now : VaraMoment} (calm : Calm now)
    (result : Except TransportError TransportEvent) : Reported result now :=
  fun known => absurd known (by rw [calm.unheard]; exact Bool.false_ne_true)

/-- Heeding the command port leaves all calm, or ends with a result that fits. -/
theorem heedCmd_calm : attention.Triple () (fun now => Calm now ∧ now.world.connected = true) heedCmd
    (Sum.elim (fun _ => Calm) Reported) := by
  apply triple_bind fun _ => Ready
  · apply ask_attention
    rintro now answer ⟨calm, connected⟩ _
    have later : Calm (now.next .clock answer) := calm.quiet rfl
    exact ⟨kept_unheard later.unheard, later.ready connected⟩
  intro now
  apply triple_bind Heeded (readCmdLine_heeded _)
  intro result
  apply triple_done (stable_alone _)
  rintro later (⟨line, rfl, ended⟩ | calm)
  · simp only [lineOutcome, ended, if_true]
    exact fun _ => rfl
  · unfold lineOutcome
    split
    · split
      · exact calm.reported _
      · exact calm
    · exact calm
    · exact calm.reported _

/-- One round leaves all calm, or ends with a result that fits. -/
theorem recvRound_calm (deadline : Nat) :
    attention.Triple () Calm (recvRound deadline) (Sum.elim (fun _ => Calm) Reported) := by
  apply triple_bind (fun _ => Calm) (ask_calm rfl)
  intro now
  split
  · exact triple_done (stable_alone _) fun _ calm => calm.reported _
  apply triple_bind (fun _ => Calm) (ask_calm rfl)
  intro data
  split
  · apply triple_bind fun cmd now => Calm now ∧ cmd = now.world.connected
    · apply ask_attention
      intro now answer calm possible
      have later : Calm (now.next (.isOpen .cmd) answer) := calm.quiet rfl
      simp only [VaraWorld.gives, beq_iff_eq] at possible
      exact ⟨kept_unheard later.unheard, later, possible⟩
    intro cmd
    split
    · rename_i connected
      subst connected
      apply triple_bind fun _ now => Calm now ∧ now.world.connected = true
      · apply ask_attention
        rintro now answer ⟨calm, connected⟩ _
        have later : Calm (now.next .select answer) := calm.quiet rfl
        exact ⟨kept_unheard later.unheard, later, connected.symm⟩
      intro selected
      cases selected with
      | data result => exact triple_done (stable_alone _) fun _ calm => calm.1.reported _
      | cmdReady => exact heedCmd_calm
      | slept => exact triple_done (stable_alone _) fun _ calm => calm.1
    · exact triple_done (stable_alone _) fun _ calm => calm.1.reported _
  · exact triple_done (stable_alone _) fun _ calm => calm.reported _

/-- A call that begins calm ends with a result that fits, by induction on its rounds. -/
theorem recv_calm (deadline : Nat) : attention.Triple () Calm (recv deadline) Reported :=
  triple_loop (fun _ => Calm) (fun _ => stable_alone _) (fun _ => stable_alone _)
    (fun _ => recvRound_calm deadline) ()

/-- Where an operation waits, it may wait in vain. -/
theorem waits_in_vain {op : VaraOp} (waits : op.waits = true) (world : VaraWorld) :
    ∃ answer, world.gives op answer = true ∧ world.apply op answer = world ∧
      inVain ⟨(), op, answer⟩ = true ∧ takesDisconnect ⟨(), op, answer⟩ = false := by
  cases op with
  | select => exact ⟨.slept, rfl, rfl, rfl, rfl⟩
  | readCmd => exact ⟨.silent, rfl, rfl, rfl, rfl⟩
  | _ => exact absurd waits Bool.false_ne_true

/-- A call that begins calmly is attentive at every moment. -/
theorem attentive_of_calm (deadline : Nat) {start now : VaraMoment} (calm : Calm start)
    {left : VaraRoutine (Except TransportError TransportEvent)}
    (leads : Leads varaExec anyRun (recv deadline) start now left) : Attentive now left := by
  obtain ⟨kept, safe⟩ := alone (S := attention) leads (kept_unheard calm.unheard)
    (recv_calm deadline start calm)
  constructor
  · intro known op next performs
    apply Bool.eq_false_iff.mpr
    intro waits
    obtain ⟨answer, possible, same, vain, other⟩ := waits_in_vain waits now.world
    have moves : attention.Moves now ⟨(), op, answer⟩ (now.next op answer) :=
      ⟨⟨varaExec_iff.mpr ⟨possible, rfl⟩, rfl⟩, trivial, kept⟩
    have unheard := (safe.performs performs moves).1 _ _ rfl vain
    rw [heard, VaraMoment.next, same, List.any_cons, other, Bool.false_or] at unheard
    exact absurd known (by rw [heard, unheard]; exact Bool.false_ne_true)
  · exact fun known result ends => safe.ends ends known

end Calls

section Rounds

variable {world : VaraWorld} {line rest : Text} {deadline : Nat}

/-- The clock may stand still. -/
theorem clock_still (world : VaraWorld) : varaExec .clock world.now world = some world :=
  varaExec_iff.mpr ⟨decide_eq_true (Nat.le_refl _), rfl⟩

/-- A connected transport finds its ports open. -/
theorem isOpen_connected (port : Port) (connected : world.connected = true) :
    varaExec (.isOpen port) true world = some world :=
  varaExec_iff.mpr ⟨by simp [VaraWorld.gives, connected], rfl⟩

/-- Taking the line that is in the buffer. -/
theorem takeLine_found (taken : takeLine world.cmdLineBuf = some (line, rest)) :
    varaExec .takeLine (some line) world = some { world with cmdLineBuf := rest } :=
  varaExec_iff.mpr ⟨by simp [VaraWorld.gives, taken], by simp [VaraWorld.apply, taken]⟩

/-- Taking a line from a buffer without one. -/
theorem takeLine_nothing (nothing : takeLine world.cmdLineBuf = none) :
    varaExec .takeLine none world = some world :=
  varaExec_iff.mpr ⟨by simp [VaraWorld.gives, nothing], by simp [VaraWorld.apply, nothing]⟩

/-- A line in the buffer is returned. -/
theorem readLineRound_line (taken : takeLine world.cmdLineBuf = some (line, rest)) :
    Returns varaExec (readLineRound deadline) world (.inr (.ok line))
      { world with cmdLineBuf := rest } :=
  returns_bind.mpr ⟨some line, _, returns_ask.mpr (takeLine_found taken), .done _ _⟩

/-- Without a line in the buffer, the command port is read. -/
theorem readLineRound_read {answer : CmdRead} {after : VaraWorld}
    (nothing : takeLine world.cmdLineBuf = none) (connected : world.connected = true)
    (future : world.now < deadline) (executed : varaExec .readCmd answer world = some after) :
    Returns varaExec (readLineRound deadline) world (readOutcome answer) after := by
  apply returns_bind.mpr
  refine ⟨none, world, returns_ask.mpr (takeLine_nothing nothing), ?_⟩
  apply returns_bind.mpr
  refine ⟨world.now, world, returns_ask.mpr (clock_still world), ?_⟩
  rw [if_neg (Nat.not_le.mpr future)]
  apply returns_bind.mpr
  refine ⟨true, world, returns_ask.mpr (isOpen_connected .cmd connected), ?_⟩
  exact returns_bind.mpr ⟨answer, after, returns_ask.mpr executed, .done _ _⟩

/-- What is in the buffer once a batch has come. -/
def VaraWorld.filled (world : VaraWorld) (batch : Batch) (more : List Batch) : VaraWorld :=
  { world with
    cmdLineBuf := world.cmdLineBuf ++ Utf8.lossy batch.bytes
    arriving := more }

/-- Reading the next batch. -/
theorem readCmd_batch {batch : Batch} {more : List Batch} (arriving : world.arriving = batch :: more) :
    varaExec .readCmd (.bytes batch) world = some (world.filled batch more) :=
  varaExec_iff.mpr ⟨by simp [VaraWorld.gives, arriving], by
    simp [VaraWorld.apply, VaraWorld.filled, arriving]⟩

/-- A round of `recv` in which the command port seems ready, and a line is read that is not
the end of the session, or none. -/
theorem recvRound_goes {result : Except TransportError Text} {after : VaraWorld}
    (connected : world.connected = true) (future : world.now < deadline)
    (read : Returns varaExec (readCmdLine (world.now + 100)) world result after)
    (unheeded : lineOutcome result = .inl ()) :
    Returns varaExec (recvRound deadline) world (.inl ()) after := by
  apply returns_bind.mpr
  refine ⟨world.now, world, returns_ask.mpr (clock_still world), ?_⟩
  rw [if_neg (Nat.not_le.mpr future)]
  apply returns_bind.mpr
  refine ⟨true, world, returns_ask.mpr (isOpen_connected .data connected), ?_⟩
  apply returns_bind.mpr
  refine ⟨true, world, returns_ask.mpr (isOpen_connected .cmd connected), ?_⟩
  apply returns_bind.mpr
  refine ⟨.cmdReady, world, returns_ask.mpr rfl, ?_⟩
  apply returns_bind.mpr
  refine ⟨world.now, world, returns_ask.mpr (clock_still world), ?_⟩
  apply returns_bind.mpr
  refine ⟨result, after, read, ?_⟩
  rw [unheeded]
  exact .done _ _

/-- During a session any other line is passed over. -/
theorem lineOutcome_other (other : parseLine line ≠ .disconnected) :
    lineOutcome (.ok line) = .inl () := by
  simp [lineOutcome, other]

/-- Another line is taken off the buffer. -/
theorem recvRound_line (connected : world.connected = true) (future : world.now < deadline)
    (taken : takeLine world.cmdLineBuf = some (line, rest)) (other : parseLine line ≠ .disconnected) :
    Returns varaExec (recvRound deadline) world (.inl ()) { world with cmdLineBuf := rest } :=
  recvRound_goes connected future (.leave (readLineRound_line taken) (.done _ _))
    (lineOutcome_other other)

/-- A batch comes that completes no line, and then nothing. -/
theorem recvRound_part {batch : Batch} {more : List Batch} (connected : world.connected = true)
    (future : world.now < deadline) (nothing : takeLine world.cmdLineBuf = none)
    (arriving : world.arriving = batch :: more)
    (still : takeLine (world.filled batch more).cmdLineBuf = none) :
    Returns varaExec (recvRound deadline) world (.inl ()) (world.filled batch more) := by
  have soon : world.now < world.now + 100 := by omega
  have unheeded : lineOutcome (.error .timeout) = .inl () := rfl
  apply recvRound_goes connected future _ unheeded
  apply Returns.again (readLineRound_read nothing connected soon (readCmd_batch arriving))
  have silent : varaExec .readCmd CmdRead.silent (world.filled batch more) =
      some (world.filled batch more) := rfl
  exact .leave (readLineRound_read still connected soon silent) (.done _ _)

/-- A batch comes, and the first line it completes is another one. -/
theorem recvRound_batch {batch : Batch} {more : List Batch} (connected : world.connected = true)
    (future : world.now < deadline) (nothing : takeLine world.cmdLineBuf = none)
    (arriving : world.arriving = batch :: more)
    (taken : takeLine (world.filled batch more).cmdLineBuf = some (line, rest))
    (other : parseLine line ≠ .disconnected) :
    Returns varaExec (recvRound deadline) world (.inl ())
      { world.filled batch more with cmdLineBuf := rest } := by
  have soon : world.now < world.now + 100 := by omega
  apply recvRound_goes connected future _ (lineOutcome_other other)
  apply Returns.again (readLineRound_read nothing connected soon (readCmd_batch arriving))
  exact .leave (readLineRound_line taken) (.done _ _)

end Rounds

section Course

variable {world : VaraWorld} {deadline : Nat}

/-- A wait although the end of the session is known. -/
def Overlooks (now : VaraMoment) (op : VaraOp) : Prop := heard now = true ∧ op.waits = true

/-- A call of `recv` can come to wait although the end of the session is known. -/
def CanOverlook (deadline : Nat) (world : VaraWorld) : Prop :=
  ∀ history, Possible varaExec anyRun Overlooks (recv deadline) ⟨world, history⟩

/-- One operation in front of what is possible after it. -/
theorem possible_ask {α β : Type} {op : VaraOp} {answer : VaraAnswer op} {after : VaraWorld}
    {next : VaraAnswer op → VaraRoutine α} {last : α → VaraRoutine β}
    (executed : varaExec op answer world = some after)
    (rest : ∀ history, Possible varaExec anyRun Overlooks ((next answer).bind last) ⟨after, history⟩)
    (history : List VaraEvent) :
    Possible varaExec anyRun Overlooks (Program.bind (ask op >>= next) last) ⟨world, history⟩ := by
  have occurs : Occurs varaExec ⟨world, history⟩ ⟨(), op, answer⟩
      ⟨after, ⟨(), op, answer⟩ :: history⟩ := ⟨executed, rfl⟩
  exact .step (.here _ _) occurs trivial (rest _)

/-- A call that begins with the line in the buffer waits. -/
theorem overlooks_held (connected : world.connected = true) (future : world.now < deadline)
    (held : holdsDisconnect world.cmdLineBuf = true) : CanOverlook deadline world := by
  intro history
  apply Possible.unroll
  show Possible varaExec anyRun Overlooks (Program.bind (recvRound deadline) _) _
  unfold recvRound
  apply possible_ask (clock_still world)
  rw [if_neg (Nat.not_le.mpr future)]
  apply possible_ask (isOpen_connected .data connected)
  apply possible_ask (isOpen_connected .cmd connected)
  intro history
  exact .here (.here _ _) ⟨by simp [heard, held], rfl⟩

/-- The lines in the buffer are taken off one by one. The induction is on its length. -/
theorem overlooks_behind (bound : Nat) (connected : world.connected = true)
    (future : world.now < deadline) (short : world.cmdLineBuf.length ≤ bound)
    (unheld : holdsDisconnect world.cmdLineBuf = false)
    (last : ∀ text, takeLine text = none → text = Lines.unfinished terminator world.cmdLineBuf →
      CanOverlook deadline { world with cmdLineBuf := text }) : CanOverlook deadline world := by
  induction bound generalizing world with
  | zero =>
    have empty : world.cmdLineBuf = [] := List.length_eq_zero_iff.mp (Nat.le_zero.mp short)
    have nothing : takeLine world.cmdLineBuf = none := by
      rw [empty]
      rfl
    exact last _ nothing (takeLine_none nothing).2.symm
  | succ bound inductionHypothesis =>
    cases taken : takeLine world.cmdLineBuf with
    | none => exact last _ taken (takeLine_none taken).2.symm
    | some found =>
      obtain ⟨line, rest⟩ := found
      obtain ⟨held, unfinished, shorter⟩ := takeLine_some taken
      rw [unheld, eq_comm, Bool.or_eq_false_iff] at held
      have other : parseLine line ≠ .disconnected := by simpa using held.1
      have later : CanOverlook deadline { world with cmdLineBuf := rest } := by
        apply inductionHypothesis
        · exact connected
        · exact future
        · exact Nat.le_of_lt_succ (Nat.lt_of_lt_of_le shorter short)
        · exact held.2
        · intro text nothing same
          exact last text nothing (by rw [same, unfinished])
      intro history
      exact (recvRound_line connected future taken other).possible_round (fun _ _ => trivial) later
        history

/-- Where the end of the session comes behind another line, it can be overlooked. The
induction is on the batches. -/
theorem overlooks_unattended (connected : world.connected = true) (future : world.now < deadline)
    (unattended : attended world.cmdLineBuf world.arriving = false) :
    CanOverlook deadline world := by
  generalize batches : world.arriving = arriving at unattended
  induction arriving generalizing world with
  | nil =>
    apply overlooks_held connected future
    simpa [attended] using unattended
  | cons batch more inductionHypothesis =>
    by_cases held : holdsDisconnect world.cmdLineBuf = true
    · exact overlooks_held connected future held
    have unheld : holdsDisconnect world.cmdLineBuf = false := Bool.eq_false_iff.mpr held
    apply overlooks_behind _ connected future (Nat.le_refl _) unheld
    intro text nothing same
    subst same
    simp only [attended, unheld, Bool.not_false, Bool.true_and] at unattended
    generalize Lines.unfinished terminator world.cmdLineBuf = text at nothing unattended
    cases taken : takeLine (text ++ Utf8.lossy batch.bytes) with
    | none =>
      simp only [taken] at unattended
      have later : CanOverlook deadline (VaraWorld.filled { world with cmdLineBuf := text } batch more) :=
        inductionHypothesis connected future rfl unattended
      have round : Returns varaExec (recvRound deadline) { world with cmdLineBuf := text } (.inl ())
          (VaraWorld.filled { world with cmdLineBuf := text } batch more) :=
        recvRound_part connected future nothing batches taken
      exact round.possible_round (fun _ _ => trivial) later
    | some found =>
      obtain ⟨line, rest⟩ := found
      simp only [taken, Bool.or_eq_false_iff] at unattended
      have other : parseLine line ≠ .disconnected := by simpa using unattended.1
      have later : CanOverlook deadline { world with cmdLineBuf := rest, arriving := more } :=
        inductionHypothesis connected future rfl unattended.2
      have round : Returns varaExec (recvRound deadline) { world with cmdLineBuf := text } (.inl ())
          { world with cmdLineBuf := rest, arriving := more } :=
        recvRound_batch connected future nothing batches taken other
      exact round.possible_round (fun _ _ => trivial) later

/-- A transport without a connection has nothing to read. -/
def VaraWorld.Sound (world : VaraWorld) : Prop :=
  world.connected = false → world.cmdLineBuf = [] ∧ world.arriving = []

/-- Soundness is kept by each operation. -/
theorem Sound.next {op : VaraOp} {answer : VaraAnswer op} (sound : world.Sound)
    (possible : world.gives op answer = true) : (world.apply op answer).Sound := by
  intro closed
  cases op with
  | attach arriving => exact absurd closed (by simp [VaraWorld.apply])
  | detach => exact ⟨rfl, rfl⟩
  | takeLine =>
    have nothing : takeLine [] = none := rfl
    cases taken : takeLine world.cmdLineBuf with
    | none =>
      simp only [VaraWorld.apply, taken] at closed ⊢
      exact sound closed
    | some found =>
      simp only [VaraWorld.apply, taken] at closed
      rw [(sound closed).1, nothing] at taken
      exact absurd taken (by simp)
  | readCmd =>
    cases answer with
    | bytes batch =>
      simp only [VaraWorld.gives, (sound closed).2, List.head?_nil] at possible
      exact absurd possible (by simp)
    | _ => exact sound closed
  | _ => exact sound closed

/-- A transport is sound after any calls. The induction is on these. -/
theorem reached_sound (reached : Reached world) : world.Sound := by
  induction reached with
  | new now => exact fun _ => ⟨rfl, rfl⟩
  | call _ call leads inductionHypothesis =>
    induction leads with
    | start => exact inductionHypothesis
    | step _ _ occurs _ before =>
      obtain ⟨possible, same⟩ := varaExec_iff.mp occurs.1
      rw [same]
      exact Sound.next before possible

/-- A call that can overlook the end of the session has a run in which it is not attentive. -/
theorem CanOverlook.inattentive (can : CanOverlook deadline world) : ∃ now left,
    Leads varaExec anyRun (recv deadline) ⟨world, []⟩ now left ∧ ¬ Attentive now left := by
  obtain ⟨now, left, op, next, leads, performs, known, waits⟩ := (can []).reached
  refine ⟨now, left, leads, fun attentive => ?_⟩
  have awake := attentive.awake known op next performs
  rw [waits] at awake
  exact absurd awake (by decide)

/-- In every state of the transport, each call of `recv` before its deadline is attentive in
all its runs if and only if the transport is not connected, or the line that ends the session
is neither in the buffer nor brought behind the first line that a batch completes.

A transport that is clean stays calm through every operation of the call, until the line that
ends the session is the one that is read. One that is not clean has a run that overlooks the
line, found by following the batches. -/
theorem attentive_iff (world : VaraWorld) (reached : Reached world) (deadline : Nat)
    (future : world.now < deadline) :
    (∀ now left, Leads varaExec anyRun (recv deadline) ⟨world, []⟩ now left → Attentive now left) ↔
      (world.connected = true → attended world.cmdLineBuf world.arriving = true) := by
  constructor
  · intro every connected
    by_contra unattended
    obtain ⟨now, left, leads, inattentive⟩ :=
      (overlooks_unattended connected future (Bool.eq_false_iff.mpr unattended)).inattentive
    exact inattentive (every now left leads)
  · intro clean now left leads
    apply attentive_of_calm deadline _ leads
    refine ⟨rfl, ?_, clean⟩
    cases connected : world.connected with
    | true => exact attended_unheld (clean connected)
    | false =>
      have empty := (reached_sound reached connected).1
      simp only [empty]
      rfl

/-- A batch of one response to a command. -/
def okBatch : Batch := ⟨ascii "OK\r", by decide, by decide⟩

/-- The modem reports a connection. -/
def connectedBatch : Batch := ⟨ascii "CONNECTED W1TEST N0CALL\r", by decide, by decide⟩

/-- The modem reports the end of one. -/
def disconnectedBatch : Batch := ⟨ascii "DISCONNECTED\r", by decide, by decide⟩

/-- Both lines at once. -/
def droppedBatch : Batch := ⟨ascii "CONNECTED W1TEST N0CALL\rDISCONNECTED\r", by decide, by decide⟩

/-- A command, and the batch with the response to it. -/
def commandEvents (line : Text) (batch : Batch) (response : Text) : List (Sigma VaraAnswer) :=
  [⟨.isOpen .cmd, true⟩, ⟨.write .cmd (Utf8.encode line), .ok ()⟩,
    ⟨.write .cmd (ascii "\r"), .ok ()⟩, ⟨.flush .cmd, .ok ()⟩, ⟨.clock, (0 : Nat)⟩,
    ⟨.takeLine, (none : Option Text)⟩, ⟨.clock, (0 : Nat)⟩, ⟨.isOpen .cmd, true⟩,
    ⟨.readCmd, .bytes batch⟩, ⟨.takeLine, some response⟩]

/-- The modem is connected and accepts the setup. These batches come after it. -/
def setupEvents (arriving : List Batch) : List (Sigma VaraAnswer) :=
  [⟨.connect .cmd, .ok (List.replicate 4 okBatch ++ arriving)⟩, ⟨.connect .data, .ok []⟩,
    ⟨.attach (List.replicate 4 okBatch ++ arriving), ()⟩] ++
    (setupCommands "W1TEST".toList .vWide).flatMap fun line => commandEvents line okBatch "OK".toList

/-- The session is opened by one batch. -/
def openEvents (batch : Batch) : List (Sigma VaraAnswer) :=
  commandEvents "MYCALL W1TEST".toList okBatch "OK".toList ++
    commandEvents "CONNECT W1TEST N0CALL".toList batch "CONNECTED W1TEST N0CALL".toList

/-- The state of the transport behind the events of a call. -/
def afterCall (world : VaraWorld) (call : VaraCall) (events : List (Sigma VaraAnswer)) :
    Option VaraWorld :=
  (call.routine.follow varaExec 3 ⟨world, []⟩ events).map fun reached => reached.1.world

/-- What a call leaves behind can be reached. -/
theorem afterCall_reached {world after : VaraWorld} (reached : Reached world) {call : VaraCall}
    {events : List (Sigma VaraAnswer)} (leads : afterCall world call events = some after) :
    Reached after := by
  obtain ⟨⟨now, left⟩, followed, rfl⟩ := Option.map_eq_some_iff.mp leads
  exact .call reached call (follow_leads 3 events (fun _ _ => trivial) followed).1

/-- A session that has just been opened by the first batch. -/
theorem opened_reached (text : Text) (batch : Batch) (more : List Batch)
    (setup : afterCall (.new 0) (.connectModem ⟨.varaFm, "W1TEST".toList⟩ .vWide)
      (setupEvents (okBatch :: batch :: more)) = some ⟨true, [], okBatch :: batch :: more, 0⟩)
    (opened : afterCall ⟨true, [], okBatch :: batch :: more, 0⟩
      (.openSession ⟨"W1TEST".toList, "N0CALL".toList, [], true, 0⟩) (openEvents batch) =
        some ⟨true, text, more, 0⟩) : Reached ⟨true, text, more, 0⟩ :=
  afterCall_reached (afterCall_reached (.new 0) setup) opened

/-- Behind the line that opens the session, the one that ends it comes in the next batch. -/
theorem attentive_iff_sample : attended [] [disconnectedBatch] = true ∧
    ∀ now left, Leads varaExec anyRun (recv 5000) ⟨⟨true, [], [disconnectedBatch], 0⟩, []⟩ now left →
      Attentive now left := by
  have clean : attended [] [disconnectedBatch] = true := by decide
  have reached : Reached ⟨true, [], [disconnectedBatch], 0⟩ :=
    opened_reached [] connectedBatch [disconnectedBatch] (by decide) (by decide)
  exact ⟨clean, (attentive_iff ⟨true, [], [disconnectedBatch], 0⟩ reached 5000 (by decide)).mpr
    fun _ => clean⟩

/-- Where both lines come in one batch, the end of the session is overlooked. -/
theorem disconnect_overlooked : ¬ ∀ world, Reached world → ∀ deadline, world.now < deadline →
    ∀ now left, Leads varaExec anyRun (recv deadline) ⟨world, []⟩ now left → Attentive now left := by
  intro every
  have reached : Reached ⟨true, "DISCONNECTED\r".toList, [], 0⟩ :=
    opened_reached _ droppedBatch [] (by decide) (by decide)
  have held : CanOverlook 5000 ⟨true, "DISCONNECTED\r".toList, [], 0⟩ :=
    overlooks_held rfl (by decide) (by decide)
  obtain ⟨now, left, leads, inattentive⟩ := held.inattentive
  exact inattentive (every _ reached 5000 (by decide) now left leads)

end Course

end PacketBrowser.Vara
