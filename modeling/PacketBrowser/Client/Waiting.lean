import PacketBrowser.Client.Standing

/-!
# Requests that wait while the link is lost

A request is queued after a check of the connection state, and is written whenever the
background task gets to it. Between the two the link may be lost. A request that waits is
then written all the same, unless the queue itself holds it back: a session is asked for
in front of it, or the abort flag is set when its turn comes.

`exposed` says of a queue that it does not hold every request back. `spared` is a condition
on what the outside does: an answer that loses the link comes only while no request in the
queue is exposed, and while the link is lost no exposed one is queued. `waiting_held` shows
that in such a run every request is held back for as long as the link is lost.
-/

namespace PacketBrowser.Client

open Protocol Foundation Program Setting

/-- With the abort flag in this state, some request of the queue is written before a
session is asked for. Every command on the way may set the flag anew. -/
def exposed (aborted : Bool) : List (TicketId × Command) → Bool
  | [] => false
  | (_, command) :: later =>
    !command.opens && (command.requests && !aborted || exposed (command.sets.getD aborted) later)

/-- The abort flag as the next command of the queue finds it. -/
def flagAhead (m : ManagerId) (now : Moment) : Bool :=
  (due (own (.actor m) now.history)).getD (now.world.abort m)

/-- The event queues a command of the manager. -/
def queues (m : ManagerId) (event : ClientEvent) : Option (TicketId × Command) :=
  match event.op, event.answer with
  | .submit manager ticket command, true => if manager = m then some (ticket, command) else none
  | _, _ => none

/-- The event loses the link only while no request that waits is exposed, and queues a
request while the link is lost only if it is not exposed. -/
def spared (m : ManagerId) (now : Moment) (event : ClientEvent) : Bool :=
  let history := own (.actor m) now.history
  let waiting := now.world.queue m
  (event.thread != .actor m || !losing history event || !exposed (flagAhead m now) waiting) &&
    (queues m event).all fun item =>
      !item.2.requests || stands history || !exposed (flagAhead m now) (waiting ++ [item])

/-- While the link is lost, no request that waits is exposed. -/
def Held (m : ManagerId) (now : Moment) : Prop :=
  stands (own (.actor m) now.history) = false → exposed (flagAhead m now) (now.world.queue m) = false

section Proof

variable {m : ManagerId}

/-- A flag that is set exposes less. -/
theorem exposed_set {aborted : Bool} {waiting : List (TicketId × Command)}
    (held : exposed aborted waiting = false) : exposed true waiting = false := by
  induction waiting generalizing aborted with
  | nil => rfl
  | cons item later inductionHypothesis =>
    obtain ⟨ticket, command⟩ := item
    simp only [exposed, Bool.and_eq_false_iff, Bool.or_eq_false_iff] at held ⊢
    rcases held with opens | ⟨_, rest⟩
    · exact Or.inl opens
    · refine Or.inr ⟨by simp, ?_⟩
      cases sets : command.sets with
      | none =>
        rw [sets] at rest
        exact inductionHypothesis rest
      | some value =>
        rw [sets] at rest
        exact rest

/-- A command that is no request exposes nothing behind the others. -/
theorem exposed_append {item : TicketId × Command} (other : item.2.requests = false) :
    ∀ (waiting : List (TicketId × Command)) (aborted : Bool),
      exposed aborted (waiting ++ [item]) = exposed aborted waiting
  | [], aborted => by simp [exposed, other]
  | (_, command) :: later, aborted => by
    simp only [List.cons_append, exposed, exposed_append other later]

variable (m) in
/-- Runs in which the waiting requests are spared, with what is known of them. -/
def waitSetting : Setting World Task Answer where
  exec := exec
  meets now event := (spared m now event = true ∧ event.thread.allowed event.op) ∧
    Orderly m event now.history
  inv now := Held m now

section Steps

variable {now later : Moment} {event : ClientEvent}

/-- What the step is known to do. -/
theorem waits_world (moves : (waitSetting m).Moves now event later) :
    later.world = now.world.apply event.op event.answer :=
  (exec_iff.mp moves.occurs.1).2

/-- Another task sets the flag at most. -/
theorem flagAhead_foreign (foreign : event.thread ≠ .actor m)
    (moves : (waitSetting m).Moves now event later) :
    flagAhead m later = flagAhead m now ∨ flagAhead m later = true := by
  unfold flagAhead
  rw [moves.occurs.2, own_foreign foreign]
  cases due (own (.actor m) now.history) with
  | some value => exact Or.inl rfl
  | none =>
    simp only [Option.getD_none]
    cases before : now.world.abort m with
    | true => exact Or.inl (abort_elsewhere foreign moves.met.1.2 moves.occurs before)
    | false =>
      cases after : later.world.abort m with
      | true => exact Or.inr rfl
      | false => exact Or.inl rfl

/-- The next command of the queue finds the flag as it was ahead of it, unless the step
takes that command. -/
theorem flagAhead_own {op : Op} {answer : Answer op}
    (moves : (waitSetting m).Moves now ⟨.actor m, op, answer⟩ later)
    (takes : ∀ manager, op ≠ .nextCommand manager) : flagAhead m later = flagAhead m now := by
  unfold flagAhead
  rw [moves.occurs.2, own_self, due_cons takes]
  cases isDue : due (own (.actor m) now.history) with
  | some value =>
    obtain rfl : op = .storeAbort m value := moves.met.2.flag rfl value isDue
    rw [waits_world moves]
    exact assign_self _ _ _
  | none =>
    rw [waits_world moves]
    apply apply_abort
    rintro value rfl
    have stored := moves.met.2.stores rfl value rfl
    exact absurd (isDue.symm.trans stored) (by simp)

/-- What queues nothing and takes nothing leaves the queue alone. -/
theorem waiting_kept (takes : event.op ≠ .nextCommand m) (silent : queues m event = none)
    (moves : (waitSetting m).Moves now event later) : later.world.queue m = now.world.queue m := by
  rw [waits_world moves]
  apply apply_queue_kept _ _ _ m takes
  rintro ticket command same
  obtain ⟨thread, op, answer⟩ := event
  cases same
  simp [queues] at silent

/-- What is queued stands behind what waits already. -/
theorem waiting_grown {item : TicketId × Command} (queued : queues m event = some item)
    (moves : (waitSetting m).Moves now event later) :
    later.world.queue m = now.world.queue m ++ [item] := by
  obtain ⟨thread, op, answer⟩ := event
  rw [waits_world moves]
  cases op with
  | submit manager ticket command =>
    cases answer with
    | false => simp [queues] at queued
    | true =>
      by_cases same : manager = m
      · subst same
        obtain rfl : (ticket, command) = item := by simpa [queues] using queued
        simp [World.apply]
      · simp [queues, same] at queued
  | _ => simp [queues] at queued

/-- An answer that loses the link queues nothing. -/
theorem losing_queues {history : List ClientEvent} (loses : losing history event = true) :
    queues m event = none := by
  obtain ⟨thread, op, answer⟩ := event
  cases op with
  | submit manager ticket command => simp [losing, fatal, refusal] at loses
  | _ => rfl

/-- A queue from which nothing is taken holds its requests back if it did so before. -/
theorem held_unless_taken (takes : event.op ≠ .nextCommand m)
    (moves : (waitSetting m).Moves now event later)
    (down : stands (own (.actor m) now.history) = false) :
    exposed (flagAhead m now) (later.world.queue m) = false := by
  have held := moves.inv down
  cases queued : queues m event with
  | none =>
    rw [waiting_kept takes queued moves]
    exact held
  | some item =>
    rw [waiting_grown queued moves]
    cases requests : item.2.requests with
    | false => rw [exposed_append requests, held]
    | true =>
      have met := moves.met.1.1
      simp only [spared, queued, Option.all_some, requests, down, Bool.and_eq_true] at met
      simpa using met.2

/-- Taking a command leaves the rest of the queue behind what the command does. -/
theorem held_taken {answer : Answer (.nextCommand m)}
    (moves : (waitSetting m).Moves now ⟨.actor m, .nextCommand m, answer⟩ later) : Held m later := by
  intro down
  have nothing : due (own (.actor m) now.history) = none := by
    cases isDue : due (own (.actor m) now.history) with
    | none => rfl
    | some value => exact absurd (moves.met.2.flag rfl value isDue) (by simp)
  have head : answer = (now.world.queue m).head? := by
    simpa [World.gives] using (exec_iff.mp moves.occurs.1).1
  unfold flagAhead
  rw [moves.occurs.2, own_self] at down ⊢
  rw [waits_world moves]
  cases waiting : now.world.queue m with
  | nil =>
    rw [waiting] at head
    subst head
    simp [World.apply, waiting, exposed]
  | cons item rest =>
    rw [waiting] at head
    subst head
    obtain ⟨ticket, command⟩ := item
    simp only [stands, Bool.and_eq_false_iff, Bool.or_eq_false_iff] at down
    obtain ⟨silent, before⟩ := down.resolve_left (by simp [losing, fatal, refusal])
    have held := moves.inv before
    simp only [flagAhead, nothing, Option.getD_none, waiting, exposed] at held
    have other : command.opens = false := by
      cases command <;> first | rfl | exact absurd silent (by simp [raises])
    simp only [other, Bool.not_false, Bool.true_and, Bool.or_eq_false_iff] at held
    simpa [due, begun, World.apply, waiting] using held.2

/-- Every step keeps the requests held back. The cases are whose step it is, and whether
it takes a command. -/
theorem held_step (moves : (waitSetting m).Moves now event later) : Held m later := by
  by_cases foreign : event.thread ≠ .actor m
  · intro down
    rw [moves.occurs.2, own_foreign foreign] at down
    have takes : event.op ≠ .nextCommand m := fun same =>
      foreign (owner_performs (by rw [same]; rfl) moves.met.1.2)
    have held := held_unless_taken takes moves down
    rcases flagAhead_foreign foreign moves with same | set
    · rw [same]
      exact held
    · rw [set]
      exact exposed_set held
  obtain ⟨thread, op, answer⟩ := event
  obtain rfl : thread = .actor m := not_not.mp foreign
  by_cases takes : ∃ manager, op = .nextCommand manager
  · obtain ⟨manager, rfl⟩ := takes
    obtain rfl : m = manager := Task.actor.inj (owner_performs rfl moves.met.1.2)
    exact held_taken moves
  · intro down
    rw [flagAhead_own moves fun manager same => takes ⟨manager, same⟩]
    rw [moves.occurs.2, own_self] at down
    simp only [stands, Bool.and_eq_false_iff, Bool.or_eq_false_iff, Bool.not_eq_false'] at down
    have kept : op ≠ .nextCommand m := fun same => takes ⟨m, same⟩
    rcases down with loses | ⟨_, before⟩
    · have met := (Bool.and_eq_true_iff.mp moves.met.1.1).1
      rw [waiting_kept kept (losing_queues loses) moves]
      simpa [loses] using met
    · exact held_unless_taken kept moves before

end Steps

end Proof

/-- In a run that spares its waiting requests they are held back for as long as the link is
lost. -/
theorem waiting_held (m : ManagerId) {entries : Nat → Entry} {configuredTimeout : ManagerId → Nat}
    {meets : Moment → ClientEvent → Prop} (sparing : ∀ now event, meets now event → spared m now event = true)
    (pool : Pool World Task Answer)
    (reaches : Reaches exec meets (client entries configuredTimeout) pool) : Held m pool.now := by
  have known : Reaches exec (waitSetting m).meets (client entries configuredTimeout) pool :=
    ((client_roles reaches).throughout fun pool => client_orderly m pool).mono
      fun now event met => ⟨⟨sparing now event met.1.1, met.1.2⟩, met.2⟩
  have kept : (waitSetting m).inv pool.now ∧ _ :=
    sound known (by simp [waitSetting, Held, exposed, client, World.initial]) fun task =>
      safe_only (client_only entries configuredTimeout task)
        (fun op permitted now answer later moves => held_step moves) _
  exact kept.1

end PacketBrowser.Client
