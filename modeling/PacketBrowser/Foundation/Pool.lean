import PacketBrowser.Foundation.Program

/-!
# Threads over a shared world

A pool is a world, the history of all operations so far, and one program for each
thread. In one step some thread performs its next operation; the meaning of
operations says which answers the world allows and how it changes. `Reaches`
ranges over every interleaving and every allowed answer, restricted to runs in
which each step meets a given condition.

`replay` executes a list of events. It is how a concrete run is exhibited.
-/

namespace Foundation

variable {Op : Type} {Answer : Op → Type} {World Thread : Type}

/-- One operation of one thread with its answer. -/
structure Event (Thread : Type) {Op : Type} (Answer : Op → Type) where
  thread : Thread
  op : Op
  answer : Answer op

/-- The world at some moment and what happened before, newest event first. -/
structure Snapshot (World Thread : Type) {Op : Type} (Answer : Op → Type) where
  world : World
  history : List (Event Thread Answer)

/-- A snapshot and what every thread does next. -/
structure Pool (World Thread : Type) {Op : Type} (Answer : Op → Type) where
  now : Snapshot World Thread Answer
  threads : Thread → Program Op Answer Unit

/-- Each event of a history satisfies the property, given what happened before it. -/
def Throughout (property : Event Thread Answer → List (Event Thread Answer) → Prop) :
    List (Event Thread Answer) → Prop
  | [] => True
  | event :: earlier => property event earlier ∧ Throughout property earlier

/-- A property that can be decided of each event can be decided throughout. -/
instance decideThroughout {property : Event Thread Answer → List (Event Thread Answer) → Prop}
    [∀ event earlier, Decidable (property event earlier)] :
    ∀ history, Decidable (Throughout property history)
  | [] => inferInstanceAs (Decidable True)
  | event :: earlier =>
    have : Decidable (Throughout property earlier) := decideThroughout earlier
    inferInstanceAs (Decidable (property event earlier ∧ Throughout property earlier))

/-- The property holds at every place of the history. -/
theorem throughout_iff {property : Event Thread Answer → List (Event Thread Answer) → Prop}
    {history : List (Event Thread Answer)} :
    Throughout property history ↔
      ∀ later event earlier, history = later ++ event :: earlier → property event earlier := by
  induction history with
  | nil => simp [Throughout]
  | cons first rest inductionHypothesis =>
    constructor
    · rintro ⟨here, before⟩ later event earlier split
      cases later with
      | nil =>
        obtain ⟨rfl, rfl⟩ := List.cons.inj split
        exact here
      | cons _ later =>
        exact inductionHypothesis.mp before later event earlier (List.cons.inj split).2
    · intro every
      exact ⟨every [] first rest rfl, inductionHypothesis.mpr fun later event earlier split =>
        every (first :: later) event earlier (by rw [split]; rfl)⟩

/-- The property holds of each of a list of events performed in order. -/
theorem throughout_performed {property : Event Thread Answer → List (Event Thread Answer) → Prop}
    {before after : List (Event Thread Answer)} {event : Event Thread Answer}
    (every : Throughout property (before ++ event :: after).reverse) :
    property event before.reverse :=
  throughout_iff.mp every after.reverse event before.reverse (by simp)

/-- A family of properties holds throughout if each of them does. -/
theorem throughout_forall {ι : Type}
    {property : ι → Event Thread Answer → List (Event Thread Answer) → Prop}
    {history : List (Event Thread Answer)} (each : ∀ index, Throughout (property index) history) :
    Throughout (fun event earlier => ∀ index, property index event earlier) history :=
  throughout_iff.mpr fun later event earlier split index =>
    throughout_iff.mp (each index) later event earlier split

section Runs

variable (exec : (op : Op) → Answer op → World → Option World)

/-- The event is possible in the first snapshot and leads to the second. -/
def Occurs (before : Snapshot World Thread Answer) (event : Event Thread Answer)
    (after : Snapshot World Thread Answer) : Prop :=
  exec event.op event.answer before.world = some after.world ∧
    after.history = event :: before.history

variable [DecidableEq Thread]

/-- Replace the program of one thread. -/
def Pool.set (threads : Thread → Program Op Answer Unit) (thread : Thread)
    (program : Program Op Answer Unit) : Thread → Program Op Answer Unit :=
  fun other => if other = thread then program else threads other

omit [DecidableEq Thread] in
variable (meets : Snapshot World Thread Answer → Event Thread Answer → Prop) in
/-- The pools some run leads to, each of whose steps meets the condition. -/
inductive Reaches [DecidableEq Thread] (start : Pool World Thread Answer) :
    Pool World Thread Answer → Prop
  | start : Reaches start start
  | step {pool : Pool World Thread Answer} {after : Snapshot World Thread Answer} {thread : Thread}
      {op : Op} {next : Answer op → Program Op Answer Unit} {answer : Answer op}
      (earlier : Reaches start pool) (performs : (pool.threads thread).Performs op next)
      (occurs : Occurs exec pool.now ⟨thread, op, answer⟩ after)
      (met : meets pool.now ⟨thread, op, answer⟩) :
      Reaches start ⟨after, Pool.set pool.threads thread (next answer)⟩

variable {exec} {meets : Snapshot World Thread Answer → Event Thread Answer → Prop}
variable {start pool : Pool World Thread Answer}

/-- A run that meets a condition meets every weaker one. -/
theorem Reaches.mono {weaker : Snapshot World Thread Answer → Event Thread Answer → Prop}
    (implies : ∀ now event, meets now event → weaker now event)
    (reaches : Reaches exec meets start pool) : Reaches exec weaker start pool := by
  induction reaches with
  | start => exact .start
  | step _ performs occurs met inductionHypothesis =>
    exact .step inductionHypothesis performs occurs (implies _ _ met)

/-- Where each thread's program performs only what the thread is allowed, so does
every run. -/
theorem Reaches.only {allowed : Thread → Op → Prop}
    (each : ∀ thread, (start.threads thread).Only (allowed thread))
    (reaches : Reaches exec meets start pool) :
    (∀ thread, (pool.threads thread).Only (allowed thread)) ∧
      Reaches exec (fun now event => meets now event ∧ allowed event.thread event.op) start pool := by
  induction reaches with
  | start => exact ⟨each, .start⟩
  | @step pool after thread op next answer _ performs occurs met inductionHypothesis =>
    obtain ⟨programs, strengthened⟩ := inductionHypothesis
    obtain ⟨permitted, rest⟩ := (programs thread).performs performs
    refine ⟨fun other => ?_, .step strengthened performs occurs ⟨met, permitted⟩⟩
    by_cases same : other = thread
    · subst same
      simpa [Pool.set] using rest answer
    · simpa [Pool.set, same] using programs other

/-- What holds throughout every run may be assumed of each step of a run. -/
theorem Reaches.throughout {property : Event Thread Answer → List (Event Thread Answer) → Prop}
    (every : ∀ pool, Reaches exec meets start pool → Throughout property pool.now.history)
    (reaches : Reaches exec meets start pool) :
    Reaches exec (fun now event => meets now event ∧ property event now.history) start pool := by
  induction reaches with
  | start => exact .start
  | step earlier performs occurs met inductionHypothesis =>
    have whole := every _ (.step earlier performs occurs met)
    rw [occurs.2] at whole
    exact .step inductionHypothesis performs occurs ⟨met, whole.1⟩

/-- What holds of every pool that is reached may be assumed before each step of a run. -/
theorem Reaches.always {property : Snapshot World Thread Answer → Prop}
    (every : ∀ pool, Reaches exec meets start pool → property pool.now)
    (reaches : Reaches exec meets start pool) :
    Reaches exec (fun now event => meets now event ∧ property now) start pool := by
  induction reaches with
  | start => exact .start
  | step earlier performs occurs met inductionHypothesis =>
    exact .step inductionHypothesis performs occurs ⟨met, every _ earlier⟩

section Replay

variable [DecidableEq Op]

variable (exec) in
/-- Let the thread of the event perform it, if its next operation is that of the
event, the world allows the answer, and the step passes the check. -/
def Pool.advance (check : Snapshot World Thread Answer → Event Thread Answer → Bool)
    (entries : Nat) (pool : Pool World Thread Answer) (event : Event Thread Answer) :
    Option (Pool World Thread Answer) :=
  match (pool.threads event.thread).expose entries with
  | .perform op next =>
    if same : op = event.op then
      if check pool.now event then
        match exec event.op event.answer pool.now.world with
        | some world => some ⟨⟨world, event :: pool.now.history⟩,
            Pool.set pool.threads event.thread (next (same ▸ event.answer))⟩
        | none => none
      else none
    else none
  | _ => none

variable (exec) in
/-- Perform the events in order. -/
def Pool.replay (check : Snapshot World Thread Answer → Event Thread Answer → Bool)
    (entries : Nat) : Pool World Thread Answer → List (Event Thread Answer) →
    Option (Pool World Thread Answer)
  | pool, [] => some pool
  | pool, event :: later => (pool.advance exec check entries event).bind fun next =>
      next.replay check entries later

variable {check : Snapshot World Thread Answer → Event Thread Answer → Bool}
variable (implies : ∀ now event, check now event = true → meets now event)

include implies

/-- A performed event is a step of a run. -/
theorem advance_reaches (entries : Nat) (event : Event Thread Answer)
    (later : Pool World Thread Answer)
    (advanced : pool.advance exec check entries event = some later)
    (reaches : Reaches exec meets start pool) :
    Reaches exec meets start later ∧ later.now.history = event :: pool.now.history := by
  obtain ⟨thread, eventOp, answer⟩ := event
  unfold Pool.advance at advanced
  dsimp only at advanced
  split at advanced
  · rename_i op next exposed
    split at advanced
    · rename_i same
      subst same
      split at advanced
      · rename_i passed
        split at advanced
        · rename_i world executed
          obtain rfl := Option.some.inj advanced
          exact ⟨.step reaches (Program.performs_of_expose entries _ _ _ exposed)
            ⟨executed, rfl⟩ (implies _ _ passed), rfl⟩
        · exact absurd advanced (by simp)
      · exact absurd advanced (by simp)
    · exact absurd advanced (by simp)
  · exact absurd advanced (by simp)

/-- A replay that succeeds leads to a pool with exactly the given history. -/
theorem replay_leads (entries : Nat) (events : List (Event Thread Answer))
    (middle pool : Pool World Thread Answer)
    (fits : middle.replay exec check entries events = some pool)
    (reaches : Reaches exec meets start middle) : Reaches exec meets start pool ∧
      pool.now.history = events.reverse ++ middle.now.history := by
  induction events generalizing middle with
  | nil =>
    obtain rfl := Option.some.inj fits
    exact ⟨reaches, rfl⟩
  | cons event later inductionHypothesis =>
    cases advanced : middle.advance exec check entries event with
    | none => simp [Pool.replay, advanced] at fits
    | some next =>
      obtain ⟨reached, grown⟩ := advance_reaches implies entries event next advanced reaches
      have rest : next.replay exec check entries later = some pool := by
        simpa [Pool.replay, advanced] using fits
      obtain ⟨final, history⟩ := inductionHypothesis next rest reached
      exact ⟨final, by simp [history, grown]⟩

/-- Events that a pool can replay are a run of it. -/
theorem replay_reaches (entries : Nat) (events : List (Event Thread Answer))
    (fits : (start.replay exec check entries events).isSome) :
    ∃ pool, Reaches exec meets start pool ∧
      pool.now.history = events.reverse ++ start.now.history := by
  obtain ⟨pool, replayed⟩ := Option.isSome_iff_exists.mp fits
  exact ⟨pool, replay_leads implies entries events start pool replayed .start⟩

end Replay

end Runs

end Foundation
