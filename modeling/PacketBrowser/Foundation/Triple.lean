import Mathlib.Logic.Relation
import PacketBrowser.Foundation.Pool

/-!
# Reasoning about one thread among others

A setting fixes what operations mean, which steps a run is assumed to take, and an
invariant. A thread's program is safe when every operation of it, performed after
any number of steps of other threads, keeps the invariant. A pool of safe programs
keeps the invariant in every run.

Safety is established by triples over assertions on the world and the history.
An assertion has to be stable: no step of another thread may destroy it.
-/

namespace Foundation

variable {Op : Type} {Answer : Op → Type} {World Thread : Type}

/-- The meaning of operations, the steps a run is assumed to take, and the
invariant to be kept. -/
structure Setting (World Thread : Type) {Op : Type} (Answer : Op → Type) where
  exec : (op : Op) → Answer op → World → Option World
  meets : Snapshot World Thread Answer → Event Thread Answer → Prop
  inv : Snapshot World Thread Answer → Prop

namespace Setting

variable (S : Setting World Thread Answer)

/-- An assumed step out of a snapshot with the invariant. -/
structure Moves (before : Snapshot World Thread Answer) (event : Event Thread Answer)
    (after : Snapshot World Thread Answer) : Prop where
  occurs : Occurs S.exec before event after
  met : S.meets before event
  inv : S.inv before

/-- A step of another thread that kept the invariant. -/
def Elsewhere (thread : Thread) (before after : Snapshot World Thread Answer) : Prop :=
  ∃ event, event.thread ≠ thread ∧ S.Moves before event after ∧ S.inv after

/-- Any number of steps of other threads. -/
def Others (thread : Thread) :
    Snapshot World Thread Answer → Snapshot World Thread Answer → Prop :=
  Relation.ReflTransGen (S.Elsewhere thread)

/-- No step of another thread destroys the assertion. -/
def Stable (thread : Thread) (assertion : Snapshot World Thread Answer → Prop) : Prop :=
  ∀ before after, assertion before → S.Elsewhere thread before after → assertion after

variable {S}
variable {thread : Thread} {α β σ : Type}

/-- Any number of steps of the other threads keep what is stable. -/
theorem Stable.others {assertion : Snapshot World Thread Answer → Prop}
    (stable : S.Stable thread assertion) {before after : Snapshot World Thread Answer}
    (holds : assertion before) (others : S.Others thread before after) : assertion after := by
  induction others with
  | refl => exact holds
  | tail _ last inductionHypothesis => exact stable _ _ inductionHypothesis last

/-- A fact about no state is stable. -/
theorem stable_const (fact : Prop) : S.Stable thread fun _ => fact := fun _ _ holds _ => holds

/-- Two stable assertions are stable together. -/
theorem Stable.and {left right : Snapshot World Thread Answer → Prop}
    (first : S.Stable thread left) (second : S.Stable thread right) :
    S.Stable thread fun now => left now ∧ right now := fun before after holds elsewhere =>
  ⟨first before after holds.1 elsewhere, second before after holds.2 elsewhere⟩

/-- One of two stable assertions is stable. -/
theorem Stable.or {left right : Snapshot World Thread Answer → Prop}
    (first : S.Stable thread left) (second : S.Stable thread right) :
    S.Stable thread fun now => left now ∨ right now := fun before after holds elsewhere =>
  holds.imp (first before after · elsewhere) (second before after · elsewhere)

/-- A stable assertion stays so under a condition. -/
theorem Stable.imp {fact : Prop} {assertion : Snapshot World Thread Answer → Prop}
    (stable : S.Stable thread assertion) : S.Stable thread fun now => fact → assertion now :=
  fun before after holds elsewhere given => stable before after (holds given) elsewhere

variable (S thread) in
/-- Every operation the program performs, after any steps of other threads, keeps
the invariant; a value is returned only where the second assertion holds of it. A
loop is safe by an assertion on its state that each round restores. -/
def Safe : {α : Type} → Program Op Answer α → (α → Snapshot World Thread Answer → Prop) →
    Snapshot World Thread Answer → Prop
  | _, .done value, post, now => ∀ later, S.Others thread now later → post value later
  | _, .perform op next, post, now => ∀ later, S.Others thread now later →
      ∀ answer after, S.Moves later ⟨thread, op, answer⟩ after →
        S.inv after ∧ Safe (next answer) post after
  | _, .iterate body state next, post, now =>
      ∃ assertion : _ → Snapshot World Thread Answer → Prop,
        (∀ state, S.Stable thread (assertion state)) ∧ assertion state now ∧
        ∀ state now, assertion state now → Safe (body state) (fun
          | .inl later, now => assertion later now
          | .inr result, now => Safe (next result) post now) now

/-- Safety is not lost while other threads move. -/
theorem Safe.others {program : Program Op Answer α} {post : α → Snapshot World Thread Answer → Prop}
    {before after : Snapshot World Thread Answer} (safe : S.Safe thread program post before)
    (others : S.Others thread before after) : S.Safe thread program post after := by
  cases program with
  | done value => exact fun later further => safe later (others.trans further)
  | perform op next => exact fun later further => safe later (others.trans further)
  | iterate body state next =>
    obtain ⟨assertion, stable, holds, each⟩ := safe
    exact ⟨assertion, stable, (stable state).others holds others, each⟩

/-- A safe program reaches every weaker end. -/
theorem Safe.mono {program : Program Op Answer α}
    {post weaker : α → Snapshot World Thread Answer → Prop} {now : Snapshot World Thread Answer}
    (implies : ∀ value now, post value now → weaker value now)
    (safe : S.Safe thread program post now) : S.Safe thread program weaker now := by
  induction program generalizing now with
  | done value => exact fun later others => implies value later (safe later others)
  | perform op next inductionHypothesis =>
    intro later others answer after moves
    obtain ⟨kept, rest⟩ := safe later others answer after moves
    exact ⟨kept, inductionHypothesis answer implies rest⟩
  | iterate body state next bodyHypothesis inductionHypothesis =>
    obtain ⟨assertion, stable, holds, each⟩ := safe
    refine ⟨assertion, stable, holds, fun state now holds => ?_⟩
    refine bodyHypothesis state ?_ (each state now holds)
    rintro (later | result) now
    · exact id
    · exact inductionHypothesis result implies

/-- Safety of a sequence, from safety of its parts. -/
theorem Safe.bind {program : Program Op Answer α} {after : α → Program Op Answer β}
    {post : β → Snapshot World Thread Answer → Prop} {now : Snapshot World Thread Answer}
    (safe : S.Safe thread program (fun value now => S.Safe thread (after value) post now) now) :
    S.Safe thread (program.bind after) post now := by
  induction program generalizing now with
  | done value => exact safe now .refl
  | perform op next inductionHypothesis =>
    intro later others answer moved moves
    obtain ⟨kept, rest⟩ := safe later others answer moved moves
    exact ⟨kept, inductionHypothesis answer rest⟩
  | iterate body state next _ inductionHypothesis =>
    obtain ⟨assertion, stable, holds, each⟩ := safe
    refine ⟨assertion, stable, holds, fun state now holds => (each state now holds).mono ?_⟩
    rintro (later | result) now
    · exact id
    · exact inductionHypothesis result

/-- What no other thread destroys and no operation of the program destroys holds until
its end. -/
theorem Safe.frame {program : Program Op Answer α}
    {post : α → Snapshot World Thread Answer → Prop} {now : Snapshot World Thread Answer}
    {frame : Snapshot World Thread Answer → Prop} {allowed : Op → Prop}
    (stable : S.Stable thread frame)
    (keeps : ∀ op, allowed op → ∀ now answer later, frame now →
      S.Moves now ⟨thread, op, answer⟩ later → frame later)
    (only : program.Only allowed) (safe : S.Safe thread program post now) (framed : frame now) :
    S.Safe thread program (fun value now => post value now ∧ frame now) now := by
  induction program generalizing now with
  | done value => exact fun later others => ⟨safe later others, stable.others framed others⟩
  | perform op next inductionHypothesis =>
    intro later others answer after moves
    obtain ⟨kept, rest⟩ := safe later others answer after moves
    have framedLater := keeps op only.1 later answer after (stable.others framed others) moves
    exact ⟨kept, inductionHypothesis answer (only.2 answer) rest framedLater⟩
  | iterate body state next bodyHypothesis inductionHypothesis =>
    obtain ⟨assertion, stableAssertion, holds, each⟩ := safe
    refine ⟨fun state now => assertion state now ∧ frame now,
      fun state before after both elsewhere => ⟨stableAssertion state _ _ both.1 elsewhere,
        stable _ _ both.2 elsewhere⟩, ⟨holds, framed⟩, fun state now both => ?_⟩
    refine (bodyHypothesis state (only.1 state) (each state now both.1) both.2).mono ?_
    rintro (later | result) now ⟨kept, framedNow⟩
    · exact ⟨kept, framedNow⟩
    · exact inductionHypothesis result (only.2 result) kept framedNow

/-- A safe loop is safe once its first round is written out. -/
theorem Safe.unroll {body : σ → Program Op Answer (σ ⊕ β)} {state : σ}
    {next : β → Program Op Answer α} {post : α → Snapshot World Thread Answer → Prop}
    {now : Snapshot World Thread Answer} (safe : S.Safe thread (.iterate body state next) post now) :
    S.Safe thread (Program.unroll body state next) post now := by
  obtain ⟨assertion, stable, holds, each⟩ := safe
  refine Safe.bind ((each state now holds).mono ?_)
  rintro (later | result) now
  · exact fun holds => ⟨assertion, stable, holds, each⟩
  · exact id

/-- The next operation of a safe program keeps the invariant, and what follows it
is safe. Induction enters the loops in front of the operation. -/
theorem Safe.performs {program : Program Op Answer α}
    {post : α → Snapshot World Thread Answer → Prop} {now after : Snapshot World Thread Answer}
    {op : Op} {next : Answer op → Program Op Answer α} {answer : Answer op}
    (safe : S.Safe thread program post now) (performs : program.Performs op next)
    (moves : S.Moves now ⟨thread, op, answer⟩ after) :
    S.inv after ∧ S.Safe thread (next answer) post after := by
  induction performs with
  | here op next => exact safe now .refl answer after moves
  | unroll body state next _ inductionHypothesis => exact inductionHypothesis safe.unroll moves

/-- A pool of safe programs keeps the invariant, whatever the interleaving. -/
theorem sound [DecidableEq Thread] {start pool : Pool World Thread Answer}
    (reaches : Reaches S.exec S.meets start pool) (holds : S.inv start.now)
    (safe : ∀ thread, S.Safe thread (start.threads thread) (fun _ _ => True) start.now) :
    S.inv pool.now ∧
      ∀ thread, S.Safe thread (pool.threads thread) (fun _ _ => True) pool.now := by
  induction reaches with
  | start => exact ⟨holds, safe⟩
  | @step pool after thread op next answer _ performs occurs met inductionHypothesis =>
    obtain ⟨kept, programs⟩ := inductionHypothesis
    have moves : S.Moves pool.now ⟨thread, op, answer⟩ after := ⟨occurs, met, kept⟩
    obtain ⟨later, rest⟩ := (programs thread).performs performs moves
    refine ⟨later, fun other => ?_⟩
    by_cases same : other = thread
    · subst same
      simpa [Pool.set] using rest
    · have elsewhere : S.Others other pool.now after :=
        .single ⟨_, fun equal => same equal.symm, moves, later⟩
      simpa [Pool.set, same] using (programs other).others elsewhere

section Triples

variable (S thread) in
/-- Wherever the first assertion holds, the program is safe and returns only
values of which the second one holds. -/
def Triple (pre : Snapshot World Thread Answer → Prop) (program : Program Op Answer α)
    (post : α → Snapshot World Thread Answer → Prop) : Prop :=
  ∀ now, pre now → S.Safe thread program post now

variable {pre : Snapshot World Thread Answer → Prop} {program : Program Op Answer α}
variable {post : α → Snapshot World Thread Answer → Prop}

/-- More may be asked before a program, and less promised behind it. -/
theorem Triple.consequence {stronger : Snapshot World Thread Answer → Prop}
    {weaker : α → Snapshot World Thread Answer → Prop} (triple : S.Triple thread pre program post)
    (before : ∀ now, stronger now → pre now) (after : ∀ value now, post value now → weaker value now) :
    S.Triple thread stronger program weaker :=
  fun now holds => (triple now (before now holds)).mono after

/-- A program that is over needs its end to follow from its beginning. -/
theorem triple_done {value : α} (stable : S.Stable thread (post value))
    (implies : ∀ now, pre now → post value now) :
    S.Triple thread pre (.done value) post :=
  fun now holds _ others => stable.others (implies now holds) others

/-- One operation: the invariant is kept, and the second assertion holds. -/
theorem triple_ask {op : Op} {post : Answer op → Snapshot World Thread Answer → Prop}
    (before : S.Stable thread pre) (after : ∀ answer, S.Stable thread (post answer))
    (each : ∀ now answer later, pre now → S.Moves now ⟨thread, op, answer⟩ later →
      S.inv later ∧ post answer later) :
    S.Triple thread pre (Program.ask op) post := by
  intro now holds later others answer moved moves
  obtain ⟨kept, established⟩ := each later answer moved (before.others holds others) moves
  exact ⟨kept, fun final further => (after answer).others established further⟩

/-- Two programs one after the other, by what holds between them. -/
theorem triple_bind {first : Program Op Answer β} {after : β → Program Op Answer α}
    (middle : β → Snapshot World Thread Answer → Prop)
    (one : S.Triple thread pre first middle)
    (two : ∀ value, S.Triple thread (middle value) (after value) post) :
    S.Triple thread pre (first >>= after) post :=
  fun now holds => Safe.bind ((one now holds).mono fun value => two value)

/-- One operation whose answer only decides the value returned. -/
theorem triple_ask_return {op : Op} {value : Answer op → α} (before : S.Stable thread pre)
    (after : ∀ value, S.Stable thread (post value))
    (each : ∀ now answer later, pre now → S.Moves now ⟨thread, op, answer⟩ later →
      S.inv later ∧ post (value answer) later) :
    S.Triple thread pre (Program.ask op >>= fun answer => pure (value answer)) post :=
  triple_bind (fun answer => post (value answer))
    (triple_ask before (fun answer => after (value answer)) each)
    fun answer => triple_done (after (value answer)) fun _ => id

/-- A loop keeps an assertion on its state, and leaves with the final one. -/
theorem triple_loop {body : σ → Program Op Answer (σ ⊕ α)}
    (assertion : σ → Snapshot World Thread Answer → Prop)
    (stable : ∀ state, S.Stable thread (assertion state))
    (final : ∀ value, S.Stable thread (post value))
    (each : ∀ state, S.Triple thread (assertion state) (body state) (Sum.elim assertion post))
    (state : σ) : S.Triple thread (assertion state) (Program.loop body state) post := by
  intro now holds
  refine ⟨assertion, stable, holds, fun state now holds => (each state now holds).mono ?_⟩
  rintro (later | result) now
  · exact id
  · exact fun established _ others => (final result).others established others

/-- A frame is carried past a program none of whose operations destroys it. -/
theorem triple_frame {frame : Snapshot World Thread Answer → Prop} {allowed : Op → Prop}
    (stable : S.Stable thread frame)
    (keeps : ∀ op, allowed op → ∀ now answer later, frame now →
      S.Moves now ⟨thread, op, answer⟩ later → frame later)
    (only : program.Only allowed) (triple : S.Triple thread pre program post) :
    S.Triple thread (fun now => pre now ∧ frame now) program
      fun value now => post value now ∧ frame now :=
  fun now holds => (triple now holds.1).frame stable keeps only holds.2

/-- A program that only performs harmless operations preserves an assertion. -/
theorem triple_only {allowed : Op → Prop} (stable : S.Stable thread pre)
    (only : program.Only allowed)
    (harmless : ∀ op, allowed op → ∀ now answer later, pre now →
      S.Moves now ⟨thread, op, answer⟩ later → S.inv later ∧ pre later) :
    S.Triple thread pre program fun _ => pre := by
  induction program with
  | done value => exact triple_done stable fun _ => id
  | perform op next inductionHypothesis =>
    intro now holds later others answer after moves
    obtain ⟨kept, established⟩ :=
      harmless op only.1 later answer after (stable.others holds others) moves
    exact ⟨kept, inductionHypothesis answer (only.2 answer) after established⟩
  | iterate body state next bodyHypothesis inductionHypothesis =>
    refine fun now holds => ⟨fun _ => pre, fun _ => stable, holds, fun state now holds =>
      (bodyHypothesis state (only.1 state) now holds).mono ?_⟩
    rintro (later | result) now
    · exact id
    · exact inductionHypothesis result (only.2 result) now

/-- A thread that only performs harmless operations is safe. -/
theorem safe_only {allowed : Op → Prop} (only : program.Only allowed)
    (harmless : ∀ op, allowed op → ∀ now answer later,
      S.Moves now ⟨thread, op, answer⟩ later → S.inv later)
    (now : Snapshot World Thread Answer) :
    S.Safe thread program (fun _ _ => True) now :=
  triple_only (stable_const True) only
    (fun op permitted now answer later _ moves => ⟨harmless op permitted now answer later moves,
      trivial⟩) now trivial

end Triples

section Attempts

/-! Programs that may fail continue only after success. -/

variable {ε : Type} {pre : Snapshot World Thread Answer → Prop}
variable {post : Except ε β → Snapshot World Thread Answer → Prop}

/-- One assertion about the value of a success and one about the error of a failure. -/
def outcome (succeeded : α → Snapshot World Thread Answer → Prop)
    (failed : ε → Snapshot World Thread Answer → Prop) :
    Except ε α → Snapshot World Thread Answer → Prop
  | .ok value => succeeded value
  | .error error => failed error

/-- An outcome is stable if both its cases are. -/
theorem stable_outcome {succeeded : α → Snapshot World Thread Answer → Prop}
    {failed : ε → Snapshot World Thread Answer → Prop}
    (first : ∀ value, S.Stable thread (succeeded value))
    (second : ∀ error, S.Stable thread (failed error)) (result : Except ε α) :
    S.Stable thread (outcome succeeded failed result) := by
  cases result with
  | ok value => exact first value
  | error error => exact second error

/-- Two attempts one after the other; where the first one fails, this is how both end. -/
theorem triple_attempt {first : ExceptT ε (Program Op Answer) α}
    {after : α → ExceptT ε (Program Op Answer) β}
    (middle : α → Snapshot World Thread Answer → Prop)
    (failed : ∀ error, S.Stable thread (post (.error error)))
    (one : S.Triple thread pre first.run (outcome middle fun error => post (.error error)))
    (two : ∀ value, S.Triple thread (middle value) (after value).run post) :
    S.Triple thread pre (first >>= after).run post := by
  apply triple_bind _ one
  intro value
  cases value with
  | ok value => exact two value
  | error error => exact triple_done (failed error) fun _ => id

/-- A harmless part of a program that may fail, in front of the rest. -/
theorem triple_attempt_only {allowed : Op → Prop} {first : ExceptT ε (Program Op Answer) α}
    {after : α → ExceptT ε (Program Op Answer) β} (stable : S.Stable thread pre)
    (only : first.run.Only allowed)
    (harmless : ∀ op, allowed op → ∀ now answer later, pre now →
      S.Moves now ⟨thread, op, answer⟩ later → S.inv later ∧ pre later)
    (failed : ∀ error, S.Stable thread (post (.error error)))
    (gives : ∀ error now, pre now → post (.error error) now)
    (two : ∀ value, S.Triple thread pre (after value).run post) :
    S.Triple thread pre (first >>= after).run post := by
  refine triple_attempt (fun _ => pre) failed ?_ two
  apply (triple_only stable only harmless).consequence (fun _ => id)
  intro value now holds
  cases value with
  | ok value => exact holds
  | error error => exact gives error now holds

/-- A program without failures, as an attempt that succeeds. -/
theorem triple_lift {first : Program Op Answer β}
    (final : ∀ value, S.Stable thread (post (.ok value)))
    (triple : S.Triple thread pre first fun value => post (.ok value)) :
    S.Triple thread pre (ExceptT.lift first).run post :=
  triple_bind (fun value => post (.ok value)) triple fun value =>
    triple_done (final value) fun _ => id

end Attempts

end Setting

end Foundation
