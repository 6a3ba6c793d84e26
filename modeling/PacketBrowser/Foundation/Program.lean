import Mathlib.Data.Nat.Notation

/-!
# Programs that ask their environment

A program ends with a value, performs one operation and continues with the answer,
or iterates a body until the body yields a result. What an operation means is not
part of a program: a reader of programs supplies it. Loops may run forever, so a
program is a finite tree even where its runs are not.

`Returns` is the meaning of one program alone against an environment with a state
of its own. `Only` bounds the operations a program can ever perform.
-/

namespace Foundation

/-- A program over operations `Op`, each with its own type of answers. -/
inductive Program (Op : Type) (Answer : Op → Type) : Type → Type 1
  | done {α : Type} (value : α) : Program Op Answer α
  | perform {α : Type} (op : Op) (next : Answer op → Program Op Answer α) : Program Op Answer α
  | iterate {σ β α : Type} (body : σ → Program Op Answer (σ ⊕ β)) (state : σ)
      (next : β → Program Op Answer α) : Program Op Answer α

namespace Program

variable {Op : Type} {Answer : Op → Type} {α β σ : Type}

/-- Run one program, then the one chosen by its value. -/
def bind : {α : Type} → Program Op Answer α → (α → Program Op Answer β) → Program Op Answer β
  | _, .done value, after => after value
  | _, .perform op next, after => .perform op fun answer => (next answer).bind after
  | _, .iterate body state next, after => .iterate body state fun result => (next result).bind after

instance : Monad (Program Op Answer) where
  pure := .done
  bind := .bind

/-- What follows a program may be grouped either way. -/
theorem bind_assoc {γ : Type} (program : Program Op Answer α) (after : α → Program Op Answer β)
    (last : β → Program Op Answer γ) :
    (program.bind after).bind last = program.bind fun value => (after value).bind last := by
  induction program with
  | done value => rfl
  | perform op next inductionHypothesis =>
    simp only [bind, inductionHypothesis]
  | iterate body state next _ inductionHypothesis =>
    simp only [bind, inductionHypothesis]

/-- Perform one operation and return its answer. -/
def ask (op : Op) : Program Op Answer (Answer op) := .perform op .done

/-- Repeat the body, which either goes on with a new state or ends with a result. -/
def loop (body : σ → Program Op Answer (σ ⊕ β)) (state : σ) : Program Op Answer β :=
  .iterate body state .done

/-- One round of a loop, and the loop again or what follows it. -/
def unroll (body : σ → Program Op Answer (σ ⊕ β)) (state : σ) (next : β → Program Op Answer α) :
    Program Op Answer α :=
  (body state).bind fun
    | .inl later => .iterate body later next
    | .inr result => next result

/-- The next operation of a program and what follows it, behind any number of
loop entries. -/
inductive Performs : Program Op Answer α → (op : Op) → (Answer op → Program Op Answer α) → Prop
  | here (op : Op) (next : Answer op → Program Op Answer α) : Performs (.perform op next) op next
  | unroll {σ β : Type} {op : Op} {after : Answer op → Program Op Answer α}
      (body : σ → Program Op Answer (σ ⊕ β)) (state : σ) (next : β → Program Op Answer α)
      (first : Performs (unroll body state next) op after) :
      Performs (.iterate body state next) op after

/-- Enter at most the given number of loops, up to the next operation or the end. -/
def expose : Nat → Program Op Answer α → Program Op Answer α
  | entries + 1, .iterate body state next => expose entries (unroll body state next)
  | _, program => program

/-- What is exposed is what the program performs. -/
theorem performs_of_expose (entries : Nat) (program : Program Op Answer α) (op : Op)
    (next : Answer op → Program Op Answer α) (exposed : program.expose entries = .perform op next) :
    program.Performs op next := by
  induction entries generalizing program with
  | zero =>
    cases program with
    | done value => simp [expose] at exposed
    | perform op' next' =>
      simp only [expose, Program.perform.injEq] at exposed
      obtain ⟨rfl, same⟩ := exposed
      rw [eq_of_heq same]
      exact .here _ _
    | iterate body state next' => simp [expose] at exposed
  | succ entries inductionHypothesis =>
    cases program with
    | done value => simp [expose] at exposed
    | perform op' next' =>
      simp only [expose, Program.perform.injEq] at exposed
      obtain ⟨rfl, same⟩ := exposed
      rw [eq_of_heq same]
      exact .here _ _
    | iterate body state next' =>
      exact .unroll body state next' (inductionHypothesis _ exposed)

section Only

variable (allowed : Op → Prop)

/-- Every operation the program can ever perform is allowed. -/
def Only : {α : Type} → Program Op Answer α → Prop
  | _, .done _ => True
  | _, .perform op next => allowed op ∧ ∀ answer, (next answer).Only
  | _, .iterate body _ next => (∀ state, (body state).Only) ∧ ∀ result, (next result).Only

/-- Two programs do only what is allowed if each does. -/
theorem only_bind {program : Program Op Answer α} {after : α → Program Op Answer β}
    (first : program.Only allowed) (second : ∀ value, (after value).Only allowed) :
    (program.bind after).Only allowed := by
  induction program with
  | done value => exact second value
  | perform op next inductionHypothesis =>
    exact ⟨first.1, fun answer => inductionHypothesis answer (first.2 answer) second⟩
  | iterate body state next _ inductionHypothesis =>
    exact ⟨first.1, fun result => inductionHypothesis result (first.2 result) second⟩

/-- An operation that is allowed. -/
theorem only_ask {op : Op} (permitted : allowed op) :
    (ask op : Program Op Answer _).Only allowed := ⟨permitted, fun _ => trivial⟩

/-- A loop does only what is allowed if each turn does. -/
theorem only_loop {body : σ → Program Op Answer (σ ⊕ β)} (each : ∀ state, (body state).Only allowed)
    (state : σ) : (loop body state).Only allowed := ⟨each, fun _ => trivial⟩

/-- Two attempts do only what is allowed if each does. -/
theorem only_attempt {ε : Type} {first : ExceptT ε (Program Op Answer) α}
    {after : α → ExceptT ε (Program Op Answer) β} (one : first.run.Only allowed)
    (two : ∀ value, (after value).run.Only allowed) : (first >>= after).run.Only allowed := by
  apply only_bind allowed one
  intro value
  cases value with
  | ok value => exact two value
  | error error => trivial

/-- A program without failures does what it does. -/
theorem only_lift {ε : Type} {program : Program Op Answer α} (only : program.Only allowed) :
    (ExceptT.lift program : ExceptT ε (Program Op Answer) α).run.Only allowed :=
  only_bind allowed only fun _ => trivial

/-- Every program is bounded by all operations. -/
theorem only_true (program : Program Op Answer α) : program.Only fun _ => True := by
  induction program with
  | done value => trivial
  | perform op next inductionHypothesis => exact ⟨trivial, inductionHypothesis⟩
  | iterate body state next bodyHypothesis inductionHypothesis =>
    exact ⟨bodyHypothesis, inductionHypothesis⟩

variable {allowed}

/-- More may be allowed. -/
theorem Only.mono {wider : Op → Prop} (implies : ∀ op, allowed op → wider op)
    {program : Program Op Answer α} (only : program.Only allowed) : program.Only wider := by
  induction program with
  | done value => trivial
  | perform op next inductionHypothesis =>
    exact ⟨implies op only.1, fun answer => inductionHypothesis answer (only.2 answer)⟩
  | iterate body state next bodyHypothesis inductionHypothesis =>
    exact ⟨fun state => bodyHypothesis state (only.1 state),
      fun result => inductionHypothesis result (only.2 result)⟩

/-- The next operation is allowed, and so is everything after it. -/
theorem Only.performs {program : Program Op Answer α} (only : program.Only allowed) {op : Op}
    {next : Answer op → Program Op Answer α} (performs : program.Performs op next) :
    allowed op ∧ ∀ answer, (next answer).Only allowed := by
  induction performs with
  | here op next => exact only
  | unroll body state next _ inductionHypothesis =>
    apply inductionHypothesis
    apply only_bind allowed (only.1 state)
    rintro (later | result)
    · exact only
    · exact only.2 result

end Only

section Alone

variable {Env : Type} (exec : (op : Op) → Answer op → Env → Option Env)

/-- The program, alone against the environment, returns the value and leaves the
environment in the second state. -/
inductive Returns : {α : Type} → Program Op Answer α → Env → α → Env → Prop
  | done {α : Type} (value : α) (env : Env) : Returns (.done value) env value env
  | perform {α : Type} {op : Op} {next : Answer op → Program Op Answer α} {env env' env'' : Env}
      {value : α} (answer : Answer op) (executed : exec op answer env = some env')
      (rest : Returns (next answer) env' value env'') : Returns (.perform op next) env value env''
  | again {σ β α : Type} {body : σ → Program Op Answer (σ ⊕ β)} {state later : σ}
      {next : β → Program Op Answer α} {env env' env'' : Env} {value : α}
      (round : Returns (body state) env (.inl later) env')
      (rest : Returns (.iterate body later next) env' value env'') :
      Returns (.iterate body state next) env value env''
  | leave {σ β α : Type} {body : σ → Program Op Answer (σ ⊕ β)} {state : σ} {result : β}
      {next : β → Program Op Answer α} {env env' env'' : Env} {value : α}
      (round : Returns (body state) env (.inr result) env')
      (rest : Returns (next result) env' value env'') :
      Returns (.iterate body state next) env value env''

variable {exec}

/-- A program that is over returns its value and changes nothing. -/
@[simp] theorem returns_done {value result : α} {env env' : Env} :
    Returns exec (.done value) env result env' ↔ result = value ∧ env' = env := by
  constructor
  · intro returns
    cases returns
    exact ⟨rfl, rfl⟩
  · rintro ⟨rfl, rfl⟩
    exact .done _ _

/-- A program returns by an answer to its first operation and by what follows. -/
theorem returns_perform {op : Op} {next : Answer op → Program Op Answer α} {value : α}
    {env env'' : Env} : Returns exec (.perform op next) env value env'' ↔
      ∃ answer env', exec op answer env = some env' ∧ Returns exec (next answer) env' value env'' := by
  constructor
  · intro returns
    cases returns with
    | perform answer executed rest => exact ⟨answer, _, executed, rest⟩
  · rintro ⟨answer, env', executed, rest⟩
    exact .perform answer executed rest

/-- An operation returns its answer. -/
theorem returns_ask {op : Op} {answer : Answer op} {env env' : Env} :
    Returns exec (ask op) env answer env' ↔ exec op answer env = some env' := by
  simp [ask, returns_perform]

/-- One round of a loop, then the loop again or what follows it. -/
theorem returns_iterate {body : σ → Program Op Answer (σ ⊕ β)} {state : σ}
    {next : β → Program Op Answer α} {env env'' : Env} {value : α} :
    Returns exec (.iterate body state next) env value env'' ↔
      (∃ later env', Returns exec (body state) env (.inl later) env' ∧
        Returns exec (.iterate body later next) env' value env'') ∨
      ∃ result env', Returns exec (body state) env (.inr result) env' ∧
        Returns exec (next result) env' value env'' := by
  constructor
  · intro returns
    cases returns with
    | again round rest => exact Or.inl ⟨_, _, round, rest⟩
    | leave round rest => exact Or.inr ⟨_, _, round, rest⟩
  · rintro (⟨later, env', round, rest⟩ | ⟨result, env', round, rest⟩)
    · exact .again round rest
    · exact .leave round rest

/-- A sequence returns what its parts return, one after the other. -/
theorem returns_bind {program : Program Op Answer α} {after : α → Program Op Answer β}
    {env env'' : Env} {result : β} : Returns exec (program.bind after) env result env'' ↔
      ∃ value env', Returns exec program env value env' ∧
        Returns exec (after value) env' result env'' := by
  constructor
  · intro returns
    generalize whole : program.bind after = sequence at returns
    induction returns generalizing program with
    | done value env =>
      cases program with
      | done first => exact ⟨first, env, .done _ _, by rw [show after first = _ from whole]; exact .done _ _⟩
      | perform op next => exact absurd whole (by simp [bind])
      | iterate body state next => exact absurd whole (by simp [bind])
    | @perform _ op later env env' env'' value answer executed rest inductionHypothesis =>
      cases program with
      | done first =>
        exact ⟨first, env, .done _ _, by
          rw [show after first = _ from whole]; exact .perform answer executed rest⟩
      | perform op' next =>
        simp only [bind, Program.perform.injEq] at whole
        obtain ⟨rfl, same⟩ := whole
        obtain ⟨value, middle, first, second⟩ :=
          inductionHypothesis (congrFun (eq_of_heq same) answer)
        exact ⟨value, middle, .perform answer executed first, second⟩
      | iterate body state next => exact absurd whole (by simp [bind])
    | @again _ _ _ _ _ later _ _ _ _ _ round rest _ inductionHypothesis =>
      cases program with
      | done first =>
        exact ⟨first, _, .done _ _, by
          rw [show after first = _ from whole]; exact .again round rest⟩
      | perform op next => exact absurd whole (by simp [bind])
      | iterate body' state' next' =>
        simp only [bind, Program.iterate.injEq] at whole
        obtain ⟨rfl, rfl, sameBody, sameState, sameNext⟩ := whole
        obtain rfl := eq_of_heq sameBody
        obtain rfl := eq_of_heq sameState
        obtain rfl := eq_of_heq sameNext
        obtain ⟨value, middle, first, second⟩ :=
          @inductionHypothesis (.iterate body' later next') after rfl
        exact ⟨value, middle, .again round first, second⟩
    | leave round rest _ inductionHypothesis =>
      cases program with
      | done first =>
        exact ⟨first, _, .done _ _, by
          rw [show after first = _ from whole]; exact .leave round rest⟩
      | perform op next => exact absurd whole (by simp [bind])
      | iterate body' state' next' =>
        simp only [bind, Program.iterate.injEq] at whole
        obtain ⟨rfl, rfl, sameBody, sameState, sameNext⟩ := whole
        obtain rfl := eq_of_heq sameBody
        obtain rfl := eq_of_heq sameState
        obtain rfl := eq_of_heq sameNext
        obtain ⟨value, middle, first, second⟩ := inductionHypothesis rfl
        exact ⟨value, middle, .leave round first, second⟩
  · rintro ⟨value, env', first, second⟩
    induction first with
    | done value env => exact second
    | perform answer executed _ inductionHypothesis =>
      exact .perform answer executed (inductionHypothesis second)
    | again round _ _ inductionHypothesis => exact .again round (inductionHypothesis second)
    | leave round _ _ inductionHypothesis => exact .leave round (inductionHypothesis second)

/-- Whatever a loop returns satisfies what its rounds establish. -/
theorem returns_loop {body : σ → Program Op Answer (σ ⊕ β)} (assertion : σ → Env → Prop)
    (post : β → Env → Prop)
    (each : ∀ state env result env', assertion state env →
      Returns exec (body state) env result env' →
      match result with
      | .inl later => assertion later env'
      | .inr result => post result env')
    {state : σ} {env env'' : Env} {result : β} (holds : assertion state env)
    (returns : Returns exec (loop body state) env result env'') : post result env'' := by
  unfold loop at returns
  generalize whole : Program.iterate body state .done = program at returns
  induction returns generalizing state with
  | done value env => exact absurd whole (by simp)
  | perform answer executed rest => exact absurd whole (by simp)
  | again round rest _ inductionHypothesis =>
    simp only [Program.iterate.injEq] at whole
    obtain ⟨rfl, rfl, sameBody, sameState, sameNext⟩ := whole
    obtain rfl := eq_of_heq sameBody
    obtain rfl := eq_of_heq sameState
    obtain rfl := eq_of_heq sameNext
    exact inductionHypothesis _ each (each _ _ _ _ holds round) rfl
  | leave round rest _ inductionHypothesis =>
    simp only [Program.iterate.injEq] at whole
    obtain ⟨rfl, rfl, sameBody, sameState, sameNext⟩ := whole
    obtain rfl := eq_of_heq sameBody
    obtain rfl := eq_of_heq sameState
    obtain rfl := eq_of_heq sameNext
    obtain ⟨rfl, rfl⟩ := returns_done.mp rest
    exact each _ _ _ _ holds round

/-- A program that may fail goes on only after success. -/
theorem run_attempt {ε : Type} (first : ExceptT ε (Program Op Answer) α)
    (after : α → ExceptT ε (Program Op Answer) β) :
    (first >>= after).run = first.run.bind fun
      | .ok value => (after value).run
      | .error error => .done (.error error) := by
  show Program.bind _ _ = _
  congr 1
  funext value
  cases value <;> rfl

/-- Two attempts return by the first one, and by the second one where the first succeeds. -/
theorem returns_attempt {ε : Type} {first : ExceptT ε (Program Op Answer) α}
    {after : α → ExceptT ε (Program Op Answer) β} {env env'' : Env} {result : Except ε β} :
    Returns exec (first >>= after).run env result env'' ↔
      ∃ value env', Returns exec first.run env value env' ∧
        match value with
        | .ok value => Returns exec (after value).run env' result env''
        | .error error => result = .error error ∧ env'' = env' := by
  rw [run_attempt, returns_bind]
  refine exists_congr fun value => exists_congr fun env' => and_congr_right fun _ => ?_
  cases value with
  | ok value => rfl
  | error error => exact returns_done

/-- A program that cannot fail, in front of one that may. -/
theorem returns_lift {ε : Type} {first : Program Op Answer α}
    {after : α → ExceptT ε (Program Op Answer) β} {env env'' : Env} {result : Except ε β} :
    Returns exec (ExceptT.lift first >>= after).run env result env'' ↔
      ∃ value env', Returns exec first env value env' ∧
        Returns exec (after value).run env' result env'' := by
  rw [returns_attempt]
  constructor
  · rintro ⟨value, env', lifted, rest⟩
    obtain ⟨plain, middle, returned, done⟩ := returns_bind.mp lifted
    obtain ⟨rfl, rfl⟩ := returns_done.mp done
    exact ⟨plain, env', returned, rest⟩
  · rintro ⟨value, env', returned, rest⟩
    exact ⟨.ok value, env', returns_bind.mpr ⟨value, env', returned, .done _ _⟩, rest⟩

section Logged

variable {World : Type} (exec : (op : Op) → Answer op → World → Option World)

/-- The same meaning of operations, with a record of what was answered, oldest first. -/
def logged (op : Op) (answer : Answer op) (env : World × List (Sigma Answer)) :
    Option (World × List (Sigma Answer)) :=
  (exec op answer env.1).map fun world => (world, env.2 ++ [⟨op, answer⟩])

variable {exec}

/-- With a log, an operation returns its answer and is written down. -/
theorem returns_logged_ask {op : Op} {answer : Answer op} {env env' : World × List (Sigma Answer)} :
    Returns (logged exec) (ask op) env answer env' ↔
      exec op answer env.1 = some env'.1 ∧ env'.2 = env.2 ++ [⟨op, answer⟩] := by
  rw [returns_ask, logged, Option.map_eq_some_iff]
  constructor
  · rintro ⟨world, executed, rfl⟩
    exact ⟨executed, rfl⟩
  · rintro ⟨executed, log⟩
    exact ⟨env'.1, executed, by rw [← log]⟩

/-- The record of a program grows by operations it may perform. -/
theorem returns_logged_only {allowed : Op → Prop} {program : Program Op Answer α}
    (only : program.Only allowed) {env env' : World × List (Sigma Answer)} {value : α}
    (returns : Returns (logged exec) program env value env') :
    ∃ events, env'.2 = env.2 ++ events ∧ ∀ event ∈ events, allowed event.1 := by
  induction returns with
  | done value env => exact ⟨[], by simp, by simp⟩
  | @perform _ op next env middle env'' value answer executed _ inductionHypothesis =>
    obtain ⟨events, log, each⟩ := inductionHypothesis (only.2 answer)
    obtain ⟨world, _, rfl⟩ := Option.map_eq_some_iff.mp executed
    refine ⟨⟨op, answer⟩ :: events, by simp [log], ?_⟩
    intro event member
    rcases List.mem_cons.mp member with rfl | later
    · exact only.1
    · exact each event later
  | again round rest roundHypothesis inductionHypothesis =>
    obtain ⟨first, log, each⟩ := roundHypothesis (only.1 _)
    obtain ⟨second, log', each'⟩ := inductionHypothesis only
    exact ⟨first ++ second, by simp [log', log], fun event member =>
      (List.mem_append.mp member).elim (each event) (each' event)⟩
  | leave round rest roundHypothesis inductionHypothesis =>
    obtain ⟨first, log, each⟩ := roundHypothesis (only.1 _)
    obtain ⟨second, log', each'⟩ := inductionHypothesis (only.2 _)
    exact ⟨first ++ second, by simp [log', log], fun event member =>
      (List.mem_append.mp member).elim (each event) (each' event)⟩

section Enact

variable [DecidableEq Op]

/-- Enact the rounds of a loop, no more than given. -/
def enactRounds (round : σ → World → List (Sigma Answer) →
    Option ((σ ⊕ β) × World × List (Sigma Answer))) :
    Nat → σ → World → List (Sigma Answer) → Option (β × World × List (Sigma Answer))
  | 0, _, _, _ => none
  | rounds + 1, state, world, events =>
    match round state world events with
    | some (.inl later, after, rest) => enactRounds round rounds later after rest
    | some (.inr result, after, rest) => some (result, after, rest)
    | none => none

variable (exec) in
/-- Let a program perform the first of these operations, with these answers, and return
the operations that are left. A loop makes at most one round more than there are. -/
def enact : {α : Type} → Program Op Answer α → World → List (Sigma Answer) →
    Option (α × World × List (Sigma Answer))
  | _, .done value, world, events => some (value, world, events)
  | _, .perform op next, world, ⟨op', answer⟩ :: later =>
    if same : op' = op then
      match exec op (same ▸ answer) world with
      | some after => (next (same ▸ answer)).enact after later
      | none => none
    else none
  | _, .perform _ _, _, [] => none
  | _, .iterate body state next, world, events =>
    match enactRounds (fun state => (body state).enact) (events.length + 1) state world events with
    | some (result, after, rest) => (next result).enact after rest
    | none => none

/-- What is enacted is returned, and recorded. -/
theorem enact_returns {program : Program Op Answer α} {world after : World} {value : α}
    {events rest : List (Sigma Answer)}
    (enacted : program.enact exec world events = some (value, after, rest)) :
    ∃ performed, events = performed ++ rest ∧
      ∀ log, Returns (logged exec) program (world, log) value (after, log ++ performed) := by
  induction program generalizing world events after rest with
  | done result =>
    obtain ⟨rfl, rfl, rfl⟩ := Option.some.inj enacted
    refine ⟨[], rfl, ?_⟩
    intro log
    rw [List.append_nil]
    exact .done _ _
  | perform op next inductionHypothesis =>
    cases events with
    | nil => exact absurd enacted (by simp [enact])
    | cons event later =>
      obtain ⟨op', answer⟩ := event
      unfold enact at enacted
      split at enacted
      · rename_i same
        subst same
        split at enacted
        · rename_i middle executed
          obtain ⟨performed, rfl, returns⟩ := inductionHypothesis answer enacted
          refine ⟨⟨op', answer⟩ :: performed, rfl, ?_⟩
          intro log
          have others := returns (log ++ [⟨op', answer⟩])
          rw [List.append_assoc] at others
          exact .perform answer (Option.map_eq_some_iff.mpr ⟨middle, executed, rfl⟩) others
        · exact absurd enacted (by simp)
      · exact absurd enacted (by simp)
  | @iterate σ β α body state next bodyHypothesis nextHypothesis =>
    unfold enact at enacted
    split at enacted
    · rename_i result middle left rounds
      obtain ⟨performed, rfl, returns⟩ := nextHypothesis result enacted
      generalize events.length + 1 = most at rounds
      induction most generalizing state world events with
      | zero => exact absurd rounds (by simp [enactRounds])
      | succ most inductionHypothesis =>
        unfold enactRounds at rounds
        split at rounds
        · rename_i later between behind round
          obtain ⟨first, rfl, once⟩ := bodyHypothesis state round
          obtain ⟨others, rfl, again⟩ := inductionHypothesis later rounds
          refine ⟨first ++ others, by simp, ?_⟩
          intro log
          rw [← List.append_assoc]
          exact .again (once log) (again _)
        · rename_i ended between behind round
          obtain ⟨rfl, rfl, rfl⟩ := Option.some.inj rounds
          obtain ⟨first, rfl, once⟩ := bodyHypothesis state round
          refine ⟨first ++ performed, by simp, ?_⟩
          intro log
          rw [← List.append_assoc]
          exact .leave (once log) (returns _)
        · exact absurd rounds (by simp)
    · exact absurd enacted (by simp)

/-- The same for a program that performs all of the operations. -/
theorem enact_all {program : Program Op Answer α} {world after : World} {value : α}
    {events : List (Sigma Answer)}
    (enacted : program.enact exec world events = some (value, after, [])) (log : List (Sigma Answer)) :
    Returns (logged exec) program (world, log) value (after, log ++ events) := by
  obtain ⟨performed, rfl, returns⟩ := enact_returns enacted
  rw [List.append_nil]
  exact returns log

/-- What can be enacted to the end is returned. -/
theorem enact_exists {program : Program Op Answer α} {world : World} {events : List (Sigma Answer)}
    (whole : (program.enact exec world events).any (fun left => left.2.2.isEmpty) = true) :
    ∃ value after, Returns (logged exec) program (world, []) value (after, events) := by
  obtain ⟨⟨value, after, rest⟩, enacted, nothing⟩ := (Option.any_eq_true _ _).mp whole
  obtain rfl := List.isEmpty_iff.mp nothing
  exact ⟨value, after, enact_all enacted []⟩

end Enact

end Logged

end Alone

end Program

end Foundation
