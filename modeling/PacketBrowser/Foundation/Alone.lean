import PacketBrowser.Foundation.Triple

/-!
# One program on its own

A program alone in its world is a pool of one thread. `Leads` ranges over the moments
of its runs together with what is left of the program there, `Ends` says that nothing
is left but a value. Safety of the program carries over to every moment, and where it
ends, the second assertion holds of the value.

`Settles` and `Inevitable` are the other direction: whatever the allowed answers, after
finitely many operations the program ends, or comes to perform a certain operation.
-/

namespace Foundation

variable {Op : Type} {Answer : Op → Type} {World α β γ σ : Type}

namespace Program

section Runs

variable (exec : (op : Op) → Answer op → World → Option World)
variable (meets : Snapshot World Unit Answer → Event Unit Answer → Prop)

/-- A run of the program, each of whose steps meets the condition, leads to this
moment, and this is left of the program. -/
inductive Leads (program : Program Op Answer α) (start : Snapshot World Unit Answer) :
    Snapshot World Unit Answer → Program Op Answer α → Prop
  | start : Leads program start start program
  | step {now after : Snapshot World Unit Answer} {left : Program Op Answer α} {op : Op}
      {next : Answer op → Program Op Answer α} {answer : Answer op}
      (earlier : Leads program start now left) (performs : left.Performs op next)
      (occurs : Occurs exec now ⟨(), op, answer⟩ after) (met : meets now ⟨(), op, answer⟩) :
      Leads program start after (next answer)

/-- The program is over, behind any number of loop entries. -/
inductive Ends : Program Op Answer α → α → Prop
  | done (value : α) : Ends (.done value) value
  | unroll {σ β : Type} (body : σ → Program Op Answer (σ ⊕ β)) (state : σ)
      (next : β → Program Op Answer α) (value : α) (rest : Ends (unroll body state next) value) :
      Ends (.iterate body state next) value

/-- Whatever the allowed answers, the program ends, and the assertion holds then. -/
inductive Settles (post : α → Snapshot World Unit Answer → Prop) :
    Program Op Answer α → Snapshot World Unit Answer → Prop
  | ended {program : Program Op Answer α} {now : Snapshot World Unit Answer} {value : α}
      (ends : Ends program value) (holds : post value now) : Settles post program now
  | step {program : Program Op Answer α} {now : Snapshot World Unit Answer} {op : Op}
      {next : Answer op → Program Op Answer α} (performs : program.Performs op next)
      (possible : ∃ answer after, Occurs exec now ⟨(), op, answer⟩ after ∧ meets now ⟨(), op, answer⟩)
      (each : ∀ answer after, Occurs exec now ⟨(), op, answer⟩ after → meets now ⟨(), op, answer⟩ →
        Settles post (next answer) after) : Settles post program now

/-- Whatever the allowed answers, the program comes to perform such an operation. -/
inductive Inevitable (target : Op → Prop) :
    Program Op Answer α → Snapshot World Unit Answer → Prop
  | here {program : Program Op Answer α} {now : Snapshot World Unit Answer} {op : Op}
      {next : Answer op → Program Op Answer α} (performs : program.Performs op next)
      (hit : target op) : Inevitable target program now
  | step {program : Program Op Answer α} {now : Snapshot World Unit Answer} {op : Op}
      {next : Answer op → Program Op Answer α} (performs : program.Performs op next)
      (possible : ∃ answer after, Occurs exec now ⟨(), op, answer⟩ after ∧ meets now ⟨(), op, answer⟩)
      (each : ∀ answer after, Occurs exec now ⟨(), op, answer⟩ after → meets now ⟨(), op, answer⟩ →
        Inevitable target (next answer) after) : Inevitable target program now

/-- Some allowed answers lead the program to such an operation at such a moment. -/
inductive Possible (goal : Snapshot World Unit Answer → Op → Prop) :
    Program Op Answer α → Snapshot World Unit Answer → Prop
  | here {program : Program Op Answer α} {now : Snapshot World Unit Answer} {op : Op}
      {next : Answer op → Program Op Answer α} (performs : program.Performs op next)
      (hit : goal now op) : Possible goal program now
  | step {program : Program Op Answer α} {now after : Snapshot World Unit Answer} {op : Op}
      {next : Answer op → Program Op Answer α} {answer : Answer op}
      (performs : program.Performs op next) (occurs : Occurs exec now ⟨(), op, answer⟩ after)
      (met : meets now ⟨(), op, answer⟩) (rest : Possible goal (next answer) after) :
      Possible goal program now

variable {exec} {meets} {target : Op → Prop} {program left : Program Op Answer α}
variable {goal : Snapshot World Unit Answer → Op → Prop}
variable {now later : Snapshot World Unit Answer}

/-- A run may be continued from where it led to. -/
theorem Leads.trans {middle : Snapshot World Unit Answer} {rest : Program Op Answer α}
    (first : Leads exec meets program now middle rest)
    (second : Leads exec meets rest middle later left) : Leads exec meets program now later left := by
  induction second with
  | start => exact first
  | step _ performs occurs met inductionHypothesis =>
    exact .step inductionHypothesis performs occurs met

/-- A run that meets a condition meets every weaker one. -/
theorem Leads.mono {weaker : Snapshot World Unit Answer → Event Unit Answer → Prop}
    (implies : ∀ moment event, meets moment event → weaker moment event)
    (leads : Leads exec meets program now later left) : Leads exec weaker program now later left := by
  induction leads with
  | start => exact .start
  | step _ performs occurs met inductionHypothesis =>
    exact .step inductionHypothesis performs occurs (implies _ _ met)

/-- What is possible under stricter rules is possible. -/
theorem Leads.within {strict : (op : Op) → Answer op → World → Option World}
    {weaker : Snapshot World Unit Answer → Event Unit Answer → Prop}
    (implies : ∀ moment event after, Occurs strict moment event after →
      Occurs exec moment event after ∧ weaker moment event)
    (leads : Leads strict meets program now later left) :
    Leads exec weaker program now later left := by
  induction leads with
  | start => exact .start
  | step _ performs occurs _ inductionHypothesis =>
    obtain ⟨possible, met⟩ := implies _ _ _ occurs
    exact .step inductionHypothesis performs possible met

/-- The next operation of a program is determined. -/
theorem Performs.same {op other : Op} {next : Answer op → Program Op Answer α}
    {others : Answer other → Program Op Answer α} (performs : program.Performs op next)
    (again : program.Performs other others) :
    (⟨op, next⟩ : (op : Op) × (Answer op → Program Op Answer α)) = ⟨other, others⟩ := by
  induction performs with
  | here op next =>
    cases again
    rfl
  | unroll body state next _ inductionHypothesis =>
    cases again with
    | unroll _ _ _ first => exact inductionHypothesis first

/-- What is over performs nothing. -/
theorem Ends.idle {value : α} {op : Op} {next : Answer op → Program Op Answer α}
    (ends : program.Ends value) : ¬ program.Performs op next := by
  induction ends with
  | done value => exact fun performs => by cases performs
  | unroll body state next value _ inductionHypothesis =>
    intro performs
    cases performs with
    | unroll _ _ _ first => exact inductionHypothesis first

/-- A program that has ended has one value. -/
theorem Ends.same {value other : α} (ends : program.Ends value) (again : program.Ends other) :
    other = value := by
  induction ends with
  | done value =>
    cases again
    rfl
  | unroll body state next value _ inductionHypothesis =>
    cases again with
    | unroll _ _ _ _ rest => exact inductionHypothesis rest

/-- A run has not begun, or begins with an operation of the program. -/
theorem Leads.first (leads : Leads exec meets program now later left) :
    (later = now ∧ left = program) ∨ ∃ (op : Op) (next : Answer op → Program Op Answer α)
      (answer : Answer op) (after : Snapshot World Unit Answer), program.Performs op next ∧
      Occurs exec now ⟨(), op, answer⟩ after ∧ meets now ⟨(), op, answer⟩ ∧
      Leads exec meets (next answer) after later left := by
  induction leads with
  | start => exact Or.inl ⟨rfl, rfl⟩
  | step _ performs occurs met inductionHypothesis =>
    rcases inductionHypothesis with ⟨rfl, rfl⟩ | ⟨op, next, answer, after, first, took, meant, rest⟩
    · exact Or.inr ⟨_, _, _, _, performs, occurs, met, .start⟩
    · exact Or.inr ⟨op, next, answer, after, first, took, meant, .step rest performs occurs met⟩

/-- What is inevitable happens in some run. -/
theorem Inevitable.reached (inevitable : Inevitable exec meets target program now) :
    ∃ later left op next, Leads exec meets program now later left ∧
      Performs left op next ∧ target op := by
  induction inevitable with
  | @here program now op next performs hit => exact ⟨now, program, op, next, .start, performs, hit⟩
  | step performs possible each inductionHypothesis =>
    obtain ⟨answer, after, occurs, met⟩ := possible
    obtain ⟨later, left, op, next, leads, performed, hit⟩ := inductionHypothesis answer after occurs met
    exact ⟨later, left, op, next, (Leads.step .start performs occurs met).trans leads, performed, hit⟩

/-- What is possible happens in some run. -/
theorem Possible.reached (possible : Possible exec meets goal program now) :
    ∃ later left op next, Leads exec meets program now later left ∧
      Performs left op next ∧ goal later op := by
  induction possible with
  | @here program now op next performs hit => exact ⟨now, program, op, next, .start, performs, hit⟩
  | step performs occurs met _ inductionHypothesis =>
    obtain ⟨later, left, op, next, leads, performed, hit⟩ := inductionHypothesis
    exact ⟨later, left, op, next, (Leads.step .start performs occurs met).trans leads, performed, hit⟩

/-- A loop in front of other programs is a loop, and its first round can be written out. -/
theorem unroll_bind (body : σ → Program Op Answer (σ ⊕ γ)) (state : σ)
    (next : γ → Program Op Answer α) (after : α → Program Op Answer β) :
    (unroll body state next).bind after =
      unroll body state fun result => (next result).bind after := by
  unfold unroll
  rw [bind_assoc]
  congr 1
  funext result
  cases result <;> rfl

/-- A sequence performs what its first part performs. -/
theorem Performs.bind {op : Op} {next : Answer op → Program Op Answer α}
    (performs : program.Performs op next) (after : α → Program Op Answer β) :
    (program.bind after).Performs op fun answer => (next answer).bind after := by
  induction performs with
  | here op next => exact .here op _
  | unroll body state next _ inductionHypothesis =>
    apply Performs.unroll
    rw [← unroll_bind]
    exact inductionHypothesis

/-- What a sequence performs is performed by its first part, or by what follows once
the first part is over. -/
theorem Performs.of_bind {after : α → Program Op Answer β} {op : Op}
    {next : Answer op → Program Op Answer β} (performs : (program.bind after).Performs op next) :
    (∃ inner, program.Performs op inner ∧ next = fun answer => (inner answer).bind after) ∨
      ∃ value, program.Ends value ∧ (after value).Performs op next := by
  generalize whole : program.bind after = sequence at performs
  induction performs generalizing program with
  | here op next =>
    cases program with
    | done value =>
      refine Or.inr ⟨value, .done value, ?_⟩
      rw [show after value = _ from whole]
      exact .here op next
    | perform op' inner =>
      simp only [Program.bind, Program.perform.injEq] at whole
      obtain ⟨rfl, same⟩ := whole
      exact Or.inl ⟨inner, .here _ _, (eq_of_heq same).symm⟩
    | iterate body state inner => exact absurd whole (by simp [Program.bind])
  | unroll body state next first inductionHypothesis =>
    cases program with
    | done value =>
      refine Or.inr ⟨value, .done value, ?_⟩
      rw [show after value = _ from whole]
      exact .unroll body state next first
    | perform op' inner => exact absurd whole (by simp [Program.bind])
    | iterate body' state' inner =>
      simp only [Program.bind, Program.iterate.injEq] at whole
      obtain ⟨rfl, rfl, sameBody, rfl, sameNext⟩ := whole
      obtain rfl := eq_of_heq sameBody
      obtain rfl := eq_of_heq sameNext
      rcases inductionHypothesis (unroll_bind body' state' inner after) with
        ⟨rest, performs, same⟩ | ⟨value, ends, performs⟩
      · exact Or.inl ⟨rest, .unroll _ _ _ performs, same⟩
      · exact Or.inr ⟨value, .unroll _ _ _ _ ends, performs⟩

/-- A run of a program is one of the sequence it begins. -/
theorem Leads.bind (leads : Leads exec meets program now later left)
    (after : α → Program Op Answer β) :
    Leads exec meets (program.bind after) now later (left.bind after) := by
  induction leads with
  | start => exact .start
  | step _ performs occurs met inductionHypothesis =>
    exact .step inductionHypothesis (performs.bind after) occurs met

/-- A run of a sequence is still in its first part, or the first part has ended. -/
theorem Leads.of_bind {after : α → Program Op Answer β} {left : Program Op Answer β}
    (leads : Leads exec meets (program.bind after) now later left) :
    (∃ inner, Leads exec meets program now later inner ∧ left = inner.bind after) ∨
      ∃ middle inner value, Leads exec meets program now middle inner ∧ inner.Ends value ∧
        Leads exec meets (after value) middle later left := by
  induction leads with
  | start => exact Or.inl ⟨program, .start, rfl⟩
  | step _ performs occurs met inductionHypothesis =>
    rcases inductionHypothesis with ⟨inner, leads, rfl⟩ | ⟨middle, inner, value, leads, ends, rest⟩
    · rcases performs.of_bind with ⟨next, performed, rfl⟩ | ⟨value, ends, performed⟩
      · exact Or.inl ⟨next _, .step leads performed occurs met, rfl⟩
      · exact Or.inr ⟨_, inner, value, leads, ends, .step .start performed occurs met⟩
    · exact Or.inr ⟨middle, inner, value, leads, ends, .step rest performs occurs met⟩

/-- What is over leads nowhere. -/
theorem Leads.of_done {value : α} (leads : Leads exec meets (.done value) now later left) :
    later = now ∧ left = .done value := by
  induction leads with
  | start => exact ⟨rfl, rfl⟩
  | step _ performs _ _ inductionHypothesis =>
    rw [inductionHypothesis.2] at performs
    cases performs

/-- A run only adds to the history. -/
theorem Leads.grown (leads : Leads exec meets program now later left) :
    ∃ events, later.history = events ++ now.history := by
  induction leads with
  | start => exact ⟨[], rfl⟩
  | step _ _ occurs _ inductionHypothesis =>
    obtain ⟨events, history⟩ := inductionHypothesis
    exact ⟨_ :: events, by rw [occurs.2, history, List.cons_append]⟩

/-- What holds throughout the history of a run may be assumed of each of its steps. -/
theorem Leads.throughout {property : Event Unit Answer → List (Event Unit Answer) → Prop}
    (leads : Leads exec meets program now later left) (every : Throughout property later.history) :
    Leads exec (fun moment event => meets moment event ∧ property event moment.history)
      program now later left := by
  induction leads with
  | start => exact .start
  | step _ performs occurs met inductionHypothesis =>
    rw [occurs.2] at every
    exact .step (inductionHypothesis every.2) performs occurs ⟨met, every.1⟩

/-- The events of a run are those the program may perform. -/
theorem Leads.only {allowed : Op → Prop} (only : program.Only allowed)
    (leads : Leads exec meets program now later left) :
    left.Only allowed ∧ ∃ events, later.history = events ++ now.history ∧
      ∀ event ∈ events, allowed event.op := by
  induction leads with
  | start => exact ⟨only, [], rfl, by simp⟩
  | @step middle after _ op next answer _ performs occurs met inductionHypothesis =>
    obtain ⟨onlyLeft, events, history, each⟩ := inductionHypothesis
    obtain ⟨permitted, rest⟩ := onlyLeft.performs performs
    refine ⟨rest answer, ⟨(), op, answer⟩ :: events, by rw [occurs.2, history]; rfl, ?_⟩
    intro event member
    rcases List.mem_cons.mp member with rfl | before
    · exact permitted
    · exact each event before

section Rules

variable {post : α → Snapshot World Unit Answer → Prop}

/-- Entering a loop performs nothing. -/
theorem Inevitable.unroll {body : σ → Program Op Answer (σ ⊕ γ)} {state : σ}
    {next : γ → Program Op Answer α}
    (inevitable : Inevitable exec meets target (Program.unroll body state next) now) :
    Inevitable exec meets target (.iterate body state next) now := by
  cases inevitable with
  | here performs hit => exact .here (.unroll body state next performs) hit
  | step performs possible each => exact .step (.unroll body state next performs) possible each

/-- A loop settles if its first turn does. -/
theorem Settles.unroll {body : σ → Program Op Answer (σ ⊕ γ)} {state : σ}
    {next : γ → Program Op Answer α}
    (settles : Settles exec meets post (Program.unroll body state next) now) :
    Settles exec meets post (.iterate body state next) now := by
  cases settles with
  | ended ends holds => exact .ended (.unroll body state next _ ends) holds
  | step performs possible each => exact .step (.unroll body state next performs) possible each

/-- What is possible behind the first turn of a loop is possible in the loop. -/
theorem Possible.unroll {body : σ → Program Op Answer (σ ⊕ γ)} {state : σ}
    {next : γ → Program Op Answer α}
    (possible : Possible exec meets goal (Program.unroll body state next) now) :
    Possible exec meets goal (.iterate body state next) now := by
  cases possible with
  | here performs hit => exact .here (.unroll body state next performs) hit
  | step performs occurs met rest =>
    exact .step (.unroll body state next performs) occurs met rest

/-- A part that returns, in front of what is possible then. -/
theorem Returns.possible {world after : World} {value : α} {rest : α → Program Op Answer β}
    (returns : Returns exec program world value after) (every : ∀ moment event, meets moment event)
    (possible : ∀ history, Possible exec meets goal (rest value) ⟨after, history⟩)
    (history : List (Event Unit Answer)) :
    Possible exec meets goal (program.bind rest) ⟨world, history⟩ := by
  induction returns generalizing history with
  | done value world => exact possible history
  | perform answer executed _ inductionHypothesis =>
    exact .step (.here _ _) ⟨executed, rfl⟩ (every _ _) (inductionHypothesis possible _)
  | again _ _ roundHypothesis inductionHypothesis =>
    apply Possible.unroll
    exact roundHypothesis (fun history => inductionHypothesis possible history) history
  | leave _ _ roundHypothesis inductionHypothesis =>
    apply Possible.unroll
    exact roundHypothesis (fun history => inductionHypothesis possible history) history

/-- A round of a loop, in front of what is possible in the next one. -/
theorem Returns.possible_round {world after : World} {body : σ → Program Op Answer (σ ⊕ α)}
    {state next : σ} (returns : Returns exec (body state) world (.inl next) after)
    (every : ∀ moment event, meets moment event)
    (possible : ∀ history, Possible exec meets goal (loop body next) ⟨after, history⟩)
    (history : List (Event Unit Answer)) :
    Possible exec meets goal (loop body state) ⟨world, history⟩ :=
  .unroll (returns.possible every possible history)

/-- What is over goes on with what follows it. -/
theorem Ends.inevitable {value : α} {after : α → Program Op Answer β} (ends : program.Ends value)
    (rest : Inevitable exec meets target (after value) now) :
    Inevitable exec meets target (program.bind after) now := by
  induction ends with
  | done value => exact rest
  | unroll body state next value _ inductionHypothesis =>
    apply Inevitable.unroll
    rw [← unroll_bind]
    exact inductionHypothesis rest

/-- Behind a program that has ended goes on what comes next. -/
theorem Ends.settles {value : α} {after : α → Program Op Answer β} (ends : program.Ends value)
    {post : β → Snapshot World Unit Answer → Prop}
    (rest : Settles exec meets post (after value) now) :
    Settles exec meets post (program.bind after) now := by
  induction ends with
  | done value => exact rest
  | unroll body state next value _ inductionHypothesis =>
    apply Settles.unroll
    rw [← unroll_bind]
    exact inductionHypothesis rest

/-- A program that settles in a state settles in every weaker one. -/
theorem Settles.mono {weaker : α → Snapshot World Unit Answer → Prop}
    (settles : Settles exec meets post program now)
    (implies : ∀ value later, post value later → weaker value later) :
    Settles exec meets weaker program now := by
  induction settles with
  | ended ends holds => exact .ended ends (implies _ _ holds)
  | step performs possible _ inductionHypothesis => exact .step performs possible inductionHypothesis

/-- A part that ends, in front of what is inevitable then. -/
theorem Settles.inevitable {after : α → Program Op Answer β}
    (settles : Settles exec meets post program now)
    (rest : ∀ value later, post value later → Inevitable exec meets target (after value) later) :
    Inevitable exec meets target (program.bind after) now := by
  induction settles with
  | ended ends holds => exact ends.inevitable (rest _ _ holds)
  | step performs possible _ inductionHypothesis =>
    exact .step (performs.bind after) possible inductionHypothesis

/-- Two programs settle one after the other. -/
theorem Settles.bind {after : α → Program Op Answer β} {last : β → Snapshot World Unit Answer → Prop}
    (settles : Settles exec meets post program now)
    (rest : ∀ value later, post value later → Settles exec meets last (after value) later) :
    Settles exec meets last (program.bind after) now := by
  induction settles with
  | ended ends holds => exact ends.settles (rest _ _ holds)
  | step performs possible _ inductionHypothesis =>
    exact .step (performs.bind after) possible inductionHypothesis

/-- A program that may fail, in front of what follows its success. -/
theorem settles_attempt {ε : Type} {first : ExceptT ε (Program Op Answer) α}
    {after : α → ExceptT ε (Program Op Answer) β}
    {middle : α → Snapshot World Unit Answer → Prop}
    {last : Except ε β → Snapshot World Unit Answer → Prop}
    (settles : Settles exec meets (fun result later => ∃ value, result = .ok value ∧ middle value later)
      first.run now)
    (rest : ∀ value later, middle value later → Settles exec meets last (after value).run later) :
    Settles exec meets last (first >>= after).run now := by
  rw [run_attempt]
  apply settles.bind
  rintro _ later ⟨value, rfl, holds⟩
  exact rest value later holds

/-- A program without failures settles as a success. -/
theorem settles_lift {ε : Type} {first : Program Op Answer α}
    {middle : α → Snapshot World Unit Answer → Prop} (settles : Settles exec meets middle first now) :
    Settles exec meets (fun result later => ∃ value, result = .ok value ∧ middle value later)
      (ExceptT.lift first : ExceptT ε (Program Op Answer) α).run now :=
  settles.bind fun value _ holds => .ended (.done _) ⟨value, rfl, holds⟩

/-- A loop whose rounds settle, and count down, settles. -/
theorem settles_loop {body : σ → Program Op Answer (σ ⊕ α)}
    (assertion : σ → Snapshot World Unit Answer → Prop) (measure : Snapshot World Unit Answer → Nat)
    (each : ∀ state now, assertion state now → Settles exec meets (fun result later =>
      Sum.elim (fun next => assertion next later ∧ measure later < measure now)
        (fun value => post value later) result) (body state) now)
    (state : σ) (holds : assertion state now) : Settles exec meets post (loop body state) now := by
  generalize most : measure now = fuel
  induction fuel using Nat.strongRecOn generalizing state now with
  | _ fuel inductionHypothesis =>
    apply Settles.unroll
    apply (each state now holds).bind
    rintro (next | value) later established
    · exact inductionHypothesis _ (most ▸ established.2) next established.1 rfl
    · exact .ended (.done value) established

/-- What settles ends in some run. -/
theorem Settles.reached (settles : Settles exec meets post program now) :
    ∃ later left value, Leads exec meets program now later left ∧ Ends left value ∧ post value later := by
  induction settles with
  | @ended program now value ends holds => exact ⟨now, program, value, .start, ends, holds⟩
  | step performs possible _ inductionHypothesis =>
    obtain ⟨answer, after, occurs, met⟩ := possible
    obtain ⟨later, left, value, leads, ends, holds⟩ := inductionHypothesis answer after occurs met
    exact ⟨later, left, value, (Leads.step .start performs occurs met).trans leads, ends, holds⟩

/-- What settles ends every run that ends. -/
theorem Settles.ends {value : α} (settles : Settles exec meets post program now)
    (leads : Leads exec meets program now later left) (ends : left.Ends value) : post value later := by
  induction settles with
  | ended finished holds =>
    rcases leads.first with ⟨rfl, rfl⟩ | ⟨_, _, _, _, performs, _⟩
    · rw [finished.same ends]
      exact holds
    · exact absurd performs finished.idle
  | step performs _ _ inductionHypothesis =>
    rcases leads.first with ⟨rfl, rfl⟩ | ⟨_, _, answer, after, first, took, meant, rest⟩
    · exact absurd performs ends.idle
    · cases performs.same first
      exact inductionHypothesis answer after took meant rest

/-- One operation that can be answered. -/
theorem settles_ask {op : Op} {post : Answer op → Snapshot World Unit Answer → Prop}
    (possible : ∃ answer after, Occurs exec now ⟨(), op, answer⟩ after ∧ meets now ⟨(), op, answer⟩)
    (each : ∀ answer after, Occurs exec now ⟨(), op, answer⟩ after → meets now ⟨(), op, answer⟩ →
      post answer after) : Settles exec meets post (ask op) now :=
  .step (.here op .done) possible fun answer after occurs met =>
    .ended (.done answer) (each answer after occurs met)

end Rules

section Replay

variable [DecidableEq Op]

variable (exec) in
/-- Perform the operations of a list with their answers, as long as they are the ones
that the program performs and the world allows the answers. -/
def follow (entries : Nat) : Program Op Answer α → Snapshot World Unit Answer →
    List (Sigma Answer) → Option (Snapshot World Unit Answer × Program Op Answer α)
  | left, now, [] => some (now, left)
  | left, now, ⟨op, answer⟩ :: others =>
    match left.expose entries with
    | .perform op' next =>
      if same : op' = op then
        match exec op answer now.world with
        | some world => follow entries (next (same ▸ answer))
            ⟨world, ⟨(), op, answer⟩ :: now.history⟩ others
        | none => none
      else none
    | _ => none

/-- An answered operation as an event of the only thread. -/
def eventOf (answered : Sigma Answer) : Event Unit Answer := ⟨(), answered.1, answered.2⟩

/-- What has been followed is a run with exactly these events. -/
theorem follow_leads (entries : Nat) (events : List (Sigma Answer))
    (every : ∀ moment event, meets moment event)
    (followed : follow exec entries program now events = some (later, left)) :
    Leads exec meets program now later left ∧
      later.history = (events.map eventOf).reverse ++ now.history := by
  induction events generalizing program now with
  | nil =>
    obtain ⟨rfl, rfl⟩ := Prod.mk.inj (Option.some.inj followed)
    exact ⟨.start, rfl⟩
  | cons event others inductionHypothesis =>
    obtain ⟨op, answer⟩ := event
    unfold follow at followed
    split at followed
    · rename_i op' next exposed
      split at followed
      · rename_i same
        subst same
        split at followed
        · rename_i world executed
          have performs := performs_of_expose entries program _ _ exposed
          obtain ⟨leads, history⟩ := inductionHypothesis followed
          refine ⟨(Leads.step .start performs ⟨executed, rfl⟩ (every _ _)).trans leads, ?_⟩
          rw [history]
          simp [eventOf]
        · exact absurd followed (by simp)
      · exact absurd followed (by simp)
    · exact absurd followed (by simp)

/-- The value of a program that is over. -/
def value? : Program Op Answer α → Option α
  | .done value => some value
  | _ => none

omit [DecidableEq Op] in
/-- What is over behind loop entries has ended. -/
theorem ends_of_expose (entries : Nat) (program : Program Op Answer α) (value : α)
    (finished : (program.expose entries).value? = some value) : program.Ends value := by
  induction entries generalizing program with
  | zero =>
    cases program with
    | done result =>
      obtain rfl := Option.some.inj finished
      exact .done _
    | perform op next => exact absurd finished (by simp [expose, value?])
    | iterate body state next => exact absurd finished (by simp [expose, value?])
  | succ entries inductionHypothesis =>
    cases program with
    | done result =>
      obtain rfl := Option.some.inj finished
      exact .done _
    | perform op next => exact absurd finished (by simp [expose, value?])
    | iterate body state next => exact .unroll _ _ _ _ (inductionHypothesis _ finished)

end Replay

end Runs

end Program

namespace Setting

variable {S : Setting World Unit Answer} {program left : Program Op Answer α}
variable {post : α → Snapshot World Unit Answer → Prop} {start now : Snapshot World Unit Answer}

/-- There is no other thread. -/
theorem stable_alone (assertion : Snapshot World Unit Answer → Prop) : S.Stable () assertion := by
  rintro before after _ ⟨event, different, _⟩
  exact absurd rfl different

/-- A safe program keeps the invariant at every moment of its runs. -/
theorem alone (leads : Program.Leads S.exec S.meets program start now left) (holds : S.inv start)
    (safe : S.Safe () program post start) : S.inv now ∧ S.Safe () left post now := by
  induction leads with
  | start => exact ⟨holds, safe⟩
  | step _ performs occurs met inductionHypothesis =>
    obtain ⟨kept, rest⟩ := inductionHypothesis
    exact rest.performs performs ⟨occurs, met, kept⟩

/-- Where a safe program is over, the second assertion holds of its value. -/
theorem Safe.ends {value : α} (safe : S.Safe () left post now) (ends : left.Ends value) :
    post value now := by
  induction ends with
  | done value => exact safe now .refl
  | unroll body state next value _ inductionHypothesis => exact inductionHypothesis (Safe.unroll safe)

end Setting

end Foundation
