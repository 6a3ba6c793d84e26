import PacketBrowser.Foundation.Alone

/-!
# Reference monitors

A monitor watches a program from outside. It has a state of its own, which moves with
every answered operation, and in each state it permits some operations and not others. A
program conforms when every operation it ever performs is permitted at that point.

Conformance is a safety property, so it is proved by triples; but the assertions range
over the monitor's state alone. The rules below let a proof walk along the program with
that state, without a word about worlds and histories.
-/

namespace Foundation

/-- What is permitted in each state, and the state after an answered operation. -/
structure Monitor (State : Type) {Op : Type} (Answer : Op → Type) where
  permits : State → Op → Prop
  after : State → (op : Op) → Answer op → State

namespace Monitor

variable {Op : Type} {Answer : Op → Type} {World State α β σ ε : Type}
variable (M : Monitor State Answer) (first : State)

/-- The state after a history, whose newest event comes first. -/
def state : List (Event Unit Answer) → State
  | [] => first
  | event :: earlier => M.after (state earlier) event.op event.answer

/-- Every operation of the history was permitted when it was performed. -/
def Obeyed : List (Event Unit Answer) → Prop :=
  Throughout fun event earlier => M.permits (M.state first earlier) event.op

variable {M first}

/-- What was permitted at each place of an obeyed history. -/
theorem Obeyed.permitted {history later earlier : List (Event Unit Answer)}
    {event : Event Unit Answer} (obeyed : M.Obeyed first history)
    (split : history = later ++ event :: earlier) :
    M.permits (M.state first earlier) event.op :=
  throughout_iff.mp obeyed later event earlier split

/-- An obeyed history was obeyed before, too. -/
theorem Obeyed.earlier {later earlier : List (Event Unit Answer)}
    (obeyed : M.Obeyed first (later ++ earlier)) : M.Obeyed first earlier :=
  throughout_iff.mpr fun behind event before split =>
    throughout_iff.mp obeyed (later ++ behind) event before (by rw [split, List.append_assoc])

/-- Something of the first kind has happened, and nothing of the second kind since then. -/
def Seen (kind broken : Event Unit Answer → Prop) (history : List (Event Unit Answer)) : Prop :=
  ∃ between event before, history = between ++ event :: before ∧ kind event ∧
    ∀ other ∈ between, ¬ broken other

/-- What was seen stays so behind an event that does not break it. -/
theorem Seen.grown {kind broken : Event Unit Answer → Prop} {event : Event Unit Answer}
    {history : List (Event Unit Answer)} (seen : Seen kind broken history)
    (harmless : ¬ broken event) : Seen kind broken (event :: history) := by
  obtain ⟨between, first, before, rfl, occurred, calm⟩ := seen
  refine ⟨event :: between, first, before, rfl, occurred, ?_⟩
  intro other member
  rcases List.mem_cons.mp member with rfl | member
  · exact harmless
  · exact calm other member

/-- A property of the state that only events of one kind bring about, and that no event of
another kind leaves in place, is a trace of what has happened. -/
theorem Obeyed.seen (property : State → Prop) {kind broken : Event Unit Answer → Prop}
    {history : List (Event Unit Answer)} (obeyed : M.Obeyed first history)
    (absent : ¬ property first)
    (each : ∀ state op answer, M.permits state op → property (M.after state op answer) →
      kind ⟨(), op, answer⟩ ∨ property state ∧ ¬ broken ⟨(), op, answer⟩)
    (holds : property (M.state first history)) : Seen kind broken history := by
  induction history with
  | nil => exact absurd holds absent
  | cons event earlier inductionHypothesis =>
    rcases each _ event.op event.answer obeyed.1 holds with brought | ⟨before, harmless⟩
    · exact ⟨[], event, earlier, rfl, brought, by simp⟩
    · exact (inductionHypothesis obeyed.2 before).grown harmless

/-- A property of the state that permitted operations keep holds after every obeyed
history. -/
theorem Obeyed.invariant (property : State → Prop) {history : List (Event Unit Answer)}
    (obeyed : M.Obeyed first history) (holds : property first)
    (kept : ∀ state op answer, property state → M.permits state op →
      property (M.after state op answer)) : property (M.state first history) := by
  induction history with
  | nil => exact holds
  | cons event earlier inductionHypothesis =>
    exact kept _ _ _ (inductionHypothesis obeyed.2) obeyed.1

variable (M first) (exec : (op : Op) → Answer op → World → Option World)

/-- The program is watched from the beginning of the history on. -/
def setting : Setting World Unit Answer :=
  ⟨exec, fun _ _ => True, fun now => M.Obeyed first now.history⟩

/-- Where the monitor's state satisfies the first assertion, the program conforms, and the
second one holds when it returns. -/
def Conforms (pre : State → Prop) (program : Program Op Answer α)
    (post : α → State → Prop) : Prop :=
  (M.setting first exec).Triple () (fun now => pre (M.state first now.history)) program
    fun value now => post value (M.state first now.history)

variable {M first exec} {pre : State → Prop}

/-- A conforming program is never seen to do what is not permitted, and where it ends, the
second assertion holds. -/
theorem Conforms.obeyed {program left : Program Op Answer α} {post : α → State → Prop}
    {start now : Snapshot World Unit Answer} (conforms : M.Conforms first exec pre program post)
    (fresh : start.history = []) (holds : pre first)
    (leads : Program.Leads exec (fun _ _ => True) program start now left) :
    M.Obeyed first now.history ∧
      ∀ value, left.Ends value → post value (M.state first now.history) := by
  have begun : pre (M.state first start.history) := by
    rw [fresh]
    exact holds
  have clean : M.Obeyed first start.history := by
    rw [fresh]
    exact trivial
  obtain ⟨obeyed, rest⟩ :=
    Setting.alone (S := M.setting first exec) leads clean (conforms start begun)
  exact ⟨obeyed, fun value ends => rest.ends ends⟩

/-- More may be asked before a program, and less promised behind it. -/
theorem Conforms.consequence {program : Program Op Answer α} {stronger : State → Prop}
    {post weaker : α → State → Prop} (conforms : M.Conforms first exec pre program post)
    (before : ∀ state, stronger state → pre state)
    (after : ∀ value state, post value state → weaker value state) :
    M.Conforms first exec stronger program weaker :=
  Setting.Triple.consequence conforms (fun _ => before _) fun value _ => after value _

/-- A program that is over keeps to every monitor. -/
theorem conforms_done {value : α} {post : α → State → Prop}
    (implies : ∀ state, pre state → post value state) :
    M.Conforms first exec pre (.done value) post :=
  Setting.triple_done (Setting.stable_alone _) fun _ => implies _

/-- One operation has to be permitted; the monitor moves on with its answer. -/
theorem conforms_ask {op : Op} {post : Answer op → State → Prop}
    (permitted : ∀ state, pre state → M.permits state op)
    (each : ∀ state answer, pre state → post answer (M.after state op answer)) :
    M.Conforms first exec pre (Program.ask op) post := by
  apply Setting.triple_ask (Setting.stable_alone _) fun _ => Setting.stable_alone _
  intro now answer later holds moves
  have history : later.history = ⟨(), op, answer⟩ :: now.history := moves.occurs.2
  have kept : M.Obeyed first later.history := by
    rw [history]
    exact ⟨permitted _ holds, moves.inv⟩
  refine ⟨kept, ?_⟩
  rw [history]
  exact each _ answer holds

/-- Two programs keep to the monitor one after the other. -/
theorem conforms_bind {program : Program Op Answer β} {after : β → Program Op Answer α}
    {post : α → State → Prop} (middle : β → State → Prop)
    (one : M.Conforms first exec pre program middle)
    (two : ∀ value, M.Conforms first exec (middle value) (after value) post) :
    M.Conforms first exec pre (program >>= after) post :=
  Setting.triple_bind _ one two

/-- The rounds of a loop keep an assertion on the loop's and the monitor's state. -/
theorem conforms_loop {body : σ → Program Op Answer (σ ⊕ α)} {post : α → State → Prop}
    (assertion : σ → State → Prop)
    (each : ∀ state, M.Conforms first exec (assertion state) (body state)
      (Sum.elim assertion post)) (state : σ) :
    M.Conforms first exec (assertion state) (Program.loop body state) post := by
  apply Setting.triple_loop (fun state now => assertion state (M.state first now.history))
    (fun _ => Setting.stable_alone _) fun _ => Setting.stable_alone _
  intro state
  apply Setting.Triple.consequence (each state) fun _ => id
  rintro (next | value) _ holds
  · exact holds
  · exact holds

/-- One assertion about the value of a success, and one about the error of a failure. -/
def either (succeeded : α → State → Prop) (failed : ε → State → Prop) :
    Except ε α → State → Prop
  | .ok value => succeeded value
  | .error err => failed err

/-- A program that may fail goes on only after success. -/
theorem conforms_attempt {program : ExceptT ε (Program Op Answer) α}
    {after : α → ExceptT ε (Program Op Answer) β} {post : Except ε β → State → Prop}
    (middle : α → State → Prop)
    (one : M.Conforms first exec pre program.run
      (either middle fun err => post (.error err)))
    (two : ∀ value, M.Conforms first exec (middle value) (after value).run post) :
    M.Conforms first exec pre (program >>= after).run post := by
  apply Setting.triple_attempt (fun value now => middle value (M.state first now.history))
    (fun _ => Setting.stable_alone _) _ two
  apply Setting.Triple.consequence one fun _ => id
  intro result now holds
  cases result with
  | ok value => exact holds
  | error err => exact holds

/-- A program without failures keeps to the monitor as a success. -/
theorem conforms_lift {program : Program Op Answer β} {post : Except ε β → State → Prop}
    (conforms : M.Conforms first exec pre program fun value => post (.ok value)) :
    M.Conforms first exec pre (ExceptT.lift program : ExceptT ε (Program Op Answer) β).run post :=
  Setting.triple_lift (fun _ => Setting.stable_alone _) conforms

end Monitor

end Foundation
