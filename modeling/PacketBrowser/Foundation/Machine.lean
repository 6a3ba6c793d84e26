import Mathlib.Data.List.Basic

/-!
# Runs of a machine

A machine takes one action after another. An action that is not possible in a state has
no successor. What every action preserves is preserved by every run.
-/

namespace Foundation.Machine

variable {State Action : Type} (step : State → Action → Option State)

/-- Take the actions in order. -/
def run : State → List Action → Option State
  | state, [] => some state
  | state, action :: later => (step state action).bind fun next => run next later

variable {step}

/-- What every action preserves is preserved by every run. -/
theorem run_keeps {invariant : State → Prop}
    (each : ∀ state action next, invariant state → step state action = some next → invariant next)
    {state last : State} {actions : List Action} (holds : invariant state)
    (runs : run step state actions = some last) : invariant last := by
  induction actions generalizing state with
  | nil =>
    obtain rfl := Option.some.inj runs
    exact holds
  | cons action later inductionHypothesis =>
    obtain ⟨next, taken, rest⟩ := Option.bind_eq_some_iff.mp runs
    exact inductionHypothesis (each state action next holds taken) rest

section Meeting

variable (meets : State → Action → Prop)

variable (step) in
/-- Each action meets the condition in the state in which it is taken. -/
def Meets : State → List Action → Prop
  | _, [] => True
  | state, action :: later => meets state action ∧
      match step state action with
      | some next => Meets next later
      | none => True

variable (step) in
/-- A condition that can be decided of each action can be decided of a run. -/
instance decideMeets [∀ state action, Decidable (meets state action)] :
    ∀ (state : State) (actions : List Action), Decidable (Meets step meets state actions)
  | _, [] => inferInstanceAs (Decidable True)
  | state, action :: later =>
    match found : step state action with
    | some next =>
      have : Decidable (Meets step meets next later) := decideMeets next later
      decidable_of_iff (meets state action ∧ Meets step meets next later) (by simp [Meets, found])
    | none => decidable_of_iff (meets state action) (by simp [Meets, found])

variable {meets}

/-- What every action that meets the condition preserves is preserved by every run of such
actions. -/
theorem meeting_keeps {invariant : State → Prop}
    (each : ∀ state action next, invariant state → meets state action →
      step state action = some next → invariant next)
    {state last : State} {actions : List Action} (holds : invariant state)
    (met : Meets step meets state actions) (runs : run step state actions = some last) :
    invariant last := by
  induction actions generalizing state with
  | nil =>
    obtain rfl := Option.some.inj runs
    exact holds
  | cons action later inductionHypothesis =>
    obtain ⟨next, taken, rest⟩ := Option.bind_eq_some_iff.mp runs
    obtain ⟨first, others⟩ := met
    rw [taken] at others
    exact inductionHypothesis (each state action next holds first taken) others rest

end Meeting

end Foundation.Machine
