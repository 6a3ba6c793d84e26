import Mathlib.Data.List.Basic

/-!
# One who serves calls in turn

A desk keeps the calls it has served with their results, the call it is serving, and
the calls that wait. Calls arrive at any time; the next one is taken only when none is
being served, and is the one that has waited longest; a result belongs to the call
being served.

Who watches a desk from outside may know which call is to be taken or answered. Both
moves therefore ask for a call that is the right one, and fail on any other.
-/

namespace Foundation

/-- The calls of a desk, in the order in which they arrived. -/
structure Desk (Call Result : Type) where
  served : List (Call × Result)
  serving : Option Call
  waiting : List Call
  deriving DecidableEq, Repr

namespace Desk

variable {Call Result : Type}

/-- Nobody has called. -/
def opened : Desk Call Result := ⟨[], none, []⟩

/-- Every call there was. -/
def calls (desk : Desk Call Result) : List Call :=
  desk.served.map Prod.fst ++ desk.serving.toList ++ desk.waiting

/-- A call joins the end of the queue. -/
def arrive (call : Call) (desk : Desk Call Result) : Desk Call Result :=
  { desk with waiting := desk.waiting ++ [call] }

/-- Take the call that has waited longest, if it is the right one. -/
def take (right : Call → Bool) : Desk Call Result → Option (Desk Call Result)
  | ⟨served, none, call :: later⟩ =>
    if right call then some ⟨served, some call, later⟩ else none
  | _ => none

/-- Answer the call being served, if it is the right one. -/
def answer (right : Call → Bool) (result : Result) :
    Desk Call Result → Option (Desk Call Result)
  | ⟨served, some call, waiting⟩ =>
    if right call then some ⟨served ++ [(call, result)], none, waiting⟩ else none
  | _ => none

variable {desk after : Desk Call Result} {right : Call → Bool} {result : Result} {call : Call}

/-- An open desk has had no calls yet. -/
@[simp] theorem calls_opened : (opened : Desk Call Result).calls = [] := rfl

/-- A call that arrives is the last one so far. -/
@[simp] theorem calls_arrive : (desk.arrive call).calls = desk.calls ++ [call] := by
  simp [arrive, calls]

/-- A call is taken exactly if none is served and it is the first that waits. -/
theorem take_some : desk.take right = some after ↔
    ∃ call later, desk.serving = none ∧ desk.waiting = call :: later ∧ right call = true ∧
      after = ⟨desk.served, some call, later⟩ := by
  obtain ⟨served, serving, waiting⟩ := desk
  rcases serving with _ | serving
  · rcases waiting with _ | ⟨call, later⟩
    · simp [take]
    · simp only [take, Option.ite_none_right_eq_some, Option.some.injEq]
      constructor
      · rintro ⟨fits, rfl⟩
        exact ⟨call, later, trivial, rfl, fits, rfl⟩
      · rintro ⟨_, _, _, same, fits, rfl⟩
        obtain ⟨rfl, rfl⟩ := List.cons.inj same
        exact ⟨fits, rfl⟩
  · simp [take]

/-- A call is answered exactly if it is the one that is served. -/
theorem answer_some : desk.answer right result = some after ↔
    ∃ call, desk.serving = some call ∧ right call = true ∧
      after = ⟨desk.served ++ [(call, result)], none, desk.waiting⟩ := by
  obtain ⟨served, serving, waiting⟩ := desk
  rcases serving with _ | serving
  · simp [answer]
  · simp only [answer, Option.ite_none_right_eq_some, Option.some.injEq]
    constructor
    · rintro ⟨fits, rfl⟩
      exact ⟨serving, rfl, fits, rfl⟩
    · rintro ⟨_, rfl, fits, rfl⟩
      exact ⟨fits, rfl⟩

/-- Nobody is lost or invented between waiting and being served. -/
theorem calls_take (taken : desk.take right = some after) : after.calls = desk.calls := by
  obtain ⟨call, later, idle, first, _, rfl⟩ := take_some.mp taken
  simp [calls, idle, first]

/-- An answer changes nothing about which calls have arrived. -/
theorem calls_answer (answered : desk.answer right result = some after) :
    after.calls = desk.calls := by
  obtain ⟨call, busy, _, rfl⟩ := answer_some.mp answered
  simp [calls, busy]

/-- Who has a result has called. -/
theorem served_calls (member : (call, result) ∈ desk.served) : call ∈ desk.calls := by
  simp only [calls, List.mem_append, List.mem_map]
  exact Or.inl (Or.inl ⟨_, member, rfl⟩)

end Desk

end Foundation
