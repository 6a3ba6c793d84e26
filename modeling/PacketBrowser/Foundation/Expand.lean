import PacketBrowser.Foundation.Triple

/-!
# Operations that are programs themselves

Each operation of a program is replaced by a program over other operations, its method.
What the program performs then is what the methods of its operations perform, and rules
for a sequence stay rules for the expanded sequence.
-/

namespace Foundation

variable {Op Low World Thread : Type} {Answer : Op → Type} {LowAnswer : Low → Type}
variable {α β σ ε : Type}

namespace Program

variable (method : (op : Op) → Program Low LowAnswer (Answer op))

/-- The program with each operation replaced by its method. -/
def expand : {α : Type} → Program Op Answer α → Program Low LowAnswer α
  | _, .done value => .done value
  | _, .perform op next => (method op).bind fun answer => (next answer).expand
  | _, .iterate body state next =>
    .iterate (fun state => (body state).expand) state fun result => (next result).expand

/-- Expansion goes through one program after the other. -/
theorem expand_bind (program : Program Op Answer α) (after : α → Program Op Answer β) :
    (program.bind after).expand method =
      (program.expand method).bind fun value => (after value).expand method := by
  induction program with
  | done value => rfl
  | perform op next inductionHypothesis =>
    simp only [bind, expand, bind_assoc, inductionHypothesis]
  | iterate body state next _ inductionHypothesis =>
    simp only [bind, expand, inductionHypothesis]

/-- A program that may fail is expanded part by part. -/
theorem expand_attempt (first : ExceptT ε (Program Op Answer) α)
    (after : α → ExceptT ε (Program Op Answer) β) :
    (first >>= after).run.expand method =
      (ExceptT.mk (first.run.expand method) >>= fun value =>
        (ExceptT.mk ((after value).run.expand method) : ExceptT ε (Program Low LowAnswer) β)).run := by
  rw [run_attempt, run_attempt, expand_bind]
  congr 1
  funext result
  cases result <;> rfl

variable {method}

/-- The expanded program performs what the methods perform. -/
theorem only_expand {allowed : Op → Prop} {permitted : Low → Prop}
    (each : ∀ op, allowed op → (method op).Only permitted) {program : Program Op Answer α}
    (only : program.Only allowed) : (program.expand method).Only permitted := by
  induction program with
  | done value => trivial
  | perform op next inductionHypothesis =>
    exact only_bind permitted (each op only.1) fun answer => inductionHypothesis answer (only.2 answer)
  | iterate body state next bodyHypothesis inductionHypothesis =>
    exact ⟨fun state => bodyHypothesis state (only.1 state),
      fun result => inductionHypothesis result (only.2 result)⟩

/-- Every program performs some operations. -/
theorem only_any (program : Program Op Answer α) : program.Only fun _ => True := by
  induction program with
  | done value => trivial
  | perform op next inductionHypothesis => exact ⟨trivial, inductionHypothesis⟩
  | iterate body state next bodyHypothesis inductionHypothesis =>
    exact ⟨bodyHypothesis, inductionHypothesis⟩

end Program

namespace Setting

variable {S : Setting World Thread LowAnswer} {thread : Thread}
variable {method : (op : Op) → Program Low LowAnswer (Answer op)}
variable {pre : Snapshot World Thread LowAnswer → Prop}

/-- The expansions of two programs hold one after the other. -/
theorem triple_expand_bind {first : Program Op Answer β} {after : β → Program Op Answer α}
    {post : α → Snapshot World Thread LowAnswer → Prop}
    (middle : β → Snapshot World Thread LowAnswer → Prop)
    (one : S.Triple thread pre (first.expand method) middle)
    (two : ∀ value, S.Triple thread (middle value) ((after value).expand method) post) :
    S.Triple thread pre ((first >>= after).expand method) post := by
  show S.Triple thread pre ((first.bind after).expand method) post
  rw [Program.expand_bind]
  exact triple_bind middle one two

/-- The expansions of two attempts hold one after the other, where a failure of the first one is
a failure of both. -/
theorem triple_expand_attempt {first : ExceptT ε (Program Op Answer) α}
    {after : α → ExceptT ε (Program Op Answer) β}
    {post : Except ε β → Snapshot World Thread LowAnswer → Prop}
    (middle : α → Snapshot World Thread LowAnswer → Prop)
    (failed : ∀ error, S.Stable thread (post (.error error)))
    (one : S.Triple thread pre (first.run.expand method) (outcome middle fun error => post (.error error)))
    (two : ∀ value, S.Triple thread (middle value) ((after value).run.expand method) post) :
    S.Triple thread pre ((first >>= after).run.expand method) post := by
  rw [Program.expand_attempt]
  exact triple_attempt middle failed one two

/-- What every method preserves is preserved by an expanded program. -/
theorem triple_expand {program : Program Op Answer α} (stable : S.Stable thread pre)
    (each : ∀ op, S.Triple thread pre (method op) fun _ => pre) :
    S.Triple thread pre (program.expand method) fun _ => pre := by
  induction program with
  | done value => exact triple_done stable fun _ => id
  | perform op next inductionHypothesis =>
    exact triple_bind (fun _ => pre) (each op) inductionHypothesis
  | iterate body state next bodyHypothesis inductionHypothesis =>
    refine fun now holds => ⟨fun _ => pre, fun _ => stable, holds, fun state now holds =>
      (bodyHypothesis state now holds).mono ?_⟩
    rintro (later | result) now
    · exact id
    · exact inductionHypothesis result now

end Setting

end Foundation
