import PacketBrowser.Foundation.Program

/-!
# Programs that respect a relation between environments

A program respects a relation if in related environments it returns the same values and
leaves related environments. For a relation that is symmetric, related environments then
cannot be told apart by any result of the program.
-/

namespace Foundation

namespace Program

variable {Op : Type} {Answer : Op → Type} {Env α β : Type}

section Respects

variable (exec : (op : Op) → Answer op → Env → Option Env) (alike : Env → Env → Prop)

/-- What the program returns in one of two related environments it returns in the other,
and what it leaves is related again. -/
def Respects (program : Program Op Answer α) : Prop :=
  ∀ one two value out, alike one two → Returns exec program one value out →
    ∃ out', Returns exec program two value out' ∧ alike out out'

variable {exec} {alike}

/-- A program that is over respects every likeness. -/
theorem respects_done (value : α) : Respects exec alike (.done value) := by
  intro one two result out related returns
  obtain ⟨rfl, rfl⟩ := returns_done.mp returns
  exact ⟨two, .done _ _, related⟩

/-- What follows has to respect the relation after the values that are returned. -/
theorem Respects.bind {program : Program Op Answer α} {after : α → Program Op Answer β}
    (first : Respects exec alike program)
    (second : ∀ one value middle, Returns exec program one value middle →
      Respects exec alike (after value)) : Respects exec alike (program.bind after) := by
  intro one two result out related returns
  obtain ⟨value, middle, begun, ended⟩ := returns_bind.mp returns
  obtain ⟨middle', begun', between⟩ := first one two value middle related begun
  obtain ⟨out', ended', final⟩ :=
    second one value middle begun middle middle' result out between ended
  exact ⟨out', returns_bind.mpr ⟨value, middle', begun', ended'⟩, final⟩

/-- An operation that is answered alike. -/
theorem respects_ask {op : Op}
    (each : ∀ one two answer out, alike one two → exec op answer one = some out →
      ∃ out', exec op answer two = some out' ∧ alike out out') :
    Respects exec alike (ask op) := by
  intro one two answer out related returns
  obtain ⟨out', executed, final⟩ := each one two answer out related (returns_ask.mp returns)
  exact ⟨out', returns_ask.mpr executed, final⟩

section Attempts

variable {ε : Type}

/-- Two attempts respect a likeness if the first does, and the second behind each success. -/
theorem respects_attempt {first : ExceptT ε (Program Op Answer) α}
    {after : α → ExceptT ε (Program Op Answer) β} (start : Respects exec alike first.run)
    (rest : ∀ one value middle, Returns exec first.run one (.ok value) middle →
      Respects exec alike (after value).run) :
    Respects exec alike (first >>= after).run := by
  rw [run_attempt]
  apply start.bind
  intro one result middle returns
  cases result with
  | ok value => exact rest one value middle returns
  | error error => exact respects_done _

/-- A program without failures respects what it respects. -/
theorem respects_lift {program : Program Op Answer α} (respects : Respects exec alike program) :
    Respects exec alike (ExceptT.lift program : ExceptT ε (Program Op Answer) α).run :=
  respects.bind fun _ _ _ _ => respects_done _

end Attempts

end Respects

end Program

end Foundation
