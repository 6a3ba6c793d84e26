import PacketBrowser.Foundation.Alone

/-!
# Programs that end within a number of operations

A program ends within a bound if, whatever the allowed answers, it is never stuck and is
over after so many operations at most. The bound of a sequence is the sum of the bounds of
its parts. A loop that can say of each round that it is one of the last so many is bounded by
the bound of a round for each of them.
-/

namespace Foundation.Program

variable {Op : Type} {Answer : Op → Type} {World α β σ ε : Type}
variable {exec : (op : Op) → Answer op → World → Option World}
variable {meets : Snapshot World Unit Answer → Event Unit Answer → Prop}

variable (exec meets) in
/-- Whatever the allowed answers, the program ends after so many operations at most, and
the assertion holds then. -/
def EndsWithin (bound : Nat) (post : α → Snapshot World Unit Answer → Prop)
    (program : Program Op Answer α) (now : Snapshot World Unit Answer) : Prop :=
  Settles exec meets (fun value later =>
    post value later ∧ later.history.length ≤ now.history.length + bound) program now

variable {bound more : Nat} {now : Snapshot World Unit Answer}
variable {program : Program Op Answer α} {post : α → Snapshot World Unit Answer → Prop}

/-- A larger budget and a weaker end suit as well. -/
theorem EndsWithin.mono {weaker : α → Snapshot World Unit Answer → Prop}
    (ends : EndsWithin exec meets bound post program now) (fits : bound ≤ more)
    (implies : ∀ value later, post value later → weaker value later) :
    EndsWithin exec meets more weaker program now := by
  apply Settles.mono ends
  rintro value later ⟨holds, short⟩
  exact ⟨implies value later holds, by omega⟩

/-- A larger budget suits as well. -/
theorem EndsWithin.within (ends : EndsWithin exec meets bound post program now)
    (fits : bound ≤ more) : EndsWithin exec meets more post program now :=
  ends.mono fits fun _ _ => id

/-- Nothing is left to do. -/
theorem ends_done {value : α} (bound : Nat) (holds : post value now) :
    EndsWithin exec meets bound post (.done value) now :=
  .ended (.done value) ⟨holds, Nat.le_add_right _ _⟩

/-- One operation that can be answered. -/
theorem ends_ask {op : Op} {post : Answer op → Snapshot World Unit Answer → Prop}
    (possible : ∃ answer after, Occurs exec now ⟨(), op, answer⟩ after ∧
      meets now ⟨(), op, answer⟩)
    (each : ∀ answer after, Occurs exec now ⟨(), op, answer⟩ after →
      meets now ⟨(), op, answer⟩ → post answer after) :
    EndsWithin exec meets 1 post (ask op) now := by
  apply settles_ask possible
  intro answer after occurs met
  refine ⟨each answer after occurs met, ?_⟩
  rw [occurs.2]
  exact Nat.le_refl _

/-- The bounds of two parts add up. -/
theorem EndsWithin.bind {after : α → Program Op Answer β}
    {last : β → Snapshot World Unit Answer → Prop}
    (ends : EndsWithin exec meets bound post program now)
    (rest : ∀ value later, post value later → EndsWithin exec meets more last (after value) later) :
    EndsWithin exec meets (more + bound) last (program >>= after) now := by
  apply Settles.bind ends
  rintro value later ⟨holds, short⟩
  apply Settles.mono (rest value later holds)
  rintro result latest ⟨established, soon⟩
  exact ⟨established, by omega⟩

/-- What is made of the value needs no operation. -/
theorem EndsWithin.returns {result : α → β} {last : β → Snapshot World Unit Answer → Prop}
    (ends : EndsWithin exec meets bound post program now)
    (holds : ∀ value later, post value later → last (result value) later) :
    EndsWithin exec meets bound last (program >>= fun value => return result value) now :=
  (ends.bind fun value later established =>
    ends_done 0 (holds value later established)).within (by omega)

/-- A program without failures ends as a success within the same budget. -/
theorem ends_lift (ends : EndsWithin exec meets bound post program now)
    {failed : ε → Snapshot World Unit Answer → Prop} :
    EndsWithin exec meets bound (Setting.outcome post failed)
      (ExceptT.lift program : ExceptT ε (Program Op Answer) α).run now := by
  exact ends.returns fun _ _ holds => holds

/-- What may fail is over if its first part fails. -/
theorem ends_attempt {first : ExceptT ε (Program Op Answer) α}
    {after : α → ExceptT ε (Program Op Answer) β}
    {last : Except ε β → Snapshot World Unit Answer → Prop}
    (ends : EndsWithin exec meets bound (Setting.outcome post fun err => last (.error err))
      first.run now)
    (rest : ∀ value later, post value later →
      EndsWithin exec meets more last (after value).run later) :
    EndsWithin exec meets (more + bound) last (first >>= after).run now := by
  rw [run_attempt]
  apply EndsWithin.bind ends
  intro result later holds
  cases result with
  | ok value => exact rest value later holds
  | error err => exact ends_done more holds

/-- A loop of which each round knows that it is one of the last so many. -/
theorem ends_loop {body : σ → Program Op Answer (σ ⊕ α)}
    (assertion : σ → Nat → Snapshot World Unit Answer → Prop)
    (each : ∀ state left now, assertion state left now → EndsWithin exec meets bound
      (fun result later => Sum.elim (fun next => ∃ fewer < left, assertion next fewer later)
        (fun value => post value later) result) (body state) now)
    (state : σ) {left : Nat} (holds : assertion state left now) :
    EndsWithin exec meets ((left + 1) * bound) post (loop body state) now := by
  induction left using Nat.strongRecOn generalizing state now with
  | _ left inductionHypothesis =>
    apply Settles.unroll
    apply Settles.bind (each state left now holds)
    rintro (next | value) later ⟨established, short⟩
    · obtain ⟨fewer, less, again⟩ := established
      apply Settles.mono (inductionHypothesis fewer less next again)
      rintro result latest ⟨reached, soon⟩
      refine ⟨reached, ?_⟩
      have rounds : (fewer + 1) * bound ≤ left * bound := Nat.mul_le_mul_right bound less
      rw [Nat.succ_mul]
      omega
    · refine .ended (.done value) ⟨established, ?_⟩
      rw [Nat.succ_mul]
      omega

end Foundation.Program
