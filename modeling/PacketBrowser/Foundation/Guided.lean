import PacketBrowser.Foundation.Expand

/-!
# Programs guided by answers

What a program performs may depend on what it was answered. A guided program performs only
allowed operations as long as the answers are those that are given, and returns only values
of which an assertion holds. Where an invariant decides the answers, a guided program keeps
it.
-/

namespace Foundation

variable {Op Low World Thread : Type} {Answer : Op → Type} {LowAnswer : Low → Type}
variable {α β σ ε : Type}

namespace Program

section Guided

variable (given : (op : Op) → Answer op → Prop) (allowed : Op → Prop)

/-- With the given answers the program performs allowed operations only, and returns only
values of which the assertion holds. -/
def Guided : {α : Type} → Program Op Answer α → (α → Prop) → Prop
  | _, .done value, post => post value
  | _, .perform op next, post => allowed op ∧ ∀ answer, given op answer → Guided (next answer) post
  | _, .iterate body _ next, post =>
    ∀ state, Guided (body state) (Sum.elim (fun _ => True) fun result => Guided (next result) post)

variable {given} {allowed} {post : α → Prop}

/-- A guided program reaches every weaker end. -/
theorem Guided.mono {program : Program Op Answer α} {weaker : α → Prop}
    (guided : program.Guided given allowed post) (implies : ∀ value, post value → weaker value) :
    program.Guided given allowed weaker := by
  induction program with
  | done value => exact implies value guided
  | perform op next inductionHypothesis =>
    exact ⟨guided.1, fun answer told => inductionHypothesis answer (guided.2 answer told) implies⟩
  | iterate body state next bodyHypothesis inductionHypothesis =>
    intro state
    apply bodyHypothesis state (guided state)
    rintro (later | result)
    · exact id
    · exact fun rest => inductionHypothesis result rest implies

/-- Two programs are guided one after the other. -/
theorem Guided.bind {program : Program Op Answer α} {after : α → Program Op Answer β}
    {post : β → Prop}
    (guided : program.Guided given allowed fun value => (after value).Guided given allowed post) :
    (program.bind after).Guided given allowed post := by
  induction program with
  | done value => exact guided
  | perform op next inductionHypothesis =>
    exact ⟨guided.1, fun answer told => inductionHypothesis answer (guided.2 answer told)⟩
  | iterate body state next _ inductionHypothesis =>
    intro state
    apply (guided state).mono
    rintro (later | result)
    · exact id
    · exact inductionHypothesis result

/-- One operation that is allowed, whatever it is told. -/
theorem guided_ask {op : Op} {post : Answer op → Prop} (permitted : allowed op)
    (told : ∀ answer, given op answer → post answer) :
    (ask op : Program Op Answer _).Guided given allowed post :=
  ⟨permitted, told⟩

/-- A program that may perform nothing else anyway is guided by any answers. -/
theorem guided_only {program : Program Op Answer α} (only : program.Only allowed) :
    program.Guided given allowed fun _ => True := by
  induction program with
  | done value => trivial
  | perform op next inductionHypothesis =>
    exact ⟨only.1, fun answer _ => inductionHypothesis answer (only.2 answer)⟩
  | iterate body state next bodyHypothesis inductionHypothesis =>
    intro state
    apply (bodyHypothesis state (only.1 state)).mono
    rintro (later | result) _
    · trivial
    · exact inductionHypothesis result (only.2 result)

/-- A loop is guided if each of its turns is. -/
theorem guided_loop {body : σ → Program Op Answer (σ ⊕ α)}
    (each : ∀ state, (body state).Guided given allowed (Sum.elim (fun _ => True) post))
    (state : σ) : (loop body state).Guided given allowed post :=
  each

/-- The assertion holds of the value of a success. -/
def Succeeds (post : α → Prop) : Except ε α → Prop
  | .ok value => post value
  | .error _ => True

/-- Two attempts are guided one after the other, where a failure ends both. -/
theorem guided_attempt {first : ExceptT ε (Program Op Answer) α}
    {after : α → ExceptT ε (Program Op Answer) β} {post : β → Prop} (middle : α → Prop)
    (one : first.run.Guided given allowed (Succeeds middle))
    (two : ∀ value, middle value → (after value).run.Guided given allowed (Succeeds post)) :
    (first >>= after).run.Guided given allowed (Succeeds post) := by
  rw [run_attempt]
  apply Guided.bind
  apply one.mono
  intro result holds
  cases result with
  | ok value => exact two value holds
  | error error => trivial

/-- A program without failures is guided to a success. -/
theorem guided_lift {program : Program Op Answer α}
    (guided : program.Guided given allowed post) :
    (ExceptT.lift program : ExceptT ε (Program Op Answer) α).run.Guided given allowed
      (Succeeds post) :=
  guided.bind

/-- A program that may fail, and may perform nothing else anyway. -/
theorem guided_only_run {attempt : ExceptT ε (Program Op Answer) α}
    (only : attempt.run.Only allowed) :
    attempt.run.Guided given allowed (Succeeds fun _ => True) := by
  apply (guided_only only).mono
  intro result _
  cases result <;> trivial

/-- A part that may perform nothing else anyway, in front of the rest. -/
theorem guided_only_attempt {first : ExceptT ε (Program Op Answer) α}
    {after : α → ExceptT ε (Program Op Answer) β} {post : β → Prop}
    (only : first.run.Only allowed)
    (rest : ∀ value, (after value).run.Guided given allowed (Succeeds post)) :
    (first >>= after).run.Guided given allowed (Succeeds post) :=
  guided_attempt (fun _ => True) (guided_only_run only) fun value _ => rest value

/-- The assertion holds of the error of a failure. -/
def Fails (failed : ε → Prop) : Except ε α → Prop
  | .ok _ => True
  | .error error => failed error

/-- What is known of a failure may be weakened. -/
theorem Fails.mono {failed weaker : ε → Prop} {result : Except ε α}
    (implies : ∀ error, failed error → weaker error) (fails : Fails failed result) :
    Fails weaker result := by
  cases result with
  | ok value => trivial
  | error error => exact implies error fails

/-- Nothing is asserted of the errors of a program that may fail in any way. -/
theorem guided_forget {attempt : ExceptT ε (Program Op Answer) α} {post : Except ε α → Prop}
    (guided : attempt.run.Guided given allowed post) :
    attempt.run.Guided given allowed (Fails fun _ => True) := by
  apply guided.mono
  intro result _
  cases result <;> trivial

/-- Where each part fails in one way only, so does the whole. -/
theorem guided_attempt_fails {failed : ε → Prop} {first : ExceptT ε (Program Op Answer) α}
    {after : α → ExceptT ε (Program Op Answer) β}
    (one : first.run.Guided given allowed (Fails failed))
    (two : ∀ value, (after value).run.Guided given allowed (Fails failed)) :
    (first >>= after).run.Guided given allowed (Fails failed) := by
  rw [run_attempt]
  apply Guided.bind
  apply one.mono
  intro result holds
  cases result with
  | ok value => exact two value
  | error error => exact holds

/-- What cannot fail does not fail. -/
theorem guided_lift_fails {failed : ε → Prop} {program : Program Op Answer α}
    (guided : program.Guided given allowed fun _ => True) :
    (ExceptT.lift program : ExceptT ε (Program Op Answer) α).run.Guided given allowed
      (Fails failed) :=
  guided.bind

/-- An expanded program is guided if the method of each operation is, and gives its answer. -/
theorem guided_expand {method : (op : Op) → Program Low LowAnswer (Answer op)}
    {told : (op : Low) → LowAnswer op → Prop} {permitted : Low → Prop}
    (each : ∀ op, allowed op → (method op).Guided told permitted (given op))
    {program : Program Op Answer α} (guided : program.Guided given allowed post) :
    (program.expand method).Guided told permitted post := by
  induction program with
  | done value => exact guided
  | perform op next inductionHypothesis =>
    apply Guided.bind
    apply (each op guided.1).mono
    exact fun answer told => inductionHypothesis answer (guided.2 answer told)
  | iterate body state next bodyHypothesis inductionHypothesis =>
    intro state
    apply (bodyHypothesis state (guided state)).mono
    rintro (later | result)
    · exact id
    · exact inductionHypothesis result

end Guided

end Program

namespace Setting

variable {S : Setting World Thread Answer} {thread : Thread}

/-- A guided program keeps the invariant, if the invariant decides the answers. -/
theorem triple_guided {given : (op : Op) → Answer op → Prop} {allowed : Op → Prop}
    {program : Program Op Answer α} {pre : Snapshot World Thread Answer → Prop} {post : α → Prop}
    (stable : S.Stable thread pre)
    (keeps : ∀ op, allowed op → ∀ now answer later, pre now →
      S.Moves now ⟨thread, op, answer⟩ later → given op answer ∧ S.inv later ∧ pre later)
    (guided : program.Guided given allowed post) :
    S.Triple thread pre program fun value now => post value ∧ pre now := by
  induction program with
  | done value => exact triple_done ((stable_const _).and stable) fun _ holds => ⟨guided, holds⟩
  | perform op next inductionHypothesis =>
    intro now holds later others answer after moves
    obtain ⟨told, kept, established⟩ :=
      keeps op guided.1 later answer after (stable.others holds others) moves
    exact ⟨kept, inductionHypothesis answer (guided.2 answer told) after established⟩
  | iterate body state next bodyHypothesis inductionHypothesis =>
    intro now holds
    constructor
    · constructor
      · exact fun _ => stable
      · constructor
        · exact holds
        · intro state now holds
          apply (bodyHypothesis state (guided state) now holds).mono
          rintro (later | result) now ⟨rest, established⟩
          · exact established
          · exact inductionHypothesis result rest now established

end Setting

end Foundation
