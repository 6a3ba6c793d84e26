import Mathlib.Data.List.Infix

/-!
# Searching a sequence for a fixed pattern

`position` is the offset of the first window equal to the pattern. It is stable:
once a pattern is found, more elements at the end cannot move it. An unbordered
pattern (no proper prefix of it is also a suffix) is found exactly where it was
placed behind a part that does not contain it, whatever follows.

The element type is arbitrary. Nothing here refers to bytes or to a protocol.
-/

namespace Foundation.Search

variable {α : Type*} [DecidableEq α]

/-- Offset of the first window of the sequence that equals the pattern. -/
def position (pattern : List α) : List α → Option Nat
  | [] => if pattern = [] then some 0 else none
  | first :: rest =>
      if pattern <+: first :: rest then some 0 else (position pattern rest).map (· + 1)

/-- Some window of the sequence equals the pattern. -/
def occurs (pattern sequence : List α) : Bool := (position pattern sequence).isSome

/-- No proper nonempty suffix of the pattern is also a prefix of it. -/
def Unbordered (pattern : List α) : Prop :=
  ∀ cut, 0 < cut → cut < pattern.length → ¬ pattern.drop cut <+: pattern

instance (pattern : List α) : Decidable (Unbordered pattern) :=
  decidable_of_iff (∀ cut < pattern.length, 0 < cut → ¬ pattern.drop cut <+: pattern)
    ⟨fun every cut positive inside => every cut inside positive,
      fun every cut inside positive => every cut positive inside⟩

/-- A pattern is found in front, or further on. -/
theorem position_cons (pattern : List α) (first : α) (rest : List α) :
    position pattern (first :: rest) =
      if pattern <+: first :: rest then some 0 else (position pattern rest).map (· + 1) := rfl

/-- A reported offset is a window equal to the pattern. -/
theorem position_window (pattern sequence : List α) (offset : Nat)
    (found : position pattern sequence = some offset) :
    pattern <+: sequence.drop offset ∧ offset + pattern.length ≤ sequence.length := by
  induction sequence generalizing offset with
  | nil =>
    by_cases empty : pattern = []
    · simp only [position, empty, if_true, Option.some.injEq] at found
      subst found
      simp [empty]
    · simp [position, empty] at found
  | cons first rest inductionHypothesis =>
    by_cases here : pattern <+: first :: rest
    · simp only [position_cons, here, if_true, Option.some.injEq] at found
      subst found
      exact ⟨here, by simpa using here.length_le⟩
    · simp only [position_cons, here, if_false, Option.map_eq_some_iff] at found
      obtain ⟨previous, later, rfl⟩ := found
      obtain ⟨window, inside⟩ := inductionHypothesis previous later
      exact ⟨by simpa using window, by simp only [List.length_cons]; omega⟩

/-- The search fails exactly when the pattern is not an infix. -/
theorem position_none_iff (pattern sequence : List α) :
    position pattern sequence = none ↔ ¬ pattern <:+: sequence := by
  induction sequence with
  | nil => by_cases empty : pattern = [] <;> simp [position, empty]
  | cons first rest inductionHypothesis =>
    by_cases here : pattern <+: first :: rest
    · simp [position_cons, here, here.isInfix]
    · simp [position_cons, here, inductionHypothesis, List.infix_cons_iff]

/-- `occurs` decides the infix relation. -/
theorem occurs_iff (pattern sequence : List α) :
    occurs pattern sequence = true ↔ pattern <:+: sequence := by
  rw [occurs, Option.isSome_iff_ne_none, ne_eq, position_none_iff, not_not]

/-- A pattern that is not found does not occur. -/
theorem occurs_false_iff (pattern sequence : List α) :
    occurs pattern sequence = false ↔ ¬ pattern <:+: sequence := by
  rw [← occurs_iff, Bool.not_eq_true]

/-- More elements at the end do not move a found pattern. A window of the longer
sequence at an earlier offset would already fit inside the shorter one. -/
theorem position_append (pattern sequence more : List α) (offset : Nat)
    (found : position pattern sequence = some offset) :
    position pattern (sequence ++ more) = some offset := by
  induction sequence generalizing offset with
  | nil =>
    by_cases empty : pattern = []
    · simp only [position, empty, if_true, Option.some.injEq] at found
      subst found
      cases more <;> simp [position, empty]
    · simp [position, empty] at found
  | cons first rest inductionHypothesis =>
    have fits : pattern.length ≤ (first :: rest).length := by
      have inside := (position_window pattern _ offset found).2
      omega
    by_cases here : pattern <+: first :: rest
    · have extended : pattern <+: (first :: rest) ++ more := here.trans (List.prefix_append _ _)
      simp only [position_cons, here, if_true] at found
      rw [List.cons_append] at extended ⊢
      rw [position_cons, if_pos extended, found]
    · have absent : ¬ pattern <+: (first :: rest) ++ more := fun window =>
        here (List.prefix_of_prefix_length_le window (List.prefix_append _ _) fits)
      simp only [position_cons, here, if_false, Option.map_eq_some_iff] at found
      obtain ⟨previous, later, rfl⟩ := found
      rw [List.cons_append] at absent
      simp [position_cons, absent, inductionHypothesis previous later]

/-- An unbordered pattern placed behind a part that does not contain it is first
found exactly there: an earlier window would overlap its placement. -/
theorem position_placed (pattern before after : List α) (nonempty : pattern ≠ [])
    (unbordered : Unbordered pattern) (absent : ¬ pattern <:+: before) :
    position pattern (before ++ (pattern ++ after)) = some before.length := by
  induction before with
  | nil =>
    cases pattern with
    | nil => exact absurd rfl nonempty
    | cons first rest => simp [position]
  | cons first rest inductionHypothesis =>
    have laterAbsent : ¬ pattern <:+: rest := fun inner => absent (List.infix_cons inner)
    have notHere : ¬ pattern <+: first :: (rest ++ (pattern ++ after)) := by
      intro window
      have whole : pattern <+: (first :: rest) ++ (pattern ++ after) := by simpa using window
      have front : first :: rest <+: (first :: rest) ++ (pattern ++ after) := List.prefix_append _ _
      have short : (first :: rest).length < pattern.length := by
        by_contra long
        exact absent (List.prefix_of_prefix_length_le whole front (by omega)).isInfix
      obtain ⟨tail, split⟩ : first :: rest <+: pattern :=
        List.prefix_of_prefix_length_le front whole (by omega)
      have overlap : pattern.drop (first :: rest).length <+: pattern := by
        have suffix : pattern.drop (first :: rest).length = tail := by
          rw [← split, List.drop_left]
        have behind : tail <+: pattern ++ after := by
          have shifted : (first :: rest) ++ tail <+: (first :: rest) ++ (pattern ++ after) := by
            rw [split]
            simpa using window
          exact (List.prefix_append_right_inj _).mp shifted
        rw [suffix]
        refine List.prefix_of_prefix_length_le behind (List.prefix_append _ _) ?_
        rw [← split, List.length_append]
        omega
      exact unbordered _ (by simp) short overlap
    simp [List.cons_append, position_cons, notHere, inductionHypothesis laterAbsent]

/-- A placed pattern is found there at the latest. -/
theorem position_le (pattern before after : List α) (nonempty : pattern ≠ []) :
    ∃ offset ≤ before.length, position pattern (before ++ (pattern ++ after)) = some offset := by
  induction before with
  | nil =>
    cases pattern with
    | nil => exact absurd rfl nonempty
    | cons first rest => exact ⟨0, Nat.le_refl _, by simp [position]⟩
  | cons first rest inductionHypothesis =>
    obtain ⟨offset, early, found⟩ := inductionHypothesis
    rw [List.cons_append, position_cons]
    split
    · exact ⟨0, Nat.zero_le _, rfl⟩
    · exact ⟨offset + 1, Nat.succ_le_succ early, by rw [found]; rfl⟩

/-- A placed pattern is found exactly there if no window before it, which may overlap
all but its last element, equals it. -/
theorem position_placed_iff (pattern before after : List α) (nonempty : pattern ≠ []) :
    position pattern (before ++ (pattern ++ after)) = some before.length ↔
      ¬ pattern <:+: before ++ pattern.dropLast := by
  have positive := List.length_pos_of_ne_nil nonempty
  have whole : before ++ (pattern ++ after) =
      (before ++ pattern.dropLast) ++ (pattern.getLast nonempty :: after) := by
    conv => lhs; rw [← List.dropLast_concat_getLast nonempty]
    simp
  constructor
  · intro found inside
    cases early : position pattern (before ++ pattern.dropLast) with
    | none => exact (position_none_iff _ _).mp early inside
    | some offset =>
      have bound := (position_window _ _ _ early).2
      have moved := position_append pattern _ (pattern.getLast nonempty :: after) offset early
      rw [← whole, found] at moved
      have same := Option.some.inj moved
      rw [List.length_append, List.length_dropLast] at bound
      omega
  · intro absent
    obtain ⟨offset, early, found⟩ := position_le pattern before after nonempty
    have window := (position_window _ _ _ found).1
    by_cases there : offset = before.length
    · rw [found, there]
    · refine absurd ?_ absent
      have fits : offset + pattern.length ≤ (before ++ pattern.dropLast).length := by
        rw [List.length_append, List.length_dropLast]
        omega
      rw [whole, List.drop_append_of_le_length (by omega)] at window
      have shorter : pattern <+: (before ++ pattern.dropLast).drop offset := by
        refine List.prefix_of_prefix_length_le window (List.prefix_append _ _) ?_
        rw [List.length_drop]
        omega
      exact shorter.isInfix.trans (List.drop_suffix _ _).isInfix

/-- The parts before and behind the first window that equals the pattern. -/
def splitOnce (pattern sequence : List α) : Option (List α × List α) :=
  (position pattern sequence).map fun offset =>
    (sequence.take offset, sequence.drop (offset + pattern.length))

/-- A text is not split exactly if the pattern does not occur. -/
theorem splitOnce_none_iff (pattern sequence : List α) :
    splitOnce pattern sequence = none ↔ ¬ pattern <:+: sequence := by
  rw [splitOnce, Option.map_eq_none_iff, position_none_iff]

/-- What is split off makes up the sequence. -/
theorem splitOnce_some (pattern sequence before after : List α)
    (split : splitOnce pattern sequence = some (before, after)) :
    sequence = before ++ (pattern ++ after) ∧
      position pattern sequence = some before.length := by
  obtain ⟨offset, found, parts⟩ := Option.map_eq_some_iff.mp split
  obtain ⟨rfl, rfl⟩ := Prod.mk.inj parts
  obtain ⟨⟨rest, window⟩, fits⟩ := position_window _ _ _ found
  have length : (sequence.take offset).length = offset := by
    rw [List.length_take]
    omega
  refine ⟨?_, by rw [length, found]⟩
  have behind : rest = sequence.drop (offset + pattern.length) := by
    rw [← List.drop_drop, ← window, List.drop_left]
  rw [← behind, window, List.take_append_drop]

/-- A placed pattern is where the sequence is split, unless it occurs before. -/
theorem splitOnce_placed_iff (pattern before after : List α) (nonempty : pattern ≠ []) :
    splitOnce pattern (before ++ (pattern ++ after)) = some (before, after) ↔
      ¬ pattern <:+: before ++ pattern.dropLast := by
  rw [← position_placed_iff pattern before after nonempty]
  constructor
  · exact fun split => (splitOnce_some _ _ _ _ split).2
  · intro found
    have front : (before ++ (pattern ++ after)).take before.length = before := List.take_left
    have back : (before ++ (pattern ++ after)).drop (before.length + pattern.length) = after := by
      rw [← List.drop_drop, List.drop_left, List.drop_left]
    rw [splitOnce, found, Option.map_some, front, back]

/-- A terminator is found behind what does not contain it. -/
theorem findIdx_split (terminator : α) (front back : List α) (fresh : terminator ∉ front) :
    (front ++ terminator :: back).findIdx? (· == terminator) = some front.length := by
  induction front with
  | nil => simp [List.findIdx?_cons]
  | cons first rest inductionHypothesis =>
    have different : (first == terminator) = false := by
      apply beq_false_of_ne
      rintro rfl
      exact fresh List.mem_cons_self
    have later := inductionHypothesis fun member => fresh (List.mem_cons_of_mem _ member)
    rw [List.cons_append, List.findIdx?_cons, different, later]
    rfl

omit [DecidableEq α] in
/-- The first occurrence of an element splits a sequence in one way. -/
theorem split_unique {element : α} {front front' back back' : List α} (fresh : element ∉ front)
    (fresh' : element ∉ front') (same : front ++ element :: back = front' ++ element :: back') :
    front = front' ∧ back = back' := by
  induction front generalizing front' with
  | nil =>
    cases front' with
    | nil => exact ⟨rfl, (List.cons.inj same).2⟩
    | cons first rest =>
      obtain ⟨rfl, _⟩ := List.cons.inj same
      exact absurd List.mem_cons_self fresh'
  | cons first rest inductionHypothesis =>
    cases front' with
    | nil =>
      obtain ⟨rfl, _⟩ := List.cons.inj same
      exact absurd List.mem_cons_self fresh
    | cons first' rest' =>
      obtain ⟨rfl, tails⟩ := List.cons.inj same
      obtain ⟨rfl, backs⟩ := inductionHypothesis (fun member => fresh (List.mem_cons_of_mem _ member))
        (fun member => fresh' (List.mem_cons_of_mem _ member)) tails
      exact ⟨rfl, backs⟩

omit [DecidableEq α] in
/-- A pattern occurs across a cut only on one side or straddling it. -/
theorem occurs_append_false (pattern left right : List α)
    (leftAbsent : ¬ pattern <:+: left) (rightAbsent : ¬ pattern <:+: right)
    (straddle : ∀ cut, 0 < cut → cut < pattern.length → ¬ pattern.drop cut <+: right) :
    ¬ pattern <:+: left ++ right := by
  intro inside
  rcases List.infix_append_iff.mp inside with onLeft | onRight | ⟨head, tail, split, _, begins⟩
  · exact leftAbsent onLeft
  · exact rightAbsent onRight
  · by_cases headEmpty : head = []
    · subst headEmpty
      exact rightAbsent (split ▸ begins.isInfix)
    · by_cases tailEmpty : tail = []
      · subst tailEmpty
        rw [List.append_nil] at split
        subst split
        rename_i ends
        exact leftAbsent ends.isInfix
      · have positive : 0 < head.length := List.length_pos_of_ne_nil headEmpty
        have proper : head.length < pattern.length := by
          have tailPositive := List.length_pos_of_ne_nil tailEmpty
          rw [split, List.length_append]
          omega
        apply straddle head.length positive proper
        rwa [split, List.drop_left]

end Foundation.Search
