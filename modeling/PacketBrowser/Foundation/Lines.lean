import Mathlib.Data.List.Basic

/-!
# Lines of an unfinished text

A text that still grows consists of lines that are over, each ended by a terminator, and
of an unfinished one. Taking the first line off leaves the others and the unfinished one
as they were.
-/

namespace Foundation.Lines

variable {α : Type} (ends : α → Bool)

/-- The lines that are over. -/
def complete (text : List α) : List (List α) := (text.splitOnP ends).dropLast

/-- What has come of the next line. -/
def unfinished (text : List α) : List α := (text.splitOnP ends).getLastD []

/-- The first line and what is behind its terminator. -/
def first (text : List α) : Option (List α × List α) :=
  match text.findIdx? ends with
  | none => none
  | some offset => some (text.take offset, text.drop (offset + 1))

/-- What is in front of the last terminator and what is behind it. -/
def last (text : List α) : Option (List α × List α) :=
  (first ends text.reverse).map fun (after, before) => (before.reverse, after.reverse)

variable {ends}

/-- A terminator in front ends an empty piece. -/
theorem splitOnP_terminator {c : α} (ending : ends c = true) (rest : List α) :
    (c :: rest).splitOnP ends = [] :: rest.splitOnP ends := by
  rw [List.splitOnP_cons_eq_if_modifyHead, if_pos ending]

/-- A terminator in front ends an empty line. -/
theorem complete_terminator {c : α} (ending : ends c = true) (rest : List α) :
    complete ends (c :: rest) = [] :: complete ends rest := by
  unfold complete
  rw [splitOnP_terminator ending, List.dropLast_cons_of_ne_nil (List.splitOnP_ne_nil _ _)]

/-- What is unfinished does not depend on a terminator in front. -/
theorem unfinished_terminator {c : α} (ending : ends c = true) (rest : List α) :
    unfinished ends (c :: rest) = unfinished ends rest := by
  unfold unfinished
  rw [splitOnP_terminator ending]
  cases whole : rest.splitOnP ends with
  | nil => exact absurd whole (List.splitOnP_ne_nil _ _)
  | cons piece pieces => simp

/-- Where a line is found, no terminator is in it, and one is behind it. -/
theorem first_some {text line rest : List α} (found : first ends text = some (line, rest)) :
    ∃ c, ends c = true ∧ text = line ++ c :: rest ∧ ∀ other ∈ line, ends other = false := by
  unfold first at found
  split at found
  · exact absurd found (by simp)
  · rename_i offset index
    obtain ⟨rfl, rfl⟩ := Prod.mk.inj (Option.some.inj found)
    obtain ⟨inside, ending, before⟩ := List.findIdx?_eq_some_iff_getElem.mp index
    refine ⟨text[offset], ending, ?_, ?_⟩
    · rw [← List.drop_eq_getElem_cons inside, List.take_append_drop]
    · intro other member
      obtain ⟨index, inLine, rfl⟩ := List.getElem_of_mem member
      rw [List.length_take] at inLine
      rw [List.getElem_take]
      exact Bool.eq_false_iff.mpr (before index (by omega))

/-- Where a last terminator is found, none is behind it. -/
theorem last_some {text before after : List α} (found : last ends text = some (before, after)) :
    ∃ c, ends c = true ∧ text = before ++ c :: after ∧ ∀ other ∈ after, ends other = false := by
  unfold last at found
  obtain ⟨⟨line, rest⟩, reversed, same⟩ := Option.map_eq_some_iff.mp found
  obtain ⟨rfl, rfl⟩ := Prod.mk.inj same
  obtain ⟨c, ending, split, within⟩ := first_some reversed
  refine ⟨c, ending, ?_, fun other member => within other (List.mem_reverse.mp member)⟩
  rw [← List.reverse_inj, split]
  simp

/-- A terminator behind a line without one ends it. -/
theorem first_append {line : List α} (within : ∀ other ∈ line, ends other = false) {c : α}
    (ending : ends c = true) (rest : List α) : first ends (line ++ c :: rest) = some (line, rest) := by
  have nothing : line.findIdx? ends = none := List.findIdx?_eq_none_iff.mpr within
  have found : (line ++ c :: rest).findIdx? ends = some line.length := by
    simp [List.findIdx?_append, nothing, List.findIdx?_cons, ending]
  unfold first
  rw [found]
  simp

/-- The last terminator is found behind what ends in any way. -/
theorem last_append (before : List α) {c : α} (ending : ends c = true) {after : List α}
    (within : ∀ other ∈ after, ends other = false) :
    last ends (before ++ c :: after) = some (before, after) := by
  have reversed : (before ++ c :: after).reverse = after.reverse ++ c :: before.reverse := by simp
  unfold last
  rw [reversed, first_append (fun other member => within other (List.mem_reverse.mp member)) ending]
  simp

/-- The first line is the first of the lines that are over. -/
theorem complete_first {text line rest : List α} (found : first ends text = some (line, rest)) :
    complete ends text = line :: complete ends rest := by
  obtain ⟨c, ending, rfl, within⟩ := first_some found
  unfold complete
  rw [List.splitOnP_append_cons_of_forall_mem within c ending,
    List.dropLast_cons_of_ne_nil (List.splitOnP_ne_nil _ _)]

/-- What is unfinished is so behind the first line as well. -/
theorem unfinished_first {text line rest : List α} (found : first ends text = some (line, rest)) :
    unfinished ends text = unfinished ends rest := by
  obtain ⟨c, ending, rfl, within⟩ := first_some found
  unfold unfinished
  rw [List.splitOnP_append_cons_of_forall_mem within c ending]
  cases whole : rest.splitOnP ends with
  | nil => exact absurd whole (List.splitOnP_ne_nil _ _)
  | cons piece pieces => simp

/-- Where no line is found, there is no terminator. -/
theorem first_none {text : List α} (nothing : first ends text = none) :
    ∀ other ∈ text, ends other = false := by
  unfold first at nothing
  split at nothing
  · rename_i index
    exact List.findIdx?_eq_none_iff.mp index
  · exact absurd nothing (by simp)

/-- Without a last terminator there is none. -/
theorem last_none {text : List α} (nothing : last ends text = none) :
    ∀ other ∈ text, ends other = false := by
  intro other member
  apply first_none (Option.map_eq_none_iff.mp nothing)
  exact List.mem_reverse.mpr member

/-- Without a terminator there is no last one. -/
theorem last_absent {text : List α} (within : ∀ other ∈ text, ends other = false) :
    last ends text = none := by
  cases found : last ends text with
  | none => rfl
  | some split =>
    obtain ⟨c, ending, rfl, _⟩ := last_some found
    exact absurd ending (by simp [within c (by simp)])

/-- Without a terminator nothing is over. -/
theorem of_first_none {text : List α} (nothing : first ends text = none) :
    complete ends text = [] ∧ unfinished ends text = text := by
  unfold complete unfinished
  rw [List.splitOnP_eq_singleton (first_none nothing)]
  exact ⟨rfl, rfl⟩

/-- A line that is taken off makes the text shorter. -/
theorem first_shorter {text line rest : List α} (found : first ends text = some (line, rest)) :
    rest.length < text.length := by
  obtain ⟨c, _, rfl, _⟩ := first_some found
  rw [List.length_append, List.length_cons]
  omega

end Foundation.Lines
