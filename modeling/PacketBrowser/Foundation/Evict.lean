import Mathlib.Data.List.Perm.Basic

/-!
# Giving up items until enough has been gained

Items are offered in an order of preference, each with a size, and given up one after the
other until their sizes make up an excess. Some items are exempt. `evicted` is the loop,
`Evicts` says what it is for: the items given up are the first ones that are not exempt,
and no more of them than necessary.
-/

namespace Foundation

namespace Evict

variable {α : Type}

/-- The sizes of all items together. -/
def weight (size : α → Nat) : List α → Nat
  | [] => 0
  | item :: rest => size item + weight size rest

/-- Go through the items while there is an excess, and give up those not exempt. -/
def evicted (size : α → Nat) (exempt : α → Bool) : Int → List α → List α
  | _, [] => []
  | excess, item :: rest =>
    if excess ≤ 0 then []
    else if exempt item then evicted size exempt excess rest
    else item :: evicted size exempt (excess - size item) rest

/-- The items given up are the first ones not exempt, as few as make up the excess; if all
of them together do not, all are given up. -/
structure Evicts (size : α → Nat) (exempt : α → Bool) (excess : Int) (items given : List α) :
    Prop where
  first : given <+: items.filter fun item => !exempt item
  few : ∀ fewer, fewer <+: given → fewer ≠ given → weight size fewer < excess
  enough : excess ≤ weight size given ∨ given = items.filter fun item => !exempt item

variable {size : α → Nat} {exempt : α → Bool}

/-- The weights of two lists add up. -/
@[simp] theorem weight_append (left right : List α) :
    weight size (left ++ right) = weight size left + weight size right := by
  induction left with
  | nil => simp [weight]
  | cons item rest inductionHypothesis =>
    simp only [List.cons_append, weight, inductionHypothesis]
    omega

/-- The order does not matter. -/
theorem weight_perm {left right : List α} (same : left.Perm right) :
    weight size left = weight size right := by
  induction same with
  | nil => rfl
  | cons item _ inductionHypothesis => simp only [weight, inductionHypothesis]
  | swap one two rest =>
    simp only [weight]
    omega
  | trans _ _ first second => exact first.trans second

/-- The weight of the images, where each weighs as much as its item. -/
theorem weight_map {β : Type} (other : β → Nat) (image : α → β) (items : List α)
    (same : ∀ item ∈ items, size item = other (image item)) :
    weight other (items.map image) = weight size items := by
  induction items with
  | nil => rfl
  | cons item rest inductionHypothesis =>
    have here := same item (List.mem_cons_self ..)
    have behind := inductionHypothesis fun item member => same item (List.mem_cons_of_mem _ member)
    simp only [List.map_cons, weight, behind, here]

/-- Two sizes that agree on the items give the same weight. -/
theorem weight_congr (other : α → Nat) (items : List α)
    (same : ∀ item ∈ items, size item = other item) : weight other items = weight size items := by
  have mapped := weight_map other id items same
  rwa [List.map_id] at mapped

/-- What is kept and what is left out weigh as much as everything. -/
theorem weight_filter (keep : α → Bool) (items : List α) :
    weight size (items.filter keep) + weight size (items.filter fun item => !keep item) =
      weight size items := by
  induction items with
  | nil => rfl
  | cons item rest inductionHypothesis =>
    cases kept : keep item <;> simp only [List.filter_cons, kept, weight, Bool.not_true,
      Bool.not_false, if_true, Bool.false_eq_true, if_false] <;> omega

/-- The loop gives up what it is meant to. -/
theorem evicted_evicts (excess : Int) (items : List α) :
    Evicts size exempt excess items (evicted size exempt excess items) := by
  induction items generalizing excess with
  | nil =>
    constructor
    · exact List.nil_prefix
    · exact fun fewer shorter different => absurd (List.prefix_nil.mp shorter) different
    · exact Or.inr rfl
  | cons item rest inductionHypothesis =>
    unfold evicted
    split
    · rename_i none
      constructor
      · exact List.nil_prefix
      · exact fun fewer shorter different => absurd (List.prefix_nil.mp shorter) different
      · exact Or.inl (by simpa [weight] using none)
    · rename_i positive
      split
      · rename_i spared
        obtain ⟨first, few, enough⟩ := inductionHypothesis excess
        exact ⟨by simpa [spared] using first, few, by simpa [spared] using enough⟩
      · rename_i offered
        obtain ⟨first, few, enough⟩ := inductionHypothesis (excess - size item)
        have front : (item :: rest).filter (fun item => !exempt item) =
            item :: rest.filter fun item => !exempt item := by simp [offered]
        constructor
        · rw [front]
          exact (List.prefix_cons_inj item).mpr first
        · intro fewer shorter different
          cases fewer with
          | nil => simpa [weight] using positive
          | cons other fewer =>
            obtain ⟨rfl, behind⟩ := List.cons_prefix_cons.mp shorter
            have less := few fewer behind fun same => different (by rw [same])
            simp only [weight]
            omega
        · rw [front]
          refine enough.imp (fun gained => ?_) fun all => ?_
          · simp only [weight]
            omega
          · rw [all]

/-- The same with other names for the items. -/
theorem Evicts.map {β : Type} {other : β → Nat} {spared : β → Bool} {excess : Int}
    {items given : List α} (evicts : Evicts size exempt excess items given) {image : α → β}
    (sizes : ∀ item ∈ items, size item = other (image item))
    (exempts : ∀ item ∈ items, spared (image item) = exempt item) :
    Evicts other spared excess (items.map image) (given.map image) := by
  have kept : (items.map image).filter (fun item => !spared item) =
      (items.filter fun item => !exempt item).map image := by
    rw [List.filter_map]
    congr 1
    exact List.filter_congr fun item member => by simp [exempts item member]
  have weighs : ∀ part, part <+: given → weight other (part.map image) = weight size part := by
    intro part shorter
    apply weight_map
    intro item member
    exact sizes item (List.mem_of_mem_filter (evicts.first.subset (shorter.subset member)))
  constructor
  · rw [kept]
    exact evicts.first.map image
  · intro fewer shorter different
    have cut : fewer = (given.take fewer.length).map image := by
      rw [List.map_take]
      exact List.prefix_iff_eq_take.mp shorter
    have part : given.take fewer.length <+: given := List.take_prefix _ _
    rw [cut, weighs _ part]
    apply evicts.few _ part
    intro all
    rw [all] at cut
    exact different cut
  · rw [kept, weighs _ (List.prefix_refl _)]
    exact evicts.enough.imp_right (congrArg (List.map image))

/-- What is given up is offered and not exempt. -/
theorem Evicts.offered {excess : Int} {items given : List α}
    (evicts : Evicts size exempt excess items given) {item : α} (member : item ∈ given) :
    item ∈ items ∧ exempt item = false := by
  have offered := evicts.first.subset member
  simpa using offered

/-- What is left makes up no excess, unless it is all exempt. -/
theorem Evicts.rest {excess : Int} {items given : List α}
    (evicts : Evicts size exempt excess items given) :
    (weight size items : Int) - weight size given ≤
      max ((weight size items : Int) - excess) (weight size (items.filter exempt)) := by
  rcases evicts.enough with gained | all
  · omega
  · have split : weight size (items.filter exempt) +
        weight size (items.filter fun item => !exempt item) = weight size items :=
      weight_filter exempt items
    rw [all]
    omega

end Evict

end Foundation
