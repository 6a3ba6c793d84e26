import Mathlib.Data.List.Nodup
import Mathlib.Data.List.Basic

/-!
# Trees that are edited node by node

A forest is a list of trees, each sibling with its children. Leaves have a content, nodes
have a label and an identity by which they are found again after the forest has changed.

A list of nodes that is selected once may be gone through by a loop that edits one node at
a time: it gives the node another label, or puts leaves in the place of the whole tree. If
no two nodes share their identity, such a loop does what one pass over the forest does, also
where a node of the list has meanwhile gone together with one that was edited before.
-/

namespace Foundation

/-- Siblings in their order, each with its children. -/
inductive Forest (Leaf Label : Type) where
  | nil
  | leaf (content : Leaf) (rest : Forest Leaf Label)
  | node (id : Nat) (label : Label) (children rest : Forest Leaf Label)
  deriving DecidableEq

/-- What becomes of a node. -/
inductive Change (Leaf Label : Type) where
  | keep (label : Label)
  /-- The tree gives way to leaves. -/
  | become (contents : List Leaf)
  deriving DecidableEq

/-- A change behind a change. -/
def Change.andThen {Leaf Label : Type} (next : Label → Change Leaf Label) :
    Change Leaf Label → Change Leaf Label
  | .keep label => next label
  | .become contents => .become contents

/-- The change of the labels of some kind. -/
def Change.only {Leaf Label : Type} (selects : Label → Bool) (change : Label → Change Leaf Label)
    (label : Label) : Change Leaf Label :=
  if selects label then change label else .keep label

namespace Forest

variable {Leaf Label : Type}

section Editing

/-- The identities of the nodes, a parent's in front of its children's. -/
def ids : Forest Leaf Label → List Nat
  | .nil => []
  | .leaf _ rest => rest.ids
  | .node id _ children rest => id :: (children.ids ++ rest.ids)

/-- The nodes with a label of some kind. -/
def select (selects : Label → Bool) : Forest Leaf Label → List Nat
  | .nil => []
  | .leaf _ rest => rest.select selects
  | .node id label children rest =>
    (if selects label then [id] else []) ++ (children.select selects ++ rest.select selects)

/-- Leaves in front of what follows. -/
def leaves (contents : List Leaf) (rest : Forest Leaf Label) : Forest Leaf Label :=
  contents.foldr .leaf rest

/-- One forest behind another. -/
def append : Forest Leaf Label → Forest Leaf Label → Forest Leaf Label
  | .nil, last => last
  | .leaf content rest, last => .leaf content (rest.append last)
  | .node id label children rest, last => .node id label children (rest.append last)

/-- The first tree among the siblings. -/
def first : Forest Leaf Label → Option (Nat × Label × Forest Leaf Label)
  | .nil => none
  | .leaf _ rest => rest.first
  | .node id label children _ => some (id, label, children)

/-- The first sibling with a label of some kind. -/
def sibling (selects : Label → Bool) : Forest Leaf Label → Option Nat
  | .nil => none
  | .leaf _ rest => rest.sibling selects
  | .node id label _ rest => if selects label then some id else rest.sibling selects

/-- What is put in the place of a tree. -/
def place (id : Nat) (children rest : Forest Leaf Label) :
    Change Leaf Label → Forest Leaf Label
  | .keep label => .node id label children rest
  | .become contents => leaves contents rest

/-- One node is edited, if it is still there. -/
def editAt (id : Nat) (change : Label → Change Leaf Label) :
    Forest Leaf Label → Forest Leaf Label
  | .nil => .nil
  | .leaf content rest => .leaf content (rest.editAt id change)
  | .node other label children rest =>
    if other = id then place other children rest (change label)
    else .node other label (children.editAt id change) (rest.editAt id change)

/-- Last children are given to a node, if it is still there. -/
def appendAt : Forest Leaf Label → Nat → Forest Leaf Label → Forest Leaf Label
  | .nil, _, _ => .nil
  | .leaf content rest, id, last => .leaf content (rest.appendAt id last)
  | .node other label children rest, id, last =>
    if other = id then .node other label (children.append last) rest
    else .node other label (children.appendAt id last) (rest.appendAt id last)

/-- All nodes are edited in one pass. -/
def sweep (change : Label → Change Leaf Label) : Forest Leaf Label → Forest Leaf Label
  | .nil => .nil
  | .leaf content rest => .leaf content (rest.sweep change)
  | .node id label children rest =>
    place id (children.sweep change) (rest.sweep change) (change label)

/-- Every label is of some kind. -/
def All (holds : Label → Prop) : Forest Leaf Label → Prop
  | .nil => True
  | .leaf _ rest => rest.All holds
  | .node _ label children rest => holds label ∧ children.All holds ∧ rest.All holds

/-- An identity that no node has. -/
def fresh (forest : Forest Leaf Label) : Nat := forest.ids.foldr max 0 + 1

end Editing

section Identities

variable (forest last : Forest Leaf Label) (change : Label → Change Leaf Label)

/-- Leaves have no identities. -/
@[simp] theorem ids_leaves (contents : List Leaf) : (leaves contents forest).ids = forest.ids := by
  induction contents with
  | nil => rfl
  | cons content contents inductionHypothesis => exact inductionHypothesis

/-- The nodes of two forests, one behind the other. -/
@[simp] theorem ids_append : (forest.append last).ids = forest.ids ++ last.ids := by
  induction forest with
  | nil => rfl
  | leaf content rest inductionHypothesis => exact inductionHypothesis
  | node id label children rest _ inductionHypothesis =>
    rw [append, ids, ids, inductionHypothesis, List.cons_append, List.append_assoc]

/-- The selected nodes are nodes of the forest, in their order. -/
theorem select_sublist (selects : Label → Bool) :
    (forest.select selects).Sublist forest.ids := by
  induction forest with
  | nil => exact List.Sublist.refl _
  | leaf content rest inductionHypothesis => exact inductionHypothesis
  | node id label children rest below beside =>
    rw [select, ids]
    cases selects label with
    | false => exact (below.append beside).cons id
    | true => exact (below.append beside).cons_cons id

/-- What takes the place of a node has no nodes but this one's. -/
theorem ids_place (id : Nat) (children : Forest Leaf Label) (changed : Change Leaf Label) :
    (place id children forest changed).ids.Sublist (id :: (children.ids ++ forest.ids)) := by
  cases changed with
  | keep label => exact List.Sublist.refl _
  | become contents =>
    rw [place, ids_leaves]
    exact (List.sublist_append_right children.ids forest.ids).cons id

/-- An edit at a node brings no new nodes. -/
theorem ids_editAt (id : Nat) : (forest.editAt id change).ids.Sublist forest.ids := by
  induction forest with
  | nil => exact List.Sublist.refl _
  | leaf content rest inductionHypothesis => exact inductionHypothesis
  | node other label children rest below beside =>
    rw [editAt]
    by_cases same : other = id
    · rw [if_pos same]
      exact ids_place rest other children (change label)
    · rw [if_neg same]
      exact (below.append beside).cons_cons other

/-- A pass brings no new nodes. -/
theorem ids_sweep : (forest.sweep change).ids.Sublist forest.ids := by
  induction forest with
  | nil => exact List.Sublist.refl _
  | leaf content rest inductionHypothesis => exact inductionHypothesis
  | node id label children rest below beside =>
    exact (ids_place _ id _ (change label)).trans ((below.append beside).cons_cons id)

/-- Nothing is put behind the children of a node that is not there. -/
theorem appendAt_missing {id : Nat} (missing : id ∉ forest.ids) :
    forest.appendAt id last = forest := by
  induction forest with
  | nil => rfl
  | leaf content rest inductionHypothesis =>
    rw [appendAt, inductionHypothesis missing]
  | node other label children rest below beside =>
    simp only [ids, List.mem_cons, List.mem_append, not_or] at missing
    obtain ⟨different, above, behind⟩ := missing
    rw [appendAt, if_neg (Ne.symm different), below above, beside behind]

/-- What is put behind the children of a node brings its own nodes and no others. -/
theorem ids_appendAt {id : Nat} (distinct : forest.ids.Nodup) (member : id ∈ forest.ids) :
    (forest.appendAt id last).ids.Perm (forest.ids ++ last.ids) := by
  induction forest with
  | nil => exact absurd member List.not_mem_nil
  | leaf content rest inductionHypothesis => exact inductionHypothesis distinct member
  | node other label children rest below beside =>
    simp only [ids, List.nodup_cons, List.mem_append, not_or] at distinct
    obtain ⟨⟨above, behind⟩, apart⟩ := distinct
    rw [appendAt]
    by_cases same : other = id
    · rw [if_pos same]
      simp only [ids, ids_append, List.cons_append, List.append_assoc]
      exact ((List.perm_append_comm.append_left children.ids).cons other)
    · rw [if_neg same]
      have below' := fun inside => below apart.of_append_left inside
      have beside' := fun inside => beside apart.of_append_right inside
      rcases List.mem_append.mp ((List.mem_cons.mp member).resolve_left (Ne.symm same)) with
        inside | inside
      · have missing : id ∉ rest.ids := fun too => List.disjoint_of_nodup_append apart inside too
        rw [appendAt_missing rest last missing]
        simp only [ids, List.cons_append, List.append_assoc]
        refine (((below' inside).append_right rest.ids).trans ?_).cons other
        rw [List.append_assoc]
        exact List.perm_append_comm.append_left children.ids
      · have missing : id ∉ children.ids :=
          fun too => List.disjoint_of_nodup_append apart too inside
        rw [appendAt_missing children last missing]
        simp only [ids, List.cons_append, List.append_assoc]
        exact ((beside' inside).append_left children.ids).cons other

/-- The identities stay distinct where nodes with other identities are added. -/
theorem nodup_appendAt (id : Nat) (distinct : forest.ids.Nodup)
    (others : (forest.ids ++ last.ids).Nodup) : (forest.appendAt id last).ids.Nodup := by
  by_cases member : id ∈ forest.ids
  · exact (ids_appendAt forest last distinct member).nodup_iff.mpr others
  · rw [appendAt_missing forest last member]
    exact distinct

/-- A fresh identity is no node's. -/
theorem fresh_unused : forest.fresh ∉ forest.ids := by
  have bounded : ∀ {ids : List Nat} {id : Nat}, id ∈ ids → id ≤ ids.foldr max 0 := by
    intro ids id member
    induction ids with
    | nil => exact absurd member List.not_mem_nil
    | cons other ids inductionHypothesis =>
      rw [List.foldr_cons]
      rcases List.mem_cons.mp member with rfl | inside
      · exact Nat.le_max_left _ _
      · exact Nat.le_trans (inductionHypothesis inside) (Nat.le_max_right _ _)
  intro member
  have least := bounded member
  rw [fresh] at least
  omega

end Identities

section Passes

variable {change next : Label → Change Leaf Label} {forest last : Forest Leaf Label}
variable {holds : Label → Prop}

/-- A pass leaves leaves as they are. -/
@[simp] theorem sweep_leaves (contents : List Leaf) (rest : Forest Leaf Label) :
    (leaves contents rest).sweep change = leaves contents (rest.sweep change) := by
  induction contents with
  | nil => rfl
  | cons content contents inductionHypothesis =>
    exact congrArg (Forest.leaf content) inductionHypothesis

/-- Nothing behind a forest adds nothing. -/
@[simp] theorem append_nil : forest.append .nil = forest := by
  induction forest with
  | nil => rfl
  | leaf content rest inductionHypothesis => rw [append, inductionHypothesis]
  | node id label children rest _ inductionHypothesis => rw [append, inductionHypothesis]

/-- Two changes that agree make the same pass. -/
theorem sweep_congr (same : ∀ label, change label = next label) :
    forest.sweep change = forest.sweep next := by
  rw [funext same]

/-- A pass that keeps everything. -/
@[simp] theorem sweep_keep : forest.sweep (.keep : Label → Change Leaf Label) = forest := by
  induction forest with
  | nil => rfl
  | leaf content rest inductionHypothesis => rw [sweep, inductionHypothesis]
  | node id label children rest below beside => rw [sweep, below, beside, place]

/-- Two passes are one. -/
theorem sweep_sweep :
    (forest.sweep change).sweep next = forest.sweep fun label => (change label).andThen next := by
  induction forest with
  | nil => rfl
  | leaf content rest inductionHypothesis =>
    exact congrArg (Forest.leaf content) inductionHypothesis
  | node id label children rest below beside =>
    rw [sweep, sweep]
    cases change label with
    | keep label => rw [place, sweep, below, beside, Change.andThen]
    | become contents => rw [place, sweep_leaves, beside, Change.andThen, place]

end Passes

section Loops

variable {change : Label → Change Leaf Label} {forest : Forest Leaf Label}

/-- Going through a list of nodes and editing them one by one. -/
def editEach (change : Label → Change Leaf Label) (nodes : List Nat)
    (forest : Forest Leaf Label) : Forest Leaf Label :=
  nodes.foldl (fun forest id => forest.editAt id change) forest

/-- An edit at a node that is not there changes nothing. -/
theorem editAt_missing {id : Nat} (missing : id ∉ forest.ids) :
    forest.editAt id change = forest := by
  induction forest with
  | nil => rfl
  | leaf content rest inductionHypothesis => rw [editAt, inductionHypothesis missing]
  | node other label children rest below beside =>
    simp only [ids, List.mem_cons, List.mem_append, not_or] at missing
    obtain ⟨different, above, behind⟩ := missing
    rw [editAt, if_neg (Ne.symm different), below above, beside behind]

/-- Nodes that are gone are passed over. -/
theorem editEach_missing {nodes : List Nat} (missing : ∀ id ∈ nodes, id ∉ forest.ids) :
    forest.editEach change nodes = forest := by
  induction nodes with
  | nil => rfl
  | cons id nodes inductionHypothesis =>
    obtain ⟨here, others⟩ := List.forall_mem_cons.mp missing
    rw [editEach, List.foldl_cons, editAt_missing here]
    exact inductionHypothesis others

/-- A loop over two lists is a loop over one and then over the other. -/
theorem editEach_append (front back : List Nat) :
    forest.editEach change (front ++ back) = (forest.editEach change front).editEach change back :=
  List.foldl_append

/-- A loop leaves a leaf where it is. -/
theorem editEach_leaf (nodes : List Nat) (content : Leaf) :
    (Forest.leaf content forest).editEach change nodes =
      .leaf content (forest.editEach change nodes) := by
  induction nodes generalizing forest with
  | nil => rfl
  | cons id nodes inductionHypothesis => exact inductionHypothesis

/-- A loop leaves leaves where they are. -/
theorem editEach_leaves (nodes : List Nat) (contents : List Leaf) :
    (leaves contents forest).editEach change nodes =
      leaves contents (forest.editEach change nodes) := by
  induction contents with
  | nil => rfl
  | cons content contents inductionHypothesis =>
    exact (editEach_leaf nodes content).trans (congrArg (Forest.leaf content) inductionHypothesis)

/-- A node that is not in the list is kept, and the loop goes on within it and behind it. -/
theorem editEach_node {nodes : List Nat} {id : Nat} (other : id ∉ nodes) (label : Label)
    (children rest : Forest Leaf Label) :
    (Forest.node id label children rest).editEach change nodes =
      .node id label (children.editEach change nodes) (rest.editEach change nodes) := by
  induction nodes generalizing children rest with
  | nil => rfl
  | cons first nodes inductionHypothesis =>
    obtain ⟨different, others⟩ := not_or.mp (List.mem_cons.not.mp other)
    rw [editEach, List.foldl_cons, editAt, if_neg different]
    exact inductionHypothesis others _ _

/-- A loop over the nodes of some kind, which were selected before it began, does what one
pass does. -/
theorem editEach_select (selects : Label → Bool) (distinct : forest.ids.Nodup) :
    forest.editEach change (forest.select selects) = forest.sweep (Change.only selects change) := by
  induction forest with
  | nil => rfl
  | leaf content rest inductionHypothesis =>
    rw [select, editEach_leaf, inductionHypothesis distinct, sweep]
  | node id label children rest below beside =>
    simp only [ids, List.nodup_cons, List.mem_append, not_or] at distinct
    obtain ⟨⟨notBelow, notBeside⟩, apart⟩ := distinct
    have inChildren {node : Nat} (member : node ∈ children.select selects) :
        node ∈ children.ids :=
      (children.select_sublist selects).subset member
    have inRest {node : Nat} (member : node ∈ rest.select selects) : node ∈ rest.ids :=
      (rest.select_sublist selects).subset member
    have other : id ∉ children.select selects ++ rest.select selects := by
      intro member
      rcases List.mem_append.mp member with inside | inside
      · exact notBelow (inChildren inside)
      · exact notBeside (inRest inside)
    -- What was selected below does not touch the siblings, and the other way round.
    have within : children.editEach change (children.select selects ++ rest.select selects) =
        children.sweep (Change.only selects change) := by
      rw [editEach_append, below apart.of_append_left]
      apply editEach_missing
      intro node member inside
      exact List.disjoint_of_nodup_append apart ((children.ids_sweep _).subset inside)
        (inRest member)
    have behind : rest.editEach change (children.select selects ++ rest.select selects) =
        rest.sweep (Change.only selects change) := by
      have passed : rest.editEach change (children.select selects) = rest := by
        apply editEach_missing
        intro node member inside
        exact List.disjoint_of_nodup_append apart (inChildren member) inside
      rw [editEach_append, passed, beside apart.of_append_right]
    rw [select, sweep, Change.only]
    cases selects label with
    | false =>
      rw [if_neg Bool.false_ne_true, if_neg Bool.false_ne_true, List.nil_append,
        editEach_node other, within, behind]
      rfl
    | true =>
      rw [if_pos rfl, if_pos rfl, List.cons_append, List.nil_append, editEach, List.foldl_cons,
        editAt, if_pos rfl]
      change (place id children rest (change label)).editEach change _ = _
      cases change label with
      | keep label => rw [place, editEach_node other, within, behind, place]
      | become contents => rw [place, editEach_leaves, behind, place]

end Loops

end Forest

end Foundation
