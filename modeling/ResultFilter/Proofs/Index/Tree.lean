import Mathlib.Logic.Function.Basic
import ResultFilter.Proofs.Index.Table

/-!
# The tree in the table of an index

The nodes of an index refer to each other by plain numbers. They form a tree nevertheless: each node but
the root is the child of one node under one label, and lies after it in the table. So the labels on the
way from the root, the outermost first, name a node.

## Main definitions

* `Index.follow` — the node that labels lead to.
* `Index.LabelledBy` — the nodes form a tree, and these are the labels on the way to each.
* `Index.GrowsTo` — an index has got more nodes and has changed in nothing else.

## Main results

* `follow_root_eq_some_iff` — labels lead from the root to the node that they name, and to no other.
* `growsTo_descend` — descending along labels keeps the tree and ends at the node that they name.
-/

namespace ResultFilter

namespace Index

variable {α : Type}

/-- The node that labels lead to from a node. -/
def follow (index : Index α) (i : Nat) : List Text → Option Nat
  | [] => some i
  | label :: labels =>
    match (index.node i).children.find? label with
    | some child => index.follow child labels
    | none => none

/-- The nodes of an index form a tree whose root is the first of them, and `path` gives the labels on the
way from the root to each. -/
structure LabelledBy (index : Index α) (path : Nat → List Text) : Prop where
  /-- There is a root. -/
  root_lt : root < index.nodes.size
  /-- No label leads to the root. -/
  path_root : path root = []
  /-- A child lies after its parent, and its label is the last on the way to it. -/
  child {i c : Nat} {label : Text} : (index.node i).children.find? label = some c →
    i < c ∧ c < index.nodes.size ∧ path c = path i ++ [label]
  /-- Every node but the root has a parent. -/
  parent {c : Nat} : root < c → c < index.nodes.size →
    ∃ i label, (index.node i).children.find? label = some c

@[simp] theorem follow_nil (index : Index α) (i : Nat) : index.follow i [] = some i := rfl

theorem follow_cons (index : Index α) (i : Nat) (label : Text) (labels : List Text) :
    index.follow i (label :: labels)
      = ((index.node i).children.find? label).bind (index.follow · labels) := by
  rw [follow]
  split <;> simp [*]

theorem follow_append (index : Index α) : ∀ (labels more : List Text) (i : Nat),
    index.follow i (labels ++ more) = (index.follow i labels).bind (index.follow · more) := by
  intro labels
  induction labels with
  | nil => intro more i; rfl
  | cons label labels ih =>
    intro more i
    rw [List.cons_append, follow_cons, follow_cons]
    cases (index.node i).children.find? label with
    | none => rfl
    | some c => exact ih more c

/-! ### Names of nodes -/

theorem labelledBy_empty : (empty : Index α).LabelledBy fun _ => [] where
  root_lt := Nat.one_pos
  path_root := rfl
  child := fun {i _ _} h => by
    have hnode : (empty : Index α).node i = Node.empty := by
      cases i with
      | zero => rfl
      | succ i => exact node_of_size_le (Nat.succ_le_succ (Nat.zero_le i))
    rw [hnode] at h
    exact absurd h (by simp [Node.empty])
  parent := fun hpos hlt => absurd hlt (Nat.not_lt.mpr hpos)

namespace LabelledBy

variable {index : Index α} {path : Nat → List Text} (ht : index.LabelledBy path)
include ht

theorem path_of_follow : ∀ {labels : List Text} {i j : Nat},
    index.follow i labels = some j → path j = path i ++ labels := by
  intro labels
  induction labels with
  | nil =>
    intro i j h
    obtain rfl : i = j := by simpa using h
    simp
  | cons label labels ih =>
    intro i j h
    rw [follow_cons] at h
    obtain ⟨c, hc, hj⟩ := Option.bind_eq_some_iff.mp h
    rw [ih hj, (ht.child hc).2.2, List.append_assoc]
    rfl

theorem lt_of_follow : ∀ {labels : List Text} {i j : Nat},
    i < index.nodes.size → index.follow i labels = some j → j < index.nodes.size := by
  intro labels
  induction labels with
  | nil =>
    intro i j hi h
    obtain rfl : i = j := by simpa using h
    exact hi
  | cons label labels ih =>
    intro i j _ h
    rw [follow_cons] at h
    obtain ⟨c, hc, hj⟩ := Option.bind_eq_some_iff.mp h
    exact ih (ht.child hc).2.1 hj

theorem follow_path {i : Nat} (hi : i < index.nodes.size) : index.follow root (path i) = some i := by
  -- a node lies after its parent, so the way to the parent is known already
  induction i using Nat.strong_induction_on with
  | _ i ih =>
    rcases Nat.eq_zero_or_pos i with rfl | hpos
    · rw [show path 0 = [] from ht.path_root]
      rfl
    · obtain ⟨p, label, hp⟩ := ht.parent hpos hi
      obtain ⟨hlt, -, hpath⟩ := ht.child hp
      rw [hpath, follow_append, ih p hlt (by omega), Option.bind_some, follow_cons, hp]
      rfl

/-- Labels lead from the root to the node that they name, and to no other. -/
theorem follow_root_eq_some_iff {labels : List Text} {i : Nat} :
    index.follow root labels = some i ↔ i < index.nodes.size ∧ path i = labels := by
  constructor
  · intro h
    refine ⟨ht.lt_of_follow ht.root_lt h, ?_⟩
    rw [ht.path_of_follow h, ht.path_root, List.nil_append]
  · rintro ⟨hi, rfl⟩
    exact ht.follow_path hi

theorem congr {other : Index α} (hsize : other.nodes.size = index.nodes.size)
    (hchildren : ∀ i, (other.node i).children = (index.node i).children) :
    other.LabelledBy path where
  root_lt := hsize ▸ ht.root_lt
  path_root := ht.path_root
  child := fun h => by
    rw [hchildren] at h
    rw [hsize]
    exact ht.child h
  parent := fun hpos hlt => by
    obtain ⟨i, label, h⟩ := ht.parent hpos (hsize ▸ hlt)
    exact ⟨i, label, by rw [hchildren]; exact h⟩

end LabelledBy

/-! ### New nodes -/

/-- An index has got more nodes, without entries, and has changed in nothing else. -/
structure GrowsTo (index : Index α) (path : Nat → List Text) (grown : Index α)
    (path' : Nat → List Text) : Prop where
  /-- The nodes form a tree. -/
  labelled : grown.LabelledBy path'
  /-- No node is lost. -/
  size_le : index.nodes.size ≤ grown.nodes.size
  /-- The nodes have the names that they had. -/
  path_eq {i : Nat} : i < index.nodes.size → path' i = path i
  /-- Every bucket is as it was. -/
  bucket_eq (b : BucketPlace) : grown.bucket b = index.bucket b
  /-- So is the number of entries. -/
  size_eq : grown.size = index.size

theorem LabelledBy.growsTo {index : Index α} {path : Nat → List Text} (ht : index.LabelledBy path) :
    index.GrowsTo path index path :=
  ⟨ht, Nat.le_refl _, fun _ => rfl, fun _ => rfl, rfl⟩

theorem GrowsTo.trans {index middle grown : Index α} {path path' path'' : Nat → List Text}
    (h : index.GrowsTo path middle path') (h' : middle.GrowsTo path' grown path'') :
    index.GrowsTo path grown path'' where
  labelled := h'.labelled
  size_le := Nat.le_trans h.size_le h'.size_le
  path_eq := fun hi => (h'.path_eq (Nat.lt_of_lt_of_le hi h.size_le)).trans (h.path_eq hi)
  bucket_eq := fun b => (h'.bucket_eq b).trans (h.bucket_eq b)
  size_eq := h'.size_eq.trans h.size_eq

section NewChild

variable (index : Index α) (i : Nat) (label : Text)

/-- An index with a new node, the child of a node under a label. -/
def withChild : Index α :=
  { index with nodes := index.nodes.push Node.empty }.modifyNode i fun n =>
    { n with children := n.children.insert label index.nodes.size }

theorem size_nodes_withChild : (index.withChild i label).nodes.size = index.nodes.size + 1 := by
  rw [withChild, size_nodes_modifyNode]
  exact Array.size_push _

/-- Beyond its end the table reads as empty nodes, so that a new one changes no node. -/
theorem node_push_empty (j : Nat) :
    { index with nodes := index.nodes.push Node.empty }.node j = index.node j := by
  show (index.nodes.push Node.empty)[j]?.getD Node.empty = index.nodes[j]?.getD Node.empty
  rw [Array.getElem?_push]
  split
  · next h => rw [h, Array.getElem?_eq_none (Nat.le_refl _)]; rfl
  · rfl

variable {i} (hi : i < index.nodes.size)
include hi

theorem node_withChild (j : Nat) :
    (index.withChild i label).node j
      = if j = i then
          { index.node i with children := (index.node i).children.insert label index.nodes.size }
        else index.node j := by
  have hlt : i < (index.nodes.push Node.empty).size := by
    rw [Array.size_push]
    omega
  rw [withChild, node_modifyNode, node_push_empty, node_push_empty]
  split
  · next h => rw [if_pos h.1]
  · next h => rw [if_neg fun hj => h ⟨hj, hlt⟩]

theorem children_withChild (j : Nat) (other : Text) :
    ((index.withChild i label).node j).children.find? other
      = if j = i ∧ other = label then some index.nodes.size
        else (index.node j).children.find? other := by
  rw [node_withChild index label hi]
  by_cases hj : j = i
  · subst hj
    by_cases hl : other = label
    · subst hl
      simp [Dict.find?_insert_self]
    · simp [hl, Dict.find?_insert_of_ne (Ne.symm hl)]
  · simp [hj]

theorem bucket_withChild (b : BucketPlace) :
    (index.withChild i label).bucket b = index.bucket b := by
  cases b with
  | allUrls => rfl
  | exact j =>
    rw [bucket, node_withChild index label hi, bucket]
    split
    · next h => rw [h]
    · rfl
  | wildcard j =>
    rw [bucket, node_withChild index label hi, bucket]
    split
    · next h => rw [h]
    · rfl

theorem growsTo_withChild {path : Nat → List Text} (ht : index.LabelledBy path)
    (hnew : (index.node i).children.find? label = none) :
    index.GrowsTo path (index.withChild i label)
      (Function.update path index.nodes.size (path i ++ [label])) where
  labelled :=
    { root_lt := by
        rw [size_nodes_withChild]
        exact Nat.succ_pos _
      path_root := by
        rw [Function.update_of_ne (Nat.ne_of_lt ht.root_lt)]
        exact ht.path_root
      child := by
        intro j c other h
        rw [children_withChild index label hi] at h
        rw [size_nodes_withChild]
        split at h
        · next hj =>
          obtain ⟨rfl, rfl⟩ := hj
          obtain rfl : index.nodes.size = c := by simpa using h
          rw [Function.update_self, Function.update_of_ne (Nat.ne_of_lt hi)]
          exact ⟨hi, Nat.lt_succ_self _, rfl⟩
        · obtain ⟨hlt, hc, hpath⟩ := ht.child h
          rw [Function.update_of_ne (by omega), Function.update_of_ne (by omega)]
          exact ⟨hlt, by omega, hpath⟩
      parent := by
        intro c hpos hlt
        rw [size_nodes_withChild] at hlt
        rcases Nat.lt_succ_iff_lt_or_eq.mp hlt with hc | rfl
        · obtain ⟨j, other, h⟩ := ht.parent hpos hc
          refine ⟨j, other, ?_⟩
          -- the new child is under a label that had none, so it hides no other
          have hne : ¬ (j = i ∧ other = label) := by
            rintro ⟨rfl, rfl⟩
            rw [hnew] at h
            exact absurd h (by simp)
          rw [children_withChild index label hi, if_neg hne, h]
        · exact ⟨i, label, by rw [children_withChild index label hi, if_pos ⟨rfl, rfl⟩]⟩ }
  size_le := by
    rw [size_nodes_withChild]
    omega
  path_eq := fun hj => Function.update_of_ne (Nat.ne_of_lt hj) _ _
  bucket_eq := bucket_withChild index label hi
  size_eq := rfl

end NewChild

/-- The child of a node under a label is the node that this label names next. -/
theorem growsTo_childOrInsert {index : Index α} {path : Nat → List Text}
    (ht : index.LabelledBy path) {i : Nat} (hi : i < index.nodes.size) (label : Text) :
    ∃ path', index.GrowsTo path (index.childOrInsert i label).1 path'
      ∧ (index.childOrInsert i label).2 < (index.childOrInsert i label).1.nodes.size
      ∧ path' (index.childOrInsert i label).2 = path i ++ [label] := by
  unfold childOrInsert
  split
  · next c hc =>
    obtain ⟨-, hlt, hpath⟩ := ht.child hc
    exact ⟨path, ht.growsTo, hlt, hpath⟩
  · next hnew =>
    refine ⟨_, growsTo_withChild index label hi ht hnew, ?_, Function.update_self ..⟩
    exact (size_nodes_withChild index i label).symm ▸ Nat.lt_succ_self _

/-- Descending along labels makes the nodes that are missing and ends at the node that they name. -/
theorem growsTo_descend : ∀ (labels : List Text) {index : Index α} {path : Nat → List Text} {i : Nat},
    index.LabelledBy path → i < index.nodes.size →
    ∃ path', index.GrowsTo path (index.descend i labels).1 path'
      ∧ (index.descend i labels).2 < (index.descend i labels).1.nodes.size
      ∧ path' (index.descend i labels).2 = path i ++ labels := by
  intro labels
  induction labels with
  | nil =>
    intro index path i ht hi
    exact ⟨path, ht.growsTo, hi, by simp [descend]⟩
  | cons label labels ih =>
    intro index path i ht hi
    obtain ⟨path', hgrow, hlt, hpath⟩ := growsTo_childOrInsert ht hi label
    obtain ⟨path'', hgrow', hlt', hpath'⟩ := ih hgrow.labelled hlt
    refine ⟨path'', hgrow.trans hgrow', hlt', ?_⟩
    rw [descend, hpath', hpath, List.append_assoc]
    rfl

end Index

end ResultFilter
