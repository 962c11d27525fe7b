import ResultFilter.Proofs.Dict
import ResultFilter.Proofs.Index.Filing

/-!
# What can be seen of an index

The place of a node in the table and the holes in a bucket cannot be seen from outside. What can be seen is
which labels lead to a node at all, and which entries lie in the buckets that labels name. Filing and
removing are told by what they do to these, and so is looking up an address.

## Main definitions

* `Shelf` — the name of a bucket, and `Index.shelf?` the live entries of the bucket with a name.
* `Index.IsTree` — the nodes form a tree with the children of each in order.
* `Index.Lists` — the live entries with their handles, in some order.
* `Index.Distinct` — no two live entries have one key.

## Main results

* `IsTree.insertPattern`, `IsTree.shelf?_remove` — what filing and removing do to the shelves.
* `Lists.insertPattern`, `Lists.remove` — what they do to the list of all entries.
* `Distinct.of_shelves` — keys that differ in one index differ in another with the same shelves.
* `lookup_eq_of_shelves` — a lookup depends on the shelves alone.
-/

namespace List

variable {α : Type*}

/-- Making a hole in a list takes away the element that was there. -/
theorem filterMap_id_set_none {p : α → Bool} {l : List (Option α)} {i : ℕ}
    (h : ∀ j a, l[j]? = some (some a) → (p a = true ↔ j ≠ i)) :
    (l.set i none).filterMap id = (l.filterMap id).filter p := by
  induction l generalizing i with
  | nil => rfl
  | cons x l ih =>
    cases i with
    | zero =>
      have hrest : (l.filterMap id).filter p = l.filterMap id := by
        refine filter_eq_self.mpr fun a ha => ?_
        obtain ⟨y, hy, rfl⟩ := mem_filterMap.mp ha
        obtain ⟨j, hj⟩ := mem_iff_getElem?.mp hy
        exact (h (j + 1) a hj).mpr (Nat.succ_ne_zero j)
      cases x with
      | none => exact hrest.symm
      | some a =>
        have ha : p a = false := Bool.eq_false_iff.mpr fun hp => (h 0 a rfl).mp hp rfl
        simpa [filter_cons, ha] using hrest.symm
    | succ i =>
      have hrest := ih (i := i) fun j a hj => (h (j + 1) a hj).trans (not_congr Nat.succ_inj)
      cases x with
      | none => exact hrest
      | some a =>
        have ha : p a = true := (h 0 a rfl).mpr (Nat.succ_ne_zero i).symm
        simpa [filter_cons, ha] using hrest

end List

namespace ResultFilter

/-! ### Names of buckets -/

/-- The name of a bucket: the labels that lead to its node stand for the number of the node. -/
inductive Shelf where
  /-- The bucket of the pattern of every address. -/
  | allUrls
  /-- A bucket of a node: that for its domain, or that for its host alone. -/
  | host (isWildcard : Bool) (labels : List Text)
deriving DecidableEq

/-- The labels that lead to the node of a bucket; the root for the pattern of every address. -/
def Shelf.labels : Shelf → List Text
  | .allUrls => []
  | .host _ labels => labels

/-- The name of the bucket for a pattern. -/
def MatchPattern.shelf : MatchPattern → Shelf
  | .allUrls => .allUrls
  | .url _ host _ => .host host.isWildcard (Host.reversedLabels host.domain)

namespace BucketPlace

/-- A bucket of a node. -/
def ofNode (isWildcard : Bool) (i : Nat) : BucketPlace :=
  if isWildcard then .wildcard i else .exact i

/-- The name of a bucket, where `path` names the nodes. -/
def shelf (path : Nat → List Text) : BucketPlace → Shelf
  | .allUrls => .allUrls
  | .exact i => .host false (path i)
  | .wildcard i => .host true (path i)

theorem shelf_ofNode (path : Nat → List Text) (isWildcard : Bool) (i : Nat) :
    (ofNode isWildcard i).shelf path = .host isWildcard (path i) := by
  cases isWildcard <;> rfl

theorem inRange_ofNode {α : Type} {index : Index α} {isWildcard : Bool} {i : Nat} :
    (ofNode isWildcard i).InRange index ↔ i < index.nodes.size := by
  cases isWildcard <;> rfl

theorem eq_ofNode_of_shelf {path : Nat → List Text} {b : BucketPlace} {isWildcard : Bool}
    {labels : List Text} (h : b.shelf path = .host isWildcard labels) :
    ∃ i, b = ofNode isWildcard i ∧ path i = labels := by
  cases b with
  | allUrls => exact Shelf.noConfusion h
  | exact i =>
    obtain ⟨rfl, rfl⟩ := Shelf.host.inj h
    exact ⟨i, rfl, rfl⟩
  | wildcard i =>
    obtain ⟨rfl, rfl⟩ := Shelf.host.inj h
    exact ⟨i, rfl, rfl⟩

end BucketPlace

namespace Bucket

variable {α : Type}

theorem live_push (b : Bucket α) (e : Entry α) : live (b.push (some e)) = b.live ++ [e] := by
  rw [live, Array.toList_push, List.filterMap_append]
  rfl

theorem live_setIfInBounds_none {b : Bucket α} {slot : Nat} {p : Entry α → Bool}
    (h : ∀ s e, b.at? s = some e → (p e = true ↔ s ≠ slot)) :
    live (b.setIfInBounds slot none) = b.live.filter p := by
  rw [live, Array.toList_setIfInBounds]
  refine List.filterMap_id_set_none fun s e hs => h s e ?_
  rw [at?, ← Array.getElem?_toList, hs]
  rfl

theorem mem_live {b : Bucket α} {e : Entry α} : e ∈ b.live ↔ ∃ slot, b.at? slot = some e := by
  rw [live_eq_map_slots, List.mem_map]
  constructor
  · rintro ⟨⟨slot, e⟩, hmem, rfl⟩
    exact ⟨slot, mem_slots.mp hmem⟩
  · rintro ⟨slot, h⟩
    exact ⟨(slot, e), mem_slots.mpr h, rfl⟩

theorem nodup_slots (b : Bucket α) : b.slots.Nodup :=
  List.Nodup.of_map _ ((pairwise_slots b).imp Nat.ne_of_lt)

end Bucket

namespace Index

variable {α : Type}

/-- The bucket with a name. -/
def placeOf? (index : Index α) : Shelf → Option BucketPlace
  | .allUrls => some .allUrls
  | .host isWildcard labels => (index.follow root labels).map (BucketPlace.ofNode isWildcard)

/-- The live entries of the bucket with a name. -/
def shelf? (index : Index α) (σ : Shelf) : Option (List (Entry α)) :=
  (index.placeOf? σ).map fun b => (index.bucket b).live

theorem isSome_placeOf? (index : Index α) (σ : Shelf) :
    (index.placeOf? σ).isSome = (index.follow root σ.labels).isSome := by
  cases σ with
  | allUrls => rfl
  | host isWildcard labels => exact Option.isSome_map

theorem isSome_shelf? (index : Index α) (σ : Shelf) :
    (index.shelf? σ).isSome = (index.follow root σ.labels).isSome :=
  Option.isSome_map.trans (index.isSome_placeOf? σ)

theorem shelf?_host_of_follow {index : Index α} {labels : List Text} {i : Nat}
    (h : index.follow root labels = some i) (isWildcard : Bool) :
    index.shelf? (.host isWildcard labels) = some (index.bucket (.ofNode isWildcard i)).live := by
  rw [shelf?, placeOf?, h]
  rfl

theorem follow_congr {index other : Index α}
    (h : ∀ i, (other.node i).children = (index.node i).children) (labels : List Text) (i : Nat) :
    other.follow i labels = index.follow i labels := by
  induction labels generalizing i with
  | nil => rfl
  | cons label labels ih =>
    rw [follow_cons, follow_cons, h]
    exact Option.bind_congr fun c _ => ih c

theorem children_pushEntry (index : Index α) (b : BucketPlace) (e : Entry α) (i : Nat) :
    ((index.pushEntry b e).1.node i).children = (index.node i).children :=
  children_modifyBucket index (·.push (some e)) b i

theorem placeOf?_congr {index other : Index α}
    (h : ∀ i, (other.node i).children = (index.node i).children) (σ : Shelf) :
    other.placeOf? σ = index.placeOf? σ := by
  cases σ with
  | allUrls => rfl
  | host isWildcard labels => rw [placeOf?, follow_congr h, placeOf?]

namespace LabelledBy

variable {index : Index α} {path : Nat → List Text} (ht : index.LabelledBy path)
include ht

theorem isSome_follow_iff {labels : List Text} :
    (index.follow root labels).isSome = true ↔ ∃ i, i < index.nodes.size ∧ path i = labels := by
  rw [Option.isSome_iff_exists]
  exact exists_congr fun i => ht.follow_root_eq_some_iff

/-- A name is that of one bucket. -/
theorem placeOf?_eq_some_iff {σ : Shelf} {b : BucketPlace} :
    index.placeOf? σ = some b ↔ b.InRange index ∧ b.shelf path = σ := by
  cases σ with
  | allUrls =>
    cases b with
    | allUrls => exact ⟨fun _ => ⟨trivial, rfl⟩, fun _ => rfl⟩
    | exact i => exact ⟨fun h => absurd h (by simp [placeOf?]), fun h => Shelf.noConfusion h.2⟩
    | wildcard i => exact ⟨fun h => absurd h (by simp [placeOf?]), fun h => Shelf.noConfusion h.2⟩
  | host isWildcard labels =>
    rw [placeOf?, Option.map_eq_some_iff]
    constructor
    · rintro ⟨i, hi, rfl⟩
      obtain ⟨hlt, hpath⟩ := ht.follow_root_eq_some_iff.mp hi
      rw [BucketPlace.shelf_ofNode, hpath]
      exact ⟨BucketPlace.inRange_ofNode.mpr hlt, rfl⟩
    · rintro ⟨hrange, hshelf⟩
      obtain ⟨i, rfl, hpath⟩ := BucketPlace.eq_ofNode_of_shelf hshelf
      exact ⟨i, ht.follow_root_eq_some_iff.mpr ⟨BucketPlace.inRange_ofNode.mp hrange, hpath⟩, rfl⟩

theorem placeOf?_shelf {b : BucketPlace} (hb : b.InRange index) : index.placeOf? (b.shelf path) = some b :=
  ht.placeOf?_eq_some_iff.mpr ⟨hb, rfl⟩

theorem shelf?_shelf {b : BucketPlace} (hb : b.InRange index) :
    index.shelf? (b.shelf path) = some (index.bucket b).live := by
  rw [shelf?, ht.placeOf?_shelf hb]
  rfl

/-- An entry behind a handle lies on the shelf of its bucket. -/
theorem mem_shelf?_of_entryAt? {h : Handle} {e : Entry α} (he : index.entryAt? h = some e) :
    ∃ l, index.shelf? (h.bucket.shelf path) = some l ∧ e ∈ l :=
  ⟨_, ht.shelf?_shelf (isIssued_of_entryAt? he).inRange, Bucket.mem_live.mpr ⟨h.slot, he⟩⟩

/-- What lies on a shelf lies behind a handle of its bucket. -/
theorem exists_entryAt?_of_mem {σ : Shelf} {l : List (Entry α)} {e : Entry α} (hl : index.shelf? σ = some l)
    (he : e ∈ l) : ∃ h, index.entryAt? h = some e ∧ h.bucket.shelf path = σ := by
  obtain ⟨b, hb, rfl⟩ := Option.map_eq_some_iff.mp hl
  obtain ⟨slot, hslot⟩ := Bucket.mem_live.mp he
  exact ⟨⟨b, slot⟩, hslot, (ht.placeOf?_eq_some_iff.mp hb).2⟩

/-- An entry goes to the end of the shelf with its name. -/
theorem shelf?_pushEntry {b : BucketPlace} (hb : b.InRange index) (e : Entry α) (σ : Shelf) :
    (index.pushEntry b e).1.shelf? σ
      = if σ = b.shelf path then some ((index.shelf? σ).getD [] ++ [e]) else index.shelf? σ := by
  have hplace : (index.pushEntry b e).1.placeOf? σ = index.placeOf? σ :=
    placeOf?_congr (children_pushEntry index b e) σ
  rw [shelf?, hplace]
  split
  · next hσ =>
    subst hσ
    rw [ht.shelf?_shelf hb, ht.placeOf?_shelf hb, Option.map_some, bucket_pushEntry hb, if_pos rfl,
      Bucket.live_push]
    rfl
  · next hσ =>
    refine Option.map_congr fun c hc => ?_
    rw [bucket_pushEntry hb, if_neg]
    rintro rfl
    exact hσ (ht.placeOf?_eq_some_iff.mp hc).2.symm

end LabelledBy

/-! ### Trees that grow -/

/-- Where labels lead to a node of an index that has grown, nothing has been added and nothing taken
away; all that lay nowhere before is empty. -/
theorem GrowsTo.shelf?_eq {index grown : Index α} {path path' : Nat → List Text}
    (hg : index.GrowsTo path grown path') (ht : index.LabelledBy path) (σ : Shelf) :
    grown.shelf? σ
      = if (grown.follow root σ.labels).isSome then some ((index.shelf? σ).getD []) else index.shelf? σ := by
  have hkeep : ∀ {b : BucketPlace}, index.placeOf? σ = some b → grown.placeOf? σ = some b := by
    intro b hb
    obtain ⟨hrange, hshelf⟩ := ht.placeOf?_eq_some_iff.mp hb
    have hrange' : b.InRange grown := by
      cases b with
      | allUrls => exact trivial
      | exact i => exact Nat.lt_of_lt_of_le hrange hg.size_le
      | wildcard i => exact Nat.lt_of_lt_of_le hrange hg.size_le
    refine hg.labelled.placeOf?_eq_some_iff.mpr ⟨hrange', hshelf ▸ ?_⟩
    cases b with
    | allUrls => rfl
    | exact i => exact congrArg _ (hg.path_eq hrange)
    | wildcard i => exact congrArg _ (hg.path_eq hrange)
  rw [← isSome_placeOf?]
  cases hb : grown.placeOf? σ with
  | none =>
    cases hb' : index.placeOf? σ with
    | none => rw [shelf?, shelf?, hb, hb']; rfl
    | some b => exact absurd (hb.symm.trans (hkeep hb')) (by simp)
  | some b =>
    rw [if_pos (show (some b).isSome = true from rfl), shelf?, hb, Option.map_some, hg.bucket_eq, shelf?]
    cases hb' : index.placeOf? σ with
    | none =>
      -- the bucket is one of a new node
      rw [bucket_of_not_inRange]
      · rfl
      · intro hrange
        have hold := hkeep (b := b)
        refine absurd hb' (Option.isSome_iff_ne_none.mp ?_)
        have hshelf : b.shelf path = σ := by
          rw [← (hg.labelled.placeOf?_eq_some_iff.mp hb).2]
          cases b with
          | allUrls => rfl
          | exact i => exact congrArg _ (hg.path_eq hrange).symm
          | wildcard i => exact congrArg _ (hg.path_eq hrange).symm
        rw [← hshelf, ht.placeOf?_shelf hrange]
        rfl
    | some c =>
      obtain rfl := Option.some.inj (hb.symm.trans (hkeep hb'))
      rfl

/-- A child is all that is made for a label. -/
theorem isSome_follow_childOrInsert {index : Index α} {path : Nat → List Text} (ht : index.LabelledBy path)
    {i : Nat} (hi : i < index.nodes.size) (label : Text) (labels : List Text) :
    ((index.childOrInsert i label).1.follow root labels).isSome = true
      ↔ (index.follow root labels).isSome = true ∨ labels = path i ++ [label] := by
  unfold childOrInsert
  split
  · next c hc =>
    refine ⟨Or.inl, fun h => h.elim id ?_⟩
    rintro rfl
    obtain ⟨-, hlt, hpath⟩ := ht.child hc
    exact ht.isSome_follow_iff.mpr ⟨c, hlt, hpath⟩
  · next hnew =>
    have hgrow := growsTo_withChild index label hi ht hnew
    show ((index.withChild i label).follow root labels).isSome = true ↔ _
    rw [hgrow.labelled.isSome_follow_iff, ht.isSome_follow_iff, size_nodes_withChild]
    constructor
    · rintro ⟨j, hj, rfl⟩
      rcases Nat.lt_succ_iff_lt_or_eq.mp hj with hj | rfl
      · exact Or.inl ⟨j, hj, (hgrow.path_eq hj).symm⟩
      · exact Or.inr (Function.update_self ..)
    · rintro (⟨j, hj, rfl⟩ | rfl)
      · exact ⟨j, Nat.lt_succ_of_lt hj, hgrow.path_eq hj⟩
      · exact ⟨index.nodes.size, Nat.lt_succ_self _, Function.update_self ..⟩

/-- The nodes on the way are all that is made for labels. -/
theorem isSome_follow_descend : ∀ (more : List Text) {index : Index α} {path : Nat → List Text} {i : Nat},
    index.LabelledBy path → i < index.nodes.size → ∀ labels,
    (((index.descend i more).1.follow root labels).isSome = true
      ↔ (index.follow root labels).isSome = true ∨ path i <+: labels ∧ labels <+: path i ++ more) := by
  intro more
  induction more with
  | nil =>
    intro index path i ht hi labels
    refine ⟨Or.inl, fun h => h.elim id ?_⟩
    rintro ⟨hfront, hback⟩
    rw [List.append_nil] at hback
    exact ht.isSome_follow_iff.mpr ⟨i, hi, hfront.eq_of_length_le hback.length_le⟩
  | cons label more ih =>
    intro index path i ht hi labels
    obtain ⟨path', hgrow, hlt, hpath⟩ := growsTo_childOrInsert ht hi label
    rw [descend, ih hgrow.labelled hlt, isSome_follow_childOrInsert ht hi, hpath, or_assoc,
      List.append_assoc, List.singleton_append]
    constructor
    · rintro (h | rfl | ⟨hfront, hback⟩)
      · exact Or.inl h
      · exact Or.inr ⟨List.prefix_append _ _, more, by simp⟩
      · exact Or.inr ⟨(List.prefix_append _ _).trans hfront, hback⟩
    · rintro (h | ⟨⟨rest, rfl⟩, hback⟩)
      · exact Or.inl h
      · cases rest with
        | nil => exact Or.inl (ht.isSome_follow_iff.mpr ⟨i, hi, (List.append_nil _).symm⟩)
        | cons other rest =>
          obtain ⟨rfl, -⟩ := List.cons_prefix_cons.mp ((List.prefix_append_right_inj _).mp hback)
          exact Or.inr (Or.inr ⟨⟨rest, by simp⟩, hback⟩)

/-- The nodes form a tree, and the children of each are in order. -/
structure IsTree (index : Index α) : Prop where
  /-- The nodes form a tree. -/
  labelled : ∃ path, index.LabelledBy path
  /-- The children are in order. -/
  sorted (i : Nat) : Dict.Sorted (index.node i).children

theorem isTree_empty : (empty : Index α).IsTree where
  labelled := ⟨_, labelledBy_empty⟩
  sorted := fun i => by
    cases i with
    | zero => exact Dict.sorted_nil
    | succ i =>
      rw [node_of_size_le (Nat.succ_le_succ (Nat.zero_le i))]
      exact Dict.sorted_nil

theorem IsTree.congr {index other : Index α} (h : index.IsTree) (hsize : other.nodes.size = index.nodes.size)
    (hchildren : ∀ i, (other.node i).children = (index.node i).children) : other.IsTree where
  labelled := by
    obtain ⟨path, ht⟩ := h.labelled
    exact ⟨path, ht.congr hsize hchildren⟩
  sorted := fun i => by
    rw [hchildren]
    exact h.sorted i

theorem sorted_childOrInsert {index : Index α} (h : ∀ i, Dict.Sorted (index.node i).children) {i : Nat}
    (hi : i < index.nodes.size) (label : Text) (j : Nat) :
    Dict.Sorted ((index.childOrInsert i label).1.node j).children := by
  unfold childOrInsert
  split
  · exact h j
  · show Dict.Sorted ((index.withChild i label).node j).children
    rw [node_withChild index label hi]
    split
    · exact Dict.sorted_insert (h i) label index.nodes.size
    · exact h j

theorem sorted_descend : ∀ (labels : List Text) {index : Index α} {path : Nat → List Text} {i : Nat},
    index.LabelledBy path → (∀ j, Dict.Sorted (index.node j).children) → i < index.nodes.size → ∀ j,
    Dict.Sorted ((index.descend i labels).1.node j).children := by
  intro labels
  induction labels with
  | nil => exact fun _ h _ => h
  | cons label labels ih =>
    intro index path i ht h hi
    obtain ⟨path', hgrow, hlt, -⟩ := growsTo_childOrInsert ht hi label
    exact ih hgrow.labelled (sorted_childOrInsert h hi label) hlt

/-! ### Filing and removing -/

/-- Filing makes the nodes on the way to the shelf of the pattern and puts the entry on it. -/
theorem IsTree.exists_pushEntry {index index' : Index α} (h : index.IsTree) {p : MatchPattern} {value : α}
    {handle : Handle} (hins : index.insertPattern p value = .ok (index', handle)) :
    ∃ path path' grown b, index.LabelledBy path ∧ index.GrowsTo path grown path' ∧ grown.IsTree
      ∧ b.InRange grown ∧ b.shelf path' = p.shelf
      ∧ (∀ labels, (grown.follow root labels).isSome = true
          ↔ (index.follow root labels).isSome = true ∨ labels <+: p.shelf.labels)
      ∧ grown.pushEntry b (.under value p) = (index', handle) := by
  obtain ⟨path, ht⟩ := h.labelled
  cases p with
  | allUrls =>
    refine ⟨path, path, index, .allUrls, ht, ht.growsTo, h, trivial, rfl, fun labels => ?_, Except.ok.inj hins⟩
    refine ⟨Or.inl, fun hlabels => hlabels.elim id fun hroot => ?_⟩
    -- there is always a root
    rw [List.prefix_nil.mp hroot]
    rfl
  | url scheme host urlPath =>
    obtain ⟨path', hgrow, hlt, hpath⟩ := growsTo_descend (Host.reversedLabels host.domain) ht ht.root_lt
    rw [ht.path_root, List.nil_append] at hpath
    rw [insertPattern] at hins
    split at hins
    · exact absurd hins (by simp)
    · refine ⟨path, path', _, .ofNode host.isWildcard _, ht, hgrow,
        ⟨⟨path', hgrow.labelled⟩, sorted_descend _ ht h.sorted ht.root_lt⟩,
        BucketPlace.inRange_ofNode.mpr hlt, ?_, fun labels => ?_, Except.ok.inj hins⟩
      · rw [BucketPlace.shelf_ofNode, hpath]
        rfl
      · rw [isSome_follow_descend _ ht ht.root_lt, ht.path_root, List.nil_append]
        exact or_congr_right (and_iff_right List.nil_prefix)

/-- Behind the handle that is given out lies the payload, and behind the others what lay there. -/
theorem IsTree.entryAt?_insertPattern {index index' : Index α} (h : index.IsTree) {p : MatchPattern}
    {value : α} {handle : Handle} (hins : index.insertPattern p value = .ok (index', handle)) (other : Handle) :
    index'.entryAt? other = if other = handle then some (.under value p) else index.entryAt? other := by
  obtain ⟨path, path', grown, b, -, hgrow, -, hb, -, -, hpush⟩ := h.exists_pushEntry hins
  have hentry := entryAt?_pushEntry hb (.under value p) other
  rwa [hpush, hgrow.entryAt?_eq] at hentry

/-- A payload goes to the end of the shelf of its pattern, which is made if it is missing. -/
theorem IsTree.insertPattern {index index' : Index α} (h : index.IsTree) {p : MatchPattern} {value : α}
    {handle : Handle} (hins : index.insertPattern p value = .ok (index', handle)) :
    index'.IsTree ∧ ∀ σ, index'.shelf? σ
      = if σ = p.shelf then some ((index.shelf? σ).getD [] ++ [.under value p])
        else if σ.labels <+: p.shelf.labels then some ((index.shelf? σ).getD [])
        else index.shelf? σ := by
  obtain ⟨path, path', grown, b, ht, hgrow, htree, hb, hshelf, hmade, heq⟩ := h.exists_pushEntry hins
  obtain rfl : (grown.pushEntry b (.under value p)).1 = index' := congrArg Prod.fst heq
  refine ⟨htree.congr (size_nodes_modifyBucket grown _ b) (children_pushEntry grown b _), fun σ => ?_⟩
  have hgrown : grown.shelf? σ
      = if σ.labels <+: p.shelf.labels then some ((index.shelf? σ).getD []) else index.shelf? σ := by
    refine (hgrow.shelf?_eq ht σ).trans ((if_congr (hmade σ.labels) rfl rfl).trans ?_)
    rw [← isSome_shelf?]
    cases index.shelf? σ <;> simp
  rw [hgrow.labelled.shelf?_pushEntry hb, hshelf, hgrown]
  refine if_congr Iff.rfl ?_ rfl
  split <;> simp

theorem children_remove (index : Index α) (h : Handle) (i : Nat) :
    ((index.remove h).2.node i).children = (index.node i).children := by
  unfold Index.remove
  split
  · rfl
  · exact children_modifyBucket index (·.setIfInBounds h.slot none) h.bucket i

theorem IsTree.remove {index : Index α} (htree : index.IsTree) (h : Handle) : (index.remove h).2.IsTree := by
  refine htree.congr ?_ (index.children_remove h)
  unfold Index.remove
  split
  · rfl
  · exact size_nodes_modifyBucket index _ h.bucket

/-- Removing takes the entry behind the handle from its shelf. -/
theorem shelf?_remove {index : Index α} {h : Handle} {p : Entry α → Bool}
    (hp : ∀ other e, index.entryAt? other = some e → (p e = true ↔ other ≠ h)) (σ : Shelf) :
    (index.remove h).2.shelf? σ = (index.shelf? σ).map (·.filter p) := by
  have hbucket : ∀ b, ((index.remove h).2.bucket b).live = (index.bucket b).live.filter p := by
    intro b
    unfold Index.remove
    split
    · next hget =>
      -- nothing lies behind the handle, so nothing is filtered away
      refine (List.filter_eq_self.mpr fun e he => ?_).symm
      obtain ⟨slot, hslot⟩ := Bucket.mem_live.mp he
      refine (hp ⟨b, slot⟩ e hslot).mpr ?_
      rintro rfl
      have hnone : index.entryAt? ⟨b, slot⟩ = none := by simpa [get?] using hget
      exact absurd (hnone.symm.trans hslot) (by simp)
    · show ((index.clear h).bucket b).live = _
      rw [bucket_clear]
      split
      · next hb =>
        refine Bucket.live_setIfInBounds_none fun s e hs => (hp ⟨b, s⟩ e hs).trans (not_congr ?_)
        rw [hb]
        exact ⟨fun heq => (Handle.mk.inj heq).2, fun heq => heq ▸ rfl⟩
      · next hb =>
        refine (List.filter_eq_self.mpr fun e he => ?_).symm
        obtain ⟨slot, hslot⟩ := Bucket.mem_live.mp he
        exact (hp ⟨b, slot⟩ e hslot).mpr fun heq => hb (congrArg Handle.bucket heq)
  have hplace : (index.remove h).2.placeOf? σ = index.placeOf? σ := placeOf?_congr (index.children_remove h) σ
  rw [shelf?, hplace, shelf?, Option.map_map]
  exact Option.map_congr fun b _ => hbucket b

/-! ### The list of all entries -/

/-- The live entries of an index with their handles, in some order. -/
structure Lists (index : Index α) (filed : List (Handle × Entry α)) : Prop where
  /-- The handles differ. -/
  nodup : (filed.map (·.1)).Nodup
  /-- The entries are those behind the handles. -/
  mem_iff {h : Handle} {e : Entry α} : (h, e) ∈ filed ↔ index.entryAt? h = some e
  /-- They are counted. -/
  size_eq : index.size = filed.length

theorem lists_empty : (empty : Index α).Lists [] where
  nodup := List.nodup_nil
  mem_iff := fun {h e} => by
    rw [holds_empty.entryAt?_eq_some_iff]
    simp
  size_eq := rfl

namespace Lists

variable {index : Index α} {filed : List (Handle × Entry α)} (hl : index.Lists filed)
include hl

theorem perm {other : List (Handle × Entry α)} (hnodup : (other.map (·.1)).Nodup)
    (hmem : ∀ h e, (h, e) ∈ other ↔ index.entryAt? h = some e) : other.Perm filed :=
  (List.perm_ext_iff_of_nodup (.of_map _ hnodup) (.of_map _ hl.nodup)).mpr fun x =>
    (hmem x.1 x.2).trans hl.mem_iff.symm

theorem pushEntry {b : BucketPlace} (hb : b.InRange index) (e : Entry α) :
    (index.pushEntry b e).1.Lists (filed ++ [((index.pushEntry b e).2, e)]) where
  nodup := by
    rw [List.map_append, List.map_singleton]
    refine hl.nodup.append (List.nodup_singleton _) (List.disjoint_singleton.mpr fun hmem => ?_)
    obtain ⟨⟨h, e'⟩, hx, hh⟩ := List.mem_map.mp hmem
    have hissued : index.IsIssued h := isIssued_of_entryAt? (hl.mem_iff.mp hx)
    rw [show h = _ from hh] at hissued
    exact not_isIssued_pushEntry index b e hissued
  mem_iff := fun {h x} => by
    rw [entryAt?_pushEntry hb, List.mem_append, List.mem_singleton, hl.mem_iff, Prod.mk.injEq]
    split
    · next heq =>
      subst heq
      have hnone : index.entryAt? (index.pushEntry b e).2 ≠ some x := fun hx =>
        not_isIssued_pushEntry index b e (isIssued_of_entryAt? hx)
      simp [hnone, eq_comm]
    · next hne => simp [hne]
  size_eq := by
    rw [List.length_append, List.length_singleton, ← hl.size_eq]
    rfl

theorem congr {other : Index α} (hentries : ∀ h, other.entryAt? h = index.entryAt? h)
    (hsize : other.size = index.size) : other.Lists filed where
  nodup := hl.nodup
  mem_iff := by
    intro h e
    rw [hentries]
    exact hl.mem_iff
  size_eq := hsize.trans hl.size_eq

/-- What is filed comes last. -/
theorem insertPattern (htree : index.IsTree) {index' : Index α} {p : MatchPattern} {value : α}
    {h : Handle} (hins : index.insertPattern p value = .ok (index', h)) :
    index'.Lists (filed ++ [(h, .under value p)]) := by
  obtain ⟨path, path', grown, b, -, hgrow, -, hb, -, -, heq⟩ := htree.exists_pushEntry hins
  have hpush := (hl.congr hgrow.entryAt?_eq hgrow.size_eq).pushEntry hb (.under value p)
  rwa [heq] at hpush

/-- The entry behind a handle is taken away. -/
theorem remove (h : Handle) : (index.remove h).2.Lists (filed.filter (·.1 ≠ h)) where
  nodup := hl.nodup.sublist (List.filter_sublist.map _)
  mem_iff := by
    intro other e
    rw [entryAt?_remove, List.mem_filter, hl.mem_iff, decide_eq_true_eq]
    split <;> simp [*]
  size_eq := by
    have hcount : (filed.filter (·.1 ≠ h)).length + (filed.map (·.1)).count h = filed.length := by
      rw [← List.countP_eq_length_filter, List.count, List.countP_map,
        List.length_eq_countP_add_countP (fun x : Handle × Entry α => x.1 ≠ h)]
      congr 1
      refine List.countP_congr fun x _ => ?_
      simp
    unfold Index.remove
    split
    · next hget =>
      have hnot : h ∉ filed.map (·.1) := by
        intro hmem
        obtain ⟨⟨h', e⟩, hx, rfl⟩ := List.mem_map.mp hmem
        rw [get?, hl.mem_iff.mp hx] at hget
        exact absurd hget (by simp)
      rw [List.count_eq_zero_of_not_mem hnot] at hcount
      exact hl.size_eq.trans hcount.symm
    · next value hget =>
      obtain ⟨e, he, -⟩ := Option.map_eq_some_iff.mp hget
      rw [List.count_eq_one_of_mem hl.nodup (List.mem_map.mpr ⟨(h, e), hl.mem_iff.mpr he, rfl⟩)] at hcount
      show index.size - 1 = _
      rw [hl.size_eq]
      omega

end Lists

/-! ### Keys -/

/-- No two live entries have one key. -/
def Distinct {β : Type} (index : Index α) (key : Entry α → β) : Prop :=
  ∀ {h h' e e'}, index.entryAt? h = some e → index.entryAt? h' = some e' → key e = key e' → h = h'

namespace Distinct

variable {β : Type} {index : Index α} {key : Entry α → β} (hd : index.Distinct key)
include hd

theorem nodup_filed {filed : List (Handle × Entry α)} (hl : index.Lists filed) :
    (filed.map fun x => key x.2).Nodup := by
  refine (List.Nodup.of_map _ hl.nodup).map_on ?_
  rintro ⟨h, e⟩ hx ⟨h', e'⟩ hy heq
  obtain rfl := hd (hl.mem_iff.mp hx) (hl.mem_iff.mp hy) heq
  exact congrArg _ (Option.some.inj ((hl.mem_iff.mp hx).symm.trans (hl.mem_iff.mp hy)))

theorem nodup_live (b : BucketPlace) : ((index.bucket b).live.map key).Nodup := by
  rw [Bucket.live_eq_map_slots, List.map_map]
  refine (Bucket.nodup_slots _).map_on ?_
  rintro ⟨slot, e⟩ hx ⟨slot', e'⟩ hy heq
  have he : index.entryAt? ⟨b, slot⟩ = some e := Bucket.mem_slots.mp hx
  have he' : index.entryAt? ⟨b, slot'⟩ = some e' := Bucket.mem_slots.mp hy
  obtain ⟨-, rfl⟩ := Handle.mk.inj (hd he he' heq)
  exact congrArg _ (Option.some.inj (he.symm.trans he'))

/-- Keys that differ in an index differ in another whose shelves are some of its shelves. -/
theorem of_shelves (htree : index.IsTree) {other : Index α} (hother : other.IsTree)
    (hshelves : ∀ σ l, other.shelf? σ = some l → l = [] ∨ index.shelf? σ = some l) : other.Distinct key := by
  obtain ⟨path, ht⟩ := htree.labelled
  obtain ⟨path', ht'⟩ := hother.labelled
  -- an entry lies on a shelf of the same name in both
  have hshelf : ∀ {h e}, other.entryAt? h = some e →
      index.shelf? (h.bucket.shelf path') = some (other.bucket h.bucket).live := by
    intro h e he
    refine (hshelves _ _ (ht'.shelf?_shelf (isIssued_of_entryAt? he).inRange)).resolve_left fun hnil => ?_
    exact List.not_mem_nil (hnil ▸ Bucket.mem_live.mpr ⟨h.slot, he⟩)
  intro h h' e e' he he' heq
  obtain ⟨g, hg, hgb⟩ := ht.exists_entryAt?_of_mem (hshelf he) (Bucket.mem_live.mpr ⟨h.slot, he⟩)
  obtain ⟨g', hg', hgb'⟩ := ht.exists_entryAt?_of_mem (hshelf he') (Bucket.mem_live.mpr ⟨h'.slot, he'⟩)
  obtain rfl := hd hg hg' heq
  have hplace : h.bucket = h'.bucket := by
    have hone := ht'.placeOf?_shelf (isIssued_of_entryAt? he).inRange
    have htwo := ht'.placeOf?_shelf (isIssued_of_entryAt? he').inRange
    rw [← hgb, hgb'] at hone
    exact Option.some.inj (hone.symm.trans htwo)
  have hslots : ((other.bucket h.bucket).slots.map fun x => key x.2).Nodup := by
    obtain ⟨b, hb, hlive⟩ := Option.map_eq_some_iff.mp (hshelf he)
    have hnodup := hd.nodup_live b
    rw [hlive, Bucket.live_eq_map_slots, List.map_map] at hnodup
    exact hnodup
  have hmem : (h.slot, e) ∈ (other.bucket h.bucket).slots := Bucket.mem_slots.mpr he
  have hmem' : (h'.slot, e') ∈ (other.bucket h.bucket).slots := by
    rw [hplace]
    exact Bucket.mem_slots.mpr he'
  have hslot := congrArg Prod.fst (List.inj_on_of_nodup_map hslots hmem hmem' heq)
  obtain ⟨b, slot⟩ := h
  obtain ⟨b', slot'⟩ := h'
  exact congrArg₂ Handle.mk hplace hslot

end Distinct

/-! ### Indices with the same shelves -/

/-- What an index holds is held by each one that has its shelves, but for empty ones. -/
theorem exists_entryAt?_of_shelves {index other : Index α} (htree : index.IsTree) (hother : other.IsTree)
    (hshelves : ∀ σ l, index.shelf? σ = some l → l = [] ∨ other.shelf? σ = some l) {h : Handle} {e : Entry α}
    (he : index.entryAt? h = some e) : ∃ h', other.entryAt? h' = some e := by
  obtain ⟨path, ht⟩ := htree.labelled
  obtain ⟨path', ht'⟩ := hother.labelled
  obtain ⟨l, hl, hmem⟩ := ht.mem_shelf?_of_entryAt? he
  rcases hshelves _ l hl with rfl | hl'
  · exact absurd hmem List.not_mem_nil
  · obtain ⟨h', he', -⟩ := ht'.exists_entryAt?_of_mem hl' hmem
    exact ⟨h', he'⟩

/-- The child of a node is the node that one more label leads to. -/
theorem follow_concat {index : Index α} {labels : List Text} {i : Nat}
    (h : index.follow root labels = some i) (label : Text) :
    index.follow root (labels ++ [label]) = (index.node i).children.find? label := by
  rw [follow_append, h, Option.bind_some, follow_cons]
  cases (index.node i).children.find? label <;> rfl

section Same

variable {index other : Index α} (hshelves : ∀ σ, index.shelf? σ = other.shelf? σ)
include hshelves

theorem isSome_follow_of_shelves (labels : List Text) :
    (index.follow root labels).isSome = (other.follow root labels).isSome := by
  have h := congrArg Option.isSome (hshelves (.host false labels))
  rwa [isSome_shelf?, isSome_shelf?] at h

/-- Nodes with one name have the same entries. -/
theorem live_bucket_of_shelves {labels : List Text} {i j : Nat} (hi : index.follow root labels = some i)
    (hj : other.follow root labels = some j) (isWildcard : Bool) :
    (index.bucket (.ofNode isWildcard i)).live = (other.bucket (.ofNode isWildcard j)).live := by
  have h := hshelves (.host isWildcard labels)
  rw [shelf?_host_of_follow hi, shelf?_host_of_follow hj] at h
  exact Option.some.inj h

/-- Nodes with one name have children under the same labels. -/
theorem isSome_find?_of_shelves {labels : List Text} {i j : Nat} (hi : index.follow root labels = some i)
    (hj : other.follow root labels = some j) (label : Text) :
    ((index.node i).children.find? label).isSome = ((other.node j).children.find? label).isSome := by
  rw [← follow_concat hi, ← follow_concat hj]
  exact isSome_follow_of_shelves hshelves _

theorem walk_eq_of_shelves (url : Url) : ∀ (labels front : List Text) {i j : Nat},
    index.follow root front = some i → other.follow root front = some j →
    index.walk url i labels = other.walk url j labels := by
  intro labels
  induction labels with
  | nil =>
    intro front i j hi hj
    have hwildcard := live_bucket_of_shelves hshelves hi hj true
    have hexact := live_bucket_of_shelves hshelves hi hj false
    exact congrArg₂ (· ++ ·) (congrArg (fun l => (l.filter (·.covers url)).map (·.value)) hwildcard)
      (congrArg (fun l => (l.filter (·.covers url)).map (·.value)) hexact)
  | cons label labels ih =>
    intro front i j hi hj
    have hwildcard := live_bucket_of_shelves hshelves hi hj true
    have hchild := isSome_find?_of_shelves hshelves hi hj label
    rw [walk, walk]
    refine congrArg₂ (· ++ ·) (congrArg (fun l => (l.filter (·.covers url)).map (·.value)) hwildcard) ?_
    cases hc : (index.node i).children.find? label with
    | none =>
      rw [hc] at hchild
      rw [Option.isSome_eq_false_iff.mp hchild.symm |> Option.isNone_iff_eq_none.mp]
    | some c =>
      rw [hc] at hchild
      obtain ⟨d, hd⟩ := Option.isSome_iff_exists.mp hchild.symm
      rw [hd]
      exact ih (front ++ [label]) ((follow_concat hi label).trans hc) ((follow_concat hj label).trans hd)

/-- A lookup depends on the shelves alone. -/
theorem lookup_eq_of_shelves (url : Url) : index.lookup url = other.lookup url := by
  have hall : index.allUrls.live = other.allUrls.live := Option.some.inj (hshelves .allUrls)
  unfold lookup
  rw [hall, walk_eq_of_shelves hshelves url _ [] rfl rfl]

end Same

end Index

end ResultFilter
