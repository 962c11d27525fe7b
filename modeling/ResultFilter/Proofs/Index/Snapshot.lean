import ResultFilter.Index.Snapshot
import ResultFilter.Proofs.Index.Shelves

/-!
# Snapshots and their shelves

The snapshot of an index has the shelves of the index, and the index made from a snapshot has those of the
snapshot, whatever places its nodes get in the new table. Only the shelf of the root's host alone is lost on
the way.

## Main definitions

* `Branch.at?`, `Snapshot.shelf?` — the branch that labels lead to, and the entries on a shelf.
* `Branch.Within`, `Snapshot.Within` — the children are in order, and the payloads have a property.
* `Index.Carries` — an index has got branches below a node.

## Main results

* `Index.shelf?_toSnapshot`, `Index.toSnapshot_eq_of_shelves` — a snapshot shows the shelves.
* `Index.shelf?_ofSnapshot` — an index that is made has the shelves of the snapshot.
-/

namespace ResultFilter

variable {α : Type}

/-! ### Branches -/

namespace Branch

/-- The entries at the node of a branch: those for its domain, or those for its host alone. -/
def entries (isWildcard : Bool) : Branch α → List (Entry α)
  | .node exact wildcard _ => if isWildcard then wildcard else exact

/-- The branch that labels lead to. -/
def at? : List Text → Branch α → Option (Branch α)
  | [], b => some b
  | label :: labels, .node _ _ children => (Dict.find? label children).bind (at? labels)

mutual

/-- The children of each node are in order, and the payloads have a property. -/
def Within (p : α → Prop) : Branch α → Prop
  | .node exact wildcard children =>
    ((∀ e ∈ exact, p e.value) ∧ ∀ e ∈ wildcard, p e.value) ∧ Dict.Sorted children ∧ AllWithin p children

/-- The same of the branches below a node. -/
def AllWithin (p : α → Prop) : List (Text × Branch α) → Prop
  | [] => True
  | (_, b) :: rest => Within p b ∧ AllWithin p rest

end

theorem allWithin_iff {p : α → Prop} {children : List (Text × Branch α)} :
    AllWithin p children ↔ ∀ c ∈ children, c.2.Within p := by
  induction children with
  | nil => simp [AllWithin]
  | cons c children ih => simp [AllWithin, ih]

end Branch

namespace Snapshot

/-- The root with all below it. -/
def branch (s : Snapshot α) : Branch α :=
  .node [] s.wildcard s.children

/-- The entries on a shelf. -/
def shelf? (s : Snapshot α) : Shelf → Option (List (Entry α))
  | .allUrls => some (s.allUrls.map Entry.bare)
  | .host isWildcard labels => (s.branch.at? labels).map (Branch.entries isWildcard)

/-- The children of each node are in order, and the payloads have a property. -/
structure Within (p : α → Prop) (s : Snapshot α) : Prop where
  /-- The payloads of the pattern of every address have it. -/
  allUrls : ∀ a ∈ s.allUrls, p a
  /-- So do those of the root and below. -/
  branch : s.branch.Within p

end Snapshot

namespace Index

/-! ### The snapshot of an index -/

theorem entries_branch (index : Index α) (fuel i : Nat) (isWildcard : Bool) :
    (index.branch (fuel + 1) i).entries isWildcard = (index.bucket (.ofNode isWildcard i)).live := by
  cases isWildcard <;> rfl

/-- Labels lead to the same entries in the branch of a node as from the node. -/
theorem at?_branch {index : Index α} {path : Nat → List Text} (ht : index.LabelledBy path)
    (isWildcard : Bool) : ∀ (labels : List Text) {fuel i : Nat}, i < index.nodes.size → index.nodes.size ≤ i + fuel →
    ((index.branch fuel i).at? labels).map (Branch.entries isWildcard)
      = (index.follow i labels).map fun j => (index.bucket (.ofNode isWildcard j)).live := by
  intro labels
  induction labels with
  | nil =>
    intro fuel i hi hfuel
    cases fuel with
    | zero => omega
    | succ fuel => exact congrArg some (index.entries_branch fuel i isWildcard)
  | cons label labels ih =>
    intro fuel i hi hfuel
    cases fuel with
    | zero => omega
    | succ fuel =>
      rw [branch, Branch.at?, follow_cons, Dict.find?_map]
      cases hc : Dict.find? label (index.node i).children with
      | none => rfl
      | some c =>
        -- a child lies after its parent, so that the fuel is enough for it
        obtain ⟨hlt, hsize, -⟩ := ht.child hc
        exact ih hsize (by omega)

/-- A snapshot shows the shelves of the index but that of the root's host alone. -/
theorem shelf?_toSnapshot {index : Index α} (htree : index.IsTree)
    (hbare : ∀ e ∈ index.allUrls.live, e = Entry.bare e.value) (σ : Shelf) :
    index.toSnapshot.shelf? σ = if σ = .host false [] then some [] else index.shelf? σ := by
  obtain ⟨path, ht⟩ := htree.labelled
  cases σ with
  | allUrls =>
    show some ((index.allUrls.live.map (·.value)).map Entry.bare) = some index.allUrls.live
    rw [List.map_map]
    exact congrArg some ((List.map_congr_left fun e he => (hbare e he).symm).trans (List.map_id _))
  | host isWildcard labels =>
    cases labels with
    | nil => cases isWildcard <;> rfl
    | cons label labels =>
      rw [if_neg (by simp), shelf?, placeOf?, Option.map_map]
      show Option.map _ (Option.bind (Dict.find? label ((index.node root).children.map _)) _) = _
      rw [Dict.find?_map, follow_cons]
      cases hc : Dict.find? label (index.node root).children with
      | none => rfl
      | some c =>
        obtain ⟨-, hsize, -⟩ := ht.child hc
        exact at?_branch ht isWildcard labels hsize (Nat.le_add_left _ _)

theorem toSnapshot_eq (index : Index α) :
    index.toSnapshot = ⟨index.allUrls.live.map (·.value), (index.node root).wildcard.live,
      (index.node root).children.map fun pair => (pair.1, index.branch index.nodes.size pair.2)⟩ := rfl

theorem within_branch {index : Index α} (htree : index.IsTree) {p : α → Prop}
    (hp : ∀ h e, index.entryAt? h = some e → p e.value) : ∀ (fuel i : Nat), (index.branch fuel i).Within p := by
  have hlive : ∀ b, ∀ e ∈ (index.bucket b).live, p e.value := by
    intro b e he
    obtain ⟨slot, hslot⟩ := Bucket.mem_live.mp he
    exact hp ⟨b, slot⟩ e hslot
  intro fuel
  induction fuel with
  | zero => exact fun i => ⟨⟨by simp, by simp⟩, Dict.sorted_nil, trivial⟩
  | succ fuel ih =>
    intro i
    refine ⟨⟨hlive (.exact i), hlive (.wildcard i)⟩, ?_, Branch.allWithin_iff.mpr fun c hc => ?_⟩
    · rw [Dict.Sorted, Dict.keys_map]
      exact htree.sorted i
    · obtain ⟨pair, -, rfl⟩ := List.mem_map.mp hc
      exact ih pair.2

theorem within_toSnapshot {index : Index α} (htree : index.IsTree) {p : α → Prop}
    (hp : ∀ h e, index.entryAt? h = some e → p e.value) : index.toSnapshot.Within p where
  allUrls := by
    intro a ha
    obtain ⟨e, he, rfl⟩ := List.mem_map.mp ha
    obtain ⟨slot, hslot⟩ := Bucket.mem_live.mp he
    exact hp ⟨.allUrls, slot⟩ e hslot
  branch := by
    obtain ⟨⟨-, hwildcard⟩, hchildren⟩ := within_branch htree hp (index.nodes.size + 1) root
    exact ⟨⟨by simp, hwildcard⟩, hchildren⟩

section Same

variable {index other : Index α} (htree : index.IsTree) (hother : other.IsTree)
  (hshelves : ∀ σ, index.shelf? σ = other.shelf? σ)
include htree hother hshelves

/-- The children of nodes with one name, if what is made of each child is the same. -/
theorem map_children_of_shelves {β : Type} {labels : List Text} {i j : Nat}
    (hi : index.follow root labels = some i) (hj : other.follow root labels = some j) {f g : Nat → β}
    (hfg : ∀ label c d, (index.node i).children.find? label = some c →
      (other.node j).children.find? label = some d → f c = g d) :
    (index.node i).children.map (fun pair => (pair.1, f pair.2))
      = (other.node j).children.map fun pair => (pair.1, g pair.2) := by
  refine Dict.eq_of_find? ?_ ?_ fun label => ?_
  · rw [Dict.Sorted, Dict.keys_map]
    exact htree.sorted i
  · rw [Dict.Sorted, Dict.keys_map]
    exact hother.sorted j
  · have hsome := isSome_find?_of_shelves hshelves hi hj label
    rw [Dict.find?_map, Dict.find?_map]
    cases hc : (index.node i).children.find? label with
    | none =>
      cases hd : (other.node j).children.find? label with
      | none => rfl
      | some d => simp [hc, hd] at hsome
    | some c =>
      cases hd : (other.node j).children.find? label with
      | none => simp [hc, hd] at hsome
      | some d => exact congrArg some (hfg label c d hc hd)

theorem branch_eq_of_shelves : ∀ (fuel : Nat) {fuel' : Nat} {labels : List Text} {i j : Nat},
    index.follow root labels = some i → other.follow root labels = some j →
    index.nodes.size ≤ i + fuel → other.nodes.size ≤ j + fuel' → index.branch fuel i = other.branch fuel' j := by
  obtain ⟨path, ht⟩ := htree.labelled
  obtain ⟨path', ht'⟩ := hother.labelled
  intro fuel
  induction fuel with
  | zero =>
    intro fuel' labels i j hi _ hfuel _
    have hlt := ht.lt_of_follow ht.root_lt hi
    omega
  | succ fuel ih =>
    intro fuel' labels i j hi hj hfuel hfuel'
    cases fuel' with
    | zero =>
      have hlt := ht'.lt_of_follow ht'.root_lt hj
      omega
    | succ fuel' =>
      have hexact := live_bucket_of_shelves hshelves hi hj false
      have hwildcard := live_bucket_of_shelves hshelves hi hj true
      have hchildren := map_children_of_shelves htree hother hshelves hi hj
        (f := index.branch fuel) (g := other.branch fuel') fun label c d hc hd => by
          have hlt := (ht.child hc).1
          have hlt' := (ht'.child hd).1
          exact ih ((follow_concat hi label).trans hc) ((follow_concat hj label).trans hd) (by omega) (by omega)
      show Branch.node (index.bucket (.ofNode false i)).live (index.bucket (.ofNode true i)).live _ = _
      rw [hexact, hwildcard]
      exact congrArg _ hchildren

/-- Indices with the same shelves have the same snapshot. -/
theorem toSnapshot_eq_of_shelves : index.toSnapshot = other.toSnapshot := by
  have hall : index.allUrls.live = other.allUrls.live := Option.some.inj (hshelves .allUrls)
  have hi : index.follow root [] = some root := rfl
  have hj : other.follow root [] = some root := rfl
  have hwildcard : (index.node root).wildcard.live = (other.node root).wildcard.live :=
    live_bucket_of_shelves hshelves hi hj true
  have hchildren := map_children_of_shelves htree hother hshelves hi hj
    (f := index.branch index.nodes.size) (g := other.branch other.nodes.size) fun label c d hc hd =>
      branch_eq_of_shelves htree hother hshelves _ ((follow_concat hi label).trans hc)
        ((follow_concat hj label).trans hd) (Nat.le_add_left _ _) (Nat.le_add_left _ _)
  rw [toSnapshot_eq, toSnapshot_eq, hall, hwildcard, hchildren]

end Same

/-! ### The index of a snapshot -/

theorem live_bucketOf (entries : List (Entry α)) : (bucketOf entries).live = entries := by
  rw [Bucket.live, bucketOf, List.filterMap_map]
  exact List.filterMap_some

/-- Entries with the handles that they have in a bucket of their own. -/
def placed (b : BucketPlace) (entries : List (Entry α)) : List (Handle × Entry α) :=
  entries.zipIdx.map fun (e, slot) => (⟨b, slot⟩, e)

theorem mem_placed {b : BucketPlace} {entries : List (Entry α)} {h : Handle} {e : Entry α} :
    (h, e) ∈ placed b entries ↔ h.bucket = b ∧ (bucketOf entries).at? h.slot = some e := by
  have hat : (bucketOf entries).at? h.slot = entries[h.slot]? := by
    rw [Bucket.at?, bucketOf, List.getElem?_toArray, List.getElem?_map]
    cases entries[h.slot]? <;> rfl
  rw [hat, placed, List.mem_map]
  constructor
  · rintro ⟨⟨e', slot⟩, hmem, heq⟩
    obtain ⟨rfl, rfl⟩ := Prod.mk.inj heq
    exact ⟨rfl, List.mk_mem_zipIdx_iff_getElem?.mp hmem⟩
  · rintro ⟨rfl, hget⟩
    exact ⟨(e, h.slot), List.mk_mem_zipIdx_iff_getElem?.mpr hget, rfl⟩

theorem nodup_placed (b : BucketPlace) (entries : List (Entry α)) : ((placed b entries).map (·.1)).Nodup := by
  have hslots : (entries.zipIdx.map (·.2)).Nodup :=
    List.pairwise_map.mpr ((List.pairwise_zipIdx entries 0).imp fun hlt => Nat.ne_of_lt hlt)
  have hmap : (placed b entries).map (·.1) = (entries.zipIdx.map (·.2)).map (Handle.mk b) := by
    rw [placed, List.map_map, List.map_map]
    rfl
  rw [hmap]
  exact hslots.map fun _ _ heq => (Handle.mk.inj heq).2

theorem bucket_of_mem_placed {b : BucketPlace} {entries : List (Entry α)} {h : Handle}
    (hmem : h ∈ (placed b entries).map (·.1)) : h.bucket = b := by
  obtain ⟨⟨h, e⟩, hx, rfl⟩ := List.mem_map.mp hmem
  exact (mem_placed.mp hx).1

@[simp] theorem length_placed (b : BucketPlace) (entries : List (Entry α)) :
    (placed b entries).length = entries.length := by
  rw [placed, List.length_map, List.length_zipIdx]

section SetEntries

variable {index : Index α} {i : Nat} (exact wildcard : List (Entry α))

theorem children_setEntries (j : Nat) :
    ((index.setEntries i exact wildcard).node j).children = (index.node j).children := by
  show ((index.modifyNode i _).node j).children = _
  rw [node_modifyNode]
  split
  · next h => rw [h.1]
  · rfl

theorem size_nodes_setEntries : (index.setEntries i exact wildcard).nodes.size = index.nodes.size :=
  size_nodes_modifyNode index i _

variable (hi : i < index.nodes.size)
include hi

theorem bucket_setEntries (b : BucketPlace) :
    (index.setEntries i exact wildcard).bucket b
      = if b = .exact i then bucketOf exact else if b = .wildcard i then bucketOf wildcard
        else index.bucket b := by
  cases b with
  | allUrls => rfl
  | exact j =>
    show ((index.modifyNode i _).node j).exact = _
    rw [node_modifyNode]
    by_cases hj : j = i
    · rw [if_pos ⟨hj, hi⟩, if_pos (congrArg _ hj)]
    · rw [if_neg fun h => hj h.1, if_neg fun h => hj (BucketPlace.exact.inj h), if_neg (by simp)]
      rfl
  | wildcard j =>
    show ((index.modifyNode i _).node j).wildcard = _
    rw [node_modifyNode]
    by_cases hj : j = i
    · rw [if_pos ⟨hj, hi⟩, if_neg (by simp), if_pos (congrArg _ hj)]
    · rw [if_neg fun h => hj h.1, if_neg (by simp), if_neg fun h => hj (BucketPlace.wildcard.inj h)]
      rfl

/-- The shelves of one node are filled. -/
theorem shelf?_setEntries {path : Nat → List Text} (ht : index.LabelledBy path) (σ : Shelf) :
    (index.setEntries i exact wildcard).shelf? σ
      = if σ = .host false (path i) then some exact
        else if σ = .host true (path i) then some wildcard else index.shelf? σ := by
  have hname : ∀ {b c : BucketPlace}, b.InRange index → index.placeOf? σ = some c →
      (c = b ↔ σ = b.shelf path) := by
    intro b c hb hc
    obtain ⟨hrange, hshelf⟩ := ht.placeOf?_eq_some_iff.mp hc
    refine ⟨fun h => h ▸ hshelf.symm, fun h => ?_⟩
    rw [h, ht.placeOf?_shelf hb] at hc
    exact (Option.some.inj hc).symm
  rw [shelf?, placeOf?_congr (children_setEntries exact wildcard)]
  cases hc : index.placeOf? σ with
  | none =>
    have hne : ∀ isWildcard, σ ≠ .host isWildcard (path i) := by
      rintro isWildcard rfl
      rw [← BucketPlace.shelf_ofNode, ht.placeOf?_shelf (BucketPlace.inRange_ofNode.mpr hi)] at hc
      exact absurd hc (by simp)
    rw [if_neg (hne false), if_neg (hne true), shelf?, hc]
    rfl
  | some c =>
    rw [Option.map_some, bucket_setEntries exact wildcard hi]
    have hexact := hname (b := .exact i) hi hc
    have hwildcard := hname (b := .wildcard i) hi hc
    simp only [hexact, hwildcard, BucketPlace.shelf, shelf?, hc, Option.map_some]
    split_ifs <;> simp [live_bucketOf]

/-- The entries of a node that had none come last. -/
theorem Lists.setEntries {filed : List (Handle × Entry α)} (hl : index.Lists filed)
    (hempty : ∀ isWildcard, (index.bucket (.ofNode isWildcard i)).live = []) :
    (index.setEntries i exact wildcard).Lists
      (filed ++ (placed (.exact i) exact ++ placed (.wildcard i) wildcard)) where
  nodup := by
    have hnone : ∀ isWildcard, ∀ h ∈ filed.map (·.1), h.bucket ≠ .ofNode isWildcard i := by
      intro isWildcard h hmem hb
      obtain ⟨⟨h, e⟩, hx, rfl⟩ := List.mem_map.mp hmem
      have he : e ∈ (index.bucket h.bucket).live := Bucket.mem_live.mpr ⟨h.slot, hl.mem_iff.mp hx⟩
      rw [hb, hempty] at he
      exact List.not_mem_nil he
    rw [List.map_append, List.map_append]
    refine hl.nodup.append ((nodup_placed _ _).append (nodup_placed _ _) ?_) ?_
    · refine List.disjoint_left.mpr fun h hmem hmem' => ?_
      exact absurd ((bucket_of_mem_placed hmem).symm.trans (bucket_of_mem_placed hmem')) (by simp)
    · refine List.disjoint_left.mpr fun h hmem hmem' => ?_
      rcases List.mem_append.mp hmem' with hmem' | hmem'
      · exact hnone false h hmem (bucket_of_mem_placed hmem')
      · exact hnone true h hmem (bucket_of_mem_placed hmem')
  mem_iff := by
    intro h e
    have hnone : ∀ isWildcard, h.bucket = .ofNode isWildcard i → index.entryAt? h ≠ some e := by
      intro isWildcard hb he
      have hmem : e ∈ (index.bucket h.bucket).live := Bucket.mem_live.mpr ⟨h.slot, he⟩
      rw [hb, hempty] at hmem
      exact List.not_mem_nil hmem
    have hentry : (index.setEntries i exact wildcard).entryAt? h
        = if h.bucket = .exact i then (bucketOf exact).at? h.slot
          else if h.bucket = .wildcard i then (bucketOf wildcard).at? h.slot else index.entryAt? h := by
      rw [entryAt?, bucket_setEntries exact wildcard hi, entryAt?]
      split_ifs <;> rfl
    rw [List.mem_append, List.mem_append, mem_placed, mem_placed, hl.mem_iff, hentry]
    split_ifs with hexact hwildcard
    · simp [hexact, hnone false hexact]
    · simp [hwildcard, hnone true hwildcard]
    · simp [hexact, hwildcard]
  size_eq := by
    show index.size + exact.length + wildcard.length = _
    rw [hl.size_eq, List.length_append, List.length_append, length_placed, length_placed, Nat.add_assoc]

end SetEntries

/-- An index has got branches below the node with a name, and has elsewhere what it had. -/
structure Carries (index grown : Index α) (front : List Text) (children : List (Text × Branch α)) : Prop where
  /-- The nodes form a tree. -/
  isTree : grown.IsTree
  /-- The nodes have the names that they had. -/
  follow_eq {labels : List Text} {i : Nat} : index.follow root labels = some i → grown.follow root labels = some i
  /-- Below the node lie the branches. -/
  shelf?_below {isWildcard : Bool} {label : Text} {labels : List Text} {b : Branch α} :
    Dict.find? label children = some b →
      grown.shelf? (.host isWildcard (front ++ label :: labels)) = (b.at? labels).map (Branch.entries isWildcard)
  /-- Nothing else has changed. -/
  shelf?_eq {σ : Shelf} :
    (∀ label ∈ Dict.keys children, ¬ front ++ [label] <+: σ.labels) → grown.shelf? σ = index.shelf? σ
  /-- The entries are still counted. -/
  lists {filed : List (Handle × Entry α)} : index.Lists filed → ∃ filed', grown.Lists filed'

theorem not_prefix_of_ne {front labels : List Text} {label other : Text} (h : label ≠ other) :
    ¬ front ++ [label] <+: front ++ other :: labels := fun hprefix =>
  h (List.cons_prefix_cons.mp ((List.prefix_append_right_inj front).mp hprefix)).1

theorem follow_eq_none_append {index : Index α} {labels more : List Text}
    (h : index.follow root labels = none) : index.follow root (labels ++ more) = none := by
  rw [follow_append, h]
  rfl

theorem shelf?_eq_none {index : Index α} {σ : Shelf} (h : index.follow root σ.labels = none) :
    index.shelf? σ = none := by
  rw [← Option.not_isSome_iff_eq_none, isSome_shelf?, h]
  exact Bool.false_ne_true

theorem follow_eq_none_of_shelf? {index : Index α} {labels : List Text}
    (h : index.shelf? (.host false labels) = none) : index.follow root labels = none := by
  rw [← Option.not_isSome_iff_eq_none, show labels = (Shelf.host false labels).labels from rfl, ← isSome_shelf?, h]
  exact Bool.false_ne_true

/-- Where growth makes no node, the shelves stay as they are. -/
theorem GrowsTo.shelf?_eq_of_follow {index grown : Index α} {path path' : Nat → List Text}
    (hg : index.GrowsTo path grown path') (ht : index.LabelledBy path) {σ : Shelf}
    (h : (grown.follow root σ.labels).isSome = true → (index.follow root σ.labels).isSome = true) :
    grown.shelf? σ = index.shelf? σ := by
  rw [hg.shelf?_eq ht]
  split
  · next hsome =>
    obtain ⟨l, hl⟩ := Option.isSome_iff_exists.mp (index.isSome_shelf? σ ▸ h hsome)
    rw [hl]
    rfl
  · rfl

/-- A node that growth makes has no entries yet. -/
theorem GrowsTo.live_eq_nil {index grown : Index α} {path path' : Nat → List Text}
    (hg : index.GrowsTo path grown path') (ht : index.LabelledBy path) {c : Nat} (hc : c < grown.nodes.size)
    (hfree : index.follow root (path' c) = none) (isWildcard : Bool) :
    (grown.bucket (.ofNode isWildcard c)).live = [] := by
  have hshelf := hg.labelled.shelf?_shelf (b := .ofNode isWildcard c) (BucketPlace.inRange_ofNode.mpr hc)
  rw [BucketPlace.shelf_ofNode, hg.shelf?_eq ht, shelf?_eq_none hfree] at hshelf
  split at hshelf
  · exact (Option.some.inj hshelf).symm
  · exact absurd hshelf (by simp)

/-- A node is added under a label of its own, and gets its entries. -/
theorem carries_leaf {index : Index α} (htree : index.IsTree) {front : List Text} {i : Nat}
    (hi : index.follow root front = some i) {label : Text} (hfree : index.follow root (front ++ [label]) = none)
    (exact wildcard : List (Entry α)) :
    let grown := (index.childOrInsert i label).1.setEntries (index.childOrInsert i label).2 exact wildcard
    index.Carries grown front [(label, .node exact wildcard [])]
      ∧ grown.follow root (front ++ [label]) = some (index.childOrInsert i label).2 := by
  obtain ⟨path, ht⟩ := htree.labelled
  obtain ⟨hlt, rfl⟩ := ht.follow_root_eq_some_iff.mp hi
  obtain ⟨path', hgrow, hclt, hpath⟩ := growsTo_childOrInsert ht hlt label
  have hmade := isSome_follow_childOrInsert ht hlt label
  have hsorted := sorted_childOrInsert htree.sorted hlt label
  generalize index.childOrInsert i label = child at hgrow hclt hpath hmade hsorted ⊢
  obtain ⟨grown, c⟩ := child
  dsimp only at hgrow hclt hpath hmade hsorted ⊢
  have hfollow : ∀ labels, (grown.setEntries c exact wildcard).follow root labels = grown.follow root labels :=
    fun labels => follow_congr (children_setEntries exact wildcard) labels root
  -- elsewhere the new node changes nothing, and it has no entries of its own yet
  have hold : ∀ {σ : Shelf}, σ.labels ≠ path i ++ [label] → grown.shelf? σ = index.shelf? σ := fun hσ =>
    hgrow.shelf?_eq_of_follow ht fun hsome => ((hmade _).mp hsome).resolve_right hσ
  have hnew : ∀ isWildcard, (grown.bucket (.ofNode isWildcard c)).live = [] :=
    hgrow.live_eq_nil ht hclt (hpath ▸ hfree)
  have hfilled : ∀ {σ : Shelf}, σ.labels ≠ path i ++ [label] →
      (grown.setEntries c exact wildcard).shelf? σ = index.shelf? σ := by
    intro σ hσ
    have hne : ∀ isWildcard, σ ≠ .host isWildcard (path' c) := by
      rintro isWildcard rfl
      exact hσ hpath
    rw [shelf?_setEntries exact wildcard hclt hgrow.labelled, if_neg (hne false), if_neg (hne true), hold hσ]
  refine ⟨?_, (hfollow _).trans (hgrow.labelled.follow_root_eq_some_iff.mpr ⟨hclt, hpath⟩)⟩
  exact
    { isTree := IsTree.congr ⟨⟨path', hgrow.labelled⟩, hsorted⟩ (size_nodes_setEntries exact wildcard)
        (children_setEntries exact wildcard)
      follow_eq := by
        intro labels j hj
        obtain ⟨hjlt, rfl⟩ := ht.follow_root_eq_some_iff.mp hj
        rw [hfollow]
        exact hgrow.labelled.follow_root_eq_some_iff.mpr
          ⟨Nat.lt_of_lt_of_le hjlt hgrow.size_le, hgrow.path_eq hjlt⟩
      shelf?_below := by
        intro isWildcard other labels b hb
        rw [Dict.find?, Dict.find?_nil] at hb
        split at hb
        · next heq =>
          subst heq
          obtain rfl := Option.some.inj hb
          cases labels with
          | nil =>
            rw [shelf?_setEntries exact wildcard hclt hgrow.labelled, hpath]
            cases isWildcard <;> simp [Branch.at?, Branch.entries]
          | cons l labels =>
            rw [List.append_cons, hfilled (by simp [Shelf.labels]), shelf?_eq_none (follow_eq_none_append hfree)]
            rfl
        · exact absurd hb (by simp)
      shelf?_eq := by
        intro σ hσ
        exact hfilled fun heq => hσ label List.mem_cons_self (heq ▸ List.prefix_rfl)
      lists := fun hl =>
        ⟨_, (hl.congr hgrow.entryAt?_eq hgrow.size_eq).setEntries exact wildcard hclt hnew⟩ }

/-- Branches below a node that has been added belong to its branch. -/
theorem Carries.node {index middle grown : Index α} {front : List Text} {label : Text}
    {exact wildcard : List (Entry α)} {children : List (Text × Branch α)}
    (hleaf : index.Carries middle front [(label, .node exact wildcard [])])
    (hchildren : middle.Carries grown (front ++ [label]) children) :
    index.Carries grown front [(label, .node exact wildcard children)] where
  isTree := hchildren.isTree
  follow_eq := fun h => hchildren.follow_eq (hleaf.follow_eq h)
  shelf?_below := by
    intro isWildcard other labels b hb
    have hself : Dict.find? label [(label, Branch.node exact wildcard [])] = some (.node exact wildcard []) :=
      if_pos rfl
    rw [Dict.find?, Dict.find?_nil] at hb
    split at hb
    · next heq =>
      subst heq
      obtain rfl := Option.some.inj hb
      cases labels with
      | nil =>
        rw [hchildren.shelf?_eq fun l _ hprefix => by simpa [Shelf.labels] using hprefix.length_le,
          hleaf.shelf?_below hself]
        rfl
      | cons l labels =>
        cases hl : Dict.find? l children with
        | some b =>
          rw [List.append_cons, hchildren.shelf?_below hl, Branch.at?, hl]
          rfl
        | none =>
          have hnot : ∀ l' ∈ Dict.keys children, l' ≠ l := by
            rintro l' hl' rfl
            exact Dict.find?_eq_none_iff.mp hl hl'
          have hbelow : middle.shelf? (.host isWildcard (front ++ label :: l :: labels)) = _ :=
            hleaf.shelf?_below hself
          rw [List.append_cons] at hbelow ⊢
          rw [hchildren.shelf?_eq fun l' hl' => not_prefix_of_ne (hnot l' hl'), hbelow, Branch.at?, Branch.at?, hl]
          rfl
    · exact absurd hb (by simp)
  shelf?_eq := by
    intro σ hσ
    have hnot : ¬ front ++ [label] <+: σ.labels := hσ label List.mem_cons_self
    rw [hchildren.shelf?_eq fun l _ hprefix => hnot ((List.prefix_append _ _).trans hprefix), hleaf.shelf?_eq hσ]
  lists := fun hl => by
    obtain ⟨filed, hfiled⟩ := hleaf.lists hl
    exact hchildren.lists hfiled

/-- Branches are added one after another. -/
theorem Carries.cons {index middle grown : Index α} {front : List Text} {label : Text} {b : Branch α}
    {children : List (Text × Branch α)} (hne : label ∉ Dict.keys children)
    (hone : index.Carries middle front [(label, b)]) (hrest : middle.Carries grown front children) :
    index.Carries grown front ((label, b) :: children) where
  isTree := hrest.isTree
  follow_eq := fun h => hrest.follow_eq (hone.follow_eq h)
  shelf?_below := by
    intro isWildcard other labels b' hb
    rw [Dict.find?] at hb
    split at hb
    · next heq =>
      subst heq
      rw [hrest.shelf?_eq fun l hl => not_prefix_of_ne (by rintro rfl; exact hne hl)]
      exact hone.shelf?_below ((if_pos rfl).trans hb)
    · exact hrest.shelf?_below hb
  shelf?_eq := by
    intro σ hσ
    rw [hrest.shelf?_eq fun l hl => hσ l (List.mem_cons_of_mem _ hl),
      hone.shelf?_eq fun l hl => hσ l (List.mem_singleton.mp hl ▸ List.mem_cons_self)]
  lists := fun hl => by
    obtain ⟨filed, hfiled⟩ := hone.lists hl
    exact hrest.lists hfiled

/-- Labels that lead nowhere lead nowhere after branches were added under others. -/
theorem Carries.follow_eq_none {index grown : Index α} {front : List Text} {children : List (Text × Branch α)}
    (h : index.Carries grown front children) {labels : List Text}
    (hlabels : ∀ label ∈ Dict.keys children, ¬ front ++ [label] <+: labels)
    (hnone : index.follow root labels = none) : grown.follow root labels = none := by
  have hkeep : grown.shelf? (.host false labels) = index.shelf? (.host false labels) := h.shelf?_eq hlabels
  exact follow_eq_none_of_shelf? (hkeep.trans (shelf?_eq_none hnone))

mutual

theorem carries_graft {p : α → Prop} : ∀ (b : Branch α) {index : Index α} {front : List Text} {i : Nat}
    {label : Text}, b.Within p → index.IsTree → index.follow root front = some i →
    index.follow root (front ++ [label]) = none → index.Carries (index.graft i label b) front [(label, b)]
  | .node exact wildcard children => fun hb htree hi hfree => by
    obtain ⟨hleaf, hc⟩ := carries_leaf htree hi hfree exact wildcard
    refine hleaf.node (carries_graftAll children hb.2.1 hb.2.2 hleaf.isTree hc fun l _ => ?_)
    refine follow_eq_none_of_shelf? ?_
    rw [List.append_assoc]
    exact hleaf.shelf?_below (if_pos rfl)

theorem carries_graftAll {p : α → Prop} : ∀ (children : List (Text × Branch α)) {index : Index α}
    {front : List Text} {i : Nat}, Dict.Sorted children → Branch.AllWithin p children → index.IsTree →
    index.follow root front = some i →
    (∀ label ∈ Dict.keys children, index.follow root (front ++ [label]) = none) →
    index.Carries (index.graftAll i children) front children
  | [] => fun _ _ htree _ _ => ⟨htree, id, fun h => absurd h (by simp), fun _ => rfl, fun hl => ⟨_, hl⟩⟩
  | (label, b) :: children => fun hsorted hall htree hi hfree => by
    obtain ⟨hlt, hsorted⟩ := Dict.sorted_cons.mp hsorted
    have hone := carries_graft b hall.1 htree hi (hfree label List.mem_cons_self)
    refine hone.cons (fun hmem => lt_irrefl label (hlt label hmem)) ?_
    refine carries_graftAll children hsorted hall.2 hone.isTree (hone.follow_eq hi) fun l hl => ?_
    refine hone.follow_eq_none (fun l' hl' => not_prefix_of_ne ?_) (hfree l (List.mem_cons_of_mem _ hl))
    obtain rfl := List.mem_singleton.mp hl'
    exact (hlt l hl).ne

end

/-- The index without nodes but the root, and without entries but those of the pattern of every address. -/
def ofAllUrls (values : List α) : Index α :=
  { empty with allUrls := bucketOf (values.map Entry.bare), size := values.length }

theorem isTree_ofAllUrls (values : List α) : (ofAllUrls values).IsTree :=
  isTree_empty.congr rfl fun _ => rfl

theorem lists_ofAllUrls (values : List α) :
    (ofAllUrls values).Lists (placed .allUrls (values.map Entry.bare)) where
  nodup := nodup_placed _ _
  mem_iff := by
    rintro ⟨b, slot⟩ e
    rw [mem_placed]
    have hempty : (empty : Index α).entryAt? ⟨b, slot⟩ ≠ some e := fun he =>
      List.not_mem_nil (lists_empty.mem_iff.mpr he)
    cases b with
    | allUrls => exact and_iff_right rfl
    | exact i => exact ⟨fun h => absurd h.1 (by simp), fun he => absurd he hempty⟩
    | wildcard i => exact ⟨fun h => absurd h.1 (by simp), fun he => absurd he hempty⟩
  size_eq := by simp [ofAllUrls]

/-- An index that is made has the shelves of its snapshot. -/
theorem shelf?_ofSnapshot {p : α → Prop} {s : Snapshot α} (hs : s.Within p) :
    (ofSnapshot s).IsTree ∧ (∀ σ, (ofSnapshot s).shelf? σ = s.shelf? σ) ∧ ∃ filed, (ofSnapshot s).Lists filed := by
  obtain ⟨path, ht⟩ := (isTree_ofAllUrls s.allUrls).labelled
  have hchildren : ∀ j, (((ofAllUrls s.allUrls).setEntries root [] s.wildcard).node j).children
      = ((ofAllUrls s.allUrls).node j).children := children_setEntries [] s.wildcard
  have htree : ((ofAllUrls s.allUrls).setEntries root [] s.wildcard).IsTree :=
    (isTree_ofAllUrls s.allUrls).congr (size_nodes_setEntries [] s.wildcard) hchildren
  have hshelf := shelf?_setEntries [] s.wildcard ht.root_lt ht
  rw [ht.path_root] at hshelf
  have hcarries : ((ofAllUrls s.allUrls).setEntries root [] s.wildcard).Carries (ofSnapshot s) [] s.children :=
    carries_graftAll s.children hs.branch.2.1 hs.branch.2.2 htree rfl fun l _ => follow_congr hchildren [l] root
  refine ⟨hcarries.isTree, fun σ => ?_, hcarries.lists ((lists_ofAllUrls s.allUrls).setEntries [] s.wildcard
    ht.root_lt ?_)⟩
  · have hroot : σ.labels = [] → (ofSnapshot s).shelf? σ
        = ((ofAllUrls s.allUrls).setEntries root [] s.wildcard).shelf? σ := fun hσ =>
      hcarries.shelf?_eq fun l _ hprefix => by simp [hσ] at hprefix
    cases σ with
    | allUrls =>
      rw [hroot rfl, hshelf, if_neg (by simp), if_neg (by simp)]
      exact congrArg some (live_bucketOf _)
    | host isWildcard labels =>
      cases labels with
      | nil =>
        rw [hroot rfl, hshelf]
        cases isWildcard <;> simp [Snapshot.shelf?, Snapshot.branch, Branch.at?, Branch.entries]
      | cons label labels =>
        rw [Snapshot.shelf?, Snapshot.branch, Branch.at?]
        cases hl : Dict.find? label s.children with
        | some b => exact hcarries.shelf?_below hl
        | none =>
          have hnot : ∀ l ∈ Dict.keys s.children, l ≠ label := by
            rintro l hmem rfl
            exact Dict.find?_eq_none_iff.mp hl hmem
          rw [hcarries.shelf?_eq fun l hmem => not_prefix_of_ne (hnot l hmem), hshelf, if_neg (by simp),
            if_neg (by simp)]
          rfl
  · intro isWildcard
    cases isWildcard <;> rfl

end Index

end ResultFilter
