import ResultFilter.Proofs.Index.Reload
import ResultFilter.Proofs.Index.Unnamed

/-!
# The walk that stores an index

To store an index, a walk goes from the root to the children of each node, label by label, and puts out the
entries of every node it comes to. Nothing but the numbers in the table leads from one node to the next. That
the walk comes to an end, and comes to no node twice, is due to the tree that the nodes form: a child lies after
its parent in the table, and no two children are the same node. The walk comes below a node to the nodes whose
labels begin with those of the node, and the labels of the root begin them all.

The walk is told here without a bound on its steps, as a relation that holds if it ends within the table.

## Main definitions

* `Index.Visit` — a node that the walk comes to, with what is put out there.
* `Index.WritesNode`, `Index.WritesChildren` — a walk over a node, or over some children of one, ends.
* `Index.Writes` — the walk over the whole index ends.

## Main results

* `Index.IsTree.exists_writes` — the walk ends with the snapshot of the index.
* `Index.WritesNode.nodes` — it comes to every node below the one where it began, once.
* `Index.writes_after` — nodes and entries of any index that calls lead to are passed once.
-/

namespace ResultFilter

namespace Index

variable {α : Type}

/-! ### Walks -/

/-- A node that a walk comes to. -/
structure Visit (α : Type) where
  /-- The place of the node. -/
  node : ℕ
  /-- The entries that are put out. -/
  entries : List (Handle × Entry α)

/-- What is put out at a node: the entries for its host, and those for its domain. -/
def visit (index : Index α) (i : ℕ) : Visit α :=
  ⟨i, index.filedIn [.exact i, .wildcard i]⟩

/-- What is put out at the root, where the entries for every address take the place of those for the host. -/
def rootVisit (index : Index α) : Visit α :=
  ⟨root, index.filedIn [.allUrls, .wildcard root]⟩

mutual

/-- A walk over a node of the table and all below it ends with these visits, and this branch is written. -/
inductive WritesNode (index : Index α) : ℕ → List (Visit α) → Branch α → Prop
  | intro {i : ℕ} {visits : List (Visit α)} {children : List (Text × Branch α)} (hi : i < index.nodes.size)
      (hbelow : WritesChildren index (index.node i).children visits children) :
      WritesNode index i (index.visit i :: visits)
        (.node (index.node i).exact.live (index.node i).wildcard.live children)

/-- The walks over some children of a node, one after another, end with these visits. -/
inductive WritesChildren (index : Index α) : Dict ℕ → List (Visit α) → List (Text × Branch α) → Prop
  | nil : WritesChildren index [] [] []
  | cons {label : Text} {c : ℕ} {rest : Dict ℕ} {visits later : List (Visit α)} {branch : Branch α}
      {children : List (Text × Branch α)} (hchild : WritesNode index c visits branch)
      (hrest : WritesChildren index rest later children) :
      WritesChildren index ((label, c) :: rest) (visits ++ later) ((label, branch) :: children)

end

/-- The walk over an index ends with these visits, and this snapshot is written. -/
inductive Writes (index : Index α) : List (Visit α) → Snapshot α → Prop
  | intro {visits : List (Visit α)} {children : List (Text × Branch α)} (hroot : root < index.nodes.size)
      (hbelow : index.WritesChildren (index.node root).children visits children) :
      Writes index (index.rootVisit :: visits)
        ⟨index.allUrls.live.map (·.value), (index.node root).wildcard.live, children⟩

variable {index : Index α}

/-! ### A walk takes one way -/

mutual

theorem WritesNode.unique {i : ℕ} {visits visits' : List (Visit α)} {b b' : Branch α} :
    index.WritesNode i visits b → index.WritesNode i visits' b' → visits' = visits ∧ b' = b
  | .intro _ hbelow, .intro _ hbelow' => by
    obtain ⟨rfl, rfl⟩ := hbelow.unique hbelow'
    exact ⟨rfl, rfl⟩

theorem WritesChildren.unique {dict : Dict ℕ} {visits visits' : List (Visit α)}
    {children children' : List (Text × Branch α)} :
    index.WritesChildren dict visits children → index.WritesChildren dict visits' children' →
    visits' = visits ∧ children' = children
  | .nil, .nil => ⟨rfl, rfl⟩
  | .cons hchild hrest, .cons hchild' hrest' => by
    obtain ⟨rfl, rfl⟩ := hchild.unique hchild'
    obtain ⟨rfl, rfl⟩ := hrest.unique hrest'
    exact ⟨rfl, rfl⟩

end

theorem Writes.unique {visits visits' : List (Visit α)} {s s' : Snapshot α} (h : index.Writes visits s)
    (h' : index.Writes visits' s') : visits' = visits ∧ s' = s := by
  obtain ⟨_, hbelow⟩ := h
  obtain ⟨_, hbelow'⟩ := h'
  obtain ⟨rfl, rfl⟩ := hbelow.unique hbelow'
  exact ⟨rfl, rfl⟩

/-! ### A walk ends -/

theorem exists_writesChildren {fuel : ℕ} {dict : Dict ℕ}
    (h : ∀ x ∈ dict, ∃ visits, index.WritesNode x.2 visits (index.branch fuel x.2)) :
    ∃ visits, index.WritesChildren dict visits (dict.map fun (label, c) => (label, index.branch fuel c)) := by
  induction dict with
  | nil => exact ⟨[], .nil⟩
  | cons x dict ih =>
    obtain ⟨hx, hdict⟩ := List.forall_mem_cons.mp h
    obtain ⟨visits, hchild⟩ := hx
    obtain ⟨later, hrest⟩ := ih hdict
    exact ⟨visits ++ later, .cons hchild hrest⟩

namespace IsTree

variable (ht : index.IsTree)
include ht

/-- A child lies in the table, and after its parent. -/
theorem lt_of_mem_children {i : ℕ} {x : Text × ℕ} (hx : x ∈ (index.node i).children) :
    i < x.2 ∧ x.2 < index.nodes.size := by
  obtain ⟨path, hpath⟩ := ht.labelled
  obtain ⟨hlt, hsize, -⟩ := hpath.child ((Dict.mem_iff_find? (ht.sorted i)).mp hx)
  exact ⟨hlt, hsize⟩

/-- Each node but the root is the child of one node under one label. -/
theorem existsUnique_parent {c : ℕ} (hpos : root < c) (hlt : c < index.nodes.size) :
    ∃! x : ℕ × Text, (x.2, c) ∈ (index.node x.1).children := by
  obtain ⟨path, hpath⟩ := ht.labelled
  obtain ⟨i, label, hparent⟩ := hpath.parent hpos hlt
  refine ⟨(i, label), (Dict.mem_iff_find? (ht.sorted i)).mpr hparent, fun ⟨j, other⟩ hother => ?_⟩
  have hchild := (Dict.mem_iff_find? (ht.sorted j)).mp hother
  -- the labels of the child are those of its parent and one more, and the labels of the parent name it
  have hlabels := (hpath.child hchild).2.2.symm.trans (hpath.child hparent).2.2
  obtain ⟨hfront, hlast⟩ := List.append_inj' hlabels rfl
  have hj := hpath.follow_path (Nat.lt_trans (hpath.child hchild).1 hlt)
  have hi := hpath.follow_path (Nat.lt_trans (hpath.child hparent).1 hlt)
  rw [hfront, hi] at hj
  exact Prod.ext (Option.some.inj hj).symm (List.singleton_inj.mp hlast)

/-- The walk below a node ends within as many steps down as there are nodes after it. -/
theorem exists_writesNode {fuel i : ℕ} (hi : i < index.nodes.size) (hfuel : index.nodes.size ≤ i + fuel) :
    ∃ visits, index.WritesNode i visits (index.branch fuel i) := by
  -- children lie after their parent, so that fewer nodes are left after them
  induction fuel generalizing i with
  | zero => exact absurd hi (Nat.not_lt_of_le hfuel)
  | succ fuel ih =>
    have hchildren : ∀ x ∈ (index.node i).children,
        ∃ visits, index.WritesNode x.2 visits (index.branch fuel x.2) := by
      intro x hx
      obtain ⟨hlt, hsize⟩ := ht.lt_of_mem_children hx
      exact ih hsize (by omega)
    obtain ⟨visits, hbelow⟩ := exists_writesChildren hchildren
    exact ⟨_, .intro hi hbelow⟩

/-- The walk ends with the snapshot of the index. -/
theorem exists_writes : ∃ visits, index.Writes visits index.toSnapshot := by
  obtain ⟨path, hpath⟩ := ht.labelled
  have hchildren : ∀ x ∈ (index.node root).children,
      ∃ visits, index.WritesNode x.2 visits (index.branch index.nodes.size x.2) := fun x hx =>
    ht.exists_writesNode (ht.lt_of_mem_children hx).2 (Nat.le_add_left _ _)
  obtain ⟨visits, hbelow⟩ := exists_writesChildren hchildren
  exact ⟨_, .intro hpath.root_lt hbelow⟩

end IsTree

/-! ### The nodes that a walk comes to -/

section Nodes

variable {path : ℕ → List Text}

/-- The labels of a node begin with those of another if it is this, or lies below one of its children. -/
theorem LabelledBy.prefix_iff (ht : index.LabelledBy path) {i j : ℕ} (hi : i < index.nodes.size)
    (hj : j < index.nodes.size) :
    path i <+: path j ↔ j = i ∨ ∃ label ∈ Dict.keys (index.node i).children, path i ++ [label] <+: path j := by
  constructor
  · rintro ⟨labels, hlabels⟩
    have hfollow : index.follow i labels = some j := by
      have hwhole := ht.follow_path hj
      rwa [← hlabels, follow_append, ht.follow_path hi, Option.bind_some] at hwhole
    cases labels with
    | nil => exact Or.inl (Option.some.inj hfollow).symm
    | cons label labels =>
      rw [follow_cons] at hfollow
      obtain ⟨c, hc, -⟩ := Option.bind_eq_some_iff.mp hfollow
      have hkey : label ∈ Dict.keys (index.node i).children := by
        by_contra hnone
        exact nomatch (Dict.find?_eq_none_iff.mpr hnone).symm.trans hc
      exact Or.inr ⟨label, hkey, labels, by rw [← hlabels, List.append_assoc, List.singleton_append]⟩
  · rintro (rfl | ⟨label, -, hprefix⟩)
    · exact List.prefix_rfl
    · exact (List.prefix_append _ _).trans hprefix

mutual

/-- A walk comes to the node where it begins and all nodes below it, and to none of them twice. -/
theorem WritesNode.nodes (ht : index.LabelledBy path) (hsorted : ∀ i, Dict.Sorted (index.node i).children)
    {i : ℕ} {visits : List (Visit α)} {b : Branch α} : index.WritesNode i visits b →
    (visits.map (·.node)).Nodup ∧ ∀ j, j ∈ visits.map (·.node) ↔ j < index.nodes.size ∧ path i <+: path j
  | .intro hi hbelow => by
    have hlabels : ∀ x ∈ (index.node i).children, path x.2 = path i ++ [x.1] := fun x hx =>
      (ht.child ((Dict.mem_iff_find? (hsorted i)).mp hx)).2.2
    obtain ⟨hnodup, hmem⟩ := hbelow.nodes ht hsorted (hsorted i) hlabels
    refine ⟨List.nodup_cons.mpr ⟨fun hagain => ?_, hnodup⟩, fun j => ?_⟩
    · -- what lies below a child has more labels
      obtain ⟨-, label, -, hprefix⟩ := (hmem i).mp hagain
      exact absurd hprefix.length_le (by simp)
    · rw [List.map_cons, List.mem_cons, hmem]
      constructor
      · rintro (rfl | ⟨hj, hlabel⟩)
        · exact ⟨hi, List.prefix_rfl⟩
        · exact ⟨hj, (ht.prefix_iff hi hj).mpr (Or.inr hlabel)⟩
      · rintro ⟨hj, hprefix⟩
        exact ((ht.prefix_iff hi hj).mp hprefix).imp_right fun hlabel => ⟨hj, hlabel⟩

/-- The same for some children of a node with given labels. -/
theorem WritesChildren.nodes (ht : index.LabelledBy path) (hsorted : ∀ i, Dict.Sorted (index.node i).children)
    {dict : Dict ℕ} {visits : List (Visit α)} {children : List (Text × Branch α)} {labels : List Text} :
    index.WritesChildren dict visits children → Dict.Sorted dict →
    (∀ x ∈ dict, path x.2 = labels ++ [x.1]) → (visits.map (·.node)).Nodup
      ∧ ∀ j, j ∈ visits.map (·.node) ↔
        j < index.nodes.size ∧ ∃ label ∈ Dict.keys dict, labels ++ [label] <+: path j
  | .nil => fun _ _ => ⟨List.nodup_nil, fun j => by simp [Dict.keys]⟩
  | @WritesChildren.cons _ _ label c rest _ _ _ _ hchild hrest => fun hdict hlabels => by
    obtain ⟨hpath, hothers⟩ := List.forall_mem_cons.mp hlabels
    obtain ⟨hfirst, hdict⟩ := Dict.sorted_cons.mp hdict
    obtain ⟨hnodup, hmem⟩ := hchild.nodes ht hsorted
    obtain ⟨hnodup', hmem'⟩ := hrest.nodes ht hsorted hdict hothers
    rw [hpath] at hmem
    rw [List.map_append]
    refine ⟨List.nodup_append.mpr ⟨hnodup, hnodup', ?_⟩, fun j => ?_⟩
    · -- the labels of a node below two children would go on with both their labels
      rintro j hj _ hj' rfl
      obtain ⟨-, hprefix⟩ := (hmem j).mp hj
      obtain ⟨-, other, hother, hprefix'⟩ := (hmem' j).mp hj'
      have hsame := (List.prefix_of_prefix_length_le hprefix hprefix' (by simp)).eq_of_length (by simp)
      have heq : label = other := by simpa using hsame
      exact absurd (hfirst other hother) (heq ▸ lt_irrefl _)
    · have hkeys : Dict.keys ((label, c) :: rest) = label :: Dict.keys rest := rfl
      rw [List.mem_append, hmem, hmem', hkeys]
      simp only [List.exists_mem_cons_iff, and_or_left]

end

end Nodes

/-! ### What a walk puts out -/

theorem map_snd_filedIn (index : Index α) (places : List BucketPlace) :
    (index.filedIn places).map (·.2) = places.flatMap fun b => (index.bucket b).live := by
  rw [filedIn, List.map_flatMap]
  refine List.flatMap_congr fun b _ => ?_
  rw [List.map_map, Bucket.live_eq_map_slots]
  rfl

mutual

/-- At each node the walk puts out the entries of its buckets, and these make up the branch. -/
theorem WritesNode.entries {i : ℕ} {visits : List (Visit α)} {b : Branch α} : index.WritesNode i visits b →
    (∀ v ∈ visits, v = index.visit v.node) ∧ b.contents = (visits.flatMap (·.entries)).map (·.2)
  | .intro hi hbelow => by
    obtain ⟨hvisits, hcontents⟩ := hbelow.entries
    refine ⟨List.forall_mem_cons.mpr ⟨rfl, hvisits⟩, ?_⟩
    rw [Branch.contents, hcontents, List.flatMap_cons, List.map_append, visit, map_snd_filedIn]
    simp [bucket]

theorem WritesChildren.entries {dict : Dict ℕ} {visits : List (Visit α)} {children : List (Text × Branch α)} :
    index.WritesChildren dict visits children → (∀ v ∈ visits, v = index.visit v.node)
      ∧ Branch.contentsAll children = (visits.flatMap (·.entries)).map (·.2)
  | .nil => ⟨fun v hv => absurd hv List.not_mem_nil, rfl⟩
  | .cons hchild hrest => by
    obtain ⟨hvisits, hcontents⟩ := hchild.entries
    obtain ⟨hvisits', hcontents'⟩ := hrest.entries
    refine ⟨List.forall_mem_append.mpr ⟨hvisits, hvisits'⟩, ?_⟩
    rw [Branch.contentsAll, hcontents, hcontents', List.flatMap_append, List.map_append]

end

/-- The places of the buckets that are written, if these are the nodes after the root in the order in which a
walk comes to them. -/
def writtenPlaces (nodes : List ℕ) : List BucketPlace :=
  .allUrls :: .wildcard root :: nodes.flatMap fun i => [.exact i, .wildcard i]

/-- What a walk puts out are the entries of these buckets. -/
theorem flatMap_entries_eq_filedIn {visits : List (Visit α)} (h : ∀ v ∈ visits, v = index.visit v.node) :
    (index.rootVisit :: visits).flatMap (·.entries) = index.filedIn (writtenPlaces (visits.map (·.node))) := by
  have hnodes : visits.flatMap (·.entries) = (visits.map (·.node)).flatMap fun i => (index.visit i).entries := by
    rw [List.flatMap_map]
    exact List.flatMap_congr fun v hv => congrArg Visit.entries (h v hv)
  rw [List.flatMap_cons, hnodes]
  simp [rootVisit, visit, writtenPlaces, filedIn, List.flatMap_assoc]

theorem nodup_writtenPlaces {nodes : List ℕ} (hnodup : nodes.Nodup) (hroot : root ∉ nodes) :
    (writtenPlaces nodes).Nodup := by
  refine List.nodup_cons.mpr ⟨by simp, List.nodup_cons.mpr ⟨by simpa using hroot, ?_⟩⟩
  refine List.nodup_flatMap.mpr ⟨fun i _ => by simp, hnodup.imp fun hne => ?_⟩
  simp [Function.onFun, hne.symm]

theorem mem_writtenPlaces {nodes : List ℕ} (hmem : ∀ j, j ∈ nodes ↔ root < j ∧ j < index.nodes.size)
    (hroot : root < index.nodes.size) {b : BucketPlace} :
    b ∈ writtenPlaces nodes ↔ b.InRange index ∧ b ≠ .exact root := by
  have hpos (i : ℕ) : root < i ↔ i ≠ root := Nat.pos_iff_ne_zero
  cases b with
  | allUrls => simp [writtenPlaces, BucketPlace.InRange]
  | exact i => simp [writtenPlaces, BucketPlace.InRange, hmem, hpos, and_comm]
  | wildcard i =>
    by_cases hi : i = root
    · simpa [writtenPlaces, BucketPlace.InRange, hi] using hroot
    · simp [writtenPlaces, BucketPlace.InRange, hmem, hpos, hi]

namespace Writes

variable {visits : List (Visit α)} {s : Snapshot α}

/-- The walk over an index comes to the root, and then to each other node once. -/
theorem exists_later (ht : index.IsTree) (h : index.Writes visits s) :
    ∃ later, visits = index.rootVisit :: later ∧ (∀ v ∈ later, v = index.visit v.node)
      ∧ (root :: later.map (·.node)).Nodup
      ∧ ∀ j, j ∈ later.map (·.node) ↔ root < j ∧ j < index.nodes.size := by
  obtain ⟨path, hpath⟩ := ht.labelled
  obtain @⟨later, _, hroot, hbelow⟩ := h
  -- the root is passed as any other node is, and no label leads to it
  obtain ⟨hnodup, hmem⟩ := (WritesNode.intro hroot hbelow).nodes hpath ht.sorted
  refine ⟨later, rfl, hbelow.entries.1, hnodup, fun j => ?_⟩
  have hj : j = root ∨ j ∈ later.map (·.node) ↔ j < index.nodes.size := by
    rw [← List.mem_cons]
    refine (hmem j).trans (and_iff_left ?_)
    rw [hpath.path_root]
    exact List.nil_prefix
  constructor
  · intro hin
    refine ⟨Nat.pos_of_ne_zero ?_, hj.mp (Or.inr hin)⟩
    rintro rfl
    exact (List.nodup_cons.mp hnodup).1 hin
  · rintro ⟨hpos, hlt⟩
    exact (hj.mpr hlt).resolve_left (Nat.ne_of_gt hpos)

/-- The walk comes to the nodes of the table, each once. -/
theorem nodes_perm (ht : index.IsTree) (h : index.Writes visits s) :
    (visits.map (·.node)).Perm (List.range index.nodes.size) := by
  obtain ⟨later, rfl, -, hnodup, hmem⟩ := h.exists_later ht
  obtain ⟨hroot, -⟩ := h
  refine (List.perm_ext_iff_of_nodup hnodup List.nodup_range).mpr fun j => ?_
  rw [List.mem_range, List.mem_cons, hmem]
  constructor
  · rintro (rfl | ⟨-, hlt⟩)
    · exact hroot
    · exact hlt
  · intro hlt
    exact (Nat.eq_zero_or_pos j).imp_right fun hpos => ⟨hpos, hlt⟩

/-- What the walk puts out are the live entries outside the bucket of the root's host, each once. -/
theorem entries_perm (ht : index.IsTree) (h : index.Writes visits s) :
    ((visits.flatMap (·.entries)).map (·.1)).Nodup
      ∧ (visits.flatMap (·.entries)).Perm (index.entries.filter fun x => x.1.bucket != .exact root) := by
  obtain ⟨later, rfl, hvisits, hnodup, hmem⟩ := h.exists_later ht
  obtain ⟨hroot, -⟩ := h
  obtain ⟨hfresh, hnodup⟩ := List.nodup_cons.mp hnodup
  have hhandles := index.nodup_filedIn (nodup_writtenPlaces hnodup hfresh)
  rw [flatMap_entries_eq_filedIn hvisits]
  -- no handle comes twice on either side, so it is enough to tell which entries there are
  refine ⟨hhandles, (List.perm_ext_iff_of_nodup hhandles.of_map (index.nodup_entries.of_map.filter _)).mpr ?_⟩
  rintro ⟨handle, e⟩
  rw [mem_filedIn, mem_writtenPlaces hmem hroot, List.mem_filter, mem_entries, bne_iff_ne]
  constructor
  · rintro ⟨⟨-, hne⟩, he⟩
    exact ⟨he, hne⟩
  · rintro ⟨he, hne⟩
    exact ⟨⟨(isIssued_of_entryAt? he).inRange, hne⟩, he⟩

/-- The payloads that are written are those of the entries that are put out, in their order. -/
theorem map_value_contents (h : index.Writes visits s) :
    s.contents.map (·.value) = (visits.flatMap (·.entries)).map (·.2.value) := by
  obtain ⟨-, hbelow⟩ := h
  have hroot : index.rootVisit.entries.map (·.2) = index.allUrls.live ++ (index.node root).wildcard.live := by
    rw [rootVisit, map_snd_filedIn]
    simp [bucket]
  have hvalues (entries : List (Handle × Entry α)) :
      entries.map (·.2.value) = (entries.map (·.2)).map (·.value) := by
    rw [List.map_map]
    rfl
  rw [hvalues, List.flatMap_cons, List.map_append, hroot, ← hbelow.entries.2]
  simp [Snapshot.contents, Snapshot.branch, Branch.contents, Entry.bare]

end Writes

/-- In an index, empty at first or read from anything, after any calls: the children of a node come under different
labels, in order, and lie in the table after the node; each node but the root is the child of one node under one
label. So the walk that stores the index ends, in one way: it comes to each node of the table once, and puts out
each live entry once, but for those of the root's host alone. What is stored has the payloads of these. -/
theorem writes_after {payload : Decoder α} {start : Index α}
    (hstart : start = empty ∨ ∃ limit tree, decode payload limit tree = some start) (calls : List (Call α)) :
    let index := start.after calls
    (∀ i, Dict.Sorted (index.node i).children
      ∧ ∀ x ∈ (index.node i).children, i < x.2 ∧ x.2 < index.nodes.size)
    ∧ (∀ c, root < c → c < index.nodes.size → ∃! x : ℕ × Text, (x.2, c) ∈ (index.node x.1).children)
    ∧ ∃ visits : List (Visit α),
      (∀ visits' s, index.Writes visits' s ↔ visits' = visits ∧ s = index.toSnapshot)
      ∧ (visits.map (·.node)).Perm (List.range index.nodes.size)
      ∧ ((visits.flatMap (·.entries)).map (·.1)).Nodup
      ∧ (visits.flatMap (·.entries)).Perm (index.entries.filter fun x => x.1.bucket != .exact root)
      ∧ ∀ f, (index.toJson f).storedPayloads = (visits.flatMap (·.entries)).map fun x => f x.2.value := by
  intro index
  have ht : index.IsTree := by
    rcases hstart with rfl | ⟨limit, tree, h⟩
    · exact (regular_empty.after calls).isTree
    · exact ((regular_of_decode h).after calls).isTree
  obtain ⟨visits, hwrites⟩ := ht.exists_writes
  obtain ⟨hnodup, hentries⟩ := hwrites.entries_perm ht
  refine ⟨fun i => ⟨ht.sorted i, fun x => ht.lt_of_mem_children⟩, fun c => ht.existsUnique_parent, visits,
    fun visits' s => ⟨hwrites.unique, ?_⟩, hwrites.nodes_perm ht, hnodup, hentries, fun f => ?_⟩
  · rintro ⟨rfl, rfl⟩
    exact hwrites
  · rw [toJson, Snapshot.storedPayloads_toJson]
    have hvalues := congrArg (List.map f) hwrites.map_value_contents
    rwa [List.map_map, List.map_map] at hvalues

/-- A payload for the host `.` is filed at the root, and is the only one that is not put out. -/
theorem writes_after_example :
    let index : Index Text := empty.after [.insertPattern .allUrls ['a'],
      .insertPattern (.url anyScheme (.subdomains ['b', '.', 'c']) ['/']) ['d'],
      .insertPattern (.url anyScheme (.exact ['.']) ['/']) ['e']]
    index.nodes.size = 3 ∧ index.size = 3 ∧ ∃ visits, index.Writes visits index.toSnapshot
      ∧ (visits.map (·.node)).Perm [0, 1, 2]
      ∧ ((visits.flatMap (·.entries)).map (·.1)).Perm [⟨.allUrls, 0⟩, ⟨.wildcard 2, 0⟩] := by
  intro index
  obtain ⟨-, -, visits, hwrites, hnodes, -, hentries, -⟩ :=
    @writes_after Text Decoder.text empty (Or.inl rfl) [.insertPattern .allUrls ['a'],
      .insertPattern (.url anyScheme (.subdomains ['b', '.', 'c']) ['/']) ['d'],
      .insertPattern (.url anyScheme (.exact ['.']) ['/']) ['e']]
  have hrange : List.range index.nodes.size = [0, 1, 2] := by decide
  have hput : (index.entries.filter fun x => x.1.bucket != .exact root).map (·.1)
      = [⟨.allUrls, 0⟩, ⟨.wildcard 2, 0⟩] := by decide
  exact ⟨by decide, by decide, visits, (hwrites _ _).mpr ⟨rfl, rfl⟩, hnodes.trans (List.Perm.of_eq hrange),
    (hentries.map (·.1)).trans (List.Perm.of_eq hput)⟩

end Index

end ResultFilter
