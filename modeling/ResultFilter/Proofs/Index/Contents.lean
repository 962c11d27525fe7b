import Mathlib.Data.List.Perm.Basic
import ResultFilter.Proofs.Index.Handles
import ResultFilter.Proofs.Index.Snapshot

/-!
# The entries of an index and of its snapshot

The live entries of an index are those on its shelves, one shelf after another, and so are those of a
snapshot. What two indices or an index and a snapshot hold can therefore be compared shelf by shelf, in
whatever order the table and the tree bring them.

## Main definitions

* `Branch.contents`, `Snapshot.contents` — all entries, in the order in which they are stored.
* `Index.Regular` — an index whose nodes form a tree, with bare payloads for every address.

## Main results

* `Index.contents_perm_of_shelves` — indices with the same shelves have the same live entries.
* `Index.contents_toSnapshot_perm` — a snapshot has the live entries but those for the root's host alone.
* `Index.Regular.after` — what calls keep.
-/

namespace ResultFilter

variable {α : Type}

/-! ### The contents of a snapshot -/

namespace Branch

mutual

/-- All entries of a branch: those of its node, and those below it. -/
def contents : Branch α → List (Entry α)
  | .node exact wildcard children => exact ++ wildcard ++ contentsAll children

/-- All entries of the branches below a node. -/
def contentsAll : List (Text × Branch α) → List (Entry α)
  | [] => []
  | (_, b) :: rest => contents b ++ contentsAll rest

end

/-- The branch that labels lead to from a node with given children, which are at least one label away. -/
def below? (children : List (Text × Branch α)) : List Text → Option (Branch α)
  | [] => none
  | label :: labels => (Dict.find? label children).bind (at? labels)

/-- The entries of the node of a branch, if there is one. -/
def own (b : Option (Branch α)) : List (Entry α) :=
  b.elim [] fun b => b.entries false ++ b.entries true

end Branch

namespace Snapshot

/-- All entries of a snapshot. -/
def contents (s : Snapshot α) : List (Entry α) :=
  s.allUrls.map Entry.bare ++ s.branch.contents

end Snapshot

namespace Branch

theorem below?_cons_self {label : Text} {b : Branch α} {children : List (Text × Branch α)} (labels : List Text) :
    below? ((label, b) :: children) (label :: labels) = b.at? labels := by
  rw [below?, Dict.find?, if_pos rfl, Option.bind_some]

theorem below?_cons_of_ne {label other : Text} {b : Branch α} {children : List (Text × Branch α)}
    (h : label ≠ other) (labels : List Text) :
    below? ((label, b) :: children) (other :: labels) = below? children (other :: labels) := by
  rw [below?, Dict.find?, if_neg (by simpa using h)]
  rfl

mutual

/-- Each node of a branch is found under one name, and the entries of the branch are those of its nodes. -/
theorem exists_names {p : α → Prop} : ∀ b : Branch α, b.Within p →
    ∃ names : List (List Text), names.Nodup ∧ (∀ l, l ∈ names ↔ (b.at? l).isSome = true)
      ∧ b.contents = names.flatMap fun l => own (b.at? l)
  | .node exact wildcard children => fun hb => by
    obtain ⟨names, hnodup, hmem, hcontents⟩ := exists_names_below children hb.2.1 hb.2.2
    have hbelow : ∀ {l}, l ∈ names → at? l (.node exact wildcard children) = below? children l := by
      intro l hl
      cases l with
      | nil => exact absurd ((hmem []).mp hl) (by simp [below?])
      | cons label labels => rw [at?, below?]
    refine ⟨[] :: names, List.nodup_cons.mpr ⟨fun hnil => ?_, hnodup⟩, fun l => ?_, ?_⟩
    · exact absurd ((hmem []).mp hnil) (by simp [below?])
    · cases l with
      | nil => simp [at?]
      | cons label labels => rw [List.mem_cons, hmem, below?, at?, or_iff_right (by simp)]
    · rw [contents, hcontents, List.flatMap_cons]
      refine congrArg₂ (· ++ ·) rfl (List.flatMap_congr fun l hl => ?_)
      rw [hbelow hl]

theorem exists_names_below {p : α → Prop} : ∀ children : List (Text × Branch α), Dict.Sorted children →
    AllWithin p children → ∃ names : List (List Text), names.Nodup
      ∧ (∀ l, l ∈ names ↔ (below? children l).isSome = true)
      ∧ contentsAll children = names.flatMap fun l => own (below? children l)
  | [] => fun _ _ => ⟨[], List.nodup_nil, fun l => by cases l <;> simp [below?], rfl⟩
  | (label, b) :: children => fun hsorted hall => by
    obtain ⟨hlt, hsorted⟩ := Dict.sorted_cons.mp hsorted
    obtain ⟨names, hnodup, hmem, hcontents⟩ := exists_names b hall.1
    obtain ⟨rest, hnodup', hmem', hcontents'⟩ := exists_names_below children hsorted hall.2
    -- the names below the other children begin with other labels
    have hother : ∀ {l}, l ∈ rest → ∃ other labels, l = other :: labels ∧ label ≠ other := by
      intro l hl
      have hsome := (hmem' l).mp hl
      cases l with
      | nil => exact absurd hsome (by simp [below?])
      | cons other labels =>
        refine ⟨other, labels, rfl, ?_⟩
        rintro rfl
        have hnone : Dict.find? label children = none :=
          Dict.find?_eq_none_iff.mpr fun hkey => lt_irrefl label (hlt label hkey)
        rw [below?, hnone] at hsome
        exact absurd hsome (by simp)
    refine ⟨names.map (label :: ·) ++ rest, List.nodup_append.mpr ⟨?_, hnodup', ?_⟩, fun l => ?_, ?_⟩
    · exact hnodup.map (List.cons_injective)
    · intro l hl l' hl' heq
      obtain ⟨labels, -, rfl⟩ := List.mem_map.mp hl
      obtain ⟨other, labels', rfl, hne⟩ := hother hl'
      exact hne (List.cons.inj heq).1
    · rw [List.mem_append, List.mem_map]
      constructor
      · rintro (⟨labels, hl, rfl⟩ | hl)
        · rw [below?_cons_self]
          exact (hmem labels).mp hl
        · obtain ⟨other, labels, rfl, hne⟩ := hother hl
          rw [below?_cons_of_ne hne]
          exact (hmem' _).mp hl
      · intro hsome
        cases l with
        | nil => exact absurd hsome (by simp [below?])
        | cons other labels =>
          by_cases hne : label = other
          · subst hne
            rw [below?_cons_self] at hsome
            exact Or.inl ⟨labels, (hmem labels).mpr hsome, rfl⟩
          · rw [below?_cons_of_ne hne] at hsome
            exact Or.inr ((hmem' _).mpr hsome)
    · rw [contentsAll, hcontents, hcontents', List.flatMap_append, List.flatMap_map]
      refine congrArg₂ (· ++ ·) (List.flatMap_congr fun l _ => ?_) (List.flatMap_congr fun l hl => ?_)
      · rw [below?_cons_self]
      · obtain ⟨other, labels, rfl, hne⟩ := hother hl
        rw [below?_cons_of_ne hne]

end

end Branch

/-- The entries of a snapshot are those on its shelves. -/
theorem Snapshot.exists_names {p : α → Prop} {s : Snapshot α} (hs : s.Within p) :
    ∃ names : List Shelf, names.Nodup ∧ (∀ σ, σ ∈ names ↔ (s.shelf? σ).isSome = true)
      ∧ s.contents = names.flatMap fun σ => (s.shelf? σ).getD [] := by
  obtain ⟨names, hnodup, hmem, hcontents⟩ := Branch.exists_names s.branch hs.branch
  refine ⟨.allUrls :: names.flatMap fun l => [.host false l, .host true l],
    List.nodup_cons.mpr ⟨by simp, List.nodup_flatMap.mpr ⟨fun l _ => by simp, ?_⟩⟩, fun σ => ?_, ?_⟩
  · refine hnodup.imp fun hne => ?_
    simp [Function.onFun, hne.symm]
  · cases σ with
    | allUrls => simp [shelf?]
    | host isWildcard l =>
      rw [shelf?, Option.isSome_map, ← hmem]
      cases isWildcard <;> simp
  · rw [contents, hcontents, List.flatMap_cons, List.flatMap_assoc]
    refine congrArg₂ (· ++ ·) rfl (List.flatMap_congr fun l _ => ?_)
    simp only [List.flatMap_cons, List.flatMap_nil, List.append_nil, shelf?, Branch.own]
    cases s.branch.at? l <;> rfl

namespace Index

/-- The live entries of an index are those on its shelves. -/
theorem IsTree.exists_names {index : Index α} (htree : index.IsTree) :
    ∃ names : List Shelf, names.Nodup ∧ (∀ σ, σ ∈ names ↔ (index.shelf? σ).isSome = true)
      ∧ index.entries.map (·.2) = names.flatMap fun σ => (index.shelf? σ).getD [] := by
  obtain ⟨path, ht⟩ := htree.labelled
  refine ⟨index.places.map (·.shelf path), index.nodup_places.map_on fun b hb c hc heq => ?_, fun σ => ?_, ?_⟩
  · have hplace := ht.placeOf?_shelf (mem_places.mp hb)
    rw [heq, ht.placeOf?_shelf (mem_places.mp hc)] at hplace
    exact (Option.some.inj hplace).symm
  · rw [shelf?, Option.isSome_map, Option.isSome_iff_exists, List.mem_map]
    refine exists_congr fun b => ?_
    rw [mem_places, ht.placeOf?_eq_some_iff]
  · rw [entries_eq_filedIn, filedIn, List.map_flatMap, List.flatMap_map]
    refine List.flatMap_congr fun b hb => ?_
    rw [ht.shelf?_shelf (mem_places.mp hb), Bucket.live_eq_map_slots, List.map_map]
    rfl

/-- Indices with the same shelves have the same live entries. -/
theorem contents_perm_of_shelves {index other : Index α} (htree : index.IsTree) (hother : other.IsTree)
    (hshelves : ∀ σ, index.shelf? σ = other.shelf? σ) :
    (index.entries.map (·.2)).Perm (other.entries.map (·.2)) := by
  obtain ⟨names, hnodup, hmem, hcontents⟩ := htree.exists_names
  obtain ⟨names', hnodup', hmem', hcontents'⟩ := hother.exists_names
  have hnames : names.Perm names' := (List.perm_ext_iff_of_nodup hnodup hnodup').mpr fun σ => by
    rw [hmem, hmem', hshelves]
  rw [hcontents, hcontents']
  simp only [hshelves]
  exact hnames.flatMap_right _

/-- A snapshot has the live entries of its index but those for the root's host alone. -/
theorem contents_toSnapshot_perm {index : Index α} (htree : index.IsTree)
    (hbare : ∀ e ∈ index.allUrls.live, e = Entry.bare e.value) :
    (index.toSnapshot.contents ++ (index.bucket (.exact root)).live).Perm (index.entries.map (·.2)) := by
  obtain ⟨names, hnodup, hmem, hcontents⟩ := htree.exists_names
  obtain ⟨names', hnodup', hmem', hcontents'⟩ :=
    Snapshot.exists_names (within_toSnapshot htree (p := fun _ => True) fun _ _ _ => trivial)
  have hroot : index.shelf? (.host false []) = some (index.bucket (.exact root)).live := rfl
  have hnames : names'.Perm names := (List.perm_ext_iff_of_nodup hnodup' hnodup).mpr fun σ => by
    rw [hmem, hmem', shelf?_toSnapshot htree hbare]
    split
    · next h => rw [h, hroot]; simp
    · rfl
  obtain ⟨front, back, rfl⟩ := List.append_of_mem ((hmem (.host false [])).mpr (by rw [hroot]; rfl))
  -- only the shelf of the root's host alone is empty in the snapshot
  have hother : ∀ l : List Shelf, l.Sublist (front ++ back) → l.flatMap (fun σ => (index.toSnapshot.shelf? σ).getD [])
      = l.flatMap fun σ => (index.shelf? σ).getD [] := by
    intro l hl
    refine List.flatMap_congr fun σ hσ => ?_
    rw [shelf?_toSnapshot htree hbare, if_neg]
    rintro rfl
    exact (List.nodup_cons.mp (List.nodup_middle.mp hnodup)).1 (hl.subset hσ)
  rw [hcontents', hcontents]
  refine ((hnames.flatMap_right _).append_right _).trans ?_
  have hlost : index.toSnapshot.shelf? (.host false []) = some [] := by
    rw [shelf?_toSnapshot htree hbare, if_pos rfl]
  rw [List.flatMap_append, List.flatMap_append, List.flatMap_cons, List.flatMap_cons,
    hother front (List.sublist_append_left _ _), hother back (List.sublist_append_right _ _), hlost, hroot,
    Option.getD_some, Option.getD_some, List.nil_append, List.append_assoc]
  exact (List.perm_append_comm).append_left _

/-! ### What calls keep -/

/-- An index whose nodes form a tree, which counts its entries, and which has bare payloads for every
address. -/
structure Regular (index : Index α) : Prop where
  /-- The nodes form a tree. -/
  isTree : index.IsTree
  /-- The entries are counted. -/
  lists : ∃ filed, index.Lists filed
  /-- The payloads for every address are bare. -/
  bare : ∀ e ∈ index.allUrls.live, e = Entry.bare e.value

theorem regular_empty : (empty : Index α).Regular :=
  ⟨isTree_empty, ⟨_, lists_empty⟩, by simp [empty, Bucket.live]⟩

/-- An index that is made of a snapshot. -/
theorem regular_ofSnapshot {p : α → Prop} {s : Snapshot α} (hs : s.Within p) : (ofSnapshot s).Regular := by
  obtain ⟨htree, hshelves, hlists⟩ := shelf?_ofSnapshot hs
  refine ⟨htree, hlists, fun e he => ?_⟩
  have hall : (ofSnapshot s).allUrls.live = s.allUrls.map Entry.bare := Option.some.inj (hshelves .allUrls)
  rw [hall] at he
  obtain ⟨a, -, rfl⟩ := List.mem_map.mp he
  rfl

namespace Regular

variable {index : Index α} (hi : index.Regular)
include hi

theorem size_eq : index.size = index.entries.length := by
  obtain ⟨filed, hl⟩ := hi.lists
  rw [(hl.perm index.nodup_entries fun h e => mem_entries).length_eq, hl.size_eq]

/-- The handle that is given out had no entry. -/
theorem entryAt?_eq_none {index' : Index α} {p : MatchPattern} {value : α} {h : Handle}
    (hins : index.insertPattern p value = .ok (index', h)) : index.entryAt? h = none := by
  obtain ⟨filed, hl⟩ := hi.lists
  have hnodup := (hl.insertPattern hi.isTree hins).nodup
  rw [List.map_append] at hnodup
  refine Option.eq_none_iff_forall_ne_some.mpr fun e he => ?_
  refine List.disjoint_of_nodup_append hnodup (List.mem_map_of_mem (hl.mem_iff.mpr he)) ?_
  rw [List.map_singleton, List.mem_singleton]

theorem insertPattern {index' : Index α} {p : MatchPattern} {value : α} {h : Handle}
    (hins : index.insertPattern p value = .ok (index', h)) : index'.Regular := by
  obtain ⟨htree, hshelves⟩ := hi.isTree.insertPattern hins
  obtain ⟨filed, hl⟩ := hi.lists
  refine ⟨htree, ⟨_, hl.insertPattern hi.isTree hins⟩, fun e he => ?_⟩
  have hall := hshelves .allUrls
  have hlabels : Shelf.allUrls.labels <+: p.shelf.labels := List.nil_prefix
  have hold : index.shelf? .allUrls = some index.allUrls.live := rfl
  rw [if_pos hlabels, hold, Option.getD_some] at hall
  cases p with
  | allUrls =>
    rw [if_pos (show Shelf.allUrls = MatchPattern.shelf .allUrls from rfl)] at hall
    have hlive : index'.allUrls.live = index.allUrls.live ++ [.under value .allUrls] := Option.some.inj hall
    rw [hlive, List.mem_append, List.mem_singleton] at he
    rcases he with he | rfl
    · exact hi.bare e he
    · rfl
  | url scheme host path =>
    rw [if_neg (by simp [MatchPattern.shelf])] at hall
    have hlive : index'.allUrls.live = index.allUrls.live := Option.some.inj hall
    exact hi.bare e (hlive ▸ he)

theorem remove (h : Handle) : (index.remove h).2.Regular := by
  obtain ⟨filed, hl⟩ := hi.lists
  refine ⟨hi.isTree.remove h, ⟨_, hl.remove h⟩, fun e he => hi.bare e ?_⟩
  obtain ⟨slot, hslot⟩ := Bucket.mem_live.mp he
  have hentry : (index.remove h).2.entryAt? ⟨.allUrls, slot⟩ = some e := hslot
  rw [entryAt?_remove] at hentry
  split at hentry
  · exact absurd hentry (by simp)
  · exact Bucket.mem_live.mpr ⟨slot, hentry⟩

theorem answer (c : Call α) : (index.answer c).1.Regular := by
  rcases index.answer_cases c with ⟨e, -, heq⟩ | ⟨p, value, index', h, -, -, -, hins, heq⟩ | ⟨h, rfl, heq⟩
  · rwa [heq]
  · rw [heq]
    exact hi.insertPattern hins
  · rw [heq]
    exact hi.remove h

/-- What any calls keep. -/
theorem after (calls : List (Call α)) : (index.after calls).Regular := by
  induction calls generalizing index with
  | nil => exact hi
  | cons c calls ih => exact ih (hi.answer c)

end Regular

end Index

end ResultFilter
