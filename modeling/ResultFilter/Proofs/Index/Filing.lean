import ResultFilter.Proofs.Index.Tree

/-!
# What an index holds

An index stands for a list of filings: which payload lies under which pattern, and behind which handle.
Filing a payload adds to the list and removing a handle takes from it; what the index does with its table
in between cannot be seen.

## Main definitions

* `Filing` — a payload with its pattern and its handle.
* `MatchPattern.isServed` — whether an index takes a pattern.
* `BucketPlace.Fits` — whether a bucket is the one for a pattern.
* `Index.Holds` — the filings that an index stands for.

## Main results

* `insertPattern_of_isServed`, `insertPattern_of_not_isServed` — when a payload is filed, and where.
* `Holds.insertPattern` — filing a payload adds it behind a handle that was never given out.
* `Holds.entries_perm` — the live entries are those of the filings.
* `Holds.remove` — removing a handle takes back what lies behind it and nothing else.
-/

namespace ResultFilter

/-- Whether an index takes a pattern: its scheme is the star or one of the web. -/
def MatchPattern.isServed : MatchPattern → Bool
  | .allUrls => true
  | .url scheme _ _ => scheme == anyScheme || isWebScheme scheme

/-- Filing tests a scheme for what keeps an index from taking the pattern. -/
theorem MatchPattern.guard_eq_not_isServed (scheme : Text) (host : HostPattern) (path : Text) :
    (scheme != anyScheme && !isWebScheme scheme) = !(url scheme host path).isServed := by
  rw [isServed, bne, Bool.not_or]

/-- The entry of a payload under a pattern. -/
def Entry.under {α : Type} (value : α) : MatchPattern → Entry α
  | .allUrls => bare value
  | .url scheme _ path => ⟨value, scheme, path⟩

@[simp] theorem Entry.value_under {α : Type} (value : α) (p : MatchPattern) :
    (Entry.under value p).value = value := by
  cases p <;> rfl

/-- A payload filed under a pattern, with the handle given for it. -/
structure Filing (α : Type) where
  /-- The handle. -/
  handle : Handle
  /-- The pattern. -/
  pattern : MatchPattern
  /-- The payload. -/
  value : α

/-- The entry of a filing. -/
def Filing.entry {α : Type} (f : Filing α) : Entry α :=
  .under f.value f.pattern

/-- Whether a bucket is the one for a pattern, where `path` names the nodes: the name of its node is the
domain of the pattern, and the bucket is that of the host alone if the pattern covers nothing below. -/
def BucketPlace.Fits (path : Nat → List Text) : BucketPlace → MatchPattern → Prop
  | .allUrls, .allUrls => True
  | .exact i, .url _ host _ => path i = Host.reversedLabels host.domain ∧ host.isWildcard = false
  | .wildcard i, .url _ host _ => path i = Host.reversedLabels host.domain ∧ host.isWildcard = true
  | _, _ => False

namespace Index

variable {α : Type}

/-- The filings that an index stands for: each lies where its pattern belongs, no two have one handle, and
there are no other entries. -/
structure Holds (index : Index α) (filings : List (Filing α)) : Prop where
  /-- The nodes form a tree in which each filing has the place of its pattern. -/
  placed : ∃ path, index.LabelledBy path ∧ ∀ f ∈ filings, f.handle.bucket.Fits path f.pattern
  /-- The handles differ. -/
  nodup : (filings.map (·.handle)).Nodup
  /-- Behind each handle lies the entry of its filing. -/
  entryAt?_eq_some_iff {h : Handle} {e : Entry α} :
    index.entryAt? h = some e ↔ ∃ f ∈ filings, f.handle = h ∧ f.entry = e
  /-- The entries are counted. -/
  size_eq : index.size = filings.length

theorem BucketPlace.Fits.congr {index : Index α} {path path' : Nat → List Text} {b : BucketPlace}
    {p : MatchPattern} (h : b.Fits path p) (hb : b.InRange index)
    (hpath : ∀ {i : Nat}, i < index.nodes.size → path' i = path i) : b.Fits path' p := by
  cases b with
  | allUrls =>
    cases p with
    | allUrls => exact trivial
    | url scheme host _ => exact h.elim
  | exact i =>
    cases p with
    | allUrls => exact h.elim
    | url scheme host _ => exact ⟨(hpath hb).trans h.1, h.2⟩
  | wildcard i =>
    cases p with
    | allUrls => exact h.elim
    | url scheme host _ => exact ⟨(hpath hb).trans h.1, h.2⟩

theorem holds_empty : (empty : Index α).Holds [] where
  placed := ⟨_, labelledBy_empty, by simp⟩
  nodup := List.nodup_nil
  entryAt?_eq_some_iff := fun {h e} => by
    have hbucket : (empty : Index α).bucket h.bucket = #[] := by
      cases h.bucket with
      | allUrls => rfl
      | exact i => cases i <;> rfl
      | wildcard i => cases i <;> rfl
    simp [entryAt?, hbucket, Bucket.at?]
  size_eq := rfl

/-! ### Filing -/

theorem labelledBy_pushEntry {index : Index α} {path : Nat → List Text} (ht : index.LabelledBy path)
    (b : BucketPlace) (e : Entry α) : (index.pushEntry b e).1.LabelledBy path :=
  ht.congr (size_nodes_modifyBucket index _ b) (children_modifyBucket index _ b)

/-- A served pattern is filed: nodes are made as they are needed, and the entry goes to the end of the
bucket that fits the pattern. -/
theorem insertPattern_of_isServed {index : Index α} {path : Nat → List Text}
    (ht : index.LabelledBy path) {p : MatchPattern} (hp : p.isServed = true) (value : α) :
    ∃ grown path' b, index.GrowsTo path grown path' ∧ b.InRange grown ∧ b.Fits path' p
      ∧ index.insertPattern p value = .ok (grown.pushEntry b (.under value p)) := by
  cases p with
  | allUrls => exact ⟨index, path, .allUrls, ht.growsTo, trivial, trivial, rfl⟩
  | url scheme host urlPath =>
    obtain ⟨path', hgrow, hlt, hpath⟩ :=
      growsTo_descend (Host.reversedLabels host.domain) ht ht.root_lt
    rw [ht.path_root, List.nil_append] at hpath
    rw [insertPattern, MatchPattern.guard_eq_not_isServed scheme host urlPath, hp]
    cases hw : host.isWildcard with
    | false => exact ⟨_, path', .exact _, hgrow, hlt, ⟨hpath, hw⟩, rfl⟩
    | true => exact ⟨_, path', .wildcard _, hgrow, hlt, ⟨hpath, hw⟩, rfl⟩

theorem insertPattern_of_not_isServed (index : Index α) {p : MatchPattern} (hp : p.isServed = false)
    (value : α) : ∃ e, index.insertPattern p value = .error e := by
  cases p with
  | allUrls => exact absurd hp (by simp [MatchPattern.isServed])
  | url scheme host urlPath =>
    exact ⟨_, by rw [insertPattern, MatchPattern.guard_eq_not_isServed scheme host urlPath, hp]; rfl⟩

/-- Every served pattern is taken. -/
theorem exists_insertPattern (index : Index α) {p : MatchPattern} (hp : p.isServed = true) (value : α) :
    ∃ index' h, index.insertPattern p value = .ok (index', h) := by
  cases p with
  | allUrls => exact ⟨_, _, rfl⟩
  | url scheme host path =>
    exact ⟨_, _, by rw [insertPattern, MatchPattern.guard_eq_not_isServed scheme host path, hp]; rfl⟩

theorem isServed_of_insertPattern {index index' : Index α} {p : MatchPattern} {value : α} {h : Handle}
    (hins : index.insertPattern p value = .ok (index', h)) : p.isServed = true := by
  by_contra hp
  obtain ⟨e, he⟩ := insertPattern_of_not_isServed index (Bool.eq_false_iff.mpr hp) value
  rw [he] at hins
  exact absurd hins (by simp)

section Grow

variable {index grown : Index α} {path path' : Nat → List Text} (hg : index.GrowsTo path grown path')
include hg

theorem GrowsTo.entryAt?_eq (h : Handle) : grown.entryAt? h = index.entryAt? h := by
  rw [entryAt?, hg.bucket_eq, entryAt?]

theorem GrowsTo.isIssued_iff (h : Handle) : grown.IsIssued h ↔ index.IsIssued h := by
  rw [IsIssued, hg.bucket_eq, IsIssued]

end Grow

namespace Holds

variable {index : Index α} {filings : List (Filing α)} (hh : index.Holds filings)
include hh

theorem isIssued {f : Filing α} (hf : f ∈ filings) : index.IsIssued f.handle :=
  isIssued_of_entryAt? (hh.entryAt?_eq_some_iff.mpr ⟨f, hf, rfl, rfl⟩)

theorem get?_eq_some_iff {h : Handle} {value : α} :
    index.get? h = some value ↔ ∃ f ∈ filings, f.handle = h ∧ f.value = value := by
  unfold get?
  rw [Option.map_eq_some_iff]
  constructor
  · rintro ⟨e, he, rfl⟩
    obtain ⟨f, hf, hfh, rfl⟩ := hh.entryAt?_eq_some_iff.mp he
    exact ⟨f, hf, hfh, (Entry.value_under f.value f.pattern).symm⟩
  · rintro ⟨f, hf, hfh, rfl⟩
    exact ⟨f.entry, hh.entryAt?_eq_some_iff.mpr ⟨f, hf, hfh, rfl⟩, Entry.value_under f.value f.pattern⟩

theorem get?_eq_none_iff {h : Handle} : index.get? h = none ↔ h ∉ filings.map (·.handle) := by
  rw [← not_iff_not, ← ne_eq, Option.ne_none_iff_exists', not_not, List.mem_map]
  constructor
  · rintro ⟨value, hget⟩
    obtain ⟨f, hf, hfh, -⟩ := hh.get?_eq_some_iff.mp hget
    exact ⟨f, hf, hfh⟩
  · rintro ⟨f, hf, hfh⟩
    exact ⟨f.value, hh.get?_eq_some_iff.mpr ⟨f, hf, hfh, rfl⟩⟩

/-- The live entries are those of the filings, each behind its handle. -/
theorem entries_perm : index.entries.Perm (filings.map fun f => (f.handle, f.entry)) := by
  have hfilings : (filings.map fun f => (f.handle, f.entry)).Nodup := by
    refine List.Nodup.of_map Prod.fst ?_
    rw [List.map_map]
    exact hh.nodup
  refine (List.perm_ext_iff_of_nodup (List.Nodup.of_map _ index.nodup_entries) hfilings).mpr ?_
  rintro ⟨h, e⟩
  rw [mem_entries, hh.entryAt?_eq_some_iff, List.mem_map]
  simp only [Prod.mk.injEq]

theorem size_eq_length_entries : index.size = index.entries.length := by
  rw [hh.entries_perm.length_eq, List.length_map, hh.size_eq]

/-- A payload is filed behind a handle that was never given out, and nothing else changes. -/
theorem insertPattern {index' : Index α} {p : MatchPattern} {value : α} {h : Handle}
    (hins : index.insertPattern p value = .ok (index', h)) :
    index'.Holds (filings ++ [⟨h, p, value⟩]) ∧ ¬ index.IsIssued h
      ∧ ∀ other, index'.IsIssued other ↔ other = h ∨ index.IsIssued other := by
  obtain ⟨path, ht, hfits⟩ := hh.placed
  obtain ⟨grown, path', b, hg, hb, hfit, heq⟩ :=
    insertPattern_of_isServed ht (isServed_of_insertPattern hins) value
  obtain ⟨rfl, rfl⟩ : (grown.pushEntry b (.under value p)).1 = index'
      ∧ (grown.pushEntry b (.under value p)).2 = h := by
    rw [heq] at hins
    simpa [Prod.ext_iff] using hins
  have hnew : ¬ index.IsIssued (grown.pushEntry b (.under value p)).2 := by
    rw [← hg.isIssued_iff]
    exact not_isIssued_pushEntry grown b _
  refine ⟨?_, hnew, fun other => by rw [isIssued_pushEntry hb, hg.isIssued_iff]⟩
  exact
    { placed := by
        refine ⟨path', labelledBy_pushEntry hg.labelled b _, fun f hf => ?_⟩
        rcases List.mem_append.mp hf with hf | hf
        · exact BucketPlace.Fits.congr (hfits f hf) (hh.isIssued hf).inRange hg.path_eq
        · obtain rfl := List.mem_singleton.mp hf
          exact hfit
      nodup := by
        rw [List.map_append, List.map_singleton]
        refine hh.nodup.append (List.nodup_singleton _) (List.disjoint_singleton.mpr fun hmem => ?_)
        obtain ⟨f, hf, hfh⟩ := List.mem_map.mp hmem
        have hissued := hh.isIssued hf
        rw [hfh] at hissued
        exact hnew hissued
      entryAt?_eq_some_iff := by
        intro other e
        rw [entryAt?_pushEntry hb, hg.entryAt?_eq]
        simp only [List.mem_append, List.mem_singleton, or_and_right, exists_or, exists_eq_left]
        split
        · next hother =>
          subst hother
          constructor
          · intro he
            exact Or.inr ⟨rfl, Option.some.inj he⟩
          · rintro (⟨f, hf, hfh, -⟩ | ⟨-, rfl⟩)
            · exact absurd (hfh ▸ hh.isIssued hf) hnew
            · rfl
        · next hother =>
          rw [hh.entryAt?_eq_some_iff]
          exact ⟨Or.inl, fun h => h.resolve_right fun hr => hother hr.1.symm⟩
      size_eq := by
        rw [List.length_append, List.length_singleton, ← hh.size_eq, ← hg.size_eq]
        rfl }

/-! ### Removing -/

/-- Removing a handle takes back what lies behind it and nothing else. -/
theorem remove (h : Handle) : (index.remove h).2.Holds (filings.filter (·.handle ≠ h)) where
  placed := by
    obtain ⟨path, ht, hfits⟩ := hh.placed
    refine ⟨path, ?_, fun f hf => hfits f (List.mem_of_mem_filter hf)⟩
    unfold Index.remove
    split
    · exact ht
    · exact ht.congr (size_nodes_modifyBucket index _ h.bucket) (children_modifyBucket index _ h.bucket)
  nodup := hh.nodup.sublist (List.filter_sublist.map _)
  entryAt?_eq_some_iff := by
    intro other e
    rw [entryAt?_remove]
    simp only [List.mem_filter, decide_eq_true_eq]
    split
    · next hother =>
      subst hother
      simp only [reduceCtorEq, false_iff, not_exists, not_and]
      rintro f ⟨-, hne⟩ hfh
      exact absurd hfh hne
    · next hother =>
      rw [hh.entryAt?_eq_some_iff]
      constructor
      · rintro ⟨f, hf, rfl, hfe⟩
        exact ⟨f, ⟨hf, hother⟩, rfl, hfe⟩
      · rintro ⟨f, ⟨hf, -⟩, hfh, hfe⟩
        exact ⟨f, hf, hfh, hfe⟩
  size_eq := by
    have hcount : (filings.filter (·.handle ≠ h)).length + (filings.map (·.handle)).count h
        = filings.length := by
      rw [← List.countP_eq_length_filter, List.count, List.countP_map,
        List.length_eq_countP_add_countP (fun f : Filing α => f.handle ≠ h)]
      congr 1
      refine List.countP_congr fun f _ => ?_
      simp
    unfold Index.remove
    split
    · next hget =>
      rw [List.count_eq_zero_of_not_mem (hh.get?_eq_none_iff.mp hget)] at hcount
      exact hh.size_eq.trans hcount.symm
    · next value hget =>
      obtain ⟨f, hf, hfh, -⟩ := hh.get?_eq_some_iff.mp hget
      rw [List.count_eq_one_of_mem hh.nodup (List.mem_map.mpr ⟨f, hf, hfh⟩)] at hcount
      show index.size - 1 = _
      rw [hh.size_eq]
      omega

/-- A removal is counted if there was something behind the handle. -/
theorem size_remove (h : Handle) :
    (index.remove h).2.size + (index.get? h).toList.length = index.size := by
  unfold Index.remove
  split
  · next hget => rw [hget]; rfl
  · next value hget =>
    obtain ⟨f, hf, -⟩ := hh.get?_eq_some_iff.mp hget
    have hpos := List.length_pos_of_mem hf
    show index.size - 1 + (index.get? h).toList.length = index.size
    rw [hget, hh.size_eq, Option.toList_some, List.length_singleton]
    omega

end Holds

end Index

end ResultFilter
