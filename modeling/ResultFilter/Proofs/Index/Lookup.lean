import Mathlib.Data.List.Infix
import ResultFilter.Proofs.Index.Filing

/-!
# Looking up an address

A lookup walks down the labels of a host and collects what it passes. The entries that it collects are
those whose pattern covers the address, each once: a bucket is on the way if and only if the domain or
the host of its patterns covers the host.

## Main definitions

* `Index.visited`, `Index.searched` — the buckets that a walk and a lookup look into.

## Main results

* `mem_searched_iff` — which buckets are searched, by the names of their nodes.
* `lookup_eq_filedIn` — a lookup gives the payloads of the entries in the buckets searched that cover the
  address.
* `Holds.lookup_perm` — a lookup gives the payloads of the filings whose pattern covers the address.
-/

namespace ResultFilter

/-- An entry for every scheme and path covers every address of the web. -/
theorem Entry.covers_bare {α : Type} {url : Url} (hweb : url.isWeb = true) (value : α) :
    (Entry.bare value).covers url = true := by
  simpa [Entry.bare, Entry.covers, schemeMatches, pathMatches, Url.isWeb] using hweb

namespace Index

variable {α : Type}

/-- The buckets that a walk along labels looks into: that of each node for its domain, and where the
labels end also that for the host alone. -/
def visited (index : Index α) (i : Nat) : List Text → List BucketPlace
  | [] => [.wildcard i, .exact i]
  | label :: labels =>
    .wildcard i ::
      match (index.node i).children.find? label with
      | some child => index.visited child labels
      | none => []

/-- The buckets that a lookup looks into. -/
def searched (index : Index α) (host : Text) : List BucketPlace :=
  .allUrls :: index.visited root (Host.reversedLabels host)

/-! ### The buckets on the way -/

theorem visited_cons (index : Index α) (i : Nat) (label : Text) (labels : List Text) :
    index.visited i (label :: labels)
      = .wildcard i :: (((index.node i).children.find? label).map (index.visited · labels)).getD [] := by
  rw [visited]
  split <;> simp [*]

theorem allUrls_not_mem_visited (index : Index α) : ∀ (labels : List Text) (i : Nat),
    .allUrls ∉ index.visited i labels := by
  intro labels
  induction labels with
  | nil => intro i; simp [visited]
  | cons label labels ih =>
    intro i
    rw [visited_cons]
    cases (index.node i).children.find? label with
    | none => simp
    | some c => simpa using ih c

theorem exact_mem_visited (index : Index α) {j : Nat} : ∀ {labels : List Text} {i : Nat},
    .exact j ∈ index.visited i labels ↔ index.follow i labels = some j := by
  intro labels
  induction labels with
  | nil => intro i; simp [visited, eq_comm]
  | cons label labels ih =>
    intro i
    rw [visited_cons, follow_cons]
    cases (index.node i).children.find? label with
    | none => simp
    | some c => simpa using ih

theorem wildcard_mem_visited (index : Index α) {j : Nat} : ∀ {labels : List Text} {i : Nat},
    .wildcard j ∈ index.visited i labels ↔ ∃ front, front <+: labels ∧ index.follow i front = some j := by
  intro labels
  induction labels with
  | nil => intro i; simp [visited, eq_comm]
  | cons label labels ih =>
    intro i
    rw [visited_cons, List.mem_cons]
    constructor
    · rintro (heq | hmem)
      · obtain rfl := BucketPlace.wildcard.inj heq
        exact ⟨[], List.nil_prefix, rfl⟩
      · cases hc : (index.node i).children.find? label with
        | none => simp [hc] at hmem
        | some c =>
          rw [hc] at hmem
          obtain ⟨front, hfront, hj⟩ := ih.mp hmem
          exact ⟨label :: front, List.cons_prefix_cons.mpr ⟨rfl, hfront⟩, by rw [follow_cons, hc]; exact hj⟩
    · rintro ⟨front, hfront, hj⟩
      cases front with
      | nil =>
        obtain rfl : i = j := by simpa using hj
        exact Or.inl rfl
      | cons first front =>
        obtain ⟨rfl, htail⟩ := List.cons_prefix_cons.mp hfront
        rw [follow_cons] at hj
        obtain ⟨c, hc, hj⟩ := Option.bind_eq_some_iff.mp hj
        rw [hc]
        exact Or.inr (ih.mpr ⟨front, htail, hj⟩)

namespace LabelledBy

variable {index : Index α} {path : Nat → List Text} (ht : index.LabelledBy path)
include ht

theorem le_of_follow : ∀ {labels : List Text} {i j : Nat}, index.follow i labels = some j → i ≤ j := by
  intro labels
  induction labels with
  | nil =>
    intro i j h
    exact Nat.le_of_eq (by simpa using h)
  | cons label labels ih =>
    intro i j h
    rw [follow_cons] at h
    obtain ⟨c, hc, hj⟩ := Option.bind_eq_some_iff.mp h
    exact Nat.le_trans (Nat.le_of_lt (ht.child hc).1) (ih hj)

/-- No bucket is visited twice, since the way leads forward in the table. -/
theorem nodup_visited : ∀ (labels : List Text) (i : Nat), (index.visited i labels).Nodup := by
  intro labels
  induction labels with
  | nil => intro i; simp [visited]
  | cons label labels ih =>
    intro i
    rw [visited_cons]
    cases hc : (index.node i).children.find? label with
    | none => simp
    | some c =>
      refine List.nodup_cons.mpr ⟨fun hmem => ?_, ih c⟩
      obtain ⟨front, -, hfollow⟩ := (wildcard_mem_visited index).mp hmem
      have hle := ht.le_of_follow hfollow
      have hlt := (ht.child hc).1
      omega

theorem nodup_searched (host : Text) : (index.searched host).Nodup :=
  List.nodup_cons.mpr ⟨allUrls_not_mem_visited index _ _, ht.nodup_visited _ _⟩

/-- The buckets that are searched are that of every address, those of the nodes whose name begins that of
the host, and the one of the node that has the name of the host. -/
theorem mem_searched_iff {b : BucketPlace} (hb : b.InRange index) (host : Text) :
    b ∈ index.searched host ↔
      match b with
      | .allUrls => True
      | .exact i => path i = Host.reversedLabels host
      | .wildcard i => path i <+: Host.reversedLabels host := by
  rw [searched, List.mem_cons]
  cases b with
  | allUrls => simp
  | exact i =>
    rw [exact_mem_visited, ht.follow_root_eq_some_iff]
    simp only [reduceCtorEq, false_or]
    exact ⟨And.right, fun h => ⟨hb, h⟩⟩
  | wildcard i =>
    rw [wildcard_mem_visited]
    simp only [reduceCtorEq, false_or]
    constructor
    · rintro ⟨front, hfront, h⟩
      obtain ⟨-, rfl⟩ := ht.follow_root_eq_some_iff.mp h
      exact hfront
    · intro h
      exact ⟨path i, h, ht.follow_path hb⟩

/-- A pattern covers an address of the web if and only if its bucket is searched and the scheme and the
path of its entry cover the address. -/
theorem isMatch_iff {b : BucketPlace} {p : MatchPattern} (hb : b.InRange index) (hfit : b.Fits path p)
    {url : Url} (hweb : url.isWeb = true) (value : α) :
    p.isMatch url = true ↔ b ∈ index.searched url.host ∧ (Entry.under value p).covers url = true := by
  rw [ht.mem_searched_iff hb]
  unfold MatchPattern.isMatch
  rw [hweb, Bool.true_and]
  cases b with
  | allUrls =>
    cases p with
    | allUrls => simpa [Entry.under] using Entry.covers_bare hweb value
    | url scheme host urlPath => exact hfit.elim
  | exact i =>
    cases p with
    | allUrls => exact hfit.elim
    | url scheme host urlPath =>
      obtain ⟨hname, hwild⟩ := hfit
      simp only [Entry.under, Entry.covers, HostPattern.covers, hwild, hname, Bool.and_eq_true,
        Bool.false_eq_true, if_false, beq_iff_eq]
      exact and_comm
  | wildcard i =>
    cases p with
    | allUrls => exact hfit.elim
    | url scheme host urlPath =>
      obtain ⟨hname, hwild⟩ := hfit
      simp only [Entry.under, Entry.covers, HostPattern.covers, hwild, hname, Bool.and_eq_true,
        if_true, List.isPrefixOf_iff_prefix]
      exact and_comm

end LabelledBy

/-! ### What is collected on the way -/

theorem walk_eq_flatMap (index : Index α) (url : Url) : ∀ (labels : List Text) (i : Nat),
    index.walk url i labels
      = (index.visited i labels).flatMap fun b => collect (index.bucket b) url := by
  intro labels
  induction labels with
  | nil => intro i; simp [walk, visited, bucket]
  | cons label labels ih =>
    intro i
    rw [walk, visited_cons, List.flatMap_cons]
    congr 1
    cases (index.node i).children.find? label with
    | none => rfl
    | some c => exact ih c

theorem flatMap_collect_eq (index : Index α) (url : Url) (places : List BucketPlace) :
    (places.flatMap fun b => collect (index.bucket b) url)
      = ((index.filedIn places).filter (·.2.covers url)).map (·.2.value) := by
  unfold filedIn
  rw [List.filter_flatMap, List.map_flatMap]
  congr 1
  funext b
  rw [collect, Bucket.live_eq_map_slots, List.filter_map, List.filter_map, List.map_map, List.map_map]
  rfl

theorem lookup_eq_filedIn {index : Index α} {url : Url} (hweb : url.isWeb = true)
    (hall : ∀ e ∈ index.allUrls.live, e.covers url = true) :
    index.lookup url
      = ((index.filedIn (index.searched url.host)).filter (·.2.covers url)).map (·.2.value) := by
  have hcollect : collect index.allUrls url = index.allUrls.live.map (·.value) := by
    rw [collect, List.filter_eq_self.mpr hall]
  rw [← flatMap_collect_eq, searched, List.flatMap_cons, ← walk_eq_flatMap, lookup, if_pos hweb, ← hcollect]
  rfl

namespace Holds

variable {index : Index α} {filings : List (Filing α)} (hh : index.Holds filings)
include hh

/-- The entries of the pattern of every address cover every address of the web. -/
theorem covers_of_mem_allUrls {url : Url} (hweb : url.isWeb = true) {e : Entry α}
    (he : e ∈ index.allUrls.live) : e.covers url = true := by
  obtain ⟨path, -, hfits⟩ := hh.placed
  rw [Bucket.live_eq_map_slots] at he
  obtain ⟨⟨slot, e⟩, hslot, rfl⟩ := List.mem_map.mp he
  have hentry : index.entryAt? ⟨.allUrls, slot⟩ = some e := Bucket.mem_slots.mp hslot
  obtain ⟨f, hf, hfh, rfl⟩ := hh.entryAt?_eq_some_iff.mp hentry
  have hfit := hfits f hf
  rw [hfh] at hfit
  cases hp : f.pattern with
  | allUrls =>
    rw [Filing.entry, hp]
    exact Entry.covers_bare hweb f.value
  | url scheme host urlPath =>
    rw [hp] at hfit
    exact hfit.elim

/-- A lookup gives the payloads of the filings whose pattern covers the address, each as often as it was
filed. -/
theorem lookup_perm (url : Url) :
    (index.lookup url).Perm ((filings.filter (·.pattern.isMatch url)).map (·.value)) := by
  cases hweb : url.isWeb with
  | false =>
    have hnone : filings.filter (·.pattern.isMatch url) = [] :=
      List.filter_eq_nil_iff.mpr fun f _ => by simp [MatchPattern.isMatch, hweb]
    simp [lookup, hweb, hnone]
  | true =>
    obtain ⟨path, ht, hfits⟩ := hh.placed
    have hvalues : (filings.filter (·.pattern.isMatch url)).map (·.value)
        = ((filings.filter (·.pattern.isMatch url)).map fun f => (f.handle, f.entry)).map
            (·.2.value) := by
      rw [List.map_map]
      exact List.map_congr_left fun f _ => (Entry.value_under f.value f.pattern).symm
    rw [lookup_eq_filedIn hweb fun e he => hh.covers_of_mem_allUrls hweb he, hvalues]
    -- both sides list entries with their handles, and no handle twice
    refine List.Perm.map _ ((List.perm_ext_iff_of_nodup ?_ ?_).mpr ?_)
    · exact (List.Nodup.of_map _ (nodup_filedIn index (ht.nodup_searched url.host))).filter _
    · refine List.Nodup.of_map Prod.fst ?_
      rw [List.map_map]
      exact hh.nodup.sublist (List.filter_sublist.map _)
    · rintro ⟨h, e⟩
      rw [List.mem_filter, mem_filedIn, hh.entryAt?_eq_some_iff, List.mem_map]
      constructor
      · rintro ⟨⟨hsearched, f, hf, rfl, rfl⟩, hcovers⟩
        have hmatch := (ht.isMatch_iff (hh.isIssued hf).inRange (hfits f hf) hweb f.value).mpr
          ⟨hsearched, hcovers⟩
        exact ⟨f, List.mem_filter.mpr ⟨hf, hmatch⟩, rfl⟩
      · rintro ⟨f, hf, heq⟩
        obtain ⟨hf, hmatch⟩ := List.mem_filter.mp hf
        obtain ⟨rfl, rfl⟩ := Prod.mk.inj heq
        have hsearched := (ht.isMatch_iff (hh.isIssued hf).inRange (hfits f hf) hweb f.value).mp hmatch
        exact ⟨⟨hsearched.1, f, hf, rfl, rfl⟩, hsearched.2⟩

end Holds

end Index

end ResultFilter
