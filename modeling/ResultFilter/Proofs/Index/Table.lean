import Mathlib.Data.List.Nodup
import Mathlib.Data.List.Range
import ResultFilter.Index.Basic

/-!
# The table of an index

What each change of an index leaves in its buckets, and the live entries of several buckets together.
A bucket is known by its place; a place is in range if its node is in the table.

## Main definitions

* `BucketPlace.InRange` — the places that an index has.
* `Index.IsIssued` — the handles that an index has given out, whether or not their entry is gone.
* `Index.filedIn` — the live entries of some buckets, with their handles.
* `Index.places` — the places of all buckets.

## Main results

* `entryAt?_pushEntry`, `entryAt?_remove` — what the operations do to the entry behind each handle.
* `mem_filedIn`, `nodup_filedIn` — the entries of buckets are those behind handles, each found once.
* `mem_entries`, `nodup_entries` — the same for all live entries.
-/

namespace List

/-- The numbers of a numbered list ascend. -/
theorem pairwise_zipIdx {α : Type*} (l : List α) (n : ℕ) : (l.zipIdx n).Pairwise (·.2 < ·.2) := by
  have h : ((l.zipIdx n).map (·.2)).Pairwise (· < ·) := by
    rw [zipIdx_map_snd]
    exact pairwise_lt_range'
  exact pairwise_map.mp h

/-- What is there in a list is what is there with its number, without the number. -/
theorem filterMap_id_eq_map_zipIdx {α : Type*} : ∀ (l : List (Option α)) (n : ℕ),
    l.filterMap id = ((l.zipIdx n).filterMap fun x => x.1.map fun a => (x.2, a)).map (·.2) := by
  intro l
  induction l with
  | nil => intro n; rfl
  | cons x l ih =>
    intro n
    rw [zipIdx_cons, filterMap_cons, filterMap_cons]
    cases x with
    | none => exact ih (n + 1)
    | some a => exact congrArg (a :: ·) (ih (n + 1))

end List

namespace ResultFilter

/-! ### Buckets -/

namespace Bucket

variable {α : Type}

theorem at?_push (b : Bucket α) (x : Option (Entry α)) (slot : Nat) :
    at? (b.push x) slot = if slot = b.size then x else b.at? slot := by
  unfold at?
  rw [Array.getElem?_push]
  split <;> rfl

theorem at?_setIfInBounds_none (b : Bucket α) (slot other : Nat) :
    at? (b.setIfInBounds slot none) other = if other = slot then none else b.at? other := by
  unfold at?
  rw [Array.getElem?_setIfInBounds]
  by_cases h : slot = other
  · subst h
    by_cases hlt : slot < b.size <;> simp [hlt]
  · rw [if_neg h, if_neg (Ne.symm h)]

theorem lt_size_of_at? {b : Bucket α} {slot : Nat} {e : Entry α} (h : b.at? slot = some e) :
    slot < b.size := by
  by_contra hge
  unfold at? at h
  rw [Array.getElem?_eq_none (by omega)] at h
  simp at h

theorem mem_slots {b : Bucket α} {slot : Nat} {e : Entry α} :
    (slot, e) ∈ b.slots ↔ b.at? slot = some e := by
  unfold slots at?
  rw [List.mem_filterMap, Option.join_eq_some_iff, ← Array.getElem?_toList]
  constructor
  · rintro ⟨⟨entry, i⟩, hmem, h⟩
    have hget := List.mk_mem_zipIdx_iff_getElem?.mp hmem
    simp only [Option.map_eq_some_iff, Prod.mk.injEq] at h
    obtain ⟨e', rfl, rfl, rfl⟩ := h
    exact hget
  · intro h
    exact ⟨(some e, slot), List.mk_mem_zipIdx_iff_getElem?.mpr h, rfl⟩

/-- Slots come in ascending order. -/
theorem pairwise_slots (b : Bucket α) : (b.slots.map (·.1)).Pairwise (· < ·) := by
  refine List.pairwise_map.mpr ((List.pairwise_zipIdx b.toList 0).filterMap _ ?_)
  rintro x y hlt p hp q hq
  simp only [Option.map_eq_some_iff] at hp hq
  obtain ⟨-, -, rfl⟩ := hp
  obtain ⟨-, -, rfl⟩ := hq
  exact hlt

theorem live_eq_map_slots (b : Bucket α) : b.live = b.slots.map (·.2) := by
  unfold live slots
  exact List.filterMap_id_eq_map_zipIdx b.toList 0

end Bucket

/-! ### Nodes and buckets of the table -/

/-- Whether an index has a bucket at a place. -/
def BucketPlace.InRange {α : Type} (index : Index α) : BucketPlace → Prop
  | .allUrls => True
  | .exact i => i < index.nodes.size
  | .wildcard i => i < index.nodes.size

namespace Index

variable {α : Type}

theorem node_of_size_le {index : Index α} {i : Nat} (h : index.nodes.size ≤ i) :
    index.node i = Node.empty := by
  unfold node
  rw [Array.getElem?_eq_none h]
  rfl

theorem node_modifyNode (index : Index α) (i j : Nat) (f : Node α → Node α) :
    (index.modifyNode i f).node j
      = if j = i ∧ i < index.nodes.size then f (index.node i) else index.node j := by
  unfold modifyNode node
  rw [Array.getElem?_modify]
  by_cases h : i = j
  · subst h
    by_cases hlt : i < index.nodes.size <;> simp [hlt]
  · rw [if_neg h, if_neg fun hj => h hj.1.symm]

@[simp] theorem size_nodes_modifyNode (index : Index α) (i : Nat) (f : Node α → Node α) :
    (index.modifyNode i f).nodes.size = index.nodes.size := by
  unfold modifyNode
  exact Array.size_modify

@[simp] theorem size_nodes_modifyBucket (index : Index α) (f : Bucket α → Bucket α)
    (b : BucketPlace) : (index.modifyBucket f b).nodes.size = index.nodes.size := by
  cases b <;> simp [modifyBucket]

theorem inRange_modifyBucket (index : Index α) (f : Bucket α → Bucket α) (b c : BucketPlace) :
    c.InRange (index.modifyBucket f b) ↔ c.InRange index := by
  cases c <;> simp [BucketPlace.InRange]

@[simp] theorem children_modifyBucket (index : Index α) (f : Bucket α → Bucket α)
    (b : BucketPlace) (i : Nat) :
    ((index.modifyBucket f b).node i).children = (index.node i).children := by
  cases b with
  | allUrls => rfl
  | exact j =>
    rw [modifyBucket, node_modifyNode]
    split
    · next h => rw [h.1]
    · rfl
  | wildcard j =>
    rw [modifyBucket, node_modifyNode]
    split
    · next h => rw [h.1]
    · rfl

theorem bucket_modifyBucket_self {index : Index α} (f : Bucket α → Bucket α) {b : BucketPlace}
    (hb : b.InRange index) : (index.modifyBucket f b).bucket b = f (index.bucket b) := by
  cases b with
  | allUrls => rfl
  | exact i => rw [modifyBucket, bucket, node_modifyNode, if_pos ⟨rfl, hb⟩]; rfl
  | wildcard i => rw [modifyBucket, bucket, node_modifyNode, if_pos ⟨rfl, hb⟩]; rfl

theorem bucket_modifyBucket_of_ne {index : Index α} (f : Bucket α → Bucket α) {b c : BucketPlace}
    (h : c ≠ b) : (index.modifyBucket f b).bucket c = index.bucket c := by
  cases b with
  | allUrls => cases c <;> first | rfl | exact absurd rfl h
  | exact i =>
    cases c with
    | allUrls => rfl
    | exact j =>
      rw [modifyBucket, bucket, node_modifyNode, if_neg fun hj => h (congrArg _ hj.1)]
      rfl
    | wildcard j =>
      rw [modifyBucket, bucket, node_modifyNode]
      split
      · next hj => rw [hj.1]; rfl
      · rfl
  | wildcard i =>
    cases c with
    | allUrls => rfl
    | exact j =>
      rw [modifyBucket, bucket, node_modifyNode]
      split
      · next hj => rw [hj.1]; rfl
      · rfl
    | wildcard j =>
      rw [modifyBucket, bucket, node_modifyNode, if_neg fun hj => h (congrArg _ hj.1)]
      rfl

/-- A place out of range has an empty bucket. -/
theorem bucket_of_not_inRange {index : Index α} {b : BucketPlace} (h : ¬ b.InRange index) :
    index.bucket b = #[] := by
  cases b with
  | allUrls => exact absurd trivial h
  | exact i => rw [bucket, node_of_size_le (Nat.le_of_not_lt h)]; rfl
  | wildcard i => rw [bucket, node_of_size_le (Nat.le_of_not_lt h)]; rfl

/-! ### The entries behind handles -/

/-- The handles that an index has given out, whether or not their entry has been removed. -/
def IsIssued (index : Index α) (h : Handle) : Prop :=
  h.slot < (index.bucket h.bucket).size

theorem isIssued_of_entryAt? {index : Index α} {h : Handle} {e : Entry α}
    (he : index.entryAt? h = some e) : index.IsIssued h :=
  Bucket.lt_size_of_at? he

theorem IsIssued.inRange {index : Index α} {h : Handle} (hi : index.IsIssued h) :
    h.bucket.InRange index := by
  by_contra hb
  rw [IsIssued, bucket_of_not_inRange hb] at hi
  exact Nat.not_lt_zero _ hi

theorem handle_pushEntry (index : Index α) (b : BucketPlace) (e : Entry α) :
    (index.pushEntry b e).2 = ⟨b, (index.bucket b).size⟩ := rfl

section Push

variable {index : Index α} {b : BucketPlace} (hb : b.InRange index) (e : Entry α)
include hb

theorem bucket_pushEntry (c : BucketPlace) :
    (index.pushEntry b e).1.bucket c
      = if c = b then (index.bucket b).push (some e) else index.bucket c := by
  split
  · next h => subst h; exact bucket_modifyBucket_self _ hb
  · next h => exact bucket_modifyBucket_of_ne _ h

theorem entryAt?_pushEntry (h : Handle) :
    (index.pushEntry b e).1.entryAt? h
      = if h = (index.pushEntry b e).2 then some e else index.entryAt? h := by
  obtain ⟨c, slot⟩ := h
  simp only [entryAt?, bucket_pushEntry hb, handle_pushEntry, Handle.mk.injEq]
  by_cases hc : c = b
  · subst hc
    simp [Bucket.at?_push]
  · simp [hc]

theorem isIssued_pushEntry (h : Handle) :
    (index.pushEntry b e).1.IsIssued h ↔ h = (index.pushEntry b e).2 ∨ index.IsIssued h := by
  obtain ⟨c, slot⟩ := h
  simp only [IsIssued, bucket_pushEntry hb, handle_pushEntry, Handle.mk.injEq]
  by_cases hc : c = b
  · subst hc
    simp only [if_true, Array.size_push, true_and]
    omega
  · simp [hc]

end Push

theorem not_isIssued_pushEntry (index : Index α) (b : BucketPlace) (e : Entry α) :
    ¬ index.IsIssued (index.pushEntry b e).2 :=
  Nat.lt_irrefl _

section Clear

variable (index : Index α) (h : Handle)

theorem bucket_clear (c : BucketPlace) :
    (index.clear h).bucket c
      = if c = h.bucket then (index.bucket c).setIfInBounds h.slot none else index.bucket c := by
  unfold clear
  split
  · next hc =>
    subst hc
    by_cases hb : h.bucket.InRange index
    · exact bucket_modifyBucket_self _ hb
    · rw [bucket_of_not_inRange (mt (inRange_modifyBucket index _ _ _).mp hb), bucket_of_not_inRange hb]
      rfl
  · next hc => exact bucket_modifyBucket_of_ne _ hc

theorem entryAt?_clear (other : Handle) :
    (index.clear h).entryAt? other = if other = h then none else index.entryAt? other := by
  obtain ⟨c, slot⟩ := other
  obtain ⟨b, s⟩ := h
  simp only [entryAt?, bucket_clear, Handle.mk.injEq]
  by_cases hc : c = b
  · subst hc
    simp [Bucket.at?_setIfInBounds_none]
  · simp [hc]

/-- After a removal nothing is behind the handle, and behind every other handle is what was there. -/
theorem entryAt?_remove (other : Handle) :
    (index.remove h).2.entryAt? other = if other = h then none else index.entryAt? other := by
  unfold remove
  split
  · next hget =>
    have hnone : index.entryAt? h = none := by simpa [get?] using hget
    split
    · next heq => rw [heq, hnone]
    · rfl
  · exact entryAt?_clear index h other

theorem fst_remove : (index.remove h).1 = index.get? h := by
  unfold remove
  split
  · next hget => exact hget.symm
  · next value hget => exact hget.symm

/-- A removed handle stays given out. -/
theorem isIssued_remove (other : Handle) :
    (index.remove h).2.IsIssued other ↔ index.IsIssued other := by
  unfold remove
  split
  · rfl
  · show (index.clear h).IsIssued other ↔ _
    rw [IsIssued, bucket_clear, IsIssued]
    split <;> simp

end Clear

/-! ### The entries of some buckets -/

/-- The live entries of the buckets at some places, with their handles. -/
def filedIn (index : Index α) (places : List BucketPlace) : List (Handle × Entry α) :=
  places.flatMap fun b => (index.bucket b).slots.map fun (slot, e) => (⟨b, slot⟩, e)

theorem mem_filedIn {index : Index α} {places : List BucketPlace} {h : Handle} {e : Entry α} :
    (h, e) ∈ index.filedIn places ↔ h.bucket ∈ places ∧ index.entryAt? h = some e := by
  unfold filedIn entryAt?
  rw [List.mem_flatMap]
  constructor
  · rintro ⟨b, hb, hmem⟩
    obtain ⟨⟨slot, e'⟩, hslot, heq⟩ := List.mem_map.mp hmem
    simp only [Prod.mk.injEq] at heq
    obtain ⟨rfl, rfl⟩ := heq
    exact ⟨hb, Bucket.mem_slots.mp hslot⟩
  · rintro ⟨hb, he⟩
    exact ⟨h.bucket, hb, List.mem_map.mpr ⟨(h.slot, e), Bucket.mem_slots.mpr he, rfl⟩⟩

theorem nodup_filedIn (index : Index α) {places : List BucketPlace} (hp : places.Nodup) :
    ((index.filedIn places).map (·.1)).Nodup := by
  unfold filedIn
  rw [List.map_flatMap, List.nodup_flatMap]
  constructor
  · intro b _
    have hslots : ((index.bucket b).slots.map (·.1)).Nodup :=
      (Bucket.pairwise_slots _).imp fun hlt => Nat.ne_of_lt hlt
    have hmap : ((index.bucket b).slots.map fun x => (⟨b, x.1⟩, x.2)).map Prod.fst
        = ((index.bucket b).slots.map (·.1)).map (Handle.mk b) := by
      rw [List.map_map, List.map_map]
      rfl
    exact hmap ▸ hslots.map fun _ _ heq => (Handle.mk.inj heq).2
  · refine hp.imp ?_
    intro b c hbc
    have hbucket : ∀ {p : BucketPlace} {h : Handle},
        h ∈ ((index.bucket p).slots.map fun x => ((⟨p, x.1⟩ : Handle), x.2)).map Prod.fst →
          h.bucket = p := by
      intro p h hmem
      simp only [List.map_map, List.mem_map, Function.comp_apply] at hmem
      obtain ⟨x, -, rfl⟩ := hmem
      rfl
    exact List.disjoint_left.mpr fun h hb hc => hbc ((hbucket hb).symm.trans (hbucket hc))

/-! ### The live entries in the order of the table -/

/-- The places of all buckets, in the order of the table. -/
def places (index : Index α) : List BucketPlace :=
  .allUrls :: (List.range index.nodes.size).flatMap fun i => [.exact i, .wildcard i]

theorem mem_places {index : Index α} {b : BucketPlace} : b ∈ index.places ↔ b.InRange index := by
  cases b <;> simp [places, BucketPlace.InRange]

theorem nodup_places (index : Index α) : index.places.Nodup := by
  refine List.nodup_cons.mpr ⟨by simp, List.nodup_flatMap.mpr ⟨fun i _ => by simp, ?_⟩⟩
  refine List.nodup_range.imp fun hne => ?_
  simp [Function.onFun, hne.symm]

theorem entries_eq_filedIn (index : Index α) : index.entries = index.filedIn index.places := by
  have hnode : ∀ i, nodeEntries i (index.node i) = index.filedIn [.exact i, .wildcard i] := by
    intro i
    simp [nodeEntries, filedIn, bucket]
  have hnodes : index.nodes.toList.zipIdx
      = (List.range index.nodes.size).map fun i => (index.node i, i) := by
    refine List.ext_getElem (by simp) fun i h _ => ?_
    have hi : i < index.nodes.size := by simpa using h
    simp [node, hi]
  rw [entries, places, filedIn, List.flatMap_cons, hnodes, List.flatMap_map, List.flatMap_assoc]
  exact congrArg _ (List.flatMap_congr fun i _ => hnode i)

/-- The live entries are those behind the handles. -/
theorem mem_entries {index : Index α} {h : Handle} {e : Entry α} :
    (h, e) ∈ index.entries ↔ index.entryAt? h = some e := by
  rw [entries_eq_filedIn, mem_filedIn, mem_places]
  exact and_iff_right_of_imp fun he => (isIssued_of_entryAt? he).inRange

/-- No handle comes twice. -/
theorem nodup_entries (index : Index α) : (index.entries.map (·.1)).Nodup := by
  rw [entries_eq_filedIn]
  exact index.nodup_filedIn index.nodup_places

end Index

end ResultFilter
