import ResultFilter.Index.Stored
import ResultFilter.Proofs.Index.Contents
import ResultFilter.Proofs.Json.Decode

/-!
# How deep a stored index is nested

Each label on the way to a node adds an object and an array to what is stored around its entries. So a
stored index is nested as deep as the labels of its nodes and the payloads of its entries make it, and a
node counts even when it holds nothing any more.

## Main definitions

* `Branch.Fits` — there is room for every node of a branch and every payload in it.

## Main results

* `Branch.depth_toJson_lt_iff` — a branch is nested less deep than a limit just if it fits.
* `Index.depth_toJson_lt_iff` — the same for an index, told by its shelves.
-/

namespace ResultFilter

namespace Json

theorem depthItems_lt_iff {items : List Json} {n : Nat} (hn : 0 < n) :
    depthItems items < n ↔ ∀ v ∈ items, v.depth < n := by
  induction items with
  | nil => simpa [depthItems] using hn
  | cons v items ih => simp [depthItems, ih]

/-- An array leaves one level less to its items. -/
theorem depth_array_lt_iff {items : List Json} {n : Nat} (hn : 1 < n) :
    (array items).depth < n ↔ ∀ v ∈ items, v.depth + 1 < n := by
  have hitems : depthItems items < n - 1 ↔ ∀ v ∈ items, v.depth < n - 1 :=
    depthItems_lt_iff (Nat.sub_pos_of_lt hn)
  rw [depth]
  constructor
  · intro h v hv
    have hlt := hitems.mp (by omega) v hv
    omega
  · intro h
    have hlt := hitems.mpr fun v hv => by have hv := h v hv; omega
    omega

end Json

variable {α : Type} {f : α → Json}

theorem Entry.depth_toJson (e : Entry α) : (e.toJson f).depth = (f e.value).depth + 1 := by
  unfold Entry.toJson
  split_ifs <;> simp [Json.depth, Json.depthItems]

/-- Payloads in an array in a node. -/
theorem depth_payloads_lt_iff {l : List α} {n : Nat} (hn : 2 < n) :
    (Json.array (l.map f)).depth + 1 < n ↔ ∀ x ∈ l, 2 + (f x).depth < n := by
  rw [← Nat.lt_sub_iff_add_lt, Json.depth_array_lt_iff (by omega), List.forall_mem_map]
  refine forall₂_congr fun x _ => ?_
  omega

/-- Entries in an array in a node. -/
theorem depth_entries_lt_iff {l : List (Entry α)} {n : Nat} (hn : 2 < n) :
    (Json.array (l.map (Entry.toJson f))).depth + 1 < n ↔ ∀ e ∈ l, 3 + (f e.value).depth < n := by
  rw [depth_payloads_lt_iff hn]
  refine forall₂_congr fun e _ => ?_
  rw [Entry.depth_toJson]
  omega

theorem depth_nodeJson_lt_iff {first wildcard : Json} {cs : List (Text × Json)} {n : Nat} (hn : 2 < n) :
    (nodeJson first wildcard cs).depth < n
      ↔ first.depth + 1 < n ∧ wildcard.depth + 1 < n ∧ Json.depthFields cs < n - 2 := by
  cases cs with
  | nil =>
    simp only [nodeJson, List.isEmpty_nil, if_true, List.append_nil, Json.depth, Json.depthItems,
      Json.depthFields]
    omega
  | cons c cs =>
    simp only [nodeJson, List.isEmpty_cons, Bool.false_eq_true, if_false, List.cons_append, List.nil_append,
      Json.depth, Json.depthItems]
    omega

theorem two_le_depth_nodeJson (first : List Json) (wildcard : Json) (cs : List (Text × Json)) :
    2 ≤ (nodeJson (.array first) wildcard cs).depth := by
  show 2 ≤ max (Json.array first).depth _ + 1
  have harray : 1 ≤ (Json.array first).depth := Nat.le_add_left _ _
  omega

namespace Branch

variable {p : α → Prop}

/-- There is room below a limit for every node of a branch and every payload in it. -/
def Fits (f : α → Json) (n : Nat) (b : Branch α) : Prop :=
  ∀ labels below, b.at? labels = some below → 2 * labels.length + 2 < n
    ∧ ∀ isWildcard, ∀ e ∈ below.entries isWildcard, 2 * labels.length + 3 + (f e.value).depth < n

/-- The node at the top comes first, and each label takes two levels. -/
theorem fits_node_iff {exact wildcard : List (Entry α)} {children : List (Text × Branch α)}
    (hsorted : Dict.Sorted children) {n : Nat} :
    (Branch.node exact wildcard children).Fits f n
      ↔ (2 < n ∧ (∀ e ∈ exact, 3 + (f e.value).depth < n) ∧ ∀ e ∈ wildcard, 3 + (f e.value).depth < n)
        ∧ ∀ c ∈ children, c.2.Fits f (n - 2) := by
  constructor
  · intro h
    obtain ⟨hn, hentries⟩ := h [] _ rfl
    rw [List.length_nil, Nat.mul_zero, Nat.zero_add] at hn hentries
    refine ⟨⟨hn, hentries false, hentries true⟩, fun c hc labels below hbelow => ?_⟩
    have hat : (Branch.node exact wildcard children).at? (c.1 :: labels) = some below := by
      rw [Branch.at?, (Dict.mem_iff_find? hsorted).mp hc, Option.bind_some, hbelow]
    obtain ⟨hlength, hbelow⟩ := h _ _ hat
    rw [List.length_cons] at hlength hbelow
    exact ⟨by omega, fun isWildcard e he => by have := hbelow isWildcard e he; omega⟩
  · rintro ⟨⟨hn, hexact, hwildcard⟩, hchildren⟩ labels below hbelow
    cases labels with
    | nil =>
      obtain rfl := Option.some.inj hbelow
      rw [List.length_nil, Nat.mul_zero, Nat.zero_add, Nat.zero_add]
      exact ⟨hn, fun isWildcard => by cases isWildcard <;> assumption⟩
    | cons label labels =>
      rw [Branch.at?, Option.bind_eq_some_iff] at hbelow
      obtain ⟨b, hb, hbelow⟩ := hbelow
      have hmem := (Dict.mem_iff_find? hsorted).mpr hb
      obtain ⟨hlength, hentries⟩ := hchildren _ hmem labels below hbelow
      rw [List.length_cons]
      exact ⟨by omega, fun isWildcard e he => by have := hentries isWildcard e he; omega⟩

mutual

/-- A branch is nested less deep than a limit just if it fits. -/
theorem depth_toJson_lt_iff : ∀ b : Branch α, b.Within p → ∀ n, (b.toJson f).depth < n ↔ b.Fits f n
  | .node exact wildcard children => fun hb n => by
    rw [fits_node_iff hb.2.1, toJson]
    by_cases hn : 2 < n
    · rw [depth_nodeJson_lt_iff hn, depth_entries_lt_iff hn, depth_entries_lt_iff hn,
        depthFields_childrenJson_lt_iff children hb.2.2 (n - 2) (by omega), and_iff_right hn, and_assoc]
    · have hdepth := two_le_depth_nodeJson (exact.map (Entry.toJson f)) (.array (wildcard.map (Entry.toJson f)))
        (childrenJson f children)
      constructor
      · intro h
        omega
      · rintro ⟨⟨h, -⟩, -⟩
        exact absurd h hn

/-- So are its children. -/
theorem depthFields_childrenJson_lt_iff : ∀ children : List (Text × Branch α), AllWithin p children →
    ∀ n, 0 < n → (Json.depthFields (childrenJson f children) < n ↔ ∀ c ∈ children, c.2.Fits f n)
  | [] => fun _ n hn => by simpa [childrenJson, Json.depthFields] using hn
  | (label, b) :: children => fun h n hn => by
    rw [childrenJson, Json.depthFields, Nat.max_lt, List.forall_mem_cons, depth_toJson_lt_iff b h.1,
      depthFields_childrenJson_lt_iff children h.2 n hn]

end

end Branch

theorem Snapshot.depth_toJson_lt_iff {p : α → Prop} {s : Snapshot α} (hs : s.Within p) {n : Nat} :
    (s.toJson f).depth < n ↔ (∀ a ∈ s.allUrls, 2 + (f a).depth < n) ∧ s.branch.Fits f n := by
  rw [Snapshot.branch, Branch.fits_node_iff hs.branch.2.1, toJson]
  by_cases hn : 2 < n
  · rw [depth_nodeJson_lt_iff hn, depth_payloads_lt_iff hn, depth_entries_lt_iff hn,
      Branch.depthFields_childrenJson_lt_iff s.children hs.branch.2.2 (n - 2) (by omega)]
    simp [hn]
  · have hdepth := two_le_depth_nodeJson (s.allUrls.map f) (.array (s.wildcard.map (Entry.toJson f)))
      (Branch.childrenJson f s.children)
    constructor
    · intro h
      omega
    · rintro ⟨-, ⟨h, -⟩, -⟩
      exact absurd h hn

/-- An index is nested less deep than a limit just if there is room for every shelf, an empty one too, and
every payload. The shelf of the root's host alone is not stored. -/
theorem Index.depth_toJson_lt_iff {index : Index α} (hi : index.Regular) {n : Nat} :
    (index.toJson f).depth < n
      ↔ (∀ e ∈ index.allUrls.live, 2 + (f e.value).depth < n)
        ∧ ∀ isWildcard labels l, Shelf.host isWildcard labels ≠ .host false [] →
            index.shelf? (.host isWildcard labels) = some l →
            2 * labels.length + 2 < n ∧ ∀ e ∈ l, 2 * labels.length + 3 + (f e.value).depth < n := by
  have hwithin := Index.within_toSnapshot (p := fun _ => True) hi.isTree fun _ _ _ => trivial
  have hall : index.toSnapshot.allUrls = index.allUrls.live.map (·.value) := by rw [toSnapshot_eq]
  rw [toJson, Snapshot.depth_toJson_lt_iff hwithin, hall, List.forall_mem_map]
  refine and_congr_right fun _ => ?_
  have hshelf : ∀ isWildcard labels, index.toSnapshot.shelf? (.host isWildcard labels)
      = (index.toSnapshot.branch.at? labels).map (Branch.entries isWildcard) := fun _ _ => rfl
  constructor
  · intro h isWildcard labels l hne hl
    rw [← (shelf?_toSnapshot hi.isTree hi.bare _).trans (if_neg hne), hshelf, Option.map_eq_some_iff] at hl
    obtain ⟨below, hbelow, rfl⟩ := hl
    obtain ⟨hlength, hentries⟩ := h labels below hbelow
    exact ⟨hlength, hentries isWildcard⟩
  · intro h labels below hbelow
    have hstored : ∀ isWildcard, index.toSnapshot.shelf? (.host isWildcard labels)
        = some (below.entries isWildcard) := by
      intro isWildcard
      rw [hshelf, hbelow, Option.map_some]
    -- the shelf for the domain is always stored
    have hwildcard := hstored true
    rw [shelf?_toSnapshot hi.isTree hi.bare, if_neg (by simp)] at hwildcard
    refine ⟨(h true labels _ (by simp) hwildcard).1, fun isWildcard e he => ?_⟩
    have hl := hstored isWildcard
    rw [shelf?_toSnapshot hi.isTree hi.bare] at hl
    split at hl
    · next hroot =>
      rw [← Option.some.inj hl] at he
      exact absurd he List.not_mem_nil
    · next hne => exact (h isWildcard labels _ hne hl).2 e he

end ResultFilter
