import Mathlib.Data.Char
import Mathlib.Data.List.Lex
import Mathlib.Data.List.Sort
import ResultFilter.Dict

/-!
# Dictionaries in order

The pairs of a dictionary ascend by their keys, so that its keys tell it from any other, and pairs that are
in order make a dictionary as they are.

## Main definitions

* `Dict.Sorted` — the keys ascend.

## Main results

* `Dict.sorted_insert`, `Dict.sorted_ofList` — what is put in goes to its place.
* `Dict.ofList_of_sorted` — pairs in order are kept as they are.
* `Dict.eq_of_find?` — a dictionary is known by what is found under each key.
-/

namespace ResultFilter

/-- The order of texts is that of their characters. -/
theorem Text.lt_iff_lt {a b : Text} : Text.lt a b = true ↔ a < b := by
  induction a generalizing b with
  | nil => cases b <;> simp [Text.lt]
  | cons x a ih =>
    cases b with
    | nil => simp [Text.lt]
    | cons y b => simp [Text.lt, List.cons_lt_cons_iff, ih]

namespace Dict

variable {α β : Type}

/-- The keys of a dictionary ascend. -/
def Sorted (dict : Dict α) : Prop :=
  (keys dict).Pairwise (· < ·)

theorem sorted_nil : Sorted ([] : Dict α) :=
  List.Pairwise.nil

theorem sorted_cons {key : Text} {value : α} {dict : Dict α} :
    Sorted ((key, value) :: dict) ↔ (∀ k ∈ keys dict, key < k) ∧ Sorted dict :=
  List.pairwise_cons

theorem mem_keys_insert (key : Text) (value : α) (dict : Dict α) :
    ∀ k, k ∈ keys (insert key value dict) ↔ k = key ∨ k ∈ keys dict := by
  intro k
  induction dict with
  | nil => simp [insert, keys]
  | cons pair dict ih =>
    obtain ⟨l, v⟩ := pair
    rw [insert]
    split_ifs with heq hlt
    · simp [keys, heq]
    · simp [keys]
    · simp only [keys, List.map_cons, List.mem_cons] at ih ⊢
      rw [ih]
      exact or_left_comm

/-- A pair that is put in goes to its place. -/
theorem sorted_insert {dict : Dict α} (h : Sorted dict) (key : Text) (value : α) :
    Sorted (insert key value dict) := by
  induction dict with
  | nil => exact List.pairwise_singleton _ _
  | cons pair dict ih =>
    obtain ⟨l, v⟩ := pair
    obtain ⟨hl, hdict⟩ := sorted_cons.mp h
    rw [insert]
    split_ifs with heq hlt
    · exact sorted_cons.mpr ⟨heq ▸ hl, hdict⟩
    · rw [Text.lt_iff_lt] at hlt
      refine sorted_cons.mpr ⟨fun k hk => ?_, h⟩
      rcases List.mem_cons.mp hk with rfl | hk
      · exact hlt
      · exact hlt.trans (hl k hk)
    · rw [Text.lt_iff_lt, not_lt] at hlt
      refine sorted_cons.mpr ⟨fun k hk => ?_, ih hdict⟩
      rcases (mem_keys_insert key value dict k).mp hk with rfl | hk
      · exact lt_of_le_of_ne hlt heq
      · exact hl k hk

theorem sorted_ofList (pairs : List (Text × α)) : Sorted (ofList pairs) := by
  have hfold : ∀ dict : Dict α, Sorted dict →
      Sorted (pairs.foldl (fun dict pair => insert pair.1 pair.2 dict) dict) := by
    induction pairs with
    | nil => exact fun dict h => h
    | cons pair pairs ih => exact fun dict h => ih _ (sorted_insert h pair.1 pair.2)
  exact hfold [] sorted_nil

theorem mem_insert {key : Text} {value : α} {dict : Dict α} {pair : Text × α}
    (h : pair ∈ insert key value dict) : pair = (key, value) ∨ pair ∈ dict := by
  induction dict with
  | nil => exact Or.inl (List.mem_singleton.mp h)
  | cons first dict ih =>
    obtain ⟨l, v⟩ := first
    rw [insert] at h
    split_ifs at h
    · exact (List.mem_cons.mp h).imp_right (List.mem_cons_of_mem _)
    · exact List.mem_cons.mp h
    · rcases List.mem_cons.mp h with rfl | h
      · exact Or.inr List.mem_cons_self
      · exact (ih h).imp_right (List.mem_cons_of_mem _)

theorem mem_of_mem_ofList {pairs : List (Text × α)} {pair : Text × α} (h : pair ∈ ofList pairs) :
    pair ∈ pairs := by
  have hfold : ∀ dict : Dict α, pair ∈ pairs.foldl (fun dict p => insert p.1 p.2 dict) dict →
      pair ∈ pairs ∨ pair ∈ dict := by
    clear h
    induction pairs with
    | nil => exact fun dict h => Or.inr h
    | cons first pairs ih =>
      intro dict h
      rcases ih _ h with h | h
      · exact Or.inl (List.mem_cons_of_mem _ h)
      · refine (mem_insert h).imp_left ?_
        rintro rfl
        exact List.mem_cons_self
  exact (hfold [] h).resolve_right List.not_mem_nil

theorem insert_of_forall_lt {key : Text} {dict : Dict α} (h : ∀ k ∈ keys dict, k < key) (value : α) :
    insert key value dict = dict ++ [(key, value)] := by
  induction dict with
  | nil => rfl
  | cons pair dict ih =>
    obtain ⟨l, v⟩ := pair
    have hl : l < key := h l List.mem_cons_self
    rw [insert, if_neg hl.ne, if_neg (by rw [Text.lt_iff_lt]; exact hl.not_gt),
      ih fun k hk => h k (List.mem_cons_of_mem _ hk), List.cons_append]

/-- Pairs in order are kept as they are. -/
theorem ofList_of_sorted {pairs : List (Text × α)} (h : Sorted pairs) : ofList pairs = pairs := by
  have hfold : ∀ before : Dict α, Sorted (before ++ pairs) →
      pairs.foldl (fun dict pair => insert pair.1 pair.2 dict) before = before ++ pairs := by
    clear h
    induction pairs with
    | nil => exact fun before _ => (List.append_nil before).symm
    | cons pair pairs ih =>
      intro before h
      have hlt : ∀ k ∈ keys before, k < pair.1 := by
        rw [Sorted, keys, List.map_append, List.pairwise_append] at h
        exact fun k hk => h.2.2 k hk pair.1 List.mem_cons_self
      rw [List.append_cons] at h ⊢
      rw [List.foldl_cons, insert_of_forall_lt hlt, ih _ h]
  exact hfold [] h

theorem find?_eq_none_iff {key : Text} {dict : Dict α} : find? key dict = none ↔ key ∉ keys dict := by
  induction dict with
  | nil => simp [keys]
  | cons pair dict ih =>
    obtain ⟨l, v⟩ := pair
    by_cases hl : l = key
    · simp [find?, keys, hl]
    · rw [find?, if_neg hl, ih]
      simp [keys, Ne.symm hl]

/-- What lies in a dictionary is what is found under its key. -/
theorem mem_iff_find? {key : Text} {value : α} {dict : Dict α} (h : Sorted dict) :
    (key, value) ∈ dict ↔ find? key dict = some value := by
  induction dict with
  | nil => simp
  | cons pair dict ih =>
    obtain ⟨l, v⟩ := pair
    obtain ⟨hl, hdict⟩ := sorted_cons.mp h
    rw [List.mem_cons, ih hdict, find?]
    split_ifs with heq
    · subst heq
      have hnone : find? l dict = none := find?_eq_none_iff.mpr fun hmem => lt_irrefl l (hl l hmem)
      simp [hnone, eq_comm]
    · simp [Ne.symm heq]

theorem keys_map (f : α → β) (dict : Dict α) : keys (dict.map fun pair => (pair.1, f pair.2)) = keys dict := by
  rw [keys, List.map_map]
  rfl

theorem find?_map (f : α → β) (key : Text) (dict : Dict α) :
    find? key (dict.map fun pair => (pair.1, f pair.2)) = (find? key dict).map f := by
  induction dict with
  | nil => rfl
  | cons pair dict ih =>
    rw [List.map_cons, find?, find?, ih]
    split <;> rfl

/-- Dictionaries are the same if they have the same values under the same keys. -/
theorem eq_of_find? {dict other : Dict α} (h : Sorted dict) (h' : Sorted other)
    (hfind : ∀ key, find? key dict = find? key other) : dict = other := by
  have hnodup : ∀ {d : Dict α}, Sorted d → d.Pairwise fun a b => a.1 < b.1 := fun hd => List.pairwise_map.mp hd
  refine List.Perm.eq_of_pairwise (fun a b _ _ hab hba => absurd hba (lt_asymm hab)) (hnodup h) (hnodup h') ?_
  have hpairs : ∀ {d : Dict α}, Sorted d → d.Nodup := fun hd => List.Nodup.of_map _ (hd.imp fun hab => ne_of_lt hab)
  refine (List.perm_ext_iff_of_nodup (hpairs h) (hpairs h')).mpr fun pair => ?_
  rw [← Prod.mk.eta (p := pair), mem_iff_find? h, mem_iff_find? h', hfind]

end Dict

end ResultFilter
