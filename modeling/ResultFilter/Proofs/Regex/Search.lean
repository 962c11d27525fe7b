import Mathlib.Data.Finset.Card
import Mathlib.Data.Nat.Bitwise
import Mathlib.Order.Monotone.Basic
import ResultFilter.Regex.Basic

/-!
# What a search finds

A search computes with sets of places, which are numbers. What a pattern means can be told without them: by
its parts, from which place of a text to which it matches. The set computed from some places is the set of the
places that such matches lead to, so that a search finds a match just if there is one.

The rounds of a repetition without a bound are limited. They are enough because a set of places that one round
leaves alone is left alone by all further rounds, and only so many rounds can add a place.

## Main definitions

* `Regex.Steps` — a number of steps of a relation.
* `Regex.Matches` — from which place of a text to which a pattern matches.
* `Regex.Carries` — a function on sets of places leads where a relation between places leads.

## Main results

* `Regex.iterate_of_le` — a set that only grows stops growing after as many rounds as there are places.
* `Regex.carries_ends` — the ends that are computed are those of the matches.
* `Regex.occursIn_iff`, `Regex.isMatch_iff` — a search finds a match just if there is one.
-/

namespace ResultFilter.Regex

open ResultFilter.Text

/-! ### Matches -/

/-- Some number of steps of a relation. -/
inductive Steps (R : ℕ → ℕ → Prop) : ℕ → ℕ → ℕ → Prop where
  | zero (i : ℕ) : Steps R 0 i i
  | succ {n i j k : ℕ} : R i j → Steps R n j k → Steps R (n + 1) i k

/-- From which place of a text to which a pattern matches. A bound below the least number of repetitions is
no other bound than this number. -/
def Matches (text : Text) : Pattern CodeSet Look → ℕ → ℕ → Prop
  | .empty, i, j => i = j
  | .one s, i, j => j = i + 1 ∧ ∃ c, text[i]? = some c ∧ s.has c = true
  | .look l, i, j =>
    i = j ∧ i ≤ text.length ∧ l.holds (if i = 0 then none else text[i - 1]?) text[i]? = true
  | .seq p q, i, j => ∃ k, Matches text p i k ∧ Matches text q k j
  | .alt p q, i, j => Matches text p i j ∨ Matches text q i j
  | .repeated least most p, i, j =>
    ∃ n, least ≤ n ∧ (∀ m ∈ most, n ≤ max least m) ∧ Steps (Matches text p) n i j
  | .capture p, i, j => Matches text p i j

theorem steps_succ_iff {R : ℕ → ℕ → Prop} {n i k : ℕ} :
    Steps R (n + 1) i k ↔ ∃ j, R i j ∧ Steps R n j k := by
  constructor
  · intro h
    cases h with
    | succ hstep hrest => exact ⟨_, hstep, hrest⟩
  · rintro ⟨j, hstep, hrest⟩
    exact .succ hstep hrest

theorem steps_zero_iff {R : ℕ → ℕ → Prop} {i j : ℕ} : Steps R 0 i j ↔ i = j := by
  constructor
  · intro h
    cases h
    rfl
  · rintro rfl
    exact .zero i

theorem steps_add_iff {R : ℕ → ℕ → Prop} {m n i k : ℕ} :
    Steps R (m + n) i k ↔ ∃ j, Steps R m i j ∧ Steps R n j k := by
  induction m generalizing i with
  | zero => simp [steps_zero_iff]
  | succ m ih =>
    rw [Nat.succ_add, steps_succ_iff]
    simp only [ih, steps_succ_iff]
    constructor
    · rintro ⟨a, ha, j, hj, hk⟩
      exact ⟨j, ⟨a, ha, hj⟩, hk⟩
    · rintro ⟨j, ⟨a, ha, hj⟩, hk⟩
      exact ⟨a, ha, j, hj, hk⟩

/-- A step that may also stay where it is makes some number of steps at most. -/
theorem steps_or_eq_iff {R : ℕ → ℕ → Prop} {n i k : ℕ} :
    Steps (fun i j => i = j ∨ R i j) n i k ↔ ∃ m ≤ n, Steps R m i k := by
  induction n generalizing i with
  | zero => simp [steps_zero_iff]
  | succ n ih =>
    rw [steps_succ_iff]
    constructor
    · rintro ⟨j, rfl | hstep, hrest⟩
      · obtain ⟨m, hm, h⟩ := ih.mp hrest
        exact ⟨m, Nat.le_succ_of_le hm, h⟩
      · obtain ⟨m, hm, h⟩ := ih.mp hrest
        exact ⟨m + 1, Nat.succ_le_succ hm, .succ hstep h⟩
    · rintro ⟨m, hm, h⟩
      cases h with
      | zero => exact ⟨_, Or.inl rfl, ih.mpr ⟨0, Nat.zero_le n, .zero _⟩⟩
      | succ hstep hrest => exact ⟨_, Or.inr hstep, ih.mpr ⟨_, Nat.le_of_succ_le_succ hm, hrest⟩⟩

/-! ### Sets of places -/

/-- Whether a set has only places of a text of `length` characters. -/
def Within (length places : ℕ) : Prop :=
  ∀ i, places.testBit i = true → i ≤ length

/-- The places in a set that a text of `length` characters has. -/
def members (length places : ℕ) : Finset ℕ :=
  (Finset.range (length + 1)).filter (places.testBit ·)

theorem members_subset {length a b : ℕ} (h : ∀ i, a.testBit i = true → b.testBit i = true) :
    members length a ⊆ members length b :=
  Finset.monotone_filter_right _ fun i _ => h i

theorem card_members_le (length places : ℕ) : (members length places).card ≤ length + 1 := by
  have hle := Finset.card_filter_le (Finset.range (length + 1)) (places.testBit ·)
  rwa [Finset.card_range] at hle

/-- A set is as large as one that it is part of only if it is the same. -/
theorem eq_of_card_members {length a b : ℕ} (ha : Within length a) (hb : Within length b)
    (hsub : ∀ i, a.testBit i = true → b.testBit i = true)
    (hcard : (members length a).card = (members length b).card) : a = b := by
  have hsame : members length a = members length b :=
    Finset.eq_of_subset_of_card_le (members_subset hsub) hcard.ge
  have hmem {places : ℕ} (h : Within length places) (i : ℕ) :
      i ∈ members length places ↔ places.testBit i = true := by
    rw [members, Finset.mem_filter, Finset.mem_range, Nat.lt_succ_iff]
    exact and_iff_right_of_imp (h i)
  apply Nat.eq_of_testBit_eq
  intro i
  rw [Bool.eq_iff_iff, ← hmem ha, ← hmem hb, hsame]

theorem iterate_eq (f : ℕ → ℕ) (n places : ℕ) : iterate f n places = f^[n] places := by
  induction n generalizing places with
  | zero => rfl
  | succ n ih =>
    rw [iterate]
    split
    · next hfixed => exact (Function.iterate_fixed hfixed (n + 1)).symm
    · rw [ih, Function.iterate_succ_apply]

section Grow

variable {length : ℕ} {g : ℕ → ℕ} (hwithin : ∀ places, Within length places → Within length (g places))
  (hgrow : ∀ places i, places.testBit i = true → (g places).testBit i = true) {places : ℕ}

include hwithin in
theorem within_iterate (h : Within length places) (n : ℕ) : Within length (g^[n] places) := by
  induction n with
  | zero => exact h
  | succ n ih =>
    rw [Function.iterate_succ_apply']
    exact hwithin _ ih

include hgrow in
theorem testBit_iterate_of_le {m n : ℕ} (hle : m ≤ n) {i : ℕ} (h : (g^[m] places).testBit i = true) :
    (g^[n] places).testBit i = true := by
  induction hle with
  | refl => exact h
  | step _ ih =>
    rw [Function.iterate_succ_apply']
    exact hgrow _ i ih

include hwithin hgrow in
/-- A set that only grows stops growing after as many rounds as there are places. -/
theorem iterate_of_le (h : Within length places) {n : ℕ} (hn : length + 1 ≤ n) :
    g^[n] places = g^[length + 1] places := by
  have hsub {m k : ℕ} (hle : m ≤ k) (i : ℕ) (hi : (g^[m] places).testBit i = true) :
      (g^[k] places).testBit i = true := testBit_iterate_of_le hgrow hle hi
  -- two of the sets are the same as soon as they have one size, and all later ones follow them
  have heq {m k : ℕ} (hle : m ≤ k)
      (hcard : (members length (g^[m] places)).card = (members length (g^[k] places)).card) :
      g^[m] places = g^[k] places :=
    eq_of_card_members (within_iterate hwithin h m) (within_iterate hwithin h k) (hsub hle) hcard
  have hmono : Monotone fun m => (members length (g^[m] places)).card := by
    intro m k hle
    exact Finset.card_le_card (members_subset (hsub hle))
  have hstable (m : ℕ)
      (hcard : (members length (g^[m] places)).card = (members length (g^[m + 1] places)).card) :
      (members length (g^[m + 1] places)).card = (members length (g^[m + 2] places)).card := by
    have hsame := heq (Nat.le_succ m) hcard
    rw [Function.iterate_succ_apply' g (m + 1), ← hsame, ← Function.iterate_succ_apply' g m, ← hsame]
  have hcard := Nat.stabilises_of_monotone hmono (fun m => card_members_le length _) hstable hn
  exact (heq hn hcard.symm).symm

end Grow

/-! ### Functions on sets of places -/

/-- A function takes each set of places to those that a relation leads to, and the relation does not lead out
of a text. -/
structure Carries (length : ℕ) (f : ℕ → ℕ) (R : ℕ → ℕ → Prop) : Prop where
  /-- The relation stays in the text. -/
  le {i j : ℕ} : R i j → i ≤ length → j ≤ length
  /-- The function leads where the relation does. -/
  testBit_iff {places : ℕ} (h : Within length places) (j : ℕ) :
    (f places).testBit j = true ↔ ∃ i, places.testBit i = true ∧ R i j

section Carries

variable {length : ℕ} {f g : ℕ → ℕ} {R S : ℕ → ℕ → Prop}

theorem Carries.within (hf : Carries length f R) {places : ℕ} (h : Within length places) :
    Within length (f places) := by
  intro j hj
  obtain ⟨i, hi, hR⟩ := (hf.testBit_iff h j).mp hj
  exact hf.le hR (h i hi)

theorem Carries.congr (hf : Carries length f R) (h : ∀ i j, R i j ↔ S i j) : Carries length f S := by
  have hsame : R = S := by
    funext i j
    exact propext (h i j)
  rwa [← hsame]

theorem carries_id : Carries length (fun places => places) fun i j => i = j where
  le := by
    rintro i j rfl hi
    exact hi
  testBit_iff _ j := by simp

theorem Carries.comp (hf : Carries length f R) (hg : Carries length g S) :
    Carries length (fun places => g (f places)) fun i k => ∃ j, R i j ∧ S j k where
  le := by
    rintro i k ⟨j, hR, hS⟩ hi
    exact hg.le hS (hf.le hR hi)
  testBit_iff {places} h k := by
    rw [hg.testBit_iff (hf.within h) k]
    constructor
    · rintro ⟨j, hj, hS⟩
      obtain ⟨i, hi, hR⟩ := (hf.testBit_iff h j).mp hj
      exact ⟨i, hi, j, hR, hS⟩
    · rintro ⟨i, hi, j, hR, hS⟩
      exact ⟨j, (hf.testBit_iff h j).mpr ⟨i, hi, hR⟩, hS⟩

theorem Carries.or (hf : Carries length f R) (hg : Carries length g S) :
    Carries length (fun places => f places ||| g places) fun i j => R i j ∨ S i j where
  le := by
    rintro i j (hR | hS) hi
    · exact hf.le hR hi
    · exact hg.le hS hi
  testBit_iff {places} h j := by
    rw [Nat.testBit_or, Bool.or_eq_true, hf.testBit_iff h, hg.testBit_iff h, ← exists_or]
    simp only [and_or_left]

theorem carries_iterate (hf : Carries length f R) (n : ℕ) : Carries length (iterate f n) (Steps R n) := by
  have hrounds : Carries length f^[n] (Steps R n) := by
    induction n with
    | zero => exact carries_id.congr fun i j => steps_zero_iff.symm
    | succ n ih => exact (hf.comp ih).congr fun i j => steps_succ_iff.symm
  have hiterate : iterate f n = f^[n] := funext (iterate_eq f n)
  rwa [hiterate]

theorem carries_grow (hf : Carries length f R) (n : ℕ) :
    Carries length (grow f n) fun i j => ∃ m ≤ n, Steps R m i j :=
  (carries_iterate (carries_id.or hf) n).congr fun _ _ => steps_or_eq_iff

/-- With one round for each place a set grows as far as any number of steps leads. -/
theorem carries_grow_length (hf : Carries length f R) :
    Carries length (grow f (length + 1)) fun i j => ∃ m, Steps R m i j where
  le := by
    rintro i j ⟨m, h⟩ hi
    exact (carries_iterate hf m).le h hi
  testBit_iff {places} h j := by
    constructor
    · intro hj
      obtain ⟨i, hi, m, -, hm⟩ := ((carries_grow hf _).testBit_iff h j).mp hj
      exact ⟨i, hi, m, hm⟩
    · rintro ⟨i, hi, m, hm⟩
      -- the place is reached in enough rounds, and rounds beyond one for each place add nothing
      have hreached : (grow f (max m (length + 1)) places).testBit j = true :=
        ((carries_grow hf _).testBit_iff h j).mpr ⟨i, hi, m, Nat.le_max_left _ _, hm⟩
      have hround := carries_id.or hf
      have hgrow (places i : ℕ) (hbit : places.testBit i = true) : (places ||| f places).testBit i = true := by
        rw [Nat.testBit_or, hbit, Bool.true_or]
      rw [grow, iterate_eq] at hreached ⊢
      rwa [iterate_of_le (fun _ => hround.within) hgrow h (Nat.le_max_right _ _)] at hreached

end Carries

/-! ### Places in a text -/

theorem testBit_bitsFrom {i j : ℕ} {bits : List Bool} :
    (bitsFrom i bits).testBit j = true ↔ i ≤ j ∧ bits[j - i]? = some true := by
  induction bits generalizing i with
  | nil => simp [bitsFrom]
  | cons b rest ih =>
    rw [bitsFrom, Nat.testBit_or, Bool.or_eq_true, ih]
    have hfirst : (if b = true then 1 <<< i else 0).testBit j = true ↔ i = j ∧ b = true := by
      cases b with
      | false => simp
      | true => simp [Nat.one_shiftLeft, Nat.testBit_two_pow]
    rw [hfirst]
    rcases Nat.lt_trichotomy i j with hlt | rfl | hlt
    · have hsucc : j - i = j - (i + 1) + 1 := by omega
      rw [hsucc, List.getElem?_cons_succ]
      constructor
      · rintro (⟨rfl, -⟩ | ⟨-, h⟩)
        · omega
        · exact ⟨hlt.le, h⟩
      · rintro ⟨-, h⟩
        exact Or.inr ⟨hlt, h⟩
    · simp
    · constructor
      · rintro (⟨rfl, -⟩ | ⟨h, -⟩) <;> omega
      · rintro ⟨h, -⟩
        omega

/-- A condition is tried between the characters before and behind each place. -/
theorem getElem?_lookHolds (l : Look) (before : Option Char) (text : Text) (i : ℕ) :
    (lookHolds l before text)[i]? = some true ↔ i ≤ text.length
      ∧ l.holds (if i = 0 then before else text[i - 1]?) text[i]? = true := by
  induction text generalizing before i with
  | nil =>
    cases i with
    | zero => simp [lookHolds]
    | succ i => simp [lookHolds]
  | cons c rest ih =>
    cases i with
    | zero => simp [lookHolds]
    | succ i =>
      rw [lookHolds, List.getElem?_cons_succ, ih, List.length_cons, Nat.succ_le_succ_iff]
      cases i with
      | zero => simp
      | succ i => simp

theorem carries_one (text : Text) (s : CodeSet) :
    Carries text.length (ends text.length (locate text (.one s))) (Matches text (.one s)) where
  le := by
    rintro i j ⟨rfl, c, hc, -⟩ -
    exact (List.getElem?_eq_some_iff.mp hc).1
  testBit_iff {places} _ j := by
    rw [locate, ends, Nat.testBit_shiftLeft]
    simp only [Bool.and_eq_true, decide_eq_true_eq, Nat.testBit_and, testBit_bitsFrom, Nat.sub_zero,
      List.getElem?_map, Option.map_eq_some_iff, Matches]
    constructor
    · rintro ⟨hj, hplace, -, hchar⟩
      exact ⟨j - 1, hplace, by omega, hchar⟩
    · rintro ⟨i, hi, rfl, hchar⟩
      exact ⟨by omega, hi, Nat.zero_le _, hchar⟩

theorem carries_look (text : Text) (l : Look) :
    Carries text.length (ends text.length (locate text (.look l))) (Matches text (.look l)) where
  le := by
    rintro i j ⟨rfl, hi, -⟩ -
    exact hi
  testBit_iff {places} _ j := by
    rw [locate, ends, Nat.testBit_and, Bool.and_eq_true, testBit_bitsFrom, Nat.sub_zero, getElem?_lookHolds]
    constructor
    · rintro ⟨hplace, -, hlook⟩
      exact ⟨j, hplace, rfl, hlook⟩
    · rintro ⟨i, hi, rfl, hlook⟩
      exact ⟨hi, Nat.zero_le _, hlook⟩

/-- A repetition makes the least number of steps, and then some more up to its bound. -/
theorem carries_repeated {text : Text} {p : Pattern CodeSet Look}
    (h : Carries text.length (ends text.length (locate text p)) (Matches text p)) (least : ℕ) (most : Option ℕ) :
    Carries text.length (ends text.length (locate text (.repeated least most p)))
      (Matches text (.repeated least most p)) := by
  cases most with
  | none =>
    refine ((carries_iterate h least).comp (carries_grow_length h)).congr fun i j => ?_
    constructor
    · rintro ⟨k, hk, m, hm⟩
      exact ⟨least + m, Nat.le_add_right _ _, by simp, steps_add_iff.mpr ⟨k, hk, hm⟩⟩
    · rintro ⟨n, hn, -, hsteps⟩
      obtain ⟨m, rfl⟩ := Nat.exists_eq_add_of_le hn
      obtain ⟨k, hk, hm⟩ := steps_add_iff.mp hsteps
      exact ⟨k, hk, m, hm⟩
  | some bound =>
    refine ((carries_iterate h least).comp (carries_grow h (bound - least))).congr fun i j => ?_
    constructor
    · rintro ⟨k, hk, m, hle, hm⟩
      refine ⟨least + m, Nat.le_add_right _ _, ?_, steps_add_iff.mpr ⟨k, hk, hm⟩⟩
      rintro _ ⟨⟩
      omega
    · rintro ⟨n, hn, hbound, hsteps⟩
      obtain ⟨m, rfl⟩ := Nat.exists_eq_add_of_le hn
      obtain ⟨k, hk, hm⟩ := steps_add_iff.mp hsteps
      have hle := hbound bound rfl
      exact ⟨k, hk, m, by omega, hm⟩

/-! ### Searching -/

/-- The ends that are computed from some places are those of the matches that begin there. -/
theorem carries_ends (text : Text) (p : Pattern CodeSet Look) :
    Carries text.length (ends text.length (locate text p)) (Matches text p) := by
  induction p with
  | empty => exact carries_id
  | one s => exact carries_one text s
  | look l => exact carries_look text l
  | seq p q ihp ihq => exact ihp.comp ihq
  | alt p q ihp ihq => exact ihp.or ihq
  | repeated least most p ih => exact carries_repeated ih least most
  | capture p ih => exact ih

/-- A pattern is found in a text just if it matches from one of its places. -/
theorem occursIn_iff {p : Pattern CodeSet Look} {text : Text} :
    occursIn p text = true ↔ ∃ i j, i ≤ text.length ∧ Matches text p i j := by
  have hall (i : ℕ) : (Nat.pow 2 (text.length + 1) - 1).testBit i = true ↔ i ≤ text.length := by
    rw [Nat.pow_eq, Nat.testBit_two_pow_sub_one, decide_eq_true_eq, Nat.lt_succ_iff]
  have hends := (carries_ends text p).testBit_iff fun i => (hall i).mp
  simp only [hall] at hends
  rw [occursIn, bne_iff_ne]
  constructor
  · intro hne
    obtain ⟨j, hj⟩ := Nat.exists_testBit_of_ne_zero hne
    obtain ⟨i, hi, hmatch⟩ := (hends j).mp hj
    exact ⟨i, j, hi, hmatch⟩
  · rintro ⟨i, j, hi, hmatch⟩ hzero
    have hj := (hends j).mpr ⟨i, hi, hmatch⟩
    rw [hzero, Nat.zero_testBit] at hj
    exact Bool.false_ne_true hj

/-- An expression that can be run is found in a text just if it matches somewhere in it. -/
theorem isMatch_iff {r : Regex} {text : Text} :
    r.isMatch text = true ↔ isRunnable r.pattern = true
      ∧ ∃ i j, i ≤ text.length ∧ Matches text r.pattern i j := by
  rw [isMatch, Bool.and_eq_true, occursIn_iff]

end ResultFilter.Regex
