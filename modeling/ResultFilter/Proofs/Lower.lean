import Mathlib.Data.List.TakeWhile
import ResultFilter.Text.Lower

/-!
# Lower case of parts of a text

The lower-case form of a text is put together from those of its characters, and only that of a capital sigma
depends on where it stands. So a stretch of a text is in lower case what it is by itself, unless the sigma at
one of its ends is within a word of the text and at the end of one in the stretch, or the other way round.

## Main definitions

* `lowerBetween` — the lower-case form of a stretch between two others.
* `EndsInSigma`, `BeginsInSigma` — the sigma at an end of a text is told by that end.

## Main results

* `toLower_append_append` — the lower-case form of three stretches.
* `lowerBetween_eq_toLower`, `lowerBetween_ne_of_endsInSigma`, `lowerBetween_ne_of_beginsInSigma` — when a
  stretch is in lower case what it is by itself.
-/

namespace ResultFilter.Text

/-! ### Stretches of a text -/

/-- The lower-case form of a stretch of text before another one, with what precedes it in reverse. -/
def lowerBetween (after : List Char) : List Char → List Char → List Char
  | _, [] => []
  | before, c :: rest =>
    (if c = capitalSigma then [lowerSigma before (rest ++ after)] else lowerChar c)
      ++ lowerBetween after (c :: before) rest

theorem lowerFrom_append (v after : List Char) : ∀ before : List Char,
    lowerFrom before (v ++ after) = lowerBetween after before v ++ lowerFrom (v.reverse ++ before) after := by
  induction v with
  | nil => intro before; rfl
  | cons c v ih =>
    intro before
    rw [List.cons_append, lowerFrom, lowerBetween, ih, List.append_assoc, List.reverse_cons, List.append_assoc]
    rfl

theorem toLower_eq_lowerBetween (v : List Char) : toLower v = lowerBetween [] [] v := by
  have h := lowerFrom_append v [] []
  rwa [List.append_nil, lowerFrom_nil, List.append_nil] at h

theorem toLower_append (v after : List Char) :
    toLower (v ++ after) = lowerBetween after [] v ++ lowerFrom v.reverse after := by
  rw [toLower, lowerFrom_append, List.append_nil]

/-- The lower-case form of three stretches, of which the one in the middle stands between the others. -/
theorem toLower_append_append (before v after : List Char) :
    toLower (before ++ v ++ after)
      = lowerBetween (v ++ after) [] before ++ lowerBetween after before.reverse v
        ++ lowerFrom (v.reverse ++ before.reverse) after := by
  rw [List.append_assoc, toLower_append, lowerFrom_append, List.append_assoc]

/-- What stands around a stretch does not change its length in lower case. -/
theorem length_lowerBetween (after after' v : List Char) : ∀ before before' : List Char,
    (lowerBetween after before v).length = (lowerBetween after' before' v).length := by
  induction v with
  | nil => intro before before'; rfl
  | cons c v ih =>
    intro before before'
    rw [lowerBetween, lowerBetween, List.length_append, List.length_append, ih]
    split <;> rfl

/-- What stands around a stretch matters for its sigmas alone. -/
theorem lowerBetween_eq_iff {after after' : List Char} {v : List Char} : ∀ {before before' : List Char},
    lowerBetween after before v = lowerBetween after' before' v ↔ ∀ x y, v = x ++ capitalSigma :: y →
      lowerSigma (x.reverse ++ before) (y ++ after) = lowerSigma (x.reverse ++ before') (y ++ after') := by
  induction v with
  | nil =>
    intro before before'
    exact iff_of_true rfl fun x y h => by simp at h
  | cons c v ih =>
    intro before before'
    -- a sigma stands in front or further on
    have hsplits : (∀ x y, c :: v = x ++ capitalSigma :: y →
          lowerSigma (x.reverse ++ before) (y ++ after) = lowerSigma (x.reverse ++ before') (y ++ after'))
        ↔ (c = capitalSigma → lowerSigma before (v ++ after) = lowerSigma before' (v ++ after'))
          ∧ lowerBetween after (c :: before) v = lowerBetween after' (c :: before') v := by
      rw [ih]
      constructor
      · intro h
        refine ⟨fun hc => h [] v (by rw [hc]; rfl), fun x y hv => ?_⟩
        simpa using h (c :: x) y (by rw [hv]; rfl)
      · rintro ⟨hfirst, hrest⟩ x y hv
        cases x with
        | nil =>
          obtain ⟨hc, rfl⟩ := List.cons.inj hv
          exact hfirst hc
        | cons d x =>
          obtain ⟨rfl, rfl⟩ := List.cons.inj hv
          simpa using hrest x y rfl
    rw [hsplits, lowerBetween, lowerBetween]
    -- a sigma becomes one character on both sides, and any other character the same ones
    by_cases hc : c = capitalSigma
    · simp [hc]
    · simp [hc]

/-! ### Letters ahead -/

section Ahead

variable {x : List Char}

theorem casedAhead_append_of_forall (h : ∀ c ∈ x, caseIgnorableCodes.has c = true) (y : List Char) :
    casedAhead (x ++ y) = casedAhead y := by
  rw [casedAhead, List.dropWhile_append_of_pos h, ← casedAhead]

theorem casedAhead_of_forall (h : ∀ c ∈ x, caseIgnorableCodes.has c = true) : casedAhead x = false := by
  have hnil := casedAhead_append_of_forall h []
  rwa [List.append_nil] at hnil

theorem casedAhead_append_of_not_forall (h : ¬ ∀ c ∈ x, caseIgnorableCodes.has c = true) (y : List Char) :
    casedAhead (x ++ y) = casedAhead x := by
  obtain ⟨c, rest, hdrop⟩ := List.exists_cons_of_ne_nil (mt List.dropWhile_eq_nil_iff.mp h)
  rw [casedAhead, casedAhead, List.dropWhile_append, hdrop]
  rfl

/-- Where there is a letter ahead it is not passed over, so nothing behind it counts. -/
theorem casedAhead_append_of_casedAhead (h : casedAhead x = true) (y : List Char) : casedAhead (x ++ y) = true := by
  rw [casedAhead_append_of_not_forall, h]
  intro hall
  rw [casedAhead_of_forall hall] at h
  exact absurd h (by decide)

end Ahead

theorem lowerSigma_eq_iff {before after before' after' : List Char} :
    lowerSigma before after = lowerSigma before' after'
      ↔ (casedAhead before && !casedAhead after) = (casedAhead before' && !casedAhead after') := by
  unfold lowerSigma
  cases casedAhead before && !casedAhead after <;> cases casedAhead before' && !casedAhead after' <;> decide

/-! ### Sigmas at the ends -/

/-- A text ends in a sigma that is final, and would not be if a letter followed. -/
def EndsInSigma (v : List Char) : Prop :=
  ∃ x y, v = x ++ capitalSigma :: y ∧ casedAhead x.reverse = true ∧ ∀ c ∈ y, caseIgnorableCodes.has c = true

/-- A text begins with a sigma that is not final, and would be if a letter preceded. -/
def BeginsInSigma (v : List Char) : Prop :=
  ∃ x y, v = x ++ capitalSigma :: y ∧ (∀ c ∈ x, caseIgnorableCodes.has c = true) ∧ casedAhead y = false

section Sigma

variable {v before after : List Char}

/-- A stretch is in lower case what it is by itself, unless something stands at an end that has a sigma. -/
theorem lowerBetween_eq_toLower (hbegin : before = [] ∨ ¬ BeginsInSigma v) (hend : after = [] ∨ ¬ EndsInSigma v) :
    lowerBetween after before v = toLower v := by
  rw [toLower_eq_lowerBetween, lowerBetween_eq_iff]
  intro x y hv
  rw [lowerSigma_eq_iff, List.append_nil, List.append_nil]
  by_cases hx : ∀ c ∈ x, caseIgnorableCodes.has c = true
  · -- no letter precedes the sigma in the stretch, so it is not final there
    have hreverse : ∀ c ∈ x.reverse, caseIgnorableCodes.has c = true := fun c hc => hx c (List.mem_reverse.mp hc)
    rw [casedAhead_of_forall hreverse, casedAhead_append_of_forall hreverse, Bool.false_and]
    rcases hbegin with rfl | hbegin
    · rfl
    · have hy : casedAhead y = true := by
        by_contra hy
        exact hbegin ⟨x, y, hv, hx, eq_false_of_ne_true hy⟩
      rw [casedAhead_append_of_casedAhead hy, Bool.not_true, Bool.and_false]
  · -- the sigma is told by what precedes it in the stretch and by what follows
    have hreverse : ¬ ∀ c ∈ x.reverse, caseIgnorableCodes.has c = true := by simpa using hx
    rw [casedAhead_append_of_not_forall hreverse]
    cases hletter : casedAhead x.reverse with
    | false => rw [Bool.false_and, Bool.false_and]
    | true =>
      rcases hend with rfl | hend
      · rw [List.append_nil]
      · have hy : ¬ ∀ c ∈ y, caseIgnorableCodes.has c = true := fun hy => hend ⟨x, y, hv, hletter, hy⟩
        rw [casedAhead_append_of_not_forall hy]

theorem lowerBetween_ne_of_endsInSigma (h : EndsInSigma v) (hafter : casedAhead after = true) :
    lowerBetween after [] v ≠ toLower v := by
  obtain ⟨x, y, hv, hx, hy⟩ := h
  rw [toLower_eq_lowerBetween, ne_eq, lowerBetween_eq_iff]
  intro hall
  have hsigma := lowerSigma_eq_iff.mp (hall x y hv)
  rw [List.append_nil, List.append_nil, hx, casedAhead_append_of_forall hy, hafter, casedAhead_of_forall hy] at hsigma
  exact absurd hsigma (by decide)

theorem lowerBetween_ne_of_beginsInSigma (h : BeginsInSigma v) (hbefore : casedAhead before = true) :
    lowerBetween [] before v ≠ toLower v := by
  obtain ⟨x, y, hv, hx, hy⟩ := h
  have hreverse : ∀ c ∈ x.reverse, caseIgnorableCodes.has c = true := fun c hc => hx c (List.mem_reverse.mp hc)
  rw [toLower_eq_lowerBetween, ne_eq, lowerBetween_eq_iff]
  intro hall
  have hsigma := lowerSigma_eq_iff.mp (hall x y hv)
  rw [List.append_nil, List.append_nil, hy, casedAhead_append_of_forall hreverse, hbefore,
    casedAhead_of_forall hreverse] at hsigma
  exact absurd hsigma (by decide)

end Sigma

end ResultFilter.Text
