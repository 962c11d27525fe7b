import Mathlib.Data.List.Infix
import ResultFilter.Proofs.Lower
import ResultFilter.Rule.Expression

/-!
# Comparisons in which case does not count

A comparison finds its operand at a place that the operator leaves open, so with what may stand before and
after it. In lower case that place has the length of the operand, and spells it unless the operand has a
capital sigma at an end where something may stand.

## Main definitions

* `StringOp.Leaves` — what an operator lets stand before and after the operand.
* `StringOp.SigmaSplits` — the operand has a sigma at an end that the operator leaves open.

## Main results

* `StringOp.holds_iff_leaves` — a comparison holds at a place that the operator leaves open.
* `StringOp.SigmaSplits.mem` — only operands with a capital sigma are concerned.
* `Expression.eval_comparison_ignoreCase_iff` — for which operators and operands a search result that passes
  the test passes it also where case does not count.
-/

namespace List

variable {α : Type} {part whole : List α} {a : α}

/-- What differs from a list of its length is not found by adding an element that it does not end in. -/
theorem not_infix_concat (hlen : part.length = whole.length) (hne : part ≠ whole) (hlast : part.getLast? ≠ some a) :
    ¬ part <:+: whole ++ [a] := by
  rw [List.infix_concat_iff, List.suffix_concat_iff]
  rintro ((rfl | ⟨front, rfl, -⟩) | hinner)
  · exact hne (List.eq_nil_of_length_eq_zero hlen.symm).symm
  · exact hlast List.getLast?_concat
  · exact hne (hinner.eq_of_length hlen)

/-- What differs from a list of its length is not found by putting an element before that it does not begin with. -/
theorem not_infix_cons (hlen : part.length = whole.length) (hne : part ≠ whole) (hfirst : part.head? ≠ some a) :
    ¬ part <:+: a :: whole := by
  rw [List.infix_cons_iff, List.prefix_cons_iff]
  rintro ((rfl | ⟨back, rfl, -⟩) | hinner)
  · exact hne (List.eq_nil_of_length_eq_zero hlen.symm).symm
  · exact hfirst rfl
  · exact hne (hinner.eq_of_length hlen)

end List

namespace ResultFilter

open ResultFilter.Text

/-! ### Places of the operand -/

namespace Text

theorem includes_iff_infix {cs part : Text} : includes cs part = true ↔ part <:+: cs := by
  induction cs with
  | nil => rw [includes, List.isEmpty_iff, List.infix_nil]
  | cons c cs ih => rw [includes, Bool.or_eq_true, List.isPrefixOf_iff_prefix, ih, List.infix_cons_iff]

end Text

namespace StringOp

/-- What an operator lets stand before and after the operand. -/
def Leaves (before after : Text) : StringOp → Prop
  | .equals => before = [] ∧ after = []
  | .startsWith => before = []
  | .endsWith => after = []
  | .contains => True

theorem Leaves.of_nil_imp {op : StringOp} {before after before' after' : Text} (h : op.Leaves before after)
    (hbefore : before = [] → before' = []) (hafter : after = [] → after' = []) : op.Leaves before' after' := by
  cases op with
  | equals => exact ⟨hbefore h.1, hafter h.2⟩
  | startsWith => exact hbefore h
  | endsWith => exact hafter h
  | contains => trivial

/-- A comparison holds at a place that the operator leaves open. -/
theorem holds_iff_leaves {op : StringOp} {actual value : Text} :
    op.holds actual value = true ↔ ∃ before after, op.Leaves before after ∧ actual = before ++ value ++ after := by
  cases op with
  | equals =>
    rw [holds, beq_iff_eq]
    constructor
    · rintro rfl
      exact ⟨[], [], ⟨rfl, rfl⟩, (List.append_nil _).symm⟩
    · rintro ⟨before, after, ⟨rfl, rfl⟩, rfl⟩
      rw [List.append_nil, List.nil_append]
  | startsWith =>
    rw [holds, Text.startsWith, List.isPrefixOf_iff_prefix]
    constructor
    · rintro ⟨after, rfl⟩
      exact ⟨[], after, rfl, rfl⟩
    · rintro ⟨before, after, rfl, rfl⟩
      exact List.prefix_append value after
  | endsWith =>
    rw [holds, Text.endsWith, List.isSuffixOf_iff_suffix]
    constructor
    · rintro ⟨before, rfl⟩
      exact ⟨before, [], rfl, (List.append_nil _).symm⟩
    · rintro ⟨before, after, rfl, rfl⟩
      rw [List.append_nil]
      exact List.suffix_append before value
  | contains =>
    rw [holds, includes_iff_infix]
    constructor
    · rintro ⟨before, after, rfl⟩
      exact ⟨before, after, trivial, rfl⟩
    · rintro ⟨before, after, -, rfl⟩
      exact List.infix_append before value after

theorem infix_of_holds {op : StringOp} {actual value : Text} (h : op.holds actual value = true) :
    value <:+: actual := by
  obtain ⟨before, after, -, rfl⟩ := holds_iff_leaves.mp h
  exact List.infix_append before value after

/-! ### Operands in lower case -/

/-- The operand has a sigma at an end that the operator leaves open. -/
def SigmaSplits (value : Text) : StringOp → Prop
  | .equals => False
  | .startsWith => EndsInSigma value
  | .endsWith => BeginsInSigma value
  | .contains => BeginsInSigma value ∨ EndsInSigma value

/-- Only an operand with a capital sigma is concerned. -/
theorem SigmaSplits.mem {op : StringOp} {value : Text} (h : op.SigmaSplits value) : capitalSigma ∈ value := by
  have hends : EndsInSigma value → capitalSigma ∈ value := by rintro ⟨x, y, rfl, -⟩; simp
  have hbegins : BeginsInSigma value → capitalSigma ∈ value := by rintro ⟨x, y, rfl, -⟩; simp
  cases op with
  | equals => exact h.elim
  | startsWith => exact hends h
  | endsWith => exact hbegins h
  | contains => exact h.elim hbegins hends

/-- What stands where the operator leaves it open does not touch the operand. -/
theorem Leaves.nil_or_not {op : StringOp} {before after value : Text} (h : op.Leaves before after)
    (hsigma : ¬ op.SigmaSplits value) :
    (before = [] ∨ ¬ BeginsInSigma value) ∧ (after = [] ∨ ¬ EndsInSigma value) := by
  cases op with
  | equals => exact ⟨.inl h.1, .inl h.2⟩
  | startsWith => exact ⟨.inl h, .inr hsigma⟩
  | endsWith => exact ⟨.inr hsigma, .inl h⟩
  | contains => exact ⟨.inr (mt .inl hsigma), .inr (mt .inr hsigma)⟩

/-- A comparison goes on to hold in lower case. -/
theorem holds_toLower {op : StringOp} {actual value : Text} (hsigma : ¬ op.SigmaSplits value)
    (h : op.holds actual value = true) : op.holds (toLower actual) (toLower value) = true := by
  obtain ⟨before, after, hleaves, rfl⟩ := holds_iff_leaves.mp h
  obtain ⟨hbegin, hend⟩ := hleaves.nil_or_not hsigma
  have hplace : lowerBetween after before.reverse value = toLower value :=
    lowerBetween_eq_toLower (hbegin.imp_left fun h => by rw [h, List.reverse_nil]) hend
  rw [holds_iff_leaves, toLower_append_append, hplace]
  refine ⟨_, _, hleaves.of_nil_imp ?_ ?_, rfl⟩
  · rintro rfl; rfl
  · rintro rfl; rfl

/-! ### Texts that are no longer found -/

/-- There is a letter other than a given character that stays itself in lower case. -/
theorem exists_letter (other : Option Char) :
    ∃ c, lowerChar c = [c] ∧ c ≠ capitalSigma ∧ casedAhead [c] = true ∧ other ≠ some c := by
  by_cases h : other = some 'a'
  · exact ⟨'b', lowerChar_of_ascii (by decide), by decide, by decide +kernel, by rw [h]; decide⟩
  · exact ⟨'a', lowerChar_of_ascii (by decide), by decide, by decide +kernel, h⟩

/-- With a letter after its last sigma the operand is not found in lower case. -/
theorem exists_not_infix_of_endsInSigma {value : Text} (h : EndsInSigma value) :
    ∃ c, ¬ toLower value <:+: toLower (value ++ [c]) := by
  obtain ⟨c, hlower, hsigma, hcased, hlast⟩ := exists_letter (toLower value).getLast?
  refine ⟨c, ?_⟩
  rw [toLower_append, lowerFrom, if_neg hsigma, hlower, lowerFrom_nil, List.append_nil]
  refine List.not_infix_concat ?_ (lowerBetween_ne_of_endsInSigma h hcased).symm hlast
  rw [toLower_eq_lowerBetween, length_lowerBetween]

/-- With a letter before its first sigma the operand is not found in lower case. -/
theorem exists_not_infix_of_beginsInSigma {value : Text} (h : BeginsInSigma value) :
    ∃ c, ¬ toLower value <:+: toLower (c :: value) := by
  obtain ⟨c, hlower, hsigma, hcased, hfirst⟩ := exists_letter (toLower value).head?
  refine ⟨c, ?_⟩
  rw [toLower_eq_lowerBetween (c :: value), lowerBetween, if_neg hsigma, hlower, List.singleton_append]
  refine List.not_infix_cons ?_ (lowerBetween_ne_of_beginsInSigma h hcased).symm hfirst
  rw [toLower_eq_lowerBetween, length_lowerBetween]

/-- Whatever passes a test passes it in lower case, just if the operand has no sigma at an open end. -/
theorem forall_holds_toLower_iff {op : StringOp} {value : Text} :
    (∀ actual, op.holds actual value = true → op.holds (toLower actual) (toLower value) = true)
      ↔ ¬ op.SigmaSplits value := by
  refine ⟨fun hall hsigma => ?_, fun hsigma actual => holds_toLower hsigma⟩
  -- a letter at an end that is left open makes a text that passes the test, but not in lower case
  have hends (hleaves : ∀ after, op.Leaves [] after) : ¬ EndsInSigma value := by
    intro h
    obtain ⟨c, hlost⟩ := exists_not_infix_of_endsInSigma h
    exact hlost (infix_of_holds (hall _ (holds_iff_leaves.mpr ⟨[], [c], hleaves _, rfl⟩)))
  have hbegins (hleaves : ∀ before, op.Leaves before []) : ¬ BeginsInSigma value := by
    intro h
    obtain ⟨c, hlost⟩ := exists_not_infix_of_beginsInSigma h
    exact hlost (infix_of_holds (hall _ (holds_iff_leaves.mpr ⟨[c], [], hleaves _, (List.append_nil _).symm⟩)))
  cases op with
  | equals => exact hsigma
  | startsWith => exact hends (fun _ => rfl) hsigma
  | endsWith => exact hbegins (fun _ => rfl) hsigma
  | contains => exact hsigma.elim (hbegins fun _ => trivial) (hends fun _ => trivial)

end StringOp

/-! ### Tests of a search result -/

namespace Expression

theorem eval_comparison {props : Props} {prop value : Text} {op : StringOp} {ignoreCase : Bool} :
    (comparison prop op value ignoreCase).eval props = true ↔ ∃ actual, props.get? prop = some actual
      ∧ op.holds (if ignoreCase then toLower actual else actual)
          (if ignoreCase then toLower value else value) = true := by
  rw [comparison, eval]
  cases props.get? prop with
  | none => simp
  | some actual => simp

/-- A search result that passes a test passes it also where case does not count, whatever it has under the
property, just if the operand has no capital sigma whose lower-case form the place of the operand can
change. -/
theorem eval_comparison_ignoreCase_iff (prop : Text) (op : StringOp) (value : Text) :
    (∀ props : Props, (comparison prop op value false).eval props = true →
        (comparison prop op value true).eval props = true)
      ↔ ¬ op.SigmaSplits value := by
  rw [← StringOp.forall_holds_toLower_iff]
  constructor
  · intro hall actual hholds
    have hget : Props.get? [(prop, actual)] prop = some actual := by rw [Props.get?, Dict.find?, if_pos rfl]
    obtain ⟨found, hfound, hlower⟩ :=
      eval_comparison.mp (hall [(prop, actual)] (eval_comparison.mpr ⟨actual, hget, hholds⟩))
    rw [hget, Option.some.injEq] at hfound
    rwa [← hfound] at hlower
  · intro hall props hplain
    obtain ⟨actual, hget, hholds⟩ := eval_comparison.mp hplain
    exact eval_comparison.mpr ⟨actual, hget, hall actual hholds⟩

/-- The title `ΟΔΥΣΣΕΥΣ` begins with `ΟΔΥΣ`, but not where case does not count: the sigma that the operand
ends in is final, and that of the title is not. -/
theorem eval_comparison_ignoreCase_counterexample :
    (comparison Props.titleName .startsWith "ΟΔΥΣ".toList false).eval [(Props.titleName, "ΟΔΥΣΣΕΥΣ".toList)] = true
      ∧ (comparison Props.titleName .startsWith "ΟΔΥΣ".toList true).eval [(Props.titleName, "ΟΔΥΣΣΕΥΣ".toList)]
        = false := by
  decide +kernel

end Expression

end ResultFilter
