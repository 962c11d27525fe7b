import Mathlib.Tactic.Ring
import ResultFilter.Decimal.Shortest

/-!
# The shortest decimal of a number is a number

Only zero is written as zero: a number with a mantissa is written as digits of which some are not zero,
whether a grid has a decimal that reads back or the finest grid has to do.

## Main results

* `Binary64.leadingPower_spec` — the power of ten of the first digit is not too large.
* `Binary64.shortest_ne_zero` — the digits of a number other than zero are not all zero.
-/

namespace ResultFilter

namespace Binary64

/-! ### The power of the first digit -/

theorem pow_le_of_length_toDigits {n : Nat} (hn : n ≠ 0) : 10 ^ ((Nat.toDigits 10 n).length - 1) ≤ n := by
  by_contra hlt
  rcases Nat.eq_zero_or_pos ((Nat.toDigits 10 n).length - 1) with hzero | hpos
  · rw [hzero, pow_zero] at hlt
    omega
  · have := (Nat.length_toDigits_le_iff (b := 10) (by decide) hpos).mpr (Nat.lt_of_not_le hlt)
    omega

theorem lt_pow_length_toDigits (n : Nat) : n < 10 ^ (Nat.toDigits 10 n).length :=
  (Nat.length_toDigits_le_iff (b := 10) (by decide) Nat.length_toDigits_pos).mp (Nat.le_refl _)

/-- A positive ratio is at least the power of ten of its first digit. -/
theorem leadingPower_spec {n d : Nat} (hn : 0 < n) (hd : 0 < d) :
    (0 ≤ leadingPower n d → 10 ^ (leadingPower n d).toNat * d ≤ n)
      ∧ (leadingPower n d < 0 → d ≤ n * 10 ^ (-leadingPower n d).toNat) := by
  unfold leadingPower
  split
  · next hle =>
    have hlength : 0 < (Nat.toDigits 10 (n / d)).length := Nat.length_toDigits_pos
    refine ⟨fun _ => ?_, fun hneg => by omega⟩
    have hpower := pow_le_of_length_toDigits (n := n / d) (Nat.div_pos hle hd).ne'
    rw [show (((Nat.toDigits 10 (n / d)).length : Int) - 1).toNat = (Nat.toDigits 10 (n / d)).length - 1 by omega]
    exact (Nat.mul_le_mul_right d hpower).trans (Nat.div_mul_le_self n d)
  · next hlt =>
    have hlength : 0 < (Nat.toDigits 10 (d / n)).length := Nat.length_toDigits_pos
    have hpower := lt_pow_length_toDigits (d / n)
    have hle : d ≤ n * 10 ^ (Nat.toDigits 10 (d / n)).length :=
      ((Nat.div_lt_iff_lt_mul hn).mp hpower).le.trans_eq (Nat.mul_comm _ _)
    dsimp only
    generalize (Nat.toDigits 10 (d / n)).length = k at hlength hle ⊢
    rw [Int.toNat_natCast]
    split
    · next hfine =>
      refine ⟨fun hpos => ?_, fun _ => ?_⟩
      · -- one digit: the ratio is at least one after all
        obtain rfl : k = 1 := by omega
        simpa using hfine
      · rwa [show (-(-((k : Int) - 1))).toNat = k - 1 by omega]
    · exact ⟨fun hpos => by omega, fun _ => by rwa [neg_neg, Int.toNat_natCast]⟩

/-! ### Digits that are not all zero -/

theorem ratio_snd_pos (x : Binary64) : 0 < x.ratio.2 := by
  unfold ratio
  split
  · exact Nat.one_pos
  · exact Nat.pow_pos (by decide)

theorem ratio_fst_pos {x : Binary64} (hx : x.mantissa ≠ 0) : 0 < x.ratio.1 := by
  unfold ratio
  split
  · exact Nat.mul_pos (Nat.pos_of_ne_zero hx) (Nat.pow_pos (by decide))
  · exact Nat.pos_of_ne_zero hx

theorem scaleTen_snd_pos {n d : Nat} (hd : 0 < d) (k : Int) : 0 < (scaleTen n d k).2 := by
  unfold scaleTen
  split
  · exact hd
  · exact Nat.mul_pos hd (Nat.pow_pos (by decide))

/-- A ratio of a given size is at least one on a grid that is not coarser. -/
theorem le_scaleTen {n d v t : Nat} {k p : Int} (hpos : 0 ≤ p → 10 ^ p.toNat * d ≤ n)
    (hneg : p < 0 → d ≤ n * 10 ^ (-p).toNat) (hk : k ≤ p) (hratio : v * d = n * t) (hd : 0 < d) :
    (scaleTen v t (-k)).2 ≤ (scaleTen v t (-k)).1 := by
  -- the same bounds for the other way to write the ratio
  have hpos' : 0 ≤ p → 10 ^ p.toNat * t ≤ v := fun hp => by
    refine Nat.le_of_mul_le_mul_right ?_ hd
    calc 10 ^ p.toNat * t * d = 10 ^ p.toNat * d * t := by ring
      _ ≤ n * t := Nat.mul_le_mul_right t (hpos hp)
      _ = v * d := hratio.symm
  have hneg' : p < 0 → t ≤ v * 10 ^ (-p).toNat := fun hp => by
    refine Nat.le_of_mul_le_mul_right ?_ hd
    calc t * d ≤ t * (n * 10 ^ (-p).toNat) := Nat.mul_le_mul_left t (hneg hp)
      _ = n * t * 10 ^ (-p).toNat := by ring
      _ = v * 10 ^ (-p).toNat * d := by rw [← hratio]; ring
  unfold scaleTen
  split
  · show t ≤ v * 10 ^ (-k).toNat
    rcases lt_or_ge p 0 with hp | hp
    · exact (hneg' hp).trans (Nat.mul_le_mul_left v (Nat.pow_le_pow_right (by decide) (by omega)))
    · calc t ≤ 10 ^ p.toNat * t := Nat.le_mul_of_pos_left t (Nat.pow_pos (by decide))
        _ ≤ v := hpos' hp
        _ ≤ v * 10 ^ (-k).toNat := Nat.le_mul_of_pos_right v (Nat.pow_pos (by decide))
  · show t * 10 ^ (- -k).toNat ≤ v
    refine le_trans ?_ (hpos' (by omega))
    rw [Nat.mul_comm]
    exact Nat.mul_le_mul_right t (Nat.pow_le_pow_right (by decide) (by omega))

section NotZero

variable {x : Binary64} (hx : x.mantissa ≠ 0)
include hx

/-- The halfway points of a number, over their denominator, are above zero, and the number between them is the
ratio of the number. -/
theorem halfways_spec : 0 < x.halfways.1 ∧ 0 < x.halfways.2.2.2
    ∧ x.halfways.2.1 * x.ratio.2 = x.ratio.1 * x.halfways.2.2.2 := by
  have hbelow : ∀ b, b ≤ 2 → 0 < 4 * x.mantissa - b := fun b hb => by omega
  have htwo : (if x.mantissa = leastNormal ∧ x.exponent > leastExponent then 1 else 2) ≤ 2 := by split <;> omega
  unfold halfways ratio
  dsimp only
  split
  · next he =>
    have hexponent : x.exponent ≥ 0 := by omega
    have hpow : 2 ^ x.exponent.toNat = 4 * 2 ^ (x.exponent - 2).toNat := by
      rw [show x.exponent.toNat = 2 + (x.exponent - 2).toNat by omega, pow_add]
      rfl
    rw [if_pos hexponent]
    refine ⟨Nat.mul_pos (hbelow _ htwo) (Nat.pow_pos (by decide)), Nat.one_pos, ?_⟩
    show 4 * x.mantissa * 2 ^ (x.exponent - 2).toNat * 1 = x.mantissa * 2 ^ x.exponent.toNat * 1
    rw [hpow]
    ring
  · next he =>
    refine ⟨hbelow _ htwo, Nat.pow_pos (by decide), ?_⟩
    by_cases hexponent : x.exponent ≥ 0
    · rw [if_pos hexponent]
      show 4 * x.mantissa * 1 = x.mantissa * 2 ^ x.exponent.toNat * 2 ^ (-(x.exponent - 2)).toNat
      rw [Nat.mul_assoc x.mantissa, ← pow_add, show x.exponent.toNat + (-(x.exponent - 2)).toNat = 2 by omega]
      ring
    · rw [if_neg hexponent]
      show 4 * x.mantissa * 2 ^ (-x.exponent).toNat = x.mantissa * 2 ^ (-(x.exponent - 2)).toNat
      rw [show (-(x.exponent - 2)).toNat = (-x.exponent).toNat + 2 by omega, pow_add]
      ring

/-- Zero does not read back as another number. -/
theorem readsBack_zero (k : Int) : x.readsBack 0 k = false := by
  have hlower := (halfways_spec hx).1
  have hzero : (scaleTen 0 1 k).1 = 0 := by
    unfold scaleTen
    split
    · exact Nat.zero_mul _
    · rfl
  have hpos : 0 < x.halfways.1 * (scaleTen 0 1 k).2 := Nat.mul_pos hlower (scaleTen_snd_pos Nat.one_pos k)
  unfold readsBack
  dsimp only
  rw [hzero, Nat.zero_mul]
  split
  · simp [Nat.not_le.mpr hpos]
  · simp

/-- On a grid much finer than the number, zero is not the nearer neighbour. -/
theorem headD_neighbours_ne_zero {k : Int} (hk : k ≤ leadingPower x.ratio.1 x.ratio.2) :
    (x.neighbours k).headD 0 ≠ 0 := by
  obtain ⟨-, hd, hratio⟩ := halfways_spec hx
  have hn : 0 < x.ratio.1 := ratio_fst_pos hx
  obtain ⟨hpos, hneg⟩ := leadingPower_spec hn x.ratio_snd_pos
  have hone := le_scaleTen hpos hneg hk hratio x.ratio_snd_pos
  have hquotient := Nat.div_pos hone (scaleTen_snd_pos hd (-k))
  unfold neighbours
  dsimp only
  split
  · exact hquotient.ne'
  · exact Nat.succ_ne_zero _

/-- The digits that are found are not all zero. -/
theorem shortestFrom_ne_zero : ∀ {fuel : Nat} {k : Int}, k - fuel ≤ leadingPower x.ratio.1 x.ratio.2 →
    (x.shortestFrom fuel k).1 ≠ 0 := by
  intro fuel
  induction fuel with
  | zero =>
    intro k hk
    exact headD_neighbours_ne_zero hx (by simpa using hk)
  | succ fuel ih =>
    intro k hk
    rw [shortestFrom]
    split
    · next c hc =>
      rintro rfl
      have hback := List.find?_some hc
      rw [readsBack_zero hx] at hback
      exact absurd hback (by simp)
    · exact ih (by push_cast at hk; omega)

end NotZero

theorem dropZeros_ne_zero : ∀ {fuel c : Nat} {k : Int}, c ≠ 0 → (dropZeros fuel c k).1 ≠ 0 := by
  intro fuel
  induction fuel with
  | zero => exact fun h => h
  | succ fuel ih =>
    intro c k hc
    rw [dropZeros]
    split
    · exact ih (by omega)
    · exact hc

/-- The digits of a number other than zero are not all zero. -/
theorem shortest_ne_zero {x : Binary64} (hx : x.mantissa ≠ 0) : x.shortest.1 ≠ 0 := by
  unfold shortest
  rw [if_neg (by simpa [isZero] using hx)]
  have hdigits : (x.shortestFrom 17 (leadingPower x.ratio.1 x.ratio.2)).1 ≠ 0 := shortestFrom_ne_zero hx (by omega)
  exact dropZeros_ne_zero hdigits

end Binary64

end ResultFilter
