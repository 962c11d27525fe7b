/-!
# Binary numbers of sixty-four bits

A number of the double format is a sign and `m · 2 ^ e` with a mantissa of at most fifty-three bits.
Ratios are rounded to the nearest such number, a tie to the one with the even mantissa, so that sums of
this kind are exact arithmetic followed by one rounding.

## Main definitions

* `Binary64` — a finite number.
* `Binary64.ofRatio?` — the number nearest to a ratio.
* `Binary64.ofNat?`, `Binary64.mul?`, `Binary64.div?` — rounded operations.
-/

namespace ResultFilter

/-- A finite number `± mantissa · 2 ^ exponent`. -/
structure Binary64 where
  /-- Whether the number is below zero, or is the zero with a minus sign. -/
  negative : Bool
  /-- Below `2 ^ 53`; at least `2 ^ 52` unless the exponent is the least one. -/
  mantissa : Nat
  /-- At least `-1074`. -/
  exponent : Int
deriving DecidableEq, Repr

namespace Binary64

/-- The least exponent. -/
def leastExponent : Int := -1074

/-- The largest exponent. -/
def largestExponent : Int := 971

/-- The least mantissa of fifty-three bits. -/
def leastNormal : Nat := 0x10000000000000

/-- Zero. -/
def zero (negative : Bool) : Binary64 := ⟨negative, 0, leastExponent⟩

/-- Whether a number is zero, of either sign. -/
def isZero (x : Binary64) : Bool := x.mantissa == 0

/-- The quotient of two numbers rounded to the nearest, a tie to the even neighbour. -/
def roundDiv (n d : Nat) : Nat :=
  let q := n / d
  let twice := 2 * (n % d)
  if twice > d || (twice == d && q % 2 == 1) then q + 1 else q

/-- The ratio `n / d` divided by a power of two, as a ratio. -/
def scaleDown (n d : Nat) (e : Int) : Nat × Nat :=
  if e ≥ 0 then (n, d * Nat.pow 2 e.toNat) else (n * Nat.pow 2 (-e).toNat, d)

/-- The number nearest to a positive ratio; nothing if it is beyond the largest one. -/
def ofRatio? (negative : Bool) (n d : Nat) : Option Binary64 :=
  if n = 0 then some (zero negative)
  else
    let guess : Int := (n.log2 : Int) - (d.log2 : Int) - 52
    let (a, b) := scaleDown n d guess
    let e := if a < b * leastNormal then guess - 1 else guess
    let e := max e leastExponent
    let (a, b) := scaleDown n d e
    let m := roundDiv a b
    let (m, e) := if m = 2 * leastNormal then (leastNormal, e + 1) else (m, e)
    if e > largestExponent then none else some ⟨negative, m, e⟩

/-- The magnitude of a number as a ratio. -/
def ratio (x : Binary64) : Nat × Nat :=
  if x.exponent ≥ 0 then (x.mantissa * Nat.pow 2 x.exponent.toNat, 1)
  else (x.mantissa, Nat.pow 2 (-x.exponent).toNat)

/-- The number nearest to a natural number. -/
def ofNat? (negative : Bool) (n : Nat) : Option Binary64 := ofRatio? negative n 1

/-- A power of ten that no number of the format reaches, and whose inverse rounds to zero. -/
def farPower : Int := 400

/-- The number nearest to `n · 10 ^ k`. -/
def ofDecimal? (negative : Bool) (n : Nat) (k : Int) : Option Binary64 :=
  if n = 0 then some (zero negative)
  else if k > farPower then none
  else if k + n.log2 + 1 < -farPower then some (zero negative)
  else if k ≥ 0 then ofRatio? negative (n * Nat.pow 10 k.toNat) 1 else ofRatio? negative n (Nat.pow 10 (-k).toNat)

/-- The rounded product of the magnitudes, with the sign of the first number. -/
def mul? (x y : Binary64) : Option Binary64 :=
  ofRatio? x.negative (x.ratio.1 * y.ratio.1) (x.ratio.2 * y.ratio.2)

/-- The rounded quotient of the magnitudes, with the sign of the first number. -/
def div? (x y : Binary64) : Option Binary64 :=
  ofRatio? x.negative (x.ratio.1 * y.ratio.2) (x.ratio.2 * y.ratio.1)

end Binary64

end ResultFilter
