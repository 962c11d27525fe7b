import ResultFilter.Decimal.Binary64
import ResultFilter.Text.Hex

/-!
# The shortest decimal of a number

A number of the double format is written with the fewest digits that read back as it; of the decimals
with so many digits that read back, the nearest one is taken.

## Main definitions

* `Binary64.readsBack` — whether a decimal rounds to a number.
* `Binary64.shortest` — the digits and the power of ten.
* `DecimalStyle` — where a decimal is written with a point, and how its exponent looks.
* `Binary64.render` — the number in writing.
-/

namespace ResultFilter

namespace Binary64

/-- A positive ratio times a power of ten, as a ratio. -/
def scaleTen (n d : Nat) (k : Int) : Nat × Nat :=
  if k ≥ 0 then (n * Nat.pow 10 k.toNat, d) else (n, d * Nat.pow 10 (-k).toNat)

/-- The numbers halfway to the neighbours of a positive number, over a common denominator: the lower
one, the number itself, the upper one, and the denominator. -/
def halfways (x : Binary64) : Nat × Nat × Nat × Nat :=
  let m := x.mantissa
  let below := if m = leastNormal ∧ x.exponent > leastExponent then 1 else 2
  let e := x.exponent - 2
  if e ≥ 0 then
    let s := Nat.pow 2 e.toNat
    ((4 * m - below) * s, 4 * m * s, (4 * m + 2) * s, 1)
  else (4 * m - below, 4 * m, 4 * m + 2, Nat.pow 2 (-e).toNat)

/-- Whether the decimal `c · 10 ^ k` rounds to a number: it lies between the halfway points, which
round to the number only if its mantissa is even. -/
def readsBack (x : Binary64) (c : Nat) (k : Int) : Bool :=
  let (lower, _, upper, d) := x.halfways
  let (n, t) := scaleTen c 1 k
  if x.mantissa % 2 == 0 then lower * t ≤ n * d && n * d ≤ upper * t
  else lower * t < n * d && n * d < upper * t

/-- The multiples of `10 ^ k` on both sides of a number, as factors, the nearer one first. -/
def neighbours (x : Binary64) (k : Int) : List Nat :=
  let (_, v, _, d) := x.halfways
  let (n, t) := scaleTen v d (-k)
  let c := n / t
  let twice := 2 * (n % t)
  if twice < t || (twice == t && c % 2 == 0) then [c, c + 1] else [c + 1, c]

/-- The power of ten of the first digit of a positive ratio. -/
def leadingPower (n d : Nat) : Int :=
  if n ≥ d then ((Nat.toDigits 10 (n / d)).length : Int) - 1
  else
    let k := ((Nat.toDigits 10 (d / n)).length : Int)
    if d ≤ n * Nat.pow 10 (k.toNat - 1) then -(k - 1) else -k

/-- The first decimal that reads back, looking at grids of one digit more each time. -/
def shortestFrom (x : Binary64) : Nat → Int → Nat × Int
  | 0, k => ((x.neighbours k).headD 0, k)
  | fuel + 1, k =>
    match (x.neighbours k).find? (x.readsBack · k) with
    | some c => (c, k)
    | none => shortestFrom x fuel (k - 1)

/-- Drops trailing zeros from the factor of a decimal. -/
def dropZeros : Nat → Nat → Int → Nat × Int
  | 0, c, k => (c, k)
  | fuel + 1, c, k => if c % 10 = 0 ∧ c ≠ 0 then dropZeros fuel (c / 10) (k + 1) else (c, k)

/-- The factor and the power of ten of the shortest decimal of a number. -/
def shortest (x : Binary64) : Nat × Int :=
  if x.isZero then (0, 0)
  else
    let (n, d) := x.ratio
    let (c, k) := shortestFrom x 17 (leadingPower n d)
    dropZeros 20 c k

end Binary64

/-- How a decimal is written. -/
structure DecimalStyle where
  /-- The least power of the first digit that is written without an exponent. -/
  leastPower : Int
  /-- The largest power of the first digit that is written without an exponent. -/
  largestPower : Int
  /-- The mark before the exponent. -/
  exponentMark : Char
  /-- Whether an exponent above zero has a plus sign. -/
  plusSign : Bool
deriving Repr

namespace DecimalStyle

open ResultFilter.Text

/-- The sign and the digits of an exponent. -/
def renderExponent (style : DecimalStyle) (p : Int) : List Char :=
  style.exponentMark ::
    ((if p < 0 then ['-'] else if style.plusSign then ['+'] else []) ++ decimalDigits p.natAbs)

/-- The decimal `c · 10 ^ k` in writing; a whole number keeps a zero after the point. -/
def renderDecimal (style : DecimalStyle) (c : Nat) (k : Int) : List Char :=
  let digits := decimalDigits c
  let power := k + digits.length - 1
  if style.leastPower ≤ power ∧ power ≤ style.largestPower then
    if k ≥ 0 then digits ++ List.replicate k.toNat '0' ++ ['.', '0']
    else if power ≥ 0 then
      digits.take (power.toNat + 1) ++ '.' :: digits.drop (power.toNat + 1)
    else ['0', '.'] ++ List.replicate (-power - 1).toNat '0' ++ digits
  else
    match digits with
    | [] => []
    | [d] => d :: style.renderExponent power
    | d :: rest => d :: '.' :: rest ++ style.renderExponent power

end DecimalStyle

/-- A number in writing. -/
def Binary64.render (style : DecimalStyle) (x : Binary64) : List Char :=
  let (c, k) := x.shortest
  (if x.negative then ['-'] else []) ++ style.renderDecimal c k

end ResultFilter
