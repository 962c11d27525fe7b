/-!
# Punycode

A label with characters beyond ASCII is written in ASCII: its ASCII characters, a dash if there are
any, and then, as numbers in a mixed base, where the others are to be inserted.

## Main definitions

* `threshold`, `adapt` — the digits that may end a number, and how they shift from number to number.
* `decodeLabel?` — the label that a written form stands for.
* `encodeLabel` — the written form of a label.
-/

namespace ResultFilter.Host.Punycode

/-- The number of digits. -/
def base : Nat := 36

/-- The first code point that is not written as itself. -/
def firstCode : Nat := 128

/-- The bias of the first number. -/
def firstBias : Nat := 72

/-- The threshold of the digit at weight `k`: a smaller digit ends the number. -/
def threshold (k bias : Nat) : Nat :=
  if k ≤ bias then 1 else if k ≥ bias + 26 then 26 else k - bias

/-- Divides a step down until it is small, counting the bases passed. -/
def adaptLoop : Nat → Nat → Nat → Nat
  | 0, delta, k => k + 36 * delta / (delta + 38)
  | fuel + 1, delta, k =>
    if delta > 455 then adaptLoop fuel (delta / 35) (k + base)
    else k + 36 * delta / (delta + 38)

/-- The bias of the next number, after a step `delta` that made the label `count` long. -/
def adapt (delta count : Nat) (isFirst : Bool) : Nat :=
  let delta := if isFirst then delta / 700 else delta / 2
  let delta := delta + delta / count
  adaptLoop delta.log2 delta 0

/-- The value of a digit, letters before numerals. -/
def digitValue? (c : Char) : Option Nat :=
  if 'a' ≤ c ∧ c ≤ 'z' then some (c.toNat - 97)
  else if 'A' ≤ c ∧ c ≤ 'Z' then some (c.toNat - 65)
  else if '0' ≤ c ∧ c ≤ '9' then some (c.toNat - 22)
  else none

/-- The digit of a value. -/
def digit (n : Nat) : Char :=
  if n < 26 then Char.ofNat (n + 97) else Char.ofNat (n + 22)

/-- Numbers stay below this bound. -/
def bound : Nat := 0x100000000

/-- The label so far, with a character put at a position. -/
def insertAt (cs : List Char) (i : Nat) (c : Char) : List Char :=
  cs.take i ++ c :: cs.drop i

/-- Reads digits: `label` is the label so far, `n` the last code point inserted and `i` the position
after it, `start` that position at the start of the number being read, `weight` the weight of the
next digit and `k` its place. Nothing if the digits end inside a number. -/
def decodeFrom (label : List Char) (n i bias start weight k : Nat) (inside : Bool) :
    List Char → Option (List Char)
  | [] => if inside then none else some label
  | c :: rest => do
    let d ← digitValue? c
    let i := i + d * weight
    if i ≥ bound then none
    else
      let t := threshold k bias
      if d < t then
        let count := label.length + 1
        let bias := adapt (i - start) count (start == 0)
        let n := n + i / count
        let i := i % count
        if n.isValidChar then
          decodeFrom (insertAt label i (Char.ofNat n)) n (i + 1) bias (i + 1) 1 base false rest
        else none
      else decodeFrom label n i bias start (weight * (base - t)) (k + base) true rest

/-- The part of a written form before its last dash, if it has one, and the part after it. -/
def splitLastDash (cs : List Char) : Option (List Char × List Char) :=
  match cs.reverse.span (· != '-') with
  | (after, _ :: before) => some (before.reverse, after.reverse)
  | (_, []) => none

/-- The label that a written form stands for. -/
def decodeLabel? (cs : List Char) : Option (List Char) :=
  match splitLastDash cs with
  | some ([], _) => none
  | some (plain, digits) => decodeFrom plain firstCode 0 firstBias 0 1 base false digits
  | none => decodeFrom [] firstCode 0 firstBias 0 1 base false cs

/-- The digits of a number from weight `k` on. -/
def numberDigits : Nat → Nat → Nat → Nat → List Char
  | 0, q, _, _ => [digit q]
  | fuel + 1, q, k, bias =>
    let t := threshold k bias
    if q < t then [digit q]
    else digit (t + (q - t) % (base - t)) :: numberDigits fuel ((q - t) / (base - t)) (k + base) bias

/-- The state of writing a label: the numbers written so far in reverse, the step to the next insertion,
the bias, and the number of characters handled. -/
structure EncodeState where
  /-- The digits written so far. -/
  digits : List Char
  /-- The step since the last insertion. -/
  delta : Nat
  /-- The bias of the next number. -/
  bias : Nat
  /-- The number of characters already placed. -/
  handled : Nat
  /-- Whether no number has been written yet. -/
  isFirst : Bool

/-- Passes one character of the label while those equal to `m` are placed. -/
def encodeStep (m : Nat) (s : EncodeState) (c : Char) : EncodeState :=
  if c.toNat < m then { s with delta := s.delta + 1 }
  else if c.toNat = m then
    { digits := s.digits ++ numberDigits (s.delta + 1) s.delta base s.bias
      delta := 0
      bias := adapt s.delta (s.handled + 1) s.isFirst
      handled := s.handled + 1
      isFirst := false }
  else s

/-- Places the code points `ms`, ascending, one after another; `n` is the next code point to consider. -/
def encodeFrom (label : List Char) (s : EncodeState) (n : Nat) : List Nat → List Char
  | [] => s.digits
  | m :: ms =>
    let s := { s with delta := s.delta + (m - n) * (s.handled + 1) }
    let s := label.foldl (encodeStep m) s
    encodeFrom label { s with delta := s.delta + 1 } (m + 1) ms

/-- The written form of a label. -/
def encodeLabel (label : List Char) : List Char :=
  let plain := label.filter (·.toNat < firstCode)
  let others := ((label.filter (·.toNat ≥ firstCode)).map Char.toNat).mergeSort.eraseDups
  let start : EncodeState := ⟨[], 0, firstBias, plain.length, true⟩
  plain ++ (if plain.isEmpty then [] else ['-']) ++ encodeFrom label start firstCode others

end ResultFilter.Host.Punycode
