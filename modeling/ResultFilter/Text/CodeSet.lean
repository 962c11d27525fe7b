import ResultFilter.Text.Hex

/-!
# Sets of code points

Unicode properties and character classes are sets of code points that are best written as ranges.
A `CodeSet` lists its closed ranges in ascending order; the operations keep that order and join
ranges that touch, so that two sets with the same members made by them have one representation.

## Main definitions

* `CodeSet` — ascending closed ranges.
* `CodeSet.contains` — membership, which stops at the first range beyond the code point.
* `CodeSet.ofPairs` — the set of arbitrary ranges, in any order.
* `CodeSet.union`, `CodeSet.inter`, `CodeSet.diff`, `CodeSet.symmDiff`, `CodeSet.compl` — the algebra.
* `CodeSet.ofHex` — reads a table written in hexadecimal.
-/

namespace ResultFilter.Text

/-- A set of code points, as closed ranges in ascending order. -/
structure CodeSet where
  /-- The first and the last member of each range. -/
  ranges : List (Nat × Nat)
deriving DecidableEq, Repr, Inhabited

namespace CodeSet

/-- The largest code point. -/
def last : Nat := 0x10FFFF

/-- Membership in ascending ranges. -/
def memRanges (n : Nat) : List (Nat × Nat) → Bool
  | [] => false
  | (lo, hi) :: rest => if n < lo then false else if n ≤ hi then true else memRanges n rest

/-- Whether a code point is a member. -/
def contains (s : CodeSet) (n : Nat) : Bool :=
  memRanges n s.ranges

/-- Whether a character is a member. -/
def has (s : CodeSet) (c : Char) : Bool :=
  s.contains c.toNat

/-- The set without members. -/
def empty : CodeSet := ⟨[]⟩

/-- One closed range, empty if its ends are out of order. -/
def range (lo hi : Nat) : CodeSet :=
  if lo ≤ hi then ⟨[(lo, hi)]⟩ else ⟨[]⟩

/-- The set of one character. -/
def single (c : Char) : CodeSet := ⟨[(c.toNat, c.toNat)]⟩

/-- Joins ranges that overlap or touch; the ranges come in ascending order of their first member. -/
def joinFrom (lo hi : Nat) : List (Nat × Nat) → List (Nat × Nat)
  | [] => [(lo, hi)]
  | (a, b) :: rest =>
    if a ≤ hi + 1 then joinFrom lo (max hi b) rest else (lo, hi) :: joinFrom a b rest

/-- Joins the touching ranges of an ascending list. -/
def join : List (Nat × Nat) → List (Nat × Nat)
  | [] => []
  | (lo, hi) :: rest => joinFrom lo hi rest

/-- The set of the given ranges, in any order. -/
def ofPairs (rs : List (Nat × Nat)) : CodeSet :=
  ⟨join ((rs.filter fun r => r.1 ≤ r.2).mergeSort fun a b => a.1 ≤ b.1)⟩

/-- The members of either set. -/
def union (s t : CodeSet) : CodeSet :=
  ⟨join (s.ranges.merge t.ranges fun a b => a.1 ≤ b.1)⟩

/-- The gaps of ascending ranges from `lo` on. -/
def gaps (lo : Nat) : List (Nat × Nat) → List (Nat × Nat)
  | [] => if lo ≤ last then [(lo, last)] else []
  | (a, b) :: rest => if lo < a then (lo, a - 1) :: gaps (b + 1) rest else gaps (b + 1) rest

/-- The code points that are not members. -/
def compl (s : CodeSet) : CodeSet :=
  ⟨gaps 0 s.ranges⟩

/-- The common members of two sets. -/
def inter (s t : CodeSet) : CodeSet :=
  (s.compl.union t.compl).compl

/-- The members of the first set that are not in the second. -/
def diff (s t : CodeSet) : CodeSet :=
  s.inter t.compl

/-- The members of exactly one of two sets. -/
def symmDiff (s t : CodeSet) : CodeSet :=
  (s.union t).diff (s.inter t)

/-- The union of a list of sets. -/
def unions (sets : List CodeSet) : CodeSet :=
  ofPairs (sets.flatMap CodeSet.ranges)

/-- Whether every member is an ASCII character. -/
def isAscii (s : CodeSet) : Bool :=
  s.ranges.all fun r => r.2 ≤ 0x7F

/-- Reads a range `41-5A` of a table, or a member `AA` on its own. -/
def readRange (entry : List Char) : Nat × Nat :=
  match hexNumbers '-' 0 entry with
  | lo :: hi :: _ => (lo, hi)
  | ns => (ns.headD 0, ns.headD 0)

/-- The set that a table of ascending ranges spells. -/
def ofHex (table : String) : CodeSet :=
  ⟨(tableEntries table).map readRange⟩

end CodeSet

end ResultFilter.Text
