import ResultFilter.Regex.Pattern

/-!
# Searching a text

Where a pattern can end, if it begins at one of some places, is computed for all places at once: a set
of places is a number whose bits stand for them, and matching a character moves the bits up by one. A
repetition goes on until nothing changes, which is after as many rounds as there are places.

## Main definitions

* `Regex.Look.holds` — whether a condition holds between two characters.
* `Regex.locate` — a pattern with its sets and conditions looked up in a text.
* `Regex.ends` — the places where a match can end.
* `Regex.occursIn` — whether a pattern matches somewhere in a text.
-/

namespace ResultFilter.Regex

open ResultFilter.Text

/-- Whether a character belongs to a word. -/
def isWord (unicode : Bool) (c : Char) : Bool :=
  if c.toNat < 0x80 then c.isAlphanum || c == '_' else unicode && wordCodes.has c

/-- Whether a condition holds between two characters, either of which may be missing. -/
def Look.holds (l : Look) (before after : Option Char) : Bool :=
  let word (unicode : Bool) (c : Option Char) := c.any (isWord unicode)
  match l with
  | .start => before.isNone
  | .end => after.isNone
  | .startLine => before.all (· == '\n')
  | .endLine => after.all (· == '\n')
  | .startLineCrlf => before.all (fun c => c == '\n' || (c == '\r' && after != some '\n'))
  | .endLineCrlf => after.all (fun c => c == '\r' || (c == '\n' && before != some '\r'))
  | .wordBoundary u => word u before != word u after
  | .notWordBoundary u => word u before == word u after
  | .wordStart u => !word u before && word u after
  | .wordEnd u => word u before && !word u after
  | .wordStartHalf u => !word u before
  | .wordEndHalf u => !word u after

/-- The number with the bits of the places where something holds, the first place being `i`. -/
def bitsFrom (i : Nat) : List Bool → Nat
  | [] => 0
  | b :: rest => (if b then 1 <<< i else 0) ||| bitsFrom (i + 1) rest

/-- Whether a condition holds at each place of the rest of a text. -/
def lookHolds (l : Look) (before : Option Char) : Text → List Bool
  | [] => [l.holds before none]
  | c :: rest => l.holds before (some c) :: lookHolds l (some c) rest

/-- A pattern with the places of a text for its sets and conditions. -/
def locate (text : Text) : Pattern CodeSet Look → Pattern Nat Nat
  | .empty => .empty
  | .one s => .one (bitsFrom 0 (text.map s.has))
  | .look l => .look (bitsFrom 0 (lookHolds l none text))
  | .seq p q => .seq (locate text p) (locate text q)
  | .alt p q => .alt (locate text p) (locate text q)
  | .repeated least most p => .repeated least most (locate text p)
  | .capture p => .capture (locate text p)

/-- Applies a step a number of times, or until it changes nothing. -/
def iterate (f : Nat → Nat) : Nat → Nat → Nat
  | 0, places => places
  | n + 1, places =>
    let next := f places
    if next = places then places else iterate f n next

/-- The places reached by at most a number of steps. -/
def grow (f : Nat → Nat) (n places : Nat) : Nat :=
  iterate (fun places => places ||| f places) n places

/-- The places where a match can end that begins at one of some places of a text of `length`
characters. -/
def ends (length : Nat) : Pattern Nat Nat → Nat → Nat
  | .empty, places => places
  | .one m, places => (places &&& m) <<< 1
  | .look m, places => places &&& m
  | .seq p q, places => ends length q (ends length p places)
  | .alt p q, places => ends length p places ||| ends length q places
  | .repeated least most p, places =>
    let rounds := match most with
      | some m => m - least
      | none => length + 1
    grow (ends length p) rounds (iterate (ends length p) least places)
  | .capture p, places => ends length p places

/-- Whether a pattern matches somewhere in a text. -/
def occursIn (p : Pattern CodeSet Look) (text : Text) : Bool :=
  ends text.length (locate text p) (Nat.pow 2 (text.length + 1) - 1) != 0

end ResultFilter.Regex
