import ResultFilter.Text.Basic

/-!
# Places in a YAML text

What is left of a text together with the line and the column where it begins. Layout depends on columns,
which count characters from zero.

## Main definitions

* `isBreak`, `isGap` — the characters that end a line, and those that part words within one.
* `Place` — what is left of a text, and where it begins.
* `Place.skip`, `Place.skipBreak` — go on by a character or a line end.
* `Place.atMarker` — whether a line begins with the marker between documents.
-/

namespace ResultFilter.Yaml

open ResultFilter.Text

/-- The characters that end a line. -/
def isBreak (c : Char) : Bool :=
  c == '\n' || c == '\r' || c == '\u0085' || c == '\u2028' || c == '\u2029'

/-- A space or a tab. -/
def isGap (c : Char) : Bool :=
  c == ' ' || c == '\t'

/-- The characters that end a word, apart from indicators. -/
def isGapOrBreak (c : Char) : Bool :=
  isGap c || isBreak c

/-- The characters of names: letters, digits, the low line and the hyphen. -/
def isNameChar (c : Char) : Bool :=
  c.isAlphanum || c == '_' || c == '-'

/-- Whether a character may stand in a YAML text at all. -/
def isAllowed (c : Char) : Bool :=
  let n := c.toNat
  n == 0x9 || n == 0xA || n == 0xD || (0x20 ≤ n && n ≤ 0x7E) || n == 0x85
    || (0xA0 ≤ n && n ≤ 0xD7FF) || (0xE000 ≤ n && n ≤ 0xFFFD) || 0x10000 ≤ n

/-- What is left of a text, and where it begins. -/
structure Place where
  /-- The number of lines behind. -/
  line : Nat
  /-- The number of characters behind on this line. -/
  column : Nat
  /-- The number of characters behind. -/
  index : Nat
  /-- The characters ahead. -/
  rest : Text
deriving Repr

namespace Place

/-- The start of a text. -/
def ofText (cs : Text) : Place := ⟨0, 0, 0, cs⟩

/-- Whether the text ends here. -/
def atEnd (p : Place) : Bool := p.rest.isEmpty

/-- Whether the next character has a property. -/
def sees (p : Place) (test : Char → Bool) : Bool :=
  p.rest.head?.any test

/-- Whether the next character is the given one. -/
def seesChar (p : Place) (c : Char) : Bool :=
  p.rest.head? == some c

/-- Whether the next word ends here. -/
def atWordEnd (p : Place) : Bool :=
  p.atEnd || p.sees isGapOrBreak

/-- Whether the line ends here. -/
def atLineEnd (p : Place) : Bool :=
  p.atEnd || p.sees isBreak

/-- The place after the next character, which ends no line. -/
def skip (p : Place) : Place :=
  match p.rest with
  | [] => p
  | _ :: rest => ⟨p.line, p.column + 1, p.index + 1, rest⟩

/-- The place after some characters that end no line. -/
def skipN (p : Place) (n : Nat) : Place :=
  ⟨p.line, p.column + n, p.index + n, p.rest.drop n⟩

/-- The place after the characters with a property, none of which ends a line. -/
def skipWhile (p : Place) (test : Char → Bool) : Place :=
  p.skipN (p.rest.takeWhile test).length

/-- The place after a line end, if there is one. -/
def skipBreak (p : Place) : Place :=
  match p.rest with
  | '\r' :: '\n' :: rest => ⟨p.line + 1, 0, p.index + 2, rest⟩
  | c :: rest => if isBreak c then ⟨p.line + 1, 0, p.index + 1, rest⟩ else p
  | [] => p

/-- The line end as it counts in a scalar: all are one character, and only the two separators of
lines and paragraphs stay themselves. -/
def breakText (p : Place) : Text :=
  match p.rest with
  | c :: _ =>
    if c = '\u2028' ∨ c = '\u2029' then [c] else if isBreak c then ['\n'] else []
  | [] => []

/-- The place after the rest of a comment, if one begins here. -/
def skipComment (p : Place) : Place :=
  if p.seesChar '#' then p.skipWhile (!isBreak ·) else p

/-- Whether a word is next, and a blank, a line end or the end of the text after it. -/
def seesWord (p : Place) (word : Text) : Bool :=
  match word.isPrefixOf? p.rest with
  | some [] => true
  | some (c :: _) => isGapOrBreak c
  | none => false

/-- Whether a line begins here with the marker that starts a document. -/
def atStartMarker (p : Place) : Bool :=
  p.column == 0 && p.seesWord ['-', '-', '-']

/-- Whether a line begins here with the marker that ends a document. -/
def atEndMarker (p : Place) : Bool :=
  p.column == 0 && p.seesWord ['.', '.', '.']

/-- Whether a line begins here with a marker between documents. -/
def atMarker (p : Place) : Bool :=
  p.atStartMarker || p.atEndMarker

end Place

end ResultFilter.Yaml
