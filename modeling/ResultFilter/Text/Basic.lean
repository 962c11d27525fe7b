import ResultFilter.Text.Hex
import ResultFilter.Text.Blank

/-!
# Texts

A text is the list of its characters: readers take it apart from the front and hand on what is left.

## Main definitions

* `Text` — a text.
* `Text.cutAt?` — a text cut at the first occurrence of a mark.
* `Text.includes`, `Text.endsWith` — occurrence of a text in another.
* `Text.splitOn` — the pieces that a character parts.
* `Text.join` — pieces with a mark between them.
* `Text.lt` — the order of texts by their characters, which is that of their bytes in UTF-8.
-/

namespace ResultFilter

/-- A text, as the list of its characters. -/
abbrev Text := List Char

namespace Text

/-- What comes before and after the first occurrence of a mark. -/
def cutAt? (mark : Text) : Text → Option (Text × Text)
  | [] => if mark.isEmpty then some ([], []) else none
  | c :: rest =>
    match mark.isPrefixOf? (c :: rest) with
    | some after => some ([], after)
    | none => (cutAt? mark rest).map fun (before, after) => (c :: before, after)

/-- Whether a text begins with another. -/
def startsWith (cs part : Text) : Bool :=
  part.isPrefixOf cs

/-- Whether a text ends with another. -/
def endsWith (cs part : Text) : Bool :=
  part.isSuffixOf cs

/-- Whether a text contains another. -/
def includes (cs part : Text) : Bool :=
  match cs with
  | [] => part.isEmpty
  | c :: rest => part.isPrefixOf (c :: rest) || includes rest part

/-- The pieces of a text between the occurrences of a character. -/
def splitOn (mark : Char) : Text → List Text
  | [] => [[]]
  | c :: rest =>
    if c = mark then [] :: splitOn mark rest
    else
      match splitOn mark rest with
      | piece :: pieces => (c :: piece) :: pieces
      | [] => [[c]]

/-- Pieces with a mark between them. -/
def join (mark : Text) : List Text → Text
  | [] => []
  | [piece] => piece
  | piece :: pieces => piece ++ mark ++ join mark pieces

/-- Whether a text comes before another in the order of their characters. -/
def lt (a b : Text) : Bool :=
  match a, b with
  | _, [] => false
  | [], _ :: _ => true
  | x :: a, y :: b => x < y || (x == y && lt a b)

/-- The small form of the ASCII letters of a text. -/
def lowerAscii (cs : Text) : Text :=
  cs.map Char.toLower

theorem splitOn_ne_nil (mark : Char) (cs : Text) : splitOn mark cs ≠ [] := by
  cases cs with
  | nil => simp [splitOn]
  | cons c rest =>
    by_cases h : c = mark
    · simp [splitOn, h]
    · simp only [splitOn, h, if_false]
      split <;> simp

/-- The pieces with the character between them again are the text. -/
@[simp] theorem join_splitOn (mark : Char) (cs : Text) : join [mark] (splitOn mark cs) = cs := by
  induction cs with
  | nil => rfl
  | cons c rest ih =>
    cases hs : splitOn mark rest with
    | nil => exact absurd hs (splitOn_ne_nil mark rest)
    | cons piece pieces =>
      rw [hs] at ih
      by_cases h : c = mark
      · subst h
        simp [splitOn, hs, join, ih]
      · cases pieces with
        | nil => simpa [splitOn, h, hs, join] using ih
        | cons p ps => simpa [splitOn, h, hs, join] using ih

end Text

end ResultFilter
