import ResultFilter.Text.Utf8
import ResultFilter.Yaml.Scalar

/-!
# Tokens of a YAML text

A text is cut into tokens: indicators, properties and scalars, and tokens without a text of their own
that begin and end blocks. This module has the tokens and the readers of properties and directives.

## Main definitions

* `Token` — a token.
* `readName` — the name of an anchor or an alias.
* `readTag` — a tag.
* `readDirective` — a line of directions before a document.
-/

namespace ResultFilter.Yaml

open ResultFilter.Text

/-- A token. -/
inductive Token where
  /-- The version that a document asks for. -/
  | version (major minor : Nat)
  /-- A handle for tags, and what it stands for. -/
  | tagHandle (handle stands : Text)
  | documentStart
  | documentEnd
  | blockSequenceStart
  | blockMappingStart
  | blockEnd
  | flowSequenceStart
  | flowSequenceEnd
  | flowMappingStart
  | flowMappingEnd
  /-- The hyphen before an item. -/
  | blockEntry
  /-- The comma between items. -/
  | flowEntry
  /-- The start of a key. -/
  | key
  /-- The colon before a value. -/
  | value
  | alias (name : Text)
  | anchor (name : Text)
  | tag (handle suffix : Text)
  | scalar (text : Text) (isPlain : Bool)
deriving DecidableEq, Repr

/-! ### Names -/

/-- The characters that may follow a name, besides blanks and line ends. -/
def endsName (c : Char) : Bool :=
  ['?', ':', ',', ']', '\x7d', '%', '@', '\x60'].contains c

/-- Reads the name of an anchor or an alias after its mark. -/
def readName (p : Place) : Option (Text × Place) :=
  let name := p.rest.takeWhile isNameChar
  let q := p.skipN name.length
  if name.isEmpty || !(q.atWordEnd || q.sees endsName) then none else some (name, q)

/-! ### Tags -/

/-- The characters of a tag; commas and square brackets only where it is marked off. -/
def isTagChar (delimited : Bool) (c : Char) : Bool :=
  isNameChar c || [';', '/', '?', ':', '@', '&', '=', '+', '$', '.', '%', '!', '~', '*', '\'', '(',
    ')'].contains c || (delimited && [',', '[', ']'].contains c)

/-- The bytes of some characters, of which every percent sign begins an escape of a byte. -/
def escapedBytes? : Text → Option (List UInt8)
  | [] => some []
  | '%' :: a :: b :: rest => do
    let x ← hexValue? a
    let y ← hexValue? b
    let bytes ← escapedBytes? rest
    return UInt8.ofNat (x * 16 + y) :: bytes
  | '%' :: _ => none
  | c :: rest => (escapedBytes? rest).map (String.utf8EncodeChar c ++ ·)

/-- Reads the characters of a tag, escapes decoded. -/
def readTagChars (delimited : Bool) (p : Place) : Option (Text × Place) := do
  let chars := p.rest.takeWhile (isTagChar delimited)
  let bytes ← escapedBytes? chars
  let text ← ofUtf8? bytes
  return (text, p.skipN chars.length)

/-- Reads the handle of a tag: a mark, and a name with a mark behind it. Without the second mark the
name is not part of a handle. -/
def readHandle (p : Place) : Option (Text × Place) :=
  if p.seesChar '!' then
    let name := p.skip.rest.takeWhile isNameChar
    let q := p.skip.skipN name.length
    if q.seesChar '!' then some ('!' :: name ++ ['!'], q.skip) else some ('!' :: name, q)
  else none

/-- Whether what has been read is a handle with a name or with two marks. -/
def isFullHandle (handle : Text) : Bool :=
  handle.length > 1 && handle.getLast? == some '!'

/-- Reads a tag from its mark on: its handle and the rest of it. The mark alone is a tag without a
handle. -/
def readTag (inFlow : Bool) (p : Place) : Option (Token × Place) := do
  let (token, q) ←
    if p.skip.seesChar '<' then do
      let (suffix, q) ← readTagChars true (p.skipN 2)
      if suffix.isEmpty || !q.seesChar '>' then none else some (Token.tag [] suffix, q.skip)
    else do
      let (handle, q) ← readHandle p
      let (suffix, r) ← readTagChars false q
      if isFullHandle handle then
        if suffix.isEmpty then none else some (Token.tag handle suffix, r)
      else if handle.length = 1 && suffix.isEmpty then some (Token.tag [] ['!'], r)
      else some (Token.tag ['!'] (handle.drop 1 ++ suffix), r)
  if q.atWordEnd || (inFlow && q.seesChar ',') then some (token, q) else none

/-! ### Directives -/

/-- The longest number in a version. -/
def longestVersion : Nat := 9

/-- Reads a number in a version. -/
def readVersionNumber (p : Place) : Option (Nat × Place) :=
  let digits := p.rest.takeWhile Char.isDigit
  if digits.isEmpty || digits.length > longestVersion then none
  else some (ofDigits 10 (digits.filterMap decimalValue?), p.skipN digits.length)

/-- Reads the version after the name of its directive. -/
def readVersion (p : Place) : Option (Token × Place) := do
  let (major, q) ← readVersionNumber (p.skipWhile isGap)
  if !q.seesChar '.' then none
  else
    let (minor, q) ← readVersionNumber q.skip
    return (.version major minor, q)

/-- Reads a handle and what it stands for after the name of the directive. -/
def readTagHandle (p : Place) : Option (Token × Place) := do
  let (handle, q) ← readHandle (p.skipWhile isGap)
  if !(handle == ['!'] || isFullHandle handle) || !q.sees isGap then none
  else
    let (stands, q) ← readTagChars true (q.skipWhile isGap)
    if stands.isEmpty || !q.atWordEnd then none else some (.tagHandle handle stands, q)

/-- Reads a directive from its mark to the end of its line. -/
def readDirective (p : Place) : Option (Token × Place) := do
  let p := p.skip
  let name := p.rest.takeWhile isNameChar
  let q := p.skipN name.length
  if !q.atWordEnd then none
  else
    let (token, q) ←
      if name == "YAML".toList then readVersion q
      else if name == "TAG".toList then readTagHandle q
      else none
    let q := (q.skipWhile isGap).skipComment
    if q.atLineEnd then some (token, q.skipBreak) else none

end ResultFilter.Yaml
