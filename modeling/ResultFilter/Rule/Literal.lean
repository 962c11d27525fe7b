import ResultFilter.Rule.Error

/-!
# String literals

A string of a rule stands in double quotes. A backslash begins an escape: a letter for a control
character, a mark for itself, or the code of a character in octal or hexadecimal digits.

## Main definitions

* `namedEscape?` — the escapes of one character.
* `readEscape` — reads an escape.
* `readString` — reads a literal.
-/

namespace ResultFilter.Literal

open ResultFilter.Text

/-- The character that an escape of one character stands for. -/
def namedEscape? (c : Char) : Option Char :=
  match c with
  | 'n' => some '\n'
  | 'r' => some '\r'
  | 't' => some '\t'
  | 'b' => some '\x08'
  | 'f' => some '\x0c'
  | 'v' => some '\x0b'
  | '\\' => some '\\'
  | '"' => some '"'
  | '\'' => some '\''
  | '/' => some '/'
  | _ => none

/-- The largest code of an octal escape. -/
def largestOctal : Nat := 0o377

/-- Reads at most `count` further octal digits, as long as the code stays in range. -/
def readOctal : Nat → Nat → Text → Nat × Text
  | 0, n, cs => (n, cs)
  | _, n, [] => (n, [])
  | count + 1, n, c :: rest =>
    match octalValue? c with
    | some d => if n * 8 + d ≤ largestOctal then readOctal count (n * 8 + d) rest else (n, c :: rest)
    | none => (n, c :: rest)

/-- Reads exactly `count` hexadecimal digits. -/
def readHex? : Nat → Nat → Text → Option (Nat × Text)
  | 0, n, cs => some (n, cs)
  | _, _, [] => none
  | count + 1, n, c :: rest => (hexValue? c).bind fun d => readHex? count (n * 16 + d) rest

/-- Reads one to six hexadecimal digits and a closing brace; `count` digits have been read. -/
def readBraces? (count n : Nat) : Text → Option (Nat × Text)
  | [] => none
  | c :: rest =>
    if c = '\x7d' ∧ count > 0 then some (n, rest)
    else if count < 6 then (hexValue? c).bind fun d => readBraces? (count + 1) (n * 16 + d) rest
    else none

/-- The code that the digits of an escape spell, after its first character. -/
def readCode? (c : Char) (cs : Text) : Option (Nat × Text) :=
  match octalValue? c with
  | some d => some (readOctal 2 d cs)
  | none =>
    match c, cs with
    | 'x', cs => readHex? 2 0 cs
    | 'u', '\x7b' :: rest => readBraces? 0 0 rest
    | 'u', cs => readHex? 4 0 cs
    | _, _ => none

/-- Reads an escape after its backslash, which stands at the given column. -/
def readEscape (column : Nat) : Text → Except SyntaxError (Char × Text)
  | [] => .error .unterminatedString
  | c :: rest =>
    match namedEscape? c with
    | some d => .ok (d, rest)
    | none =>
      match readCode? c rest with
      | some (n, rest) =>
        if n.isValidChar then .ok (Char.ofNat n, rest) else .error (.invalidEscape column)
      | none => .error (.invalidEscape column)

/-- Reads the rest of a literal up to its quote, on a line of the given width; every step takes a
character. -/
def readBody (width : Nat) : Nat → Text → Except SyntaxError (Text × Text)
  | 0, _ => .error .unterminatedString
  | _, [] => .error .unterminatedString
  | fuel + 1, c :: rest =>
    if c = '"' then .ok ([], rest)
    else if c = '\\' then
      match readEscape (SyntaxError.column width (c :: rest)) rest with
      | .ok (d, rest) =>
        match readBody width fuel rest with
        | .ok (value, rest) => .ok (d :: value, rest)
        | .error e => .error e
      | .error e => .error e
    else
      match readBody width fuel rest with
      | .ok (value, rest) => .ok (c :: value, rest)
      | .error e => .error e

/-- Reads a literal from its quote on, on a line of the given width. -/
def readString (width : Nat) : Text → Except SyntaxError (Text × Text)
  | '"' :: rest => readBody width (rest.length + 1) rest
  | cs => .error (.atRest width cs)

end ResultFilter.Literal
