import ResultFilter.Json.Basic

/-!
# The values of YAML scalars

A plain scalar is a value of the kind that it looks like; a scalar in quotes is a string. A tag of the
core schema asks for a kind, and a tag of another kind has no value here.

## Main definitions

* `whole?` — the whole number that a text spells.
* `float?` — the number with a fraction that a text spells.
* `plainValue?` — the value of a plain scalar.
* `scalarValue?` — the value of a scalar with its tag.
-/

namespace ResultFilter.Yaml

open ResultFilter.Text

/-- The words for no value. -/
def isNullWord (text : Text) : Bool :=
  ["null".toList, "Null".toList, "NULL".toList, "~".toList].contains text

/-- The truth value that a word stands for. -/
def truth? (text : Text) : Option Bool :=
  if ["true".toList, "True".toList, "TRUE".toList].contains text then some true
  else if ["false".toList, "False".toList, "FALSE".toList].contains text then some false
  else none

/-- The sign of a number, whether it is a minus sign, and what follows it. -/
def cutSign : Text → Bool × Text
  | '-' :: rest => (true, rest)
  | '+' :: rest => (false, rest)
  | cs => (false, cs)

/-- The number that digits of a base spell, of which there is at least one. -/
def magnitude? (base : Nat) (value? : Char → Option Nat) (cs : Text) : Option Nat :=
  if cs.isEmpty then none else (cs.mapM value?).map (ofDigits base)

/-- Whether a text is digits behind a zero, which make no number. -/
def isPadded (cs : Text) : Bool :=
  match cs with
  | '0' :: c :: rest => (c :: rest).all Char.isDigit
  | _ => false

/-- The value of a binary digit. -/
def binaryValue? (c : Char) : Option Nat :=
  if c = '0' then some 0 else if c = '1' then some 1 else none

/-- The whole number that a text spells, in base ten or after a mark for another base. -/
def whole? (text : Text) : Option Int :=
  let (negative, body) := cutSign text
  let n? :=
    match body with
    | '0' :: 'x' :: rest => magnitude? 16 hexValue? rest
    | '0' :: 'o' :: rest => magnitude? 8 octalValue? rest
    | '0' :: 'b' :: rest => magnitude? 2 binaryValue? rest
    | body => if isPadded body then none else magnitude? 10 decimalValue? body
  n?.map fun n => if negative then -(n : Int) else n

/-- The whole numbers that are kept. -/
def isKept (n : Int) : Bool :=
  -0x8000000000000000 ≤ n && n ≤ 0xFFFFFFFFFFFFFFFF

/-- The whole numbers that are known for such, so that one too large to be kept is refused. -/
def isKnown (n : Int) : Bool :=
  -0x80000000000000000000000000000000 ≤ n && n ≤ 0xFFFFFFFFFFFFFFFFFFFFFFFFFFFFFFFF

/-- The value of a whole number: nothing if it is none, and nothing within if it is refused. -/
def wholeValue? (text : Text) : Option (Option Json) :=
  match whole? text with
  | some n => if isKnown n then some (if isKept n then some (.int n) else none) else none
  | none => none

/-- The power of ten that ends a number, if there is one. -/
def exponent? (cs : Text) : Option Int :=
  match cs with
  | [] => some 0
  | c :: rest =>
    if c = 'e' ∨ c = 'E' then
      let (negative, digits) := cutSign rest
      (magnitude? 10 decimalValue? digits).map fun n => if negative then -(n : Int) else n
    else none

/-- The digits at the start of a text. -/
def leadingDigits (cs : Text) : List Nat :=
  (cs.takeWhile Char.isDigit).filterMap decimalValue?

/-- The number that a text spells after its sign: digits, of which there is at least one, maybe with a
point, and maybe a power of ten. -/
def decimal? (negative : Bool) (cs : Text) : Option Binary64 := do
  let rest := cs.dropWhile Char.isDigit
  let (fraction, rest) := match rest with
    | '.' :: rest => (leadingDigits rest, rest.dropWhile Char.isDigit)
    | rest => ([], rest)
  let digits := leadingDigits cs ++ fraction
  if digits.isEmpty then none
  else
    let k ← exponent? rest
    Binary64.ofDecimal? negative (ofDigits 10 digits) (k - fraction.length)

/-- The words for a number that is not finite. -/
def isInfinite (text : Text) : Bool :=
  [".inf", ".Inf", ".INF", "+.inf", "+.Inf", "+.INF", "-.inf", "-.Inf", "-.INF", ".nan", ".NaN",
    ".NAN"].any (·.toList == text)

/-- The number with a fraction that a text spells; one that is not finite has no value of its own. -/
def float? (text : Text) : Option Json :=
  if isInfinite text then some .null
  else
    let (negative, body) := cutSign text
    (decimal? negative body).map .float

/-- The value of a plain scalar. -/
def plainValue? (text : Text) : Option Json :=
  if text.isEmpty || isNullWord text then some .null
  else
    match truth? text with
    | some b => some (.bool b)
    | none =>
      match wholeValue? text with
      | some value => value
      | none =>
        if isPadded (cutSign text).2 then some (.string text)
        else some ((float? text).getD (.string text))

/-- A tag of the core schema. -/
def coreTag (kind : String) : Text :=
  "tag:yaml.org,2002:".toList ++ kind.toList

/-- Whether a tag is one of a schema of its own, whose nodes have no value here. -/
def isLocalTag (tag : Option Text) : Bool :=
  tag.any (·.head? == some '!')

/-- The value of a scalar with its tag. -/
def scalarValue? (tag : Option Text) (text : Text) (isPlain : Bool) : Option Json :=
  match tag with
  | none => if isPlain then plainValue? text else some (.string text)
  | some t =>
    if isLocalTag tag then none
    else if t == coreTag "bool" then (truth? text).map .bool
    else if t == coreTag "int" then (wholeValue? text).join
    else if t == coreTag "float" then float? text
    else if t == coreTag "null" then if isNullWord text then some .null else none
    else some (.string text)

end ResultFilter.Yaml
