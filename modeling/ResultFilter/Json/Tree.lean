import ResultFilter.Json.Basic

/-!
# Reading JSON

A JSON text is read in two steps. The first finds its structure; the second asks the structure for
values of the kinds that are expected. What nobody asks for is only checked for its form: it may hold a
number out of range, an escape that spells half a character, or any depth of nesting.

## Main definitions

* `Numeral` — a number as it is spelled, and `Numeral.value?` its value.
* `JsonTree` — the structure of a text.
* `JsonTree.ofText?` — reads the structure.
* `JsonTree.depthLimit` — how deep what is asked for may be nested.
* `JsonTree.toJson?` — asks for the whole value.
-/

namespace ResultFilter

open ResultFilter.Text

/-- A number as it is spelled. -/
structure Numeral where
  /-- Whether a minus sign precedes it. -/
  negative : Bool
  /-- The digits before the point. -/
  whole : List Nat
  /-- The digits after the point, if there is one. -/
  fraction : Option (List Nat)
  /-- The exponent, if there is one. -/
  exponent : Option Int
deriving DecidableEq, Repr

namespace Numeral

/-- The largest number that digits are gathered into. -/
def largest : Nat := 0xFFFFFFFFFFFFFFFF

/-- Gathers digits while the number stays in range; gives the number and how many digits are left. -/
def gather (n : Nat) : List Nat → Nat × Nat
  | [] => (n, 0)
  | d :: rest => if n * 10 + d > largest then (n, rest.length + 1) else gather (n * 10 + d) rest

/-- The largest power of ten in one factor. -/
def largestPower : Nat := 308

/-- Multiplies a number by a power of ten, rounding once for each factor. -/
def scale? : Nat → Binary64 → Int → Option Binary64
  | 0, x, _ => some x
  | fuel + 1, x, k =>
    if k.natAbs ≤ largestPower then do
      let p ← Binary64.ofDecimal? false 1 k.natAbs
      if k ≥ 0 then x.mul? p else x.div? p
    else if x.isZero then some x
    else if k ≥ 0 then none
    else do
      let p ← Binary64.ofDecimal? false 1 largestPower
      scale? fuel (← x.div? p) (k + largestPower)

/-- The value of a number: a whole number of at most sixty-four bits stays whole. A number beyond the
range of the double format has none. -/
def value? (s : Numeral) : Option Json :=
  let (n, dropped) := gather 0 s.whole
  match s.fraction, s.exponent, dropped with
  | none, none, 0 =>
    if !s.negative then some (.int n)
    else if n = 0 ∨ n > 0x8000000000000000 then (Binary64.ofNat? true n).map .float
    else some (.int (-n))
  | _, _, _ =>
    let digits := s.fraction.getD []
    let (m, skipped) := gather n digits
    let k : Int := dropped - ((digits.length - skipped : Nat) : Int) + s.exponent.getD 0
    do
      let x ← Binary64.ofNat? s.negative m
      let y ← scale? 4 x k
      return .float y

end Numeral

/-- The structure of a JSON text. -/
inductive JsonTree where
  | null
  | bool (b : Bool)
  | number (s : Numeral)
  /-- A string; nothing if its escapes spell no text. -/
  | string (s : Option Text)
  | array (items : List JsonTree)
  | object (fields : List (Option Text × JsonTree))
deriving Repr, Inhabited

namespace JsonTree

/-- Whether a character may stand between tokens. -/
def isSpace (c : Char) : Bool :=
  c == ' ' || c == '\n' || c == '\t' || c == '\r'

/-- The code unit that four hexadecimal digits spell. -/
def unit? (a b c d : Char) : Option Nat :=
  ([a, b, c, d].mapM hexValue?).map (ofDigits 16)

/-- Reads the rest of a string as code units: characters and escapes. -/
def readUnits : Text → Option (List Nat × Text)
  | [] => none
  | '"' :: rest => some ([], rest)
  | '\\' :: 'u' :: a :: b :: c :: d :: rest => do
    let u ← unit? a b c d
    let (us, rest) ← readUnits rest
    return (u :: us, rest)
  | '\\' :: c :: rest => do
    let u ← match c with
      | '"' => some 0x22
      | '\\' => some 0x5C
      | '/' => some 0x2F
      | 'b' => some 8
      | 'f' => some 0xC
      | 'n' => some 0xA
      | 'r' => some 0xD
      | 't' => some 9
      | _ => none
    let (us, rest) ← readUnits rest
    return (u :: us, rest)
  | c :: rest =>
    if c < ' ' ∨ c = '\\' then none
    else do
      let (us, rest) ← readUnits rest
      return (c.toNat :: us, rest)

/-- The text that code units spell: surrogates come in pairs. -/
def ofUnits? : List Nat → Option Text
  | [] => some []
  | u :: rest =>
    if 0xD800 ≤ u ∧ u < 0xDC00 then
      match rest with
      | v :: rest =>
        if 0xDC00 ≤ v ∧ v < 0xE000 then
          (ofUnits? rest).map (Char.ofNat (0x10000 + (u - 0xD800) * 0x400 + (v - 0xDC00)) :: ·)
        else none
      | [] => none
    else if 0xDC00 ≤ u ∧ u < 0xE000 then none
    else (ofUnits? rest).map (Char.ofNat u :: ·)

/-- The digits at the start of a text, and what follows. -/
def readDigits (cs : Text) : List Nat × Text :=
  ((cs.takeWhile Char.isDigit).filterMap decimalValue?, cs.dropWhile Char.isDigit)

/-- Reads the exponent of a number, after its mark. -/
def readExponent? (cs : Text) : Option (Int × Text) :=
  let (sign, cs) : Int × Text := match cs with
    | '+' :: rest => (1, rest)
    | '-' :: rest => (-1, rest)
    | cs => (1, cs)
  match readDigits cs with
  | ([], _) => none
  | (ds, rest) => some (sign * ofDigits 10 ds, rest)

/-- Reads a number after its sign: no zero precedes other digits, and a point or an exponent has
digits. -/
def readNumeral? (negative : Bool) (cs : Text) : Option (Numeral × Text) := do
  let (whole, rest) := readDigits cs
  if whole.isEmpty || (whole.head? == some 0 && whole.length > 1) then none
  else
    let (fraction, rest) ← match rest with
      | '.' :: rest =>
        match readDigits rest with
        | ([], _) => none
        | (ds, rest) => some (some ds, rest)
      | rest => some (none, rest)
    let (exponent, rest) ← match rest with
      | 'e' :: rest => (readExponent? rest).map fun (e, rest) => (some e, rest)
      | 'E' :: rest => (readExponent? rest).map fun (e, rest) => (some e, rest)
      | rest => some (none, rest)
    return (⟨negative, whole, fraction, exponent⟩, rest)

/-- Reads a word of letters. -/
def readWord? (word : Text) (tree : JsonTree) (cs : Text) : Option (JsonTree × Text) :=
  (word.isPrefixOf? cs).map (tree, ·)

mutual

/-- Reads a value; a value takes at most two steps for each of its characters. -/
def readValue : Nat → Text → Option (JsonTree × Text)
  | 0, _ => none
  | fuel + 1, cs =>
    match cs.dropWhile isSpace with
    | 'n' :: rest => readWord? "ull".toList .null rest
    | 't' :: rest => readWord? "rue".toList (.bool true) rest
    | 'f' :: rest => readWord? "alse".toList (.bool false) rest
    | '"' :: rest => (readUnits rest).map fun (us, rest) => (.string (ofUnits? us), rest)
    | '-' :: rest => (readNumeral? true rest).map fun (s, rest) => (.number s, rest)
    | '[' :: rest =>
      match rest.dropWhile isSpace with
      | ']' :: rest => some (.array [], rest)
      | rest => (readItems fuel rest).map fun (items, rest) => (.array items, rest)
    | '\x7b' :: rest =>
      match rest.dropWhile isSpace with
      | '\x7d' :: rest => some (.object [], rest)
      | rest => (readFields fuel rest).map fun (fields, rest) => (.object fields, rest)
    | cs => (readNumeral? false cs).map fun (s, rest) => (.number s, rest)

/-- Reads the items of an array up to its bracket. -/
def readItems : Nat → Text → Option (List JsonTree × Text)
  | 0, _ => none
  | fuel + 1, cs => do
    let (item, rest) ← readValue fuel cs
    match rest.dropWhile isSpace with
    | ',' :: rest => do
      let (items, rest) ← readItems fuel rest
      return (item :: items, rest)
    | ']' :: rest => return ([item], rest)
    | _ => none

/-- Reads the fields of an object up to its brace. -/
def readFields : Nat → Text → Option (List (Option Text × JsonTree) × Text)
  | 0, _ => none
  | fuel + 1, cs =>
    match cs.dropWhile isSpace with
    | '"' :: rest => do
      let (us, rest) ← readUnits rest
      match rest.dropWhile isSpace with
      | ':' :: rest => do
        let (value, rest) ← readValue fuel rest
        match rest.dropWhile isSpace with
        | ',' :: rest => do
          let (fields, rest) ← readFields fuel rest
          return ((ofUnits? us, value) :: fields, rest)
        | '\x7d' :: rest => return ([(ofUnits? us, value)], rest)
        | _ => none
      | _ => none
    | _ => none

end

/-- Reads a text that holds one value. -/
def ofText? (cs : Text) : Option JsonTree :=
  match readValue (2 * cs.length + 2) cs with
  | some (tree, rest) => if rest.all isSpace then some tree else none
  | none => none

/-- How deep what is asked for may be nested: one less than this. -/
def depthLimit : Nat := 128

/-- The limit inside an array or object, if the limit outside allows one. -/
def enter? (limit : Nat) : Option Nat :=
  if limit ≤ 1 then none else some (limit - 1)

mutual

/-- The value of a tree that is nested less deep than the limit; of equal keys the last counts. -/
def toJson? (limit : Nat) : JsonTree → Option Json
  | .null => some .null
  | .bool b => some (.bool b)
  | .number s => s.value?
  | .string s => s.map .string
  | .array items =>
    match enter? limit with
    | some limit => (toItems? limit items).map .array
    | none => none
  | .object fields =>
    match enter? limit with
    | some limit => (toFields? limit fields).map fun fields => .object (Dict.ofList fields)
    | none => none

/-- The values of the items of an array. -/
def toItems? (limit : Nat) : List JsonTree → Option (List Json)
  | [] => some []
  | tree :: rest => do
    let v ← toJson? limit tree
    let vs ← toItems? limit rest
    return v :: vs

/-- The values of the fields of an object. -/
def toFields? (limit : Nat) : List (Option Text × JsonTree) → Option (List (Text × Json))
  | [] => some []
  | (key, tree) :: rest => do
    let k ← key
    let v ← toJson? limit tree
    let vs ← toFields? limit rest
    return (k, v) :: vs

end

end JsonTree

/-- Reads a value from a text. -/
def Json.ofText? (cs : Text) : Option Json := do
  let tree ← JsonTree.ofText? cs
  tree.toJson? JsonTree.depthLimit

end ResultFilter
