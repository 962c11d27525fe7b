import ResultFilter.Decimal.Shortest
import ResultFilter.Dict

/-!
# JSON values

The values that rulesets, patches and header fields are stored as, and how they are written: compactly,
or laid out over lines.

## Main definitions

* `Json` — a value.
* `Json.render` — the compact text of a value.
* `Json.renderPretty` — the text laid out with an indent.
* `Json.depth` — how deep arrays and objects are nested.
-/

namespace ResultFilter

open ResultFilter.Text

/-- A JSON value. -/
inductive Json where
  | null
  | bool (b : Bool)
  /-- A whole number of at most sixty-four bits. -/
  | int (n : Int)
  /-- Any other number. -/
  | float (x : Binary64)
  | string (s : Text)
  | array (items : List Json)
  /-- An object; the order of its fields is the order they are written in. -/
  | object (fields : List (Text × Json))
deriving Repr, Inhabited

namespace Json

/-- Numbers with a fraction are positional between `0.00001` and sixteen digits, and have an exponent
with its sign elsewhere. -/
def numberStyle : DecimalStyle := ⟨-5, 15, 'e', true⟩

/-- The text of a whole number. -/
def renderInt (n : Int) : Text :=
  (if n < 0 then ['-'] else []) ++ decimalDigits n.natAbs

/-- A character in a string. -/
def escapeChar (c : Char) : Text :=
  if c = '"' then ['\\', '"']
  else if c = '\\' then ['\\', '\\']
  else if c = '\x08' then ['\\', 'b']
  else if c = '\t' then ['\\', 't']
  else if c = '\n' then ['\\', 'n']
  else if c = '\x0c' then ['\\', 'f']
  else if c = '\r' then ['\\', 'r']
  else if c < ' ' then ['\\', 'u', '0', '0', hexDigit (c.toNat / 16), hexDigit (c.toNat % 16)]
  else [c]

/-- A string in quotes. -/
def renderString (s : Text) : Text :=
  '"' :: s.flatMap escapeChar ++ ['"']

mutual

/-- The compact text of a value. -/
def render : Json → Text
  | .null => "null".toList
  | .bool true => "true".toList
  | .bool false => "false".toList
  | .int n => renderInt n
  | .float x => x.render numberStyle
  | .string s => renderString s
  | .array items => '[' :: renderItems items ++ [']']
  | .object fields => '\x7b' :: renderFields fields ++ ['\x7d']

/-- The items of an array, with commas between them. -/
def renderItems : List Json → Text
  | [] => []
  | [v] => render v
  | v :: w :: rest => render v ++ ',' :: renderItems (w :: rest)

/-- The fields of an object, with commas between them. -/
def renderFields : List (Text × Json) → Text
  | [] => []
  | [(k, v)] => renderString k ++ ':' :: render v
  | (k, v) :: f :: rest => renderString k ++ ':' :: render v ++ ',' :: renderFields (f :: rest)

end

/-- The start of a line at a depth. -/
def newLine (depth : Nat) : Text :=
  '\n' :: List.replicate (2 * depth) ' '

mutual

/-- The text of a value laid out over lines, at a depth. -/
def renderAt (depth : Nat) : Json → Text
  | .array [] => ['[', ']']
  | .array (v :: items) => '[' :: renderItemsAt (depth + 1) (v :: items) ++ newLine depth ++ [']']
  | .object [] => ['\x7b', '\x7d']
  | .object (f :: fields) =>
    '\x7b' :: renderFieldsAt (depth + 1) (f :: fields) ++ newLine depth ++ ['\x7d']
  | .null => render .null
  | .bool b => render (.bool b)
  | .int n => render (.int n)
  | .float x => render (.float x)
  | .string s => render (.string s)

/-- The items of an array, each on lines of its own. -/
def renderItemsAt (depth : Nat) : List Json → Text
  | [] => []
  | [v] => newLine depth ++ renderAt depth v
  | v :: w :: rest => newLine depth ++ renderAt depth v ++ ',' :: renderItemsAt depth (w :: rest)

/-- The fields of an object, each on lines of its own. -/
def renderFieldsAt (depth : Nat) : List (Text × Json) → Text
  | [] => []
  | [(k, v)] => newLine depth ++ renderString k ++ ": ".toList ++ renderAt depth v
  | (k, v) :: f :: rest =>
    newLine depth ++ renderString k ++ ": ".toList ++ renderAt depth v ++ ',' ::
      renderFieldsAt depth (f :: rest)

end

/-- The text of a value laid out over lines. -/
def renderPretty (v : Json) : Text :=
  renderAt 0 v

/-- A count. -/
def ofNat (n : Nat) : Json :=
  .int n

/-- A string given as a constant. -/
def word (s : String) : Json :=
  .string s.toList

/-- A field of an object. -/
def field (name : String) (value : Json) : Text × Json :=
  (name.toList, value)

/-- A field that is left out where there is no value. -/
def optionalField (name : String) (value : Option Json) : List (Text × Json) :=
  match value with
  | some value => [field name value]
  | none => []

/-- A value, or `null` where there is none. -/
def nullable (value : Option Json) : Json :=
  value.getD .null

mutual

/-- How deep arrays and objects are nested in a value. -/
def depth : Json → Nat
  | .array items => depthItems items + 1
  | .object fields => depthFields fields + 1
  | _ => 0

/-- The depth of the deepest item. -/
def depthItems : List Json → Nat
  | [] => 0
  | v :: rest => max (depth v) (depthItems rest)

/-- The depth of the deepest field. -/
def depthFields : List (Text × Json) → Nat
  | [] => 0
  | (_, v) :: rest => max (depth v) (depthFields rest)

end

end Json

end ResultFilter
