import ResultFilter.Json.Decode
import ResultFilter.Rule.Expression
import ResultFilter.Decision

/-!
# The stored forms of what rules are made of

Specifiers, decisions, matches, properties, regular expressions and conditions as JSON values. A regular
expression that is read is checked again; the operand of a comparison is taken as it stands.

## Main definitions

* `Specifier.toJson`, `Decision.toJson`, `RuleMatch.toJson`, `Props.toJson`, `Regex.toJson`,
  `Expression.toJson` — written.
* `Specifier.decode`, `Decision.decode`, `RuleMatch.decode`, `Props.decode`, `Regex.decode`,
  `Expression.decode` — read.
-/

namespace ResultFilter

open ResultFilter.Text

namespace Specifier

/-- A specifier as it is stored. -/
def toJson (s : Specifier) : Json :=
  .ofNat s.code

/-- Reads a specifier. -/
def decode : Decoder Specifier := fun limit tree =>
  (Decoder.word32 limit tree).map ofCode

end Specifier

namespace Decision

/-- A decision as it is stored. -/
def toJson : Decision → Json
  | .block => .word "block"
  | .unblock => .word "unblock"
  | .highlight color => .object [Json.field "highlight" (.ofNat color)]

/-- Reads a decision. -/
def decode : Decoder Decision := fun limit tree => do
  let v ← Variant.ofTree? limit tree
  if v.kind == "block".toList then if v.isPlain then some .block else none
  else if v.kind == "unblock".toList then if v.isPlain then some .unblock else none
  else if v.kind == "highlight".toList then do
    let content ← v.content
    let color ← Decoder.word32 v.limit content
    return .highlight color
  else none

end Decision

namespace RuleMatch

/-- A match as it is stored. -/
def toJson (m : RuleMatch) : Json :=
  .object [Json.field "line_number" (.ofNat m.line),
    Json.field "specifier" (.nullable (m.specifier.map Specifier.toJson))]

/-- Reads a match. -/
def decode : Decoder RuleMatch := fun limit tree => do
  let r ← Record.ofTree? ["line_number".toList, "specifier".toList] limit tree
  let line ← r.required "line_number".toList Decoder.word32
  let specifier ← r.optional "specifier".toList Specifier.decode
  return ⟨line, specifier⟩

end RuleMatch

namespace Props

/-- Properties as they are stored. -/
def toJson (props : Props) : Json :=
  .object (props.map fun (name, value) => (name, .string value))

/-- Reads properties. -/
def decode : Decoder Props :=
  Decoder.dict Decoder.text

end Props

namespace Regex

/-- A regular expression as it is stored; flags are left out where there are none. -/
def toJson (r : Regex) : Json :=
  let letters := r.flags.render
  .object (Json.field "source" (.string r.source) ::
    Json.optionalField "flags" (if letters.isEmpty then none else some (.string letters)))

/-- Reads a regular expression. -/
def decode : Decoder Regex := fun limit tree => do
  let r ← Record.ofTree? ["source".toList, "flags".toList] limit tree
  let source ← r.required "source".toList Decoder.text
  let letters ← r.withDefault "flags".toList Decoder.text []
  let flags ← (RegexFlags.ofText letters).toOption
  ofText source flags

end Regex

namespace StringOp

/-- The name of a comparison. -/
def name : StringOp → String
  | .equals => "equals"
  | .startsWith => "starts_with"
  | .endsWith => "ends_with"
  | .contains => "contains"

/-- Reads the name of a comparison. -/
def decode : Decoder StringOp := fun limit tree => do
  let v ← Variant.ofTree? limit tree
  let op ← [equals, startsWith, endsWith, contains].find? fun op => v.kind == op.name.toList
  if v.isPlain then some op else none

end StringOp

namespace Expression

/-- A condition as it is stored. -/
def toJson : Expression → Json
  | .not e => .object [Json.field "not" e.toJson]
  | .and a b => .object [Json.field "and" (.array [a.toJson, b.toJson])]
  | .or a b => .object [Json.field "or" (.array [a.toJson, b.toJson])]
  | .compare prop op value ignoreCase =>
    .object [Json.field "compare" (.object ([Json.field "prop" (.string prop), Json.field "op" (.word op.name),
      Json.field "value" (.string value)]
        ++ Json.optionalField "ignore_case" (if ignoreCase then some (.bool true) else none)))]
  | .search prop regex =>
    .object [Json.field "matches" (.object [Json.field "prop" (.string prop), Json.field "regex" regex.toJson])]

/-- Reads what is stored with a comparison. -/
def decodeComparison : Decoder Expression := fun limit tree => do
  let names := ["prop".toList, "op".toList, "value".toList, "ignore_case".toList]
  let r ← Record.ofTree? names limit tree
  let prop ← r.required "prop".toList Decoder.text
  let op ← r.required "op".toList StringOp.decode
  let value ← r.required "value".toList Decoder.text
  let ignoreCase ← r.withDefault "ignore_case".toList Decoder.bool false
  return .compare prop op value ignoreCase

/-- Reads what is stored with a search. -/
def decodeSearch : Decoder Expression := fun limit tree => do
  let r ← Record.ofTree? ["prop".toList, "regex".toList] limit tree
  let prop ← r.required "prop".toList Decoder.text
  let regex ← r.required "regex".toList Regex.decode
  return .search prop regex

/-- Reads a condition that is stored with its kind. -/
def decodeKind (kind : Text) (limit : Nat) (tree : JsonTree) : Option Expression :=
  if kind == "compare".toList then decodeComparison limit tree
  else if kind == "matches".toList then decodeSearch limit tree
  else none

/-- Reads a condition. -/
def decode (limit : Nat) : JsonTree → Option Expression
  | .object [(some kind, .array [a, b])] => do
    let inner ← JsonTree.enter? limit
    if kind == "and".toList ∨ kind == "or".toList then do
      let items ← JsonTree.enter? inner
      let left ← decode items a
      let right ← decode items b
      return if kind == "and".toList then .and left right else .or left right
    else decodeKind kind inner (.array [a, b])
  | .object [(some kind, tree)] => do
    let inner ← JsonTree.enter? limit
    if kind == "not".toList then (decode inner tree).map .not else decodeKind kind inner tree
  | _ => none

end Expression

end ResultFilter
