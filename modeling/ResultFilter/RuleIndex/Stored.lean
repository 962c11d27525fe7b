import ResultFilter.Index.Stored
import ResultFilter.Rule.Stored
import ResultFilter.RuleIndex.Basic

/-!
# The stored form of compiled rules

Compiled rules are stored as the index of their patterns and the lists of the others. Only the index
has to be there when they are read.

## Main definitions

* `LineRule.toJson`, `RuleIndex.toJson` — written.
* `RuleIndex.decode` — read.
-/

namespace ResultFilter

namespace LineRule

variable {α : Type}

/-- A rule as it is stored; the specifier is left out where there is none. -/
def toJson (r : LineRule α) (condition : List (Text × Json)) : Json :=
  .object (Json.field "line" (.ofNat r.line)
    :: Json.optionalField "specifier" (r.specifier.map Specifier.toJson) ++ condition)

/-- The line and the specifier of a rule with something else. -/
def decodeWith (name : String) (condition : Record → Option α) : Decoder (LineRule α) :=
  fun limit tree => do
    let r ← Record.ofTree? ["line".toList, "specifier".toList, name.toList] limit tree
    let line ← r.required "line".toList Decoder.word32
    let specifier ← r.withDefault "specifier".toList (Decoder.optional Specifier.decode) none
    let c ← condition r
    return ⟨line, specifier, c⟩

/-- The guard of a rule with a pattern, as it is stored. -/
def guardJson (r : LineRule (Option Expression)) : Json :=
  r.toJson (Json.optionalField "guard" (r.condition.map Expression.toJson))

/-- Reads the guard of a rule with a pattern. -/
def decodeGuard : Decoder (LineRule (Option Expression)) :=
  decodeWith "guard" fun r =>
    r.withDefault "guard".toList (Decoder.optional Expression.decode) none

/-- A regular expression with its line, as it is stored. -/
def regexJson (r : LineRule Regex) : Json :=
  r.toJson [Json.field "regex" r.condition.toJson]

/-- Reads a regular expression with its line. -/
def decodeRegex : Decoder (LineRule Regex) :=
  decodeWith "regex" fun r => r.required "regex".toList Regex.decode

/-- A condition with its line, as it is stored. -/
def expressionJson (r : LineRule Expression) : Json :=
  r.toJson [Json.field "expression" r.condition.toJson]

/-- Reads a condition with its line. -/
def decodeExpression : Decoder (LineRule Expression) :=
  decodeWith "expression" fun r => r.required "expression".toList Expression.decode

end LineRule

namespace RuleIndex

/-- Compiled rules as they are stored. -/
def toJson (index : RuleIndex) : Json :=
  .object [Json.field "patterns" (index.patterns.toJson LineRule.guardJson),
    Json.field "url" (.array (index.url.map LineRule.regexJson)),
    Json.field "title" (.array (index.title.map LineRule.regexJson)),
    Json.field "expressions" (.array (index.expressions.map LineRule.expressionJson))]

/-- Reads compiled rules. -/
def decode : Decoder RuleIndex := fun limit tree => do
  let names := ["patterns".toList, "url".toList, "title".toList, "expressions".toList]
  let r ← Record.ofTree? names limit tree
  let patterns ← r.required "patterns".toList (Index.decode LineRule.decodeGuard)
  let url ← r.withDefault "url".toList (Decoder.list LineRule.decodeRegex) []
  let title ← r.withDefault "title".toList (Decoder.list LineRule.decodeRegex) []
  let expressions ← r.withDefault "expressions".toList (Decoder.list LineRule.decodeExpression) []
  return ⟨patterns, url, title, expressions⟩

end RuleIndex

end ResultFilter
