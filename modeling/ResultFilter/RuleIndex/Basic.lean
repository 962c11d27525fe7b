import ResultFilter.Index.Basic
import ResultFilter.Rule.Basic

/-!
# Compiled rules

The rules of a ruleset as they are asked for: those with a match pattern in an index, the others in lists
by kind. Each knows its line and its specifier. A question gives the rules that fire on a search result,
in the order of their lines.

## Main definitions

* `LineRule` — what a rule asks, with its line and its specifier.
* `RuleIndex` — the compiled rules.
* `RuleIndex.addLine`, `RuleIndex.removeLine` — compile a line, and take its rules back.
* `RuleIndex.query` — the rules that fire.
-/

namespace ResultFilter

/-- What a rule asks of a search result, with the line of the rule and its specifier. -/
structure LineRule (α : Type) where
  /-- The line of the rule. -/
  line : Nat
  /-- Its specifier. -/
  specifier : Option Specifier
  /-- What it asks. -/
  condition : α
deriving DecidableEq

namespace LineRule

variable {α : Type}

/-- The match that a rule gives when it fires. -/
def toMatch (r : LineRule α) : RuleMatch :=
  ⟨r.line, r.specifier⟩

/-- The matches of the rules whose condition holds. -/
def fired (rules : List (LineRule α)) (holds : α → Bool) : List RuleMatch :=
  (rules.filter fun r => holds r.condition).map toMatch

end LineRule

/-- Puts a match in its place among others in the order of their lines; one of the same line gives
way. -/
def RuleMatch.put (m : RuleMatch) : List RuleMatch → List RuleMatch
  | [] => [m]
  | n :: rest =>
    if m.line < n.line then m :: n :: rest
    else if m.line = n.line then m :: rest
    else n :: put m rest

/-- Puts a match in its place unless there is one of the same line. -/
def RuleMatch.putNew (m : RuleMatch) (ms : List RuleMatch) : List RuleMatch :=
  if ms.any (·.line == m.line) then ms else m.put ms

/-- The compiled rules of a ruleset. -/
structure RuleIndex where
  /-- The rules with a match pattern; what is left to ask is the guard. -/
  patterns : Index (LineRule (Option Expression))
  /-- The regular expressions for the address. -/
  url : List (LineRule Regex)
  /-- The regular expressions for the title. -/
  title : List (LineRule Regex)
  /-- The rules with a condition of their own. -/
  expressions : List (LineRule Expression)

namespace RuleIndex

/-- No rules. -/
def empty : RuleIndex := ⟨Index.empty, [], [], []⟩

/-- Adds a rule; gives the handle of its pattern if it has one. A rule whose pattern is not one for the
web is left out. -/
def addRule (index : RuleIndex) (line : Nat) (rule : Rule) : RuleIndex × Option Handle :=
  match rule.body with
  | .pattern p guard =>
    match index.patterns.insertPattern p ⟨line, rule.specifier, guard⟩ with
    | .ok (patterns, handle) => ({ index with patterns }, some handle)
    | .error _ => (index, none)
  | .regex .url r => ({ index with url := index.url ++ [⟨line, rule.specifier, r⟩] }, none)
  | .regex .title r => ({ index with title := index.title ++ [⟨line, rule.specifier, r⟩] }, none)
  | .expression e =>
    ({ index with expressions := index.expressions ++ [⟨line, rule.specifier, e⟩] }, none)

/-- Compiles a line. One that is no rule is left out. -/
def addLine (index : RuleIndex) (line : Nat) (text : Text) : RuleIndex × Option Handle :=
  match Rule.ofLine text with
  | .ok (some rule) => index.addRule line rule
  | _ => (index, none)

/-- Takes back the rules of a line; its pattern is found by the handle. -/
def removeLine (index : RuleIndex) (line : Nat) (handle : Option Handle) : RuleIndex where
  patterns :=
    match handle with
    | some h => (index.patterns.remove h).2
    | none => index.patterns
  url := index.url.filter (·.line != line)
  title := index.title.filter (·.line != line)
  expressions := index.expressions.filter (·.line != line)

/-- The handles of the patterns with their lines, the last first. -/
def patternHandles (index : RuleIndex) : List (Nat × Handle) :=
  (index.patterns.entries.map fun (handle, entry) => (entry.value.line, handle)).reverse

/-- The rules with a pattern that fire. -/
def firedPatterns (index : RuleIndex) (props : Props) : List RuleMatch :=
  LineRule.fired (index.patterns.lookupText props.url) fun guard =>
    match guard with
    | some e => e.eval props
    | none => true

/-- The regular expressions for a property that fire. -/
def firedRegexes (target : RegexTarget) (rules : List (LineRule Regex)) (props : Props) :
    List RuleMatch :=
  match props.get? target.prop with
  | some value => LineRule.fired rules (·.isMatch value)
  | none => []

/-- The rules that fire, in the order of their lines and one for each line. Of rules of one line those
with a pattern come first, and of these the last found. -/
def query (index : RuleIndex) (props : Props) : List RuleMatch :=
  let others := firedRegexes .url index.url props ++ firedRegexes .title index.title props
    ++ LineRule.fired index.expressions (·.eval props)
  others.foldl (fun ms m => m.putNew ms)
    ((index.firedPatterns props).foldl (fun ms m => m.put ms) [])

/-- The number of rules. -/
def ruleCount (index : RuleIndex) : Nat :=
  index.patterns.size + index.url.length + index.title.length + index.expressions.length

end RuleIndex

end ResultFilter
