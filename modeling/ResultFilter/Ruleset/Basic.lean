import ResultFilter.RuleIndex.Basic
import ResultFilter.Ruleset.Header

/-!
# Rulesets

A ruleset is a text of rules, one on each line, together with the rules compiled. Lines are numbered from
one and keep their numbers: a line that is deleted leaves a hole, and new lines come after all others.

## Main definitions

* `Ruleset` — a ruleset.
* `Ruleset.ofText` — compiles a text.
* `Ruleset.extend`, `Ruleset.delete` — add lines and delete one.
* `Ruleset.get?`, `Ruleset.lines`, `Ruleset.toText` — the lines that are left.
* `Ruleset.query`, `Ruleset.blocks` — the rules that fire.
-/

namespace ResultFilter

open ResultFilter.Text

/-- The lines of a text, without the carriage returns before line ends. The empty text has none. -/
def splitLines (text : Text) : List Text :=
  if text.isEmpty then []
  else
    (Text.splitOn '\n' text).map fun line =>
      if line.getLast? == some '\r' then line.dropLast else line

/-- A ruleset. -/
structure Ruleset where
  /-- The lines; a hole is a line that was deleted. -/
  source : Array (Option Text)
  /-- What the header says. -/
  metadata : Metadata
  /-- The rules compiled. -/
  index : RuleIndex
  /-- The handles of the patterns by line, the latest first. -/
  handles : List (Nat × Handle)

namespace Ruleset

/-- The ruleset without lines. -/
def empty : Ruleset := ⟨#[], [], RuleIndex.empty, []⟩

/-- Adds a line that is no rule. -/
def pushText (r : Ruleset) (line : Text) : Ruleset :=
  { r with source := r.source.push (some line) }

/-- Adds a line and compiles it. -/
def pushLine (r : Ruleset) (line : Text) : Ruleset :=
  let r := r.pushText line
  let n := r.source.size
  match r.index.addLine n line with
  | (index, some handle) => { r with index, handles := (n, handle) :: r.handles }
  | (index, none) => { r with index }

/-- Compiles a text, whose header holds no rules. -/
def ofText (text : Text) : Ruleset :=
  let lines := splitLines text
  let header := Header.ofLines lines
  let start := (lines.take header.size).foldl pushText { empty with metadata := header.metadata }
  (lines.drop header.size).foldl pushLine start

/-- Adds the lines of a text. -/
def extend (r : Ruleset) (text : Text) : Ruleset :=
  (splitLines text).foldl pushLine r

/-- The number of lines, holes included. -/
def lineCount (r : Ruleset) : Nat :=
  r.source.size

/-- A line that is left. -/
def get? (r : Ruleset) (n : Nat) : Option Text :=
  if n = 0 then none else (r.source[n - 1]?).join

/-- Deletes a line and takes its rules back; says whether there was one. -/
def delete (r : Ruleset) (n : Nat) : Bool × Ruleset :=
  match r.get? n with
  | none => (false, r)
  | some _ =>
    (true, { r with
      source := r.source.setIfInBounds (n - 1) none
      index := r.index.removeLine n (r.handles.lookup n)
      handles := r.handles.filter (·.1 != n) })

/-- The lines that are left, with their numbers. -/
def lines (r : Ruleset) : List (Nat × Text) :=
  r.source.toList.zipIdx.filterMap fun (line, i) => line.map (i + 1, ·)

/-- The lines that are left as a text. -/
def toText (r : Ruleset) : Text :=
  Text.join ['\n'] (r.lines.map (·.2))

/-- The rules that fire on a search result. -/
def query (r : Ruleset) (props : Props) : List RuleMatch :=
  r.index.query props

/-- Whether a search result is blocked: a rule fires on it, and every rule that does blocks. -/
def blocks (r : Ruleset) (props : Props) : Bool :=
  let fired := r.query props
  !fired.isEmpty && fired.all RuleMatch.isPlainBlock

/-- The number of rules. -/
def ruleCount (r : Ruleset) : Nat :=
  r.index.ruleCount

/-- The name that the header gives. -/
def name? (r : Ruleset) : Option Text :=
  match r.metadata.find? "name".toList with
  | some (.string name) => some name
  | _ => none

end Ruleset

end ResultFilter
