import ResultFilter.Yaml.Basic

/-!
# The header of a ruleset

A ruleset may begin with a header in YAML between two lines of three hyphens. It says what the ruleset is
called and whatever else its author wants to say. A header that is no mapping says nothing, but its lines
are no rules.

## Main definitions

* `Metadata` — what a header says.
* `Header` — a header.
* `Header.ofLines` — the header that some lines begin with.
-/

namespace ResultFilter

open ResultFilter.Text

/-- What a header says. -/
abbrev Metadata := Dict Json

/-- A header. -/
structure Header where
  /-- The number of lines it takes. -/
  size : Nat
  /-- What it says. -/
  metadata : Metadata
deriving Repr

namespace Header

/-- The header of a ruleset that has none. -/
def absent : Header := ⟨0, []⟩

/-- The line before and after a header. -/
def delimiter : Text := ['-', '-', '-']

/-- Whether a line is a delimiter; blanks may follow it. -/
def isDelimiter (line : Text) : Bool :=
  trimEnd line == delimiter

/-- What the lines between the delimiters say. -/
def metadataOf (body : List Text) : Metadata :=
  (Yaml.mappingOf? (Text.join ['\n'] body)).getD []

/-- The header that some lines begin with: without its second delimiter there is none. -/
def ofLines (lines : List Text) : Header :=
  match lines with
  | first :: rest =>
    let body := rest.takeWhile (!isDelimiter ·)
    if isDelimiter first && body.length < rest.length then ⟨body.length + 2, metadataOf body⟩ else absent
  | [] => absent

end Header

end ResultFilter
