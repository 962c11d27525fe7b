import ResultFilter.RuleIndex.Stored
import ResultFilter.Ruleset.Basic

/-!
# The stored form of a ruleset

A ruleset is stored with its lines, what its header says, and its compiled rules, so that nothing has to
be compiled when it is read. The handles of the patterns are found again in the index.

## Main definitions

* `Ruleset.toJson`, `Ruleset.store` — a ruleset written.
* `Ruleset.decode`, `Ruleset.load?` — a ruleset read.
-/

namespace ResultFilter

namespace Ruleset

/-- A ruleset as it is stored. -/
def toJson (r : Ruleset) : Json :=
  .object [Json.field "source" (.array (r.source.toList.map fun line => .nullable (line.map .string))),
    Json.field "metadata" (.object r.metadata),
    Json.field "index" r.index.toJson]

/-- Reads a ruleset. -/
def decode : Decoder Ruleset := fun limit tree => do
  let r ← Record.ofTree? ["source".toList, "metadata".toList, "index".toList] limit tree
  let source ← r.required "source".toList (Decoder.list (Decoder.optional Decoder.text))
  let metadata ← r.withDefault "metadata".toList (Decoder.dict Decoder.json) []
  let index ← r.required "index".toList RuleIndex.decode
  return ⟨source.toArray, metadata, index, index.patternHandles⟩

/-- The text that a ruleset is stored as. -/
def store (r : Ruleset) : Text :=
  r.toJson.render

/-- The ruleset that a text stores. -/
def load? (text : Text) : Option Ruleset := do
  let tree ← JsonTree.ofText? text
  decode JsonTree.depthLimit tree

end Ruleset

end ResultFilter
