import ResultFilter.Proofs.RuleIndex.Reload
import ResultFilter.Proofs.Ruleset.Lines
import ResultFilter.Ruleset.Stored

/-!
# Rulesets stored and read again

A ruleset that is stored and read again has another index and other handles, and cannot be told apart from
the one that was stored: not at once, and not after the same changes of both.

## Main definitions

* `Ruleset.IsTracked` — the handles of a ruleset know the pattern of each line.
* `Ruleset.Same` — the same lines, the same metadata and the same compiled rules.
* `Ruleset.Alike` — the same answers to all questions.
* `Ruleset.Attained` — what a text becomes through changes and through being stored and read.

## Main results

* `Ruleset.load?_store_eq` — what is read from a stored ruleset.
* `Ruleset.alike_edits_of_load` — it is like the one that was stored.
-/

namespace ResultFilter

namespace Ruleset

/-! ### Handles -/

/-- The handles of a ruleset know the pattern of each line, and its rules can be stored. -/
def IsTracked (r : Ruleset) : Prop :=
  r.index.Tracked r.handles r.lineCount

namespace IsTracked

variable {r : Ruleset} (ht : r.IsTracked)
include ht

/-- A line that is no rule changes the number of lines alone. -/
theorem pushText (line : Text) : (r.pushText line).IsTracked := by
  have hcount : r.lineCount ≤ (r.pushText line).lineCount := by
    show r.source.size ≤ (r.source.push (some line)).size
    rw [Array.size_push]
    exact Nat.le_succ _
  exact ht.mono hcount

theorem pushLine (line : Text) : (r.pushLine line).IsTracked := by
  have hcount : (r.pushLine line).lineCount = r.lineCount + 1 := by
    rw [lineCount, source_pushLine, Array.size_push]
    rfl
  rw [IsTracked, index_pushLine, handles_pushLine, hcount]
  exact ht.addLine line

theorem foldl_pushText (lines : List Text) : (lines.foldl Ruleset.pushText r).IsTracked := by
  induction lines generalizing r with
  | nil => exact ht
  | cons line lines ih => exact ih (ht.pushText line)

theorem foldl_pushLine (lines : List Text) : (lines.foldl Ruleset.pushLine r).IsTracked := by
  induction lines generalizing r with
  | nil => exact ht
  | cons line lines ih => exact ih (ht.pushLine line)

theorem delete (n : Nat) : (r.delete n).2.IsTracked := by
  have hcount := lineCount_delete r n
  unfold Ruleset.delete at hcount ⊢
  cases hget : r.get? n with
  | none => exact ht
  | some line =>
    rw [hget] at hcount
    rw [IsTracked, hcount]
    exact ht.removeLine n

theorem edit (change : Edit) : (r.edit change).IsTracked := by
  cases change with
  | extend text => exact ht.foldl_pushLine (splitLines text)
  | delete n => exact ht.delete n

end IsTracked

theorem isTracked_ofText (text : Text) : (ofText text).IsTracked := by
  have hempty : ({ empty with metadata := (Header.ofLines (splitLines text)).metadata } : Ruleset).IsTracked :=
    RuleIndex.tracked_empty
  exact (hempty.foldl_pushText _).foldl_pushLine _

/-! ### Rulesets that are the same -/

/-- The lines, the metadata and the compiled rules are the same; the handles need not be. -/
structure Same (r other : Ruleset) : Prop where
  /-- The lines are the same. -/
  source_eq : r.source = other.source
  /-- The headers say the same. -/
  metadata_eq : r.metadata = other.metadata
  /-- The compiled rules are the same. -/
  index : r.index.Same other.index

/-- All questions about the rulesets have the same answers. -/
structure Alike (r other : Ruleset) : Prop where
  /-- The number of lines. -/
  lineCount_eq : r.lineCount = other.lineCount
  /-- Each line. -/
  get?_eq (n : Nat) : r.get? n = other.get? n
  /-- The lines that are left. -/
  lines_eq : r.lines = other.lines
  /-- Their text. -/
  toText_eq : r.toText = other.toText
  /-- What the header says. -/
  metadata_eq : r.metadata = other.metadata
  /-- The number of rules. -/
  ruleCount_eq : r.ruleCount = other.ruleCount
  /-- The rules that fire. -/
  query_eq (props : Props) : r.query props = other.query props
  /-- Whether a search result is blocked. -/
  blocks_eq (props : Props) : r.blocks props = other.blocks props
  /-- Whether a line can be deleted. -/
  delete_eq (n : Nat) : (r.delete n).1 = (other.delete n).1
  /-- The stored text. -/
  store_eq : r.store = other.store

namespace Same

variable {r other : Ruleset} (hs : r.Same other)
include hs

theorem get?_eq (n : Nat) : r.get? n = other.get? n := by
  rw [get?, get?, hs.source_eq]

theorem pushLine (ht : r.IsTracked) (ho : other.IsTracked) (line : Text) :
    (r.pushLine line).Same (other.pushLine line) := by
  refine ⟨?_, ?_, ?_⟩
  · rw [source_pushLine, source_pushLine, hs.source_eq]
  · rw [metadata_pushLine, metadata_pushLine, hs.metadata_eq]
  · rw [index_pushLine, index_pushLine, hs.source_eq]
    exact hs.index.addLine ht.regular.isTree ho.regular.isTree _ line

theorem foldl_pushLine (ht : r.IsTracked) (ho : other.IsTracked) (lines : List Text) :
    (lines.foldl Ruleset.pushLine r).Same (lines.foldl Ruleset.pushLine other) := by
  induction lines generalizing r other with
  | nil => exact hs
  | cons line lines ih => exact ih (hs.pushLine ht ho line) (ht.pushLine line) (ho.pushLine line)

theorem delete (ht : r.IsTracked) (ho : other.IsTracked) (n : Nat) :
    (r.delete n).2.Same (other.delete n).2 := by
  unfold Ruleset.delete
  rw [← hs.get?_eq n]
  cases r.get? n with
  | none => exact hs
  | some line =>
    refine ⟨?_, hs.metadata_eq, hs.index.removeLine ht ho n⟩
    rw [hs.source_eq]

theorem edit (ht : r.IsTracked) (ho : other.IsTracked) (change : Edit) :
    (r.edit change).Same (other.edit change) := by
  cases change with
  | extend text => exact hs.foldl_pushLine ht ho (splitLines text)
  | delete n => exact hs.delete ht ho n

/-- Rulesets that are the same answer alike, whatever their handles are. -/
theorem alike (ht : r.IsTracked) (ho : other.IsTracked) : r.Alike other := by
  have hlines : r.lines = other.lines := by rw [lines, lines, hs.source_eq]
  have hquery : ∀ props, r.query props = other.query props := hs.index.query_eq
  refine
    { lineCount_eq := congrArg Array.size hs.source_eq
      get?_eq := hs.get?_eq
      lines_eq := hlines
      toText_eq := by rw [toText, toText, hlines]
      metadata_eq := hs.metadata_eq
      ruleCount_eq := hs.index.ruleCount_eq ht.regular ho.regular
      query_eq := hquery
      blocks_eq := fun props => by rw [blocks, blocks, hquery]
      delete_eq := fun n => by rw [delete_fst, delete_fst, hs.get?_eq]
      store_eq := ?_ }
  have hindex := hs.index.toJson_eq ht.regular.isTree ho.regular.isTree
  rw [store, store, toJson, toJson, hs.source_eq, hs.metadata_eq, hindex]

/-- The same changes keep rulesets alike. -/
theorem alike_edits (ht : r.IsTracked) (ho : other.IsTracked) (changes : List Edit) :
    (r.edits changes).Alike (other.edits changes) := by
  induction changes generalizing r other with
  | nil => exact hs.alike ht ho
  | cons change changes ih => exact ih (hs.edit ht ho change) (ht.edit change) (ho.edit change)

end Same

/-! ### What is read -/

/-- The lines that are stored are read. -/
theorem reads_source (source : List (Option Text)) :
    (Decoder.list (Decoder.optional Decoder.text)).Reads
      (.array (source.map fun line => .nullable (line.map .string))) source := by
  refine Decoder.reads_list_self fun line _ => ?_
  cases line with
  | none => exact Decoder.reads_optional_null _
  | some line => exact Decoder.reads_optional (Decoder.reads_text line) Json.noConfusion

/-- A ruleset is read with its lines, with the metadata as they are read by themselves, and with an index
and handles made anew. -/
theorem decode_toJson {r : Ruleset} (ht : r.IsTracked) (hcount : r.lineCount < 2 ^ 32) {limit : Nat} :
    decode limit r.toJson.tree
      = if r.toJson.depth < limit then
          (Json.againFields? r.metadata).map fun metadata =>
            ⟨r.source, Dict.ofList metadata, r.index.reloaded, r.index.reloaded.patternHandles⟩
        else none := by
  have hsource := reads_source r.source.toList
  have hindex := RuleIndex.reads_toJson ht.storable (Nat.le_of_lt_succ hcount)
  refine Record.ofTree?_bind ["source".toList, "metadata".toList, "index".toList] rfl (by decide) (by decide)
    fun {inner} hinner => ?_
  rw [Record.required_eq rfl hsource hinner, Record.withDefault_of_find?_eq_some rfl,
    Decoder.dict_json_tree, Record.required_eq rfl hindex hinner]
  simp only [Option.bind_eq_bind, Option.ite_some_bind, Option.pure_def]
  cases Json.againFields? r.metadata with
  | none => simp
  | some metadata =>
    simp only [Option.map_some, Option.ite_some_bind, ← ite_and]
    exact if_congr (by simp [Json.depthFields, Json.field]) rfl rfl

theorem load?_store_eq {r : Ruleset} (ht : r.IsTracked) (hcount : r.lineCount < 2 ^ 32) :
    load? r.store
      = if r.toJson.depth < JsonTree.depthLimit then
          (Json.againFields? r.metadata).map fun metadata =>
            ⟨r.source, Dict.ofList metadata, r.index.reloaded, r.index.reloaded.patternHandles⟩
        else none := by
  rw [load?, store, JsonTree.ofText?_render, Option.bind_eq_bind, Option.bind_some]
  exact decode_toJson ht hcount

/-- The parts of what is read. -/
theorem exists_of_load?_store {r r' : Ruleset} (ht : r.IsTracked) (hcount : r.lineCount < 2 ^ 32)
    (hload : load? r.store = some r') :
    ∃ metadata, Json.againFields? r.metadata = some metadata
      ∧ r' = ⟨r.source, Dict.ofList metadata, r.index.reloaded, r.index.reloaded.patternHandles⟩ := by
  rw [load?_store_eq ht hcount] at hload
  split at hload
  · obtain ⟨metadata, hmetadata, heq⟩ := Option.map_eq_some_iff.mp hload
    exact ⟨metadata, hmetadata, heq.symm⟩
  · exact absurd hload (by simp)

/-- The handles that are found again know the pattern of each line. -/
theorem IsTracked.load? {r r' : Ruleset} (ht : r.IsTracked) (hcount : r.lineCount < 2 ^ 32)
    (hload : Ruleset.load? r.store = some r') : r'.IsTracked := by
  obtain ⟨metadata, -, rfl⟩ := exists_of_load?_store ht hcount hload
  exact RuleIndex.Tracked.reloaded ht

/-- What a text becomes when lines are added and deleted, and when it is stored and read in between. -/
inductive Attained : Ruleset → Prop
  /-- A text is compiled. -/
  | ofText (text : Text) : Attained (ofText text)
  /-- A ruleset is changed. -/
  | edit {r : Ruleset} (change : Edit) : Attained r → Attained (r.edit change)
  /-- A ruleset is stored and read. -/
  | load {r r' : Ruleset} : Attained r → r.lineCount < 2 ^ 32 → load? r.store = some r' → Attained r'

theorem Attained.isTracked {r : Ruleset} (hr : r.Attained) : r.IsTracked := by
  induction hr with
  | ofText text => exact isTracked_ofText text
  | edit change _ ih => exact ih.edit change
  | load _ hcount hload ih => exact ih.load? hcount hload

theorem Attained.edits {r : Ruleset} (hr : r.Attained) (changes : List Edit) : (r.edits changes).Attained := by
  induction changes generalizing r with
  | nil => exact hr
  | cons change changes ih => exact ih (hr.edit change)

/-- A ruleset that was stored and read cannot be told apart from what it was, at once or after the same
changes of both, if its metadata are read by themselves as what they were, and if no pattern is for the
root's host alone, which has no place in the stored form. -/
theorem alike_edits_of_load {r r' : Ruleset} (hr : r.Attained) (hcount : r.lineCount < 2 ^ 32)
    (hroot : (r.index.patterns.bucket (.exact Index.root)).live = [])
    (hmetadata : Json.ofText? (Json.object r.metadata).render = some (.object r.metadata))
    (hload : load? r.store = some r') (changes : List Edit) :
    (r'.edits changes).Alike (r.edits changes) := by
  have ht := hr.isTracked
  have ht' := ht.load? hcount hload
  obtain ⟨metadata, hagain, rfl⟩ := exists_of_load?_store ht hcount hload
  have hsame : Dict.ofList metadata = r.metadata := by
    rw [Json.ofText?_render] at hmetadata
    split at hmetadata
    · rw [Json.again?, hagain] at hmetadata
      exact Json.object.inj (Option.some.inj hmetadata)
    · exact absurd hmetadata (by simp)
  have hs : Same ⟨r.source, Dict.ofList metadata, r.index.reloaded, r.index.reloaded.patternHandles⟩ r :=
    ⟨rfl, hsame, RuleIndex.same_reloaded ht.regular hroot⟩
  exact hs.alike_edits ht' ht changes

/-- The last pattern has another slot when it is read, and is still the one that goes with its line. -/
theorem alike_edits_of_load_example :
    let r := (ofText "*://*.b.org/*\n*://*.b.org/x/*\ntitle/x/\n*://*.b.org/*".toList).edits [.delete 2]
    let props := [("url".toList, "http://www.b.org/".toList)]
    ∃ r', load? r.store = some r' ∧ r'.handles ≠ r.handles
      ∧ (r'.edits [.delete 4, .extend "@*://www.b.org/*".toList]).query props = [⟨1, none⟩, ⟨5, some .negate⟩] := by
  intro r props
  have hsome : (load? r.store).isSome = true := by decide +kernel
  have hhandles : (load? r.store).map (·.handles) ≠ some r.handles := by decide +kernel
  obtain ⟨r', hload⟩ := Option.isSome_iff_exists.mp hsome
  rw [hload] at hhandles
  have hmetadata : r.metadata = [] := by
    rw [metadata_edits, metadata_ofText]
    rfl
  have halike := alike_edits_of_load ((Attained.ofText _).edits [.delete 2]) (by decide +kernel)
    (by decide +kernel) (by rw [hmetadata]; rfl) hload [.delete 4, .extend "@*://www.b.org/*".toList]
  refine ⟨r', hload, fun heq => hhandles (congrArg some heq), ?_⟩
  rw [halike.query_eq]
  decide +kernel

end Ruleset

end ResultFilter
