import ResultFilter.Cli.Files
import ResultFilter.Proofs.Json.Rest

/-!
# Files that are written and read

What is written to a file is read from it, and what is written is known where a plan to write does not fail.
A file that is read as a ruleset is guessed to hold rules or a stored ruleset; what does not end in a bracket
or a brace stores none.

## Main definitions

* `FileTree.put` — the files with another one.

## Main results

* `FileTree.read_write` — what is written is read.
* `Plan.write_of_status` — a plan that does not fail writes its file.
* `loadRuleset_of_text`, `user_of_loadEngine` — the ruleset of a file whose text is known.
* `Ruleset.load?_eq_none` — a text that stores no ruleset.
-/

namespace ResultFilter

open ResultFilter.Text

namespace Cli

deriving instance DecidableEq for Reading, RulesetFiles, Command, Request

namespace FileTree

variable {t t' : FileTree} {place : List Text} {path : Path} {content : Text}

/-- The files with another one, which takes the place of one that is there. -/
def put (t : FileTree) (place : List Text) (content : Text) : FileTree :=
  ⟨t.files.filter (·.1 != place) ++ [(place, content)]⟩

theorem file?_put : (t.put place content).file? place = some content := by
  have hother : (t.files.filter (·.1 != place)).lookup place = none := by
    rw [List.lookup_eq_none_iff]
    intro file hfile
    have hne := (List.mem_filter.mp hfile).2
    rwa [bne_comm] at hne
  rw [put, file?, List.lookup_append, hother, Option.none_or, List.lookup_cons_self]

theorem isDirectory_put (h : t.isDirectory place = false) :
    (t.put place content).isDirectory place = false := by
  rw [isDirectory, Bool.or_eq_false_iff, List.any_eq_false] at h ⊢
  refine ⟨h.1, fun file hfile => ?_⟩
  rcases List.mem_append.mp hfile with hfile | hfile
  · exact h.2 file (List.mem_filter.mp hfile).1
  · obtain rfl := List.mem_singleton.mp hfile
    simp

theorem of_write (h : t.write path content = .ok t') :
    (path.head? == some '/') = false ∧ t.isDirectory (resolve path.parts) = false
      ∧ path.namesFile = true ∧ t' = t.put (resolve path.parts) content := by
  unfold write at h
  dsimp only at h
  split at h
  · exact nomatch h
  · next hrelative =>
    split at h
    · exact nomatch h
    · split at h
      · exact nomatch h
      · next hplace =>
        rw [Bool.not_eq_true, Bool.or_eq_false_iff, Bool.not_eq_false'] at hplace
        exact ⟨Bool.not_eq_true _ ▸ hrelative, hplace.1, hplace.2, (Except.ok.inj h).symm⟩

/-- What is written to a file is what is read from it. -/
theorem read_write (h : t.write path content = .ok t') : t'.read path = .text content := by
  obtain ⟨hrelative, hdirectory, hname, rfl⟩ := of_write h
  simp only [read, hrelative, isDirectory_put hdirectory, file?_put, hname, Bool.false_eq_true, if_false,
    if_true]

end FileTree

/-- A plan to write one file that does not fail writes it. -/
theorem Plan.write_of_status {files : FileTree} {path : Path} {content before behind : Text}
    (h : ((Plan.ofSteps [.print before, .write path content, .print behind]).run files).status = 0) :
    files.write path content
      = .ok ((Plan.ofSteps [.print before, .write path content, .print behind]).run files).files := by
  simp only [Plan.run, Plan.ofSteps, runSteps] at h ⊢
  cases hwrite : files.write path content with
  | error failure =>
    rw [hwrite] at h
    exact absurd h Nat.one_ne_zero
  | ok after => rfl

/-- The ruleset of a file whose text is known. -/
theorem loadRuleset_of_text {read : Path → Reading} {path : Path} {content : Text}
    (h : read path = .text content) :
    loadRuleset read path
      = if looksStored path content then
          match Ruleset.load? content with
          | some r => .ok r
          | none => .error (.notStored path)
        else .ok (Ruleset.ofText content) := by
  have htext : readText read path = .ok content := by rw [readText, h]
  rw [loadRuleset, htext]
  show (if looksStored path content then _ else _) = _
  split
  · cases Ruleset.load? content <;> rfl
  · rfl

/-- A file of the user that does not look stored is compiled. -/
theorem user_of_loadEngine {read : Path → Reading} {list : Option SuffixList} {rulesets : RulesetFiles}
    {e : Engine} {path : Path} {content : Text} (hpath : rulesets.user = some path)
    (hread : read path = .text content) (hlooks : looksStored path content = false)
    (h : loadEngine read list rulesets = .ok e) : e.user = .ofText content := by
  have hload : loadRuleset read path = .ok (.ofText content) := by
    rw [loadRuleset_of_text hread, hlooks, if_neg Bool.false_ne_true]
  rw [loadEngine, hpath] at h
  simp only [hread, Reading.exists, hload, bind, Except.bind] at h
  rw [if_pos trivial] at h
  split at h
  · exact nomatch h
  · obtain rfl := Except.ok.inj h
    rfl

end Cli

namespace Ruleset

/-- A ruleset is stored as an object or as an array. -/
theorem exists_closing_of_load? {text : Text} {r : Ruleset} (h : load? text = some r) :
    ∃ mark rest, (mark = ']' ∨ mark = '\x7d') ∧ mark :: rest <:+ text
      ∧ rest.all JsonTree.isSpace = true := by
  obtain ⟨tree, htree, hdecode⟩ := Option.bind_eq_some_iff.mp h
  obtain ⟨record, hrecord, -⟩ := Option.bind_eq_some_iff.mp hdecode
  obtain ⟨rest, hsuffix, hrest⟩ := JsonTree.exists_closing_of_ofText? htree
  cases tree with
  | array items => exact ⟨']', rest, Or.inl rfl, hsuffix, hrest⟩
  | object fields => exact ⟨'\x7d', rest, Or.inr rfl, hsuffix, hrest⟩
  | _ => exact absurd hrecord (by simp [Record.ofTree?])

/-- A text whose last character is no space, no bracket and no brace stores no ruleset. -/
theorem load?_eq_none {text : Text} {c : Char} (hlast : text.getLast? = some c)
    (hspace : JsonTree.isSpace c = false) (hbracket : c ≠ ']') (hbrace : c ≠ '\x7d') : load? text = none := by
  cases hload : load? text with
  | none => rfl
  | some r =>
    exfalso
    obtain ⟨mark, rest, hmark, ⟨front, rfl⟩, hrest⟩ := exists_closing_of_load? hload
    rw [List.getLast?_append, List.getLast?_cons, Option.some_or] at hlast
    cases hback : rest.getLast? with
    | none =>
      rw [hback] at hlast
      rcases hmark with rfl | rfl
      · exact hbracket (Option.some.inj hlast).symm
      · exact hbrace (Option.some.inj hlast).symm
    | some d =>
      rw [hback, Option.getD_some] at hlast
      obtain rfl := Option.some.inj hlast
      have hd := List.all_eq_true.mp hrest d (List.mem_of_getLast? hback)
      rw [hspace] at hd
      exact absurd hd (by decide)

end Ruleset

end ResultFilter
