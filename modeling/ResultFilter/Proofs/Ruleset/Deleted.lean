import ResultFilter.Proofs.RuleIndex.Reload
import ResultFilter.Proofs.Ruleset.Lines
import ResultFilter.Ruleset.Stored

/-!
# Lines deleted from a ruleset that was read

A ruleset that is read knows one handle for each line, that of the last pattern of the line. Deleting the line
clears what is behind this handle and takes back all its rules without a pattern. If the stored index has more
patterns on the line they are left, no handle leads to them any more, and no later change takes them back, so
that questions go on to report the line.

## Main definitions

* `Ruleset.Reports` — a question reports a line.
* `Ruleset.Indexed` — handles lead to patterns of their lines.

## Main results

* `Ruleset.Indexed.delete`, `Ruleset.indexed_of_load?` — what is read and changed keeps its handles right.
* `Ruleset.Indexed.reports_delete_of_ne` — deleting another line.
* `Ruleset.reports_deletes_iff` — what is left of a line that was deleted.
-/

namespace ResultFilter

namespace Ruleset

/-- A question reports a line: some rule of it fires. -/
def Reports (r : Ruleset) (props : Props) (n : Nat) : Prop :=
  ∃ m ∈ r.query props, m.line = n

theorem delete_of_get?_eq_none {r : Ruleset} {n : Nat} (h : r.get? n = none) : (r.delete n).2 = r := by
  rw [delete, h]

/-- A line that is deleted is gone, and the others stay. -/
theorem get?_delete (r : Ruleset) (m n : Nat) : (r.delete m).2.get? n = if n = m then none else r.get? n := by
  by_cases hn : n = 0
  · rw [get?, get?, if_pos hn, if_pos hn, ite_self]
  rw [get?_eq_join _ hn, get?_eq_join _ hn, source_delete]
  by_cases hm : m = 0
  · rw [if_pos hm, if_neg (by omega)]
  rw [if_neg hm, List.getElem?_set]
  by_cases heq : n = m
  · subst heq
    rw [if_pos rfl, if_pos rfl]
    split <;> rfl
  · rw [if_neg (by omega), if_neg heq]

/-- The patterns of a ruleset are indexed, and a handle leads to a pattern of its line, if to any. -/
structure Indexed (r : Ruleset) : Prop where
  /-- The index of the patterns is a regular one. -/
  regular : r.index.patterns.Regular
  /-- What is behind the handle of a line is a pattern of the line. -/
  line_eq {n : Nat} {h : Handle} {e : Entry (LineRule (Option Expression))} :
    r.handles.lookup n = some h → r.index.patterns.entryAt? h = some e → e.value.line = n

namespace Indexed

variable {r : Ruleset} (hr : r.Indexed)
include hr

theorem delete (m : Nat) : (r.delete m).2.Indexed := by
  unfold Ruleset.delete
  cases r.get? m with
  | none => exact hr
  | some line =>
    refine ⟨r.index.regular_removeLine m _ hr.regular, fun {n h e} hlookup he => ?_⟩
    dsimp only at hlookup he
    rw [List.lookup_filter_ne] at hlookup
    rw [RuleIndex.entryAt?_removeLine] at he
    split at hlookup
    · exact absurd hlookup (by simp)
    · split at he
      · exact absurd he (by simp)
      · exact hr.line_eq hlookup he

/-- A question reports a line after it was deleted if an entry fires that the handle of the line does not lead
to. -/
theorem reports_delete_self {n : Nat} (hdelete : (r.delete n).1 = true) (props : Props) :
    (r.delete n).2.Reports props n ↔ ∃ h e, r.index.patterns.entryAt? h = some e ∧ e.value.line = n
      ∧ r.handles.lookup n ≠ some h ∧ r.index.EntryFires props h e := by
  rw [delete_fst, Option.isSome_iff_exists] at hdelete
  obtain ⟨line, hline⟩ := hdelete
  unfold Reports Ruleset.delete
  rw [hline]
  dsimp only
  unfold Ruleset.query
  rw [← List.mem_map, RuleIndex.mem_lines_query_removeLine_iff r.index n _ hr.regular,
    or_iff_right fun h => h.2 rfl]

/-- Deleting a line changes nothing for the others. -/
theorem reports_delete_of_ne {n m : Nat} (hne : n ≠ m) (props : Props) :
    (r.delete m).2.Reports props n ↔ r.Reports props n := by
  unfold Reports Ruleset.delete
  cases r.get? m with
  | none => rfl
  | some line =>
    dsimp only
    unfold Ruleset.query
    rw [← List.mem_map, ← List.mem_map, RuleIndex.mem_lines_query_removeLine_iff r.index m _ hr.regular,
      RuleIndex.mem_lines_query_iff hr.regular, and_iff_left hne]
    refine or_congr Iff.rfl (exists_congr fun h => exists_congr fun e => ?_)
    -- the handle of the line deleted does not lead to an entry of another
    refine and_congr_right fun he => and_congr_right fun hline => and_iff_right fun hlookup => ?_
    exact hne (hline.symm.trans (hr.line_eq hlookup he))

/-- A line that is no longer there stays reported or not, whatever is deleted. -/
theorem reports_deletes_of_get?_eq_none {n : Nat} (hget : r.get? n = none) (ns : List Nat) (props : Props) :
    (r.deletes ns).Reports props n ↔ r.Reports props n := by
  induction ns generalizing r with
  | nil => rfl
  | cons m ns ih =>
    refine (ih (hr.delete m) (by rw [get?_delete, hget, ite_self])).trans ?_
    -- the line itself is not deleted twice, and no other deletion reaches it
    by_cases hm : n = m
    · rw [← hm, delete_of_get?_eq_none hget]
    · exact hr.reports_delete_of_ne hm props

end Indexed

/-! ### Rulesets that are read -/

/-- The handles of a ruleset that is read are those of its patterns. -/
theorem handles_of_load? {text : Text} {r : Ruleset} (h : load? text = some r) :
    r.handles = r.index.patternHandles ∧ r.index.patterns.Regular := by
  simp only [load?, decode, Option.bind_eq_bind, Option.bind_eq_some_iff, Option.pure_def,
    Option.some.injEq] at h
  obtain ⟨tree, -, fields, -, source, -, metadata, -, index, hindex, rfl⟩ := h
  obtain ⟨field, -, hfield⟩ := Option.bind_eq_some_iff.mp hindex
  exact ⟨rfl, RuleIndex.regular_of_decode hfield⟩

theorem indexed_of_load? {text : Text} {r : Ruleset} (h : load? text = some r) : r.Indexed := by
  obtain ⟨hhandles, hregular⟩ := handles_of_load? h
  refine ⟨hregular, fun {n h e} hlookup he => ?_⟩
  -- a handle comes from an entry with its line
  rw [hhandles, RuleIndex.lookup_patternHandles] at hlookup
  obtain ⟨⟨h', e'⟩, hlast, rfl⟩ := Option.map_eq_some_iff.mp hlookup
  obtain ⟨he', hline⟩ := RuleIndex.mem_entriesOf.mp (List.mem_of_getLast? hlast)
  rwa [Option.some.inj (he.symm.trans he')]

/-- In a ruleset that is read, whatever it is read from, a line that was deleted is reported after any further
deletions just if one of its patterns but the last, in the order of the index, fires. -/
theorem reports_deletes_iff {text : Text} {r : Ruleset} (hload : load? text = some r) {n : Nat}
    (hdelete : (r.delete n).1 = true) (ns : List Nat) (props : Props) :
    ((r.delete n).2.deletes ns).Reports props n
      ↔ ∃ x ∈ (r.index.entriesOf n).dropLast, r.index.EntryFires props x.1 x.2 := by
  have hr := indexed_of_load? hload
  rw [(hr.delete n).reports_deletes_of_get?_eq_none (by rw [get?_delete, if_pos rfl]), hr.reports_delete_self hdelete,
    (handles_of_load? hload).1]
  constructor
  · rintro ⟨h, e, he, hline, hlookup, hfires⟩
    exact ⟨(h, e), RuleIndex.mem_dropLast_entriesOf.mpr ⟨he, hline, hlookup⟩, hfires⟩
  · rintro ⟨⟨h, e⟩, hx, hfires⟩
    obtain ⟨he, hline, hlookup⟩ := RuleIndex.mem_dropLast_entriesOf.mp hx
    exact ⟨h, e, he, hline, hlookup, hfires⟩

/-- A line with one pattern is silenced. -/
theorem reports_deletes_iff_example :
    ∃ r, load? "\x7b\"source\":[\"<all_urls>\"],\"index\":\x7b\"patterns\":[[\x7b\"line\":1\x7d],[]]\x7d\x7d".toList
        = some r
      ∧ (r.delete 1).1 = true ∧ ∀ ns props, ¬ ((r.delete 1).2.deletes ns).Reports props 1 := by
  obtain ⟨r, hload, hfacts⟩ : ∃ r,
      load? "\x7b\"source\":[\"<all_urls>\"],\"index\":\x7b\"patterns\":[[\x7b\"line\":1\x7d],[]]\x7d\x7d".toList
        = some r ∧ ((r.delete 1).1, (r.index.entriesOf 1).dropLast.length) = (true, 0) :=
    Option.map_eq_some_iff.mp (by decide +kernel)
  obtain ⟨hdelete, hlength⟩ := Prod.mk.inj hfacts
  refine ⟨r, hload, hdelete, fun ns props => ?_⟩
  rw [reports_deletes_iff hload hdelete, List.eq_nil_of_length_eq_zero hlength]
  rintro ⟨x, hx, -⟩
  exact absurd hx List.not_mem_nil

/-- Where a line has two patterns one of them is left, and goes on to fire. -/
theorem reports_deletes_counterexample :
    (load? ("\x7b\"source\":[\"<all_urls>\"],\"index\":\x7b\"patterns\":[[\x7b\"line\":1\x7d,\x7b\"line\":1\x7d],"
          ++ "[]]\x7d\x7d").toList).map
        (fun r => ((r.delete 1).1, (r.delete 1).2.query [(Props.urlName, "https://example.com/".toList)]))
      = some (true, [⟨1, none⟩]) := by
  decide +kernel

end Ruleset

end ResultFilter
