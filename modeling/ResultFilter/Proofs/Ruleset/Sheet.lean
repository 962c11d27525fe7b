import ResultFilter.Proofs.RuleIndex.Compiled
import ResultFilter.Ruleset.Basic

/-!
# Rulesets and their texts

A ruleset keeps its rules compiled while lines come and go. Its author sees a sheet: the lines, with holes
where lines were deleted, and the header above them. The compiled rules are at all times those that the
lines below the header spell, so a question can be answered from the sheet, line by line.

## Main definitions

* `Sheet` — the lines of a ruleset, some of them those of the header.
* `Sheet.rules`, `Sheet.fired` — the rules on the lines, and those that fire.
* `Edit`, `Ruleset.edits`, `Sheet.edits` — changes of a ruleset and of a sheet.
* `Ruleset.Follows` — a ruleset and a sheet have the same lines and the same rules.

## Main results

* `Ruleset.follows_edits` — a ruleset follows its sheet through all changes.
* `Ruleset.query_edits` — a question is answered by the rules on the lines that are left.
-/

namespace List

/-- Numbering a list with an element replaced. -/
theorem zipIdx_set_eq_map {α : Type*} (l : List α) (i : ℕ) (a : α) :
    (l.set i a).zipIdx = l.zipIdx.map fun x => if x.2 = i then (a, i) else x := by
  refine ext_getElem? fun j => ?_
  rw [getElem?_map, getElem?_zipIdx, getElem?_zipIdx, getElem?_set, Nat.zero_add]
  by_cases h : i = j
  · subst h
    by_cases hlt : i < l.length <;> simp [hlt]
  · rw [if_neg h]
    cases l[j]? <;> simp [Ne.symm h]

theorem set_eq_self_of_join_getElem? {α : Type*} {l : List (Option α)} {i : ℕ} (h : (l[i]?).join = none) :
    l.set i none = l := by
  refine ext_getElem? fun j => ?_
  rw [getElem?_set]
  split
  · next hj =>
    subst hj
    cases hi : l[i]? with
    | none => rw [if_neg (Nat.not_lt.mpr (getElem?_eq_none_iff.mp hi))]
    | some x =>
      rw [hi, Option.join_some] at h
      rw [if_pos (getElem?_eq_some_iff.mp hi).1, h]
  · rfl

end List

namespace ResultFilter

open ResultFilter.Text

/-- A change of a ruleset. -/
inductive Edit where
  /-- Lines are added. -/
  | extend (text : Text)
  /-- A line is deleted. -/
  | delete (n : Nat)

/-- The lines of a ruleset. Those of the header come first. -/
structure Sheet where
  /-- The number of lines of the header. -/
  header : Nat
  /-- The lines; a hole is a line that was deleted. -/
  lines : List (Option Text)

/-- A header ends before the lines do. -/
theorem Header.size_le (lines : List Text) : (Header.ofLines lines).size ≤ lines.length := by
  cases lines with
  | nil => exact Nat.le_refl 0
  | cons first rest =>
    simp only [Header.ofLines]
    split
    · next h =>
      simp only [Bool.and_eq_true, decide_eq_true_eq] at h
      exact Nat.succ_le_succ h.2
    · exact Nat.zero_le _

namespace Sheet

/-- The sheet with the lines of a text. -/
def ofText (text : Text) : Sheet :=
  ⟨(Header.ofLines (splitLines text)).size, (splitLines text).map some⟩

/-- Changes a sheet. There is no line with the number zero. -/
def edit (s : Sheet) : Edit → Sheet
  | .extend text => { s with lines := s.lines ++ (splitLines text).map some }
  | .delete n => if n = 0 then s else { s with lines := s.lines.set (n - 1) none }

/-- Changes a sheet again and again. -/
def edits (s : Sheet) (changes : List Edit) : Sheet :=
  changes.foldl edit s

/-- The rule on the line at an index, with its number, unless the line is a hole or one of the header. -/
def ruleAt? (s : Sheet) (x : Option Text × Nat) : Option (LineRule RuleBody) :=
  if x.2 < s.header then none
  else (x.1.bind Rule.ofLine?).map fun rule => ⟨x.2 + 1, rule.specifier, rule.body⟩

/-- The rules on the lines that are left below the header. -/
def rules (s : Sheet) : List (LineRule RuleBody) :=
  s.lines.zipIdx.filterMap s.ruleAt?

/-- The rules on the lines that fire on a search result. -/
def fired (s : Sheet) (props : Props) : List RuleMatch :=
  LineRule.fired s.rules (·.fires props)

theorem ruleAt?_none (s : Sheet) (i : Nat) : s.ruleAt? (none, i) = none := by
  simp [ruleAt?]

theorem line_of_ruleAt? {s : Sheet} {x : Option Text × Nat} {r : LineRule RuleBody}
    (h : s.ruleAt? x = some r) : r.line = x.2 + 1 := by
  unfold ruleAt? at h
  split at h
  · exact absurd h (by simp)
  · obtain ⟨rule, -, rfl⟩ := Option.map_eq_some_iff.mp h
    rfl

/-- The rules come in the order of their lines, at most one from each. -/
theorem pairwise_rules (s : Sheet) : s.rules.Pairwise (·.line < ·.line) := by
  refine List.pairwise_filterMap.mpr ((List.pairwise_zipIdx s.lines 0).imp fun {x y} hlt a ha b hb => ?_)
  rw [line_of_ruleAt? ha, line_of_ruleAt? hb]
  exact Nat.succ_lt_succ hlt

theorem pairwise_fired (s : Sheet) (props : Props) : (s.fired props).Pairwise (·.line < ·.line) :=
  List.pairwise_map.mpr (s.pairwise_rules.filter _)

/-- The rules on lines that are added come last. -/
theorem rules_append (s : Sheet) (lines : List (Option Text)) :
    ({ s with lines := s.lines ++ lines } : Sheet).rules
      = s.rules ++ (lines.zipIdx s.lines.length).filterMap s.ruleAt? := by
  unfold rules
  rw [List.zipIdx_append, List.filterMap_append, Nat.zero_add]
  rfl

/-- The rule on a line that becomes a hole is gone. -/
theorem rules_set_none (s : Sheet) (i : Nat) :
    ({ s with lines := s.lines.set i none } : Sheet).rules = s.rules.filter (·.line != i + 1) := by
  unfold rules
  rw [List.zipIdx_set_eq_map, List.filterMap_map, List.filter_filterMap]
  refine List.filterMap_congr fun x _ => ?_
  show s.ruleAt? (if x.2 = i then (none, i) else x) = _
  split
  · next hi =>
    rw [ruleAt?_none]
    cases hr : s.ruleAt? x with
    | none => rfl
    | some r => simp [Option.filter, line_of_ruleAt? hr, hi]
  · next hi =>
    cases hr : s.ruleAt? x with
    | none => rfl
    | some r => simp [Option.filter, line_of_ruleAt? hr, hi]

/-- The rules that fire are those on the lines that are left below the header whose conditions hold. -/
theorem mem_fired_iff {s : Sheet} {props : Props} {m : RuleMatch} :
    m ∈ s.fired props ↔ ∃ line rule, s.header < m.line ∧ s.lines[m.line - 1]? = some (some line)
      ∧ Rule.ofLine? line = some rule ∧ rule.specifier = m.specifier ∧ rule.body.fires props = true := by
  obtain ⟨n, specifier⟩ := m
  simp only [fired, LineRule.fired, rules, List.mem_map, List.mem_filter, List.mem_filterMap,
    Prod.exists, List.mem_zipIdx_iff_getElem?]
  constructor
  · rintro ⟨r, ⟨⟨line, i, hline, hr⟩, hfires⟩, hm⟩
    unfold ruleAt? at hr
    split at hr
    · exact absurd hr (by simp)
    · next hi =>
      obtain ⟨rule, hrule, rfl⟩ := Option.map_eq_some_iff.mp hr
      obtain ⟨text, rfl, hrule⟩ := Option.bind_eq_some_iff.mp hrule
      obtain ⟨rfl, rfl⟩ := RuleMatch.mk.inj hm
      exact ⟨text, rule, Nat.lt_succ_of_le (Nat.le_of_not_lt hi), hline, hrule, rfl, hfires⟩
  · rintro ⟨text, rule, hn, hline, hrule, rfl, hfires⟩
    -- below a header there is no line zero
    have hi : ¬ n - 1 < s.header := by omega
    have hsucc : n - 1 + 1 = n := by omega
    refine ⟨⟨n - 1 + 1, rule.specifier, rule.body⟩, ⟨⟨some text, n - 1, hline, ?_⟩, hfires⟩, ?_⟩
    · rw [ruleAt?, if_neg hi, Option.bind_some, hrule, Option.map_some]
    · rw [LineRule.toMatch, hsucc]

/-- There are no rules in the header. -/
theorem rules_eq_nil {s : Sheet} (h : s.lines.length ≤ s.header) : s.rules = [] := by
  refine List.filterMap_eq_nil_iff.mpr fun x hx => if_pos ?_
  obtain ⟨-, hlt, -⟩ := List.mem_zipIdx hx
  omega

end Sheet

namespace Ruleset

/-- Changes a ruleset. -/
def edit (r : Ruleset) : Edit → Ruleset
  | .extend text => r.extend text
  | .delete n => (r.delete n).2

/-- Changes a ruleset again and again. -/
def edits (r : Ruleset) (changes : List Edit) : Ruleset :=
  changes.foldl edit r

/-- A ruleset after lines were deleted, one after another. -/
def deletes (r : Ruleset) (ns : List Nat) : Ruleset :=
  ns.foldl (fun r n => (r.delete n).2) r

theorem source_pushLine (r : Ruleset) (line : Text) :
    (r.pushLine line).source = r.source.push (some line) := by
  simp only [pushLine]
  split <;> rfl

theorem index_pushLine (r : Ruleset) (line : Text) :
    (r.pushLine line).index = (r.index.addLine (r.source.size + 1) line).1 := by
  unfold pushLine
  simp only [pushText, Array.size_push]
  split
  · next h => rw [h]
  · next h => rw [h]

theorem handles_pushLine (r : Ruleset) (line : Text) :
    (r.pushLine line).handles
      = ((r.index.addLine (r.source.size + 1) line).2.map (r.source.size + 1, ·)).toList ++ r.handles := by
  unfold pushLine
  simp only [pushText, Array.size_push]
  split
  · next h => rw [h]; rfl
  · next h => rw [h]; rfl

/-- A ruleset and a sheet have the same lines, and the rules compiled are those on the lines. -/
structure Follows (r : Ruleset) (s : Sheet) : Prop where
  /-- The lines are the same. -/
  source_eq : r.source.toList = s.lines
  /-- The lines of the header are still counted. -/
  header_le : s.header ≤ s.lines.length
  /-- The compiled rules are those on the lines. -/
  compiles : r.index.Compiles r.handles s.rules

namespace Follows

variable {r : Ruleset} {s : Sheet} (hf : r.Follows s)
include hf

theorem pushLine (line : Text) :
    (r.pushLine line).Follows { s with lines := s.lines ++ [some line] } := by
  -- both count the holes, so the new line has the same number in both
  have hsize : r.source.size = s.lines.length := by rw [← hf.source_eq, Array.length_toList]
  have hrules : ({ s with lines := s.lines ++ [some line] } : Sheet).rules
      = s.rules ++ ((Rule.ofLine? line).map fun rule =>
          (⟨s.lines.length + 1, rule.specifier, rule.body⟩ : LineRule RuleBody)).toList := by
    have hrule : s.ruleAt? (some line, s.lines.length) = (Rule.ofLine? line).map fun rule =>
        ⟨s.lines.length + 1, rule.specifier, rule.body⟩ := if_neg (Nat.not_lt.mpr hf.header_le)
    rw [Sheet.rules_append, List.zipIdx_singleton, List.filterMap_cons, List.filterMap_nil, hrule]
    cases Rule.ofLine? line <;> rfl
  refine ⟨?_, ?_, ?_⟩
  · rw [source_pushLine, Array.toList_push, hf.source_eq]
  · rw [List.length_append]
    exact Nat.le_add_right_of_le hf.header_le
  · rw [index_pushLine, handles_pushLine, hrules, hsize]
    exact hf.compiles.addLine _ line

theorem foldl_pushLine (lines : List Text) :
    (lines.foldl Ruleset.pushLine r).Follows { s with lines := s.lines ++ lines.map some } := by
  induction lines generalizing r s with
  | nil => simpa using hf
  | cons line lines ih =>
    have hnext := ih (hf.pushLine line)
    rwa [List.append_assoc] at hnext

theorem get?_eq (n : Nat) : r.get? n = if n = 0 then none else (s.lines[n - 1]?).join := by
  rw [get?, ← hf.source_eq, Array.getElem?_toList]

theorem delete (n : Nat) : (r.delete n).2.Follows (s.edit (.delete n)) := by
  show (r.delete n).2.Follows (if n = 0 then s else { s with lines := s.lines.set (n - 1) none })
  unfold Ruleset.delete
  split
  · next hget =>
    rw [hf.get?_eq] at hget
    split
    · exact hf
    · next hn =>
      rw [if_neg hn] at hget
      rwa [List.set_eq_self_of_join_getElem? hget]
  · next line hget =>
    have hn : n ≠ 0 := by
      rintro rfl
      exact absurd hget (by simp [get?])
    simp only [if_neg hn]
    refine ⟨?_, ?_, ?_⟩
    · rw [Array.toList_setIfInBounds, hf.source_eq]
    · rw [List.length_set]
      exact hf.header_le
    · rw [Sheet.rules_set_none, Nat.sub_add_cancel (Nat.pos_of_ne_zero hn)]
      exact hf.compiles.removeLine (List.pairwise_map.mpr (s.pairwise_rules.imp Nat.ne_of_lt)) n

theorem edit (change : Edit) : (r.edit change).Follows (s.edit change) := by
  cases change with
  | extend text => exact hf.foldl_pushLine (splitLines text)
  | delete n => exact hf.delete n

theorem edits (changes : List Edit) : (r.edits changes).Follows (s.edits changes) := by
  induction changes generalizing r s with
  | nil => exact hf
  | cons change changes ih => exact ih (hf.edit change)

theorem query_eq (props : Props) : r.query props = s.fired props :=
  hf.compiles.query_eq s.pairwise_rules props

end Follows

theorem toList_foldl_pushText (r : Ruleset) (lines : List Text) :
    (lines.foldl pushText r).source.toList = r.source.toList ++ lines.map some := by
  induction lines generalizing r with
  | nil => simp
  | cons line lines ih => simp [ih, pushText]

theorem index_foldl_pushText (r : Ruleset) (lines : List Text) :
    (lines.foldl pushText r).index = r.index ∧ (lines.foldl pushText r).handles = r.handles := by
  induction lines generalizing r with
  | nil => exact ⟨rfl, rfl⟩
  | cons line lines ih => exact ih (r.pushText line)

/-- A ruleset begins as the lines of its header alone, and the other lines are added to these. -/
theorem follows_header (text : Text) :
    ∃ r : Ruleset, r.Follows ⟨(Header.ofLines (splitLines text)).size,
        ((splitLines text).take (Header.ofLines (splitLines text)).size).map some⟩
      ∧ ofText text
        = ((splitLines text).drop (Header.ofLines (splitLines text)).size).foldl pushLine r := by
  obtain ⟨hindex, hhandles⟩ := index_foldl_pushText
    { empty with metadata := (Header.ofLines (splitLines text)).metadata }
    ((splitLines text).take (Header.ofLines (splitLines text)).size)
  refine ⟨_, ⟨?_, ?_, ?_⟩, rfl⟩
  · rw [toList_foldl_pushText]
    rfl
  · rw [List.length_map, List.length_take]
    exact Nat.le_min.mpr ⟨Nat.le_refl _, Header.size_le _⟩
  · rw [hindex, hhandles, Sheet.rules_eq_nil]
    · exact RuleIndex.compiles_empty
    · rw [List.length_map]
      exact List.length_take_le _ _

theorem follows_ofText (text : Text) : (ofText text).Follows (Sheet.ofText text) := by
  obtain ⟨r, hstart, htext⟩ := follows_header text
  have hf := hstart.foldl_pushLine ((splitLines text).drop (Header.ofLines (splitLines text)).size)
  rwa [← List.map_append, List.take_append_drop, ← htext] at hf

/-- A ruleset follows its sheet through all changes. -/
theorem follows_edits (text : Text) (changes : List Edit) :
    ((ofText text).edits changes).Follows ((Sheet.ofText text).edits changes) :=
  (follows_ofText text).edits changes

theorem header_edits (s : Sheet) (changes : List Edit) : (s.edits changes).header = s.header := by
  induction changes generalizing s with
  | nil => rfl
  | cons change changes ih =>
    rw [Sheet.edits, List.foldl_cons, ← Sheet.edits, ih]
    cases change with
    | extend text => rfl
    | delete n => exact apply_ite Sheet.header _ _ _ |>.trans (ite_self _)

/-- The lines of a ruleset are those of its sheet. A question is answered by the rules on the lines that
are left below the header whose conditions hold, in the order of the lines and one from each. -/
theorem query_edits (text : Text) (changes : List Edit) (props : Props) :
    let r := (ofText text).edits changes
    let s := (Sheet.ofText text).edits changes
    r.source.toList = s.lines
      ∧ r.query props = s.fired props
      ∧ (r.query props).Pairwise (·.line < ·.line)
      ∧ ∀ m : RuleMatch, m ∈ r.query props ↔
          ∃ line rule, (Header.ofLines (splitLines text)).size < m.line ∧ r.get? m.line = some line
            ∧ Rule.ofLine line = .ok (some rule) ∧ rule.specifier = m.specifier
            ∧ rule.body.fires props = true := by
  intro r s
  have hf : r.Follows s := follows_edits text changes
  have hquery : r.query props = s.fired props := hf.query_eq props
  refine ⟨hf.source_eq, hquery, ?_, ?_⟩
  · rw [hquery]
    exact s.pairwise_fired props
  · intro m
    have hheader : s.header = (Header.ofLines (splitLines text)).size := header_edits _ changes
    rw [hquery, Sheet.mem_fired_iff, hheader]
    refine exists_congr fun line => exists_congr fun rule => and_congr_right fun hlt => ?_
    rw [hf.get?_eq, if_neg (Nat.ne_zero_of_lt hlt), Option.join_eq_some_iff, Rule.ofLine?_eq_some_iff]

end Ruleset

end ResultFilter
