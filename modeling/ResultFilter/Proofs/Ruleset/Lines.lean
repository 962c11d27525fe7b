import ResultFilter.Proofs.Ruleset.Votes

/-!
# The lines that are left

A ruleset as its user sees it: the lines that are left, with their numbers. Deleting takes one of them away,
adding puts lines after all others, and neither touches another line or its number. A question goes to the
lines below the header, one by one.

## Main definitions

* `numbered` — lines with the numbers after some others.
* `firedOn` — the matches of the rules on some lines that fire.
* `ruleOn?` — the rule on a line.

## Main results

* `Ruleset.lines_delete`, `Ruleset.lines_extend` — the lines after a change.
* `Ruleset.Follows.query_eq_firedOn` — a question is answered by the lines below the header.
* `Ruleset.Reachable.query_extend` — the rules of lines that are added come after all others.
-/

namespace ResultFilter

open ResultFilter.Text

/-- Lines with their numbers, which go on after `n` others. -/
def numbered (n : Nat) (lines : List Text) : List (Nat × Text) :=
  (lines.zipIdx n).map fun (line, i) => (i + 1, line)

/-- The matches of the rules on some lines that fire on a search result. -/
def firedOn (lines : List (Nat × Text)) (props : Props) : List RuleMatch :=
  lines.filterMap fun (n, line) =>
    ((Rule.ofLine? line).filter (·.body.fires props)).map fun rule => ⟨n, rule.specifier⟩

/-- The rule on a line, with its number. -/
def ruleOn? (x : Nat × Text) : Option (LineRule RuleBody) :=
  (Rule.ofLine? x.2).map fun rule => ⟨x.1, rule.specifier, rule.body⟩

@[simp] theorem numbered_nil (n : Nat) : numbered n [] = [] := rfl

theorem numbered_cons (n : Nat) (line : Text) (lines : List Text) :
    numbered n (line :: lines) = (n + 1, line) :: numbered (n + 1) lines := rfl

@[simp] theorem length_numbered (n : Nat) (lines : List Text) : (numbered n lines).length = lines.length := by
  rw [numbered, List.length_map, List.length_zipIdx]

theorem map_snd_numbered (n : Nat) (lines : List Text) : (numbered n lines).map (·.2) = lines := by
  rw [numbered, List.map_map]
  exact List.zipIdx_map_fst n lines

theorem lt_of_mem_numbered {n : Nat} {lines : List Text} {x : Nat × Text} (h : x ∈ numbered n lines) :
    n < x.1 := by
  obtain ⟨y, hy, rfl⟩ := List.mem_map.mp h
  exact Nat.lt_succ_of_le (List.mem_zipIdx hy).1

@[simp] theorem firedOn_nil (props : Props) : firedOn [] props = [] := rfl

theorem firedOn_append (lines others : List (Nat × Text)) (props : Props) :
    firedOn (lines ++ others) props = firedOn lines props ++ firedOn others props :=
  List.filterMap_append

/-- The rules on some lines that fire are found line by line. -/
theorem fired_filterMap_ruleOn? (lines : List (Nat × Text)) (props : Props) :
    LineRule.fired (lines.filterMap ruleOn?) (·.fires props) = firedOn lines props := by
  rw [LineRule.fired_filterMap, firedOn]
  refine List.filterMap_congr fun (n, line) _ => ?_
  dsimp only [ruleOn?]
  cases Rule.ofLine? line with
  | none => rfl
  | some rule => cases h : rule.body.fires props <;> simp [Option.filter, h, LineRule.toMatch]

namespace Sheet

/-- The rules of a sheet are those on the lines that are left below the header. -/
theorem rules_eq (s : Sheet) :
    s.rules = ((s.lines.zipIdx.filterMap fun (line, i) => line.map (i + 1, ·)).filter
      fun x => decide (s.header < x.1)).filterMap ruleOn? := by
  rw [rules, List.filter_filterMap, List.filterMap_filterMap]
  refine List.filterMap_congr fun x _ => ?_
  obtain ⟨line, i⟩ := x
  cases line with
  | none => simp [ruleAt?]
  | some line =>
    by_cases hi : i < s.header
    · simp [ruleAt?, hi, Option.filter, Nat.not_lt.mpr (Nat.succ_le_of_lt hi)]
    · simp [ruleAt?, hi, Option.filter, ruleOn?, Nat.lt_succ_of_le (Nat.le_of_not_lt hi)]

end Sheet

namespace Ruleset

/-! ### The lines after a change -/

theorem get?_eq_join (r : Ruleset) {n : Nat} (hn : n ≠ 0) : r.get? n = (r.source.toList[n - 1]?).join := by
  rw [get?, if_neg hn, Array.getElem?_toList]

theorem delete_fst (r : Ruleset) (n : Nat) : (r.delete n).1 = (r.get? n).isSome := by
  unfold delete
  split
  · next h => rw [h]; rfl
  · next h => rw [h]; rfl

theorem source_delete (r : Ruleset) (n : Nat) :
    (r.delete n).2.source.toList
      = if n = 0 then r.source.toList else r.source.toList.set (n - 1) none := by
  unfold delete
  split
  · next hget =>
    split
    · rfl
    · next hn =>
      rw [get?_eq_join r hn] at hget
      exact (List.set_eq_self_of_join_getElem? hget).symm
  · next hget =>
    rw [if_neg, Array.toList_setIfInBounds]
    rintro rfl
    exact absurd hget (by simp [get?])

theorem metadata_delete (r : Ruleset) (n : Nat) : (r.delete n).2.metadata = r.metadata := by
  unfold delete
  split <;> rfl

theorem metadata_pushLine (r : Ruleset) (line : Text) : (r.pushLine line).metadata = r.metadata := by
  simp only [pushLine]
  split <;> rfl

theorem source_foldl_pushLine (r : Ruleset) (lines : List Text) :
    (lines.foldl pushLine r).source.toList = r.source.toList ++ lines.map some := by
  induction lines generalizing r with
  | nil => simp
  | cons line lines ih => simp [ih, source_pushLine]

theorem metadata_foldl_pushLine (r : Ruleset) (lines : List Text) :
    (lines.foldl pushLine r).metadata = r.metadata := by
  induction lines generalizing r with
  | nil => rfl
  | cons line lines ih => exact (ih (r.pushLine line)).trans (r.metadata_pushLine line)

theorem metadata_foldl_pushText (r : Ruleset) (lines : List Text) :
    (lines.foldl pushText r).metadata = r.metadata := by
  induction lines generalizing r with
  | nil => rfl
  | cons line lines ih => exact ih (r.pushText line)

theorem metadata_ofText (text : Text) :
    (ofText text).metadata = (Header.ofLines (splitLines text)).metadata := by
  rw [ofText, metadata_foldl_pushLine, metadata_foldl_pushText]

theorem source_extend (r : Ruleset) (text : Text) :
    (r.extend text).source.toList = r.source.toList ++ (splitLines text).map some :=
  source_foldl_pushLine r (splitLines text)

theorem metadata_extend (r : Ruleset) (text : Text) : (r.extend text).metadata = r.metadata :=
  metadata_foldl_pushLine r (splitLines text)

/-- What the header says is not changed. -/
theorem metadata_edits (r : Ruleset) (changes : List Edit) : (r.edits changes).metadata = r.metadata := by
  induction changes generalizing r with
  | nil => rfl
  | cons change changes ih =>
    refine (ih (r.edit change)).trans ?_
    cases change with
    | extend text => exact metadata_extend r text
    | delete n => exact metadata_delete r n

theorem lineCount_eq (r : Ruleset) : r.lineCount = r.source.toList.length :=
  Array.length_toList.symm

@[simp] theorem lineCount_delete (r : Ruleset) (n : Nat) : (r.delete n).2.lineCount = r.lineCount := by
  rw [lineCount_eq, source_delete, lineCount_eq]
  split
  · rfl
  · exact List.length_set

theorem lineCount_extend (r : Ruleset) (text : Text) :
    (r.extend text).lineCount = r.lineCount + (splitLines text).length := by
  rw [lineCount_eq, source_extend, List.length_append, List.length_map, lineCount_eq]

theorem mem_lines_iff (r : Ruleset) {n : Nat} {line : Text} :
    (n, line) ∈ r.lines ↔ r.get? n = some line := by
  unfold lines
  rw [List.mem_filterMap]
  constructor
  · rintro ⟨⟨x, i⟩, hx, hline⟩
    have hget := List.mk_mem_zipIdx_iff_getElem?.mp hx
    obtain ⟨text, rfl, heq⟩ := Option.map_eq_some_iff.mp hline
    obtain ⟨rfl, rfl⟩ := Prod.mk.inj heq
    rw [get?_eq_join r (Nat.succ_ne_zero i), Nat.succ_sub_one, hget, Option.join_some]
  · intro hget
    have hn : n ≠ 0 := by
      rintro rfl
      exact absurd hget (by simp [get?])
    rw [get?_eq_join r hn, Option.join_eq_some_iff] at hget
    refine ⟨(some line, n - 1), List.mk_mem_zipIdx_iff_getElem?.mpr hget, ?_⟩
    exact congrArg (fun k => some (k, line)) (Nat.sub_add_cancel (Nat.pos_of_ne_zero hn))

/-- The numbers of the lines ascend. -/
theorem pairwise_lines (r : Ruleset) : r.lines.Pairwise (·.1 < ·.1) := by
  refine List.pairwise_filterMap.mpr ((List.pairwise_zipIdx r.source.toList 0).imp fun hlt a ha b hb => ?_)
  obtain ⟨-, -, rfl⟩ := Option.map_eq_some_iff.mp ha
  obtain ⟨-, -, rfl⟩ := Option.map_eq_some_iff.mp hb
  exact Nat.succ_lt_succ hlt

theorem le_lineCount_of_mem_lines {r : Ruleset} {x : Nat × Text} (h : x ∈ r.lines) :
    0 < x.1 ∧ x.1 ≤ r.lineCount := by
  unfold lines at h
  obtain ⟨⟨line, i⟩, hx, hline⟩ := List.mem_filterMap.mp h
  obtain ⟨text, -, rfl⟩ := Option.map_eq_some_iff.mp hline
  have hlt := (List.mem_zipIdx hx).2.1
  rw [lineCount_eq]
  exact ⟨Nat.succ_pos i, by omega⟩

theorem filterMap_zipIdx_some (n : Nat) (lines : List Text) :
    ((lines.map some).zipIdx n).filterMap (fun x => x.1.map (x.2 + 1, ·)) = numbered n lines := by
  induction lines generalizing n with
  | nil => rfl
  | cons line lines ih =>
    rw [List.map_cons, List.zipIdx_cons, List.filterMap_cons, numbered_cons, ← ih]
    rfl

/-- A line that is deleted is gone, and all others stay. -/
theorem lines_delete (r : Ruleset) (n : Nat) : (r.delete n).2.lines = r.lines.filter (·.1 != n) := by
  unfold lines
  rw [source_delete]
  split
  · next hn =>
    -- lines are numbered from one
    refine (List.filter_eq_self.mpr fun x hx => ?_).symm
    have hpos := (le_lineCount_of_mem_lines (r := r) hx).1
    rw [hn, bne_iff_ne]
    omega
  · next hn =>
    rw [List.zipIdx_set_eq_map, List.filterMap_map, List.filter_filterMap]
    refine List.filterMap_congr fun x _ => ?_
    obtain ⟨line, i⟩ := x
    by_cases hi : i = n - 1
    · have hline : i + 1 = n := by omega
      cases line <;> simp [hi, Option.filter]
      omega
    · have hline : i + 1 ≠ n := by omega
      cases line <;> simp [hi, Option.filter, hline]

/-- Lines that are added come after all others, with the numbers that come next. -/
theorem lines_extend (r : Ruleset) (text : Text) :
    (r.extend text).lines = r.lines ++ numbered r.lineCount (splitLines text) := by
  unfold lines
  rw [source_extend, List.zipIdx_append, List.filterMap_append, Nat.zero_add, ← lineCount_eq]
  exact congrArg _ (filterMap_zipIdx_some _ _)

theorem lines_foldl_delete (r : Ruleset) (ns : List Nat) :
    (ns.foldl (fun r n => (r.delete n).2) r).lines = r.lines.filter fun x => !ns.contains x.1 := by
  induction ns generalizing r with
  | nil => exact (List.filter_eq_self.mpr fun _ _ => rfl).symm
  | cons n ns ih =>
    rw [List.foldl_cons, ih, lines_delete, List.filter_filter]
    refine List.filter_congr fun x _ => ?_
    rw [List.contains_cons, Bool.not_or, bne, Bool.and_comm]

theorem lineCount_foldl_delete (r : Ruleset) (ns : List Nat) :
    (ns.foldl (fun r n => (r.delete n).2) r).lineCount = r.lineCount := by
  induction ns generalizing r with
  | nil => rfl
  | cons n ns ih => rw [List.foldl_cons, ih, lineCount_delete]

theorem metadata_foldl_delete (r : Ruleset) (ns : List Nat) :
    (ns.foldl (fun r n => (r.delete n).2) r).metadata = r.metadata := by
  induction ns generalizing r with
  | nil => rfl
  | cons n ns ih => rw [List.foldl_cons, ih, metadata_delete]

/-! ### Questions -/

theorem Reachable.ofText (text : Text) : (Ruleset.ofText text).Reachable :=
  ⟨text, [], rfl⟩

/-- The rules of a ruleset are those on the lines that are left below the header. -/
theorem Follows.rules_eq {r : Ruleset} {s : Sheet} (hf : r.Follows s) :
    s.rules = (r.lines.filter fun x => decide (s.header < x.1)).filterMap ruleOn? := by
  rw [Sheet.rules_eq, lines, hf.source_eq]

/-- A question is answered by the lines that are left below the header. -/
theorem Follows.query_eq_firedOn {r : Ruleset} {s : Sheet} (hf : r.Follows s) (props : Props) :
    r.query props = firedOn (r.lines.filter fun x => decide (s.header < x.1)) props := by
  rw [hf.query_eq, Sheet.fired, hf.rules_eq, fired_filterMap_ruleOn?]

theorem query_edits_eq_firedOn (text : Text) (changes : List Edit) (props : Props) :
    ((ofText text).edits changes).query props
      = firedOn (((ofText text).edits changes).lines.filter fun x =>
          decide ((Header.ofLines (splitLines text)).size < x.1)) props := by
  rw [(follows_edits text changes).query_eq_firedOn, header_edits]
  rfl

/-- The rules of lines that are added come after all others. -/
theorem Reachable.query_extend {r : Ruleset} (hr : r.Reachable) (text : Text) (props : Props) :
    (r.extend text).query props
      = r.query props ++ firedOn (numbered r.lineCount (splitLines text)) props := by
  obtain ⟨s, hf⟩ := hr.exists_follows
  have hafter : (r.extend text).Follows { s with lines := s.lines ++ (splitLines text).map some } :=
    hf.foldl_pushLine (splitLines text)
  rw [hafter.query_eq_firedOn, hf.query_eq_firedOn, lines_extend, List.filter_append, firedOn_append]
  congr 2
  refine List.filter_eq_self.mpr fun x hx => decide_eq_true ?_
  have hheader := hf.header_le
  rw [← hf.source_eq, ← lineCount_eq] at hheader
  exact Nat.lt_of_le_of_lt hheader (lt_of_mem_numbered hx)

/-- A match comes from a line that is left. -/
theorem Reachable.get?_isSome_of_mem_query {r : Ruleset} (hr : r.Reachable) {props : Props} {m : RuleMatch}
    (hm : m ∈ r.query props) : (r.get? m.line).isSome = true := by
  obtain ⟨s, hf⟩ := hr.exists_follows
  rw [hf.query_eq, Sheet.mem_fired_iff] at hm
  obtain ⟨line, -, hlt, hline, -⟩ := hm
  rw [hf.get?_eq, if_neg (Nat.ne_zero_of_lt hlt), hline]
  rfl

end Ruleset

end ResultFilter
