import ResultFilter.Proofs.RuleIndex.Reload
import ResultFilter.Proofs.Ruleset.Lines

/-!
# Handles that are kept and handles that are found

A ruleset keeps the handle of each pattern under the line of its rule while lines come and go. The same table can
be found by one pass over the index of the patterns, and that is what a ruleset does that was stored. The two are
the same for any ruleset that a text and changes lead to, since both tell the rules on the lines that are left:
these have distinct lines, and each of them is in one of the four stores, once.

## Main definitions

* `RuleBody.isServed`, `Rule.isCompiled` — a rule that has a store, and a line with such a rule.
* `RuleIndex.lines` — the lines of the rules in all four stores.

## Main results

* `RuleIndex.Compiles.handles_perm` — the handles that are kept are those that are found.
* `RuleIndex.Compiles.lines_perm` — the stores have the lines of the rules, each once.
* `Ruleset.coherent_edits` — how handles, stores and lines go together after any changes.
-/

namespace ResultFilter

open ResultFilter.Text

/-- Whether a rule has a store. One with a pattern that no index takes has none, and is skipped when its line is
compiled. -/
def RuleBody.isServed : RuleBody → Bool
  | .pattern p _ => p.isServed
  | _ => true

/-- Whether a line compiles to a rule: it is read as one that has a store. -/
def Rule.isCompiled (line : Text) : Bool :=
  (Rule.ofLine? line).any (·.body.isServed)

namespace LineRule

variable (r : LineRule RuleBody)

theorem map_line_patternPart?_eq_some_iff {n : ℕ} : r.patternPart?.map (·.2.line) = some n ↔
    r.line = n ∧ ∃ p guard, r.condition = .pattern p guard ∧ p.isServed = true := by
  obtain ⟨line, specifier, body⟩ := r
  cases body with
  | pattern p guard => cases hp : p.isServed <;> simp [patternPart?, hp]
  | regex target x => simp [patternPart?]
  | expression e => simp [patternPart?]

/-- A rule comes with its line into one of the stores, if it has one. -/
theorem or_line?_eq :
    ((((r.regexPart? .url).map (·.line)).or ((r.regexPart? .title).map (·.line))).or
        (r.expressionPart?.map (·.line))).or (r.patternPart?.map (·.2.line))
      = if r.condition.isServed then some r.line else none := by
  obtain ⟨line, specifier, body⟩ := r
  cases body with
  | pattern p guard =>
    cases hp : p.isServed <;> simp [patternPart?, regexPart?, expressionPart?, RuleBody.isServed, hp]
  | regex target x => cases target <;> simp [patternPart?, regexPart?, expressionPart?, RuleBody.isServed]
  | expression e => simp [patternPart?, regexPart?, expressionPart?, RuleBody.isServed]

end LineRule

/-! ### The stores -/

namespace RuleIndex

/-- The lines of the rules in the four stores. -/
def lines (index : RuleIndex) : List ℕ :=
  index.url.map (·.line) ++ index.title.map (·.line) ++ index.expressions.map (·.line)
    ++ index.patterns.entries.map (·.2.value.line)

/-- No handle is found for two lines. -/
theorem nodup_snd_patternHandles (index : RuleIndex) : (index.patternHandles.map (·.2)).Nodup := by
  rw [patternHandles, List.map_reverse, List.map_map]
  exact List.nodup_reverse.mpr index.patterns.nodup_entries

namespace Compiles

variable {index : RuleIndex} {handles : List (ℕ × Handle)} {rules : List (LineRule RuleBody)}
  (hc : index.Compiles handles rules)
include hc

/-- The handles that are kept line by line are those that one pass over the index finds. -/
theorem handles_perm : handles.Perm index.patternHandles := by
  -- the filings are in the order of the lines, the entries in that of the table
  obtain ⟨filings, hh, -, rfl⟩ := hc.patterns
  have hentries := hh.entries_perm.map fun x => (x.2.value.line, x.1)
  simp only [List.map_map, Function.comp_def, Filing.entry, Entry.value_under] at hentries
  exact (List.reverse_perm _).trans (hentries.symm.trans (List.reverse_perm _).symm)

/-- The lines of the patterns in the index are those of the rules with a pattern that it takes. -/
theorem lines_patterns_perm : (index.patterns.entries.map (·.2.value.line)).Perm
    (rules.filterMap fun r => r.patternPart?.map (·.2.line)) := by
  obtain ⟨filings, hh, hparts, -⟩ := hc.patterns
  have hentries := hh.entries_perm.map (·.2.value.line)
  simp only [List.map_map, Function.comp_def, Filing.entry, Entry.value_under] at hentries
  rwa [← List.map_filterMap, ← hparts, List.map_map]

/-- The stores have the lines of the rules that have a store. -/
theorem lines_perm : index.lines.Perm ((rules.filter (·.condition.isServed)).map (·.line)) := by
  rw [List.map_filter_eq_filterMap, lines, hc.url, hc.title, hc.expressions, List.map_filterMap,
    List.map_filterMap, List.map_filterMap]
  simp only [← LineRule.or_line?_eq]
  refine (hc.lines_patterns_perm.append_left _).trans ?_
  exact LineRule.filterMap_parts_perm (fun r h => Option.map_eq_none_iff.mpr h)
    (fun r h => Option.map_eq_none_iff.mpr h) (fun r h => Option.map_eq_none_iff.mpr h)
    (fun r h => Option.map_eq_none_iff.mpr h) rules

/-- The rules that have a store are counted. -/
theorem ruleCount_eq : index.ruleCount = (rules.filter (·.condition.isServed)).length := by
  obtain ⟨filings, hh, -⟩ := hc.patterns
  have hlength := hc.lines_perm.length_eq
  rw [List.length_map] at hlength
  rw [← hlength, ruleCount, hh.size_eq_length_entries]
  simp only [lines, List.length_append, List.length_map]
  omega

/-- A line adds a rule just if it compiles to one. -/
theorem ruleCount_addLine (n : ℕ) (line : Text) :
    (index.addLine n line).1.ruleCount = index.ruleCount + if Rule.isCompiled line then 1 else 0 := by
  rw [(hc.addLine n line).ruleCount_eq, hc.ruleCount_eq, List.filter_append, List.length_append, Rule.isCompiled]
  cases Rule.ofLine? line with
  | none => rfl
  | some rule => cases h : rule.body.isServed <;> simp [h]

variable (hlines : rules.Pairwise (·.line < ·.line))
include hlines

/-- No line comes twice in the stores. -/
theorem nodup_lines : index.lines.Nodup := by
  refine hc.lines_perm.nodup_iff.mpr (List.pairwise_map.mpr ?_)
  exact (hlines.filter _).imp fun hlt => Nat.ne_of_lt hlt

theorem nodup_fst_handles : (handles.map (·.1)).Nodup := by
  rw [(hc.handles_perm.map (·.1)).nodup_iff, map_fst_patternHandles, List.nodup_reverse]
  exact (List.nodup_append.mp (hc.nodup_lines hlines)).2.1

theorem lookup_eq_some_iff {n : ℕ} {h : Handle} :
    handles.lookup n = some h ↔ ∃ e, index.patterns.entryAt? h = some e ∧ e.value.line = n := by
  rw [List.lookup_eq_some_iff_mem (hc.nodup_fst_handles hlines), hc.handles_perm.mem_iff, mem_patternHandles]

end Compiles

end RuleIndex

/-! ### The lines -/

namespace Ruleset

namespace Follows

variable {r : Ruleset} {s : Sheet} (hf : r.Follows s)
include hf

theorem ruleCount_eq :
    r.ruleCount = (r.lines.filter fun x => decide (s.header < x.1) && Rule.isCompiled x.2).length := by
  rw [ruleCount, hf.compiles.ruleCount_eq, hf.rules_eq, List.filter_filterMap, List.length_filterMap_eq_countP,
    List.countP_filter, List.countP_eq_length_filter]
  refine congrArg List.length (List.filter_congr fun x _ => ?_)
  rw [Bool.and_comm, ruleOn?, Rule.isCompiled]
  cases Rule.ofLine? x.2 with
  | none => rfl
  | some rule => cases h : rule.body.isServed <;> simp [Option.filter, h]

/-- There is a handle for a line just if it is left below the header and has a pattern that an index takes. -/
theorem mem_fst_handles_iff {n : ℕ} : n ∈ r.handles.map (·.1) ↔ s.header < n
    ∧ ∃ line rule p guard, r.get? n = some line ∧ Rule.ofLine line = .ok (some rule)
      ∧ rule.body = .pattern p guard ∧ p.isServed = true := by
  rw [(hf.compiles.handles_perm.map (·.1)).mem_iff, RuleIndex.map_fst_patternHandles, List.mem_reverse,
    hf.compiles.lines_patterns_perm.mem_iff, List.mem_filterMap, hf.rules_eq]
  simp only [LineRule.map_line_patternPart?_eq_some_iff]
  simp only [List.mem_filterMap, List.mem_filter, Prod.exists, mem_lines_iff, decide_eq_true_eq, ruleOn?,
    Option.map_eq_some_iff, Rule.ofLine?_eq_some_iff]
  constructor
  · rintro ⟨x, ⟨m, line, ⟨hget, hlt⟩, rule, hrule, rfl⟩, rfl, p, guard, hbody, hp⟩
    exact ⟨hlt, line, rule, p, guard, hget, hrule, hbody, hp⟩
  · rintro ⟨hlt, line, rule, p, guard, hget, hrule, hbody, hp⟩
    exact ⟨_, ⟨n, line, ⟨hget, hlt⟩, rule, hrule, rfl⟩, rfl, p, guard, hbody, hp⟩

end Follows

/-- After any changes, the handles that a ruleset keeps are those that one pass over the index of its patterns finds,
one for each line. The lines with a handle are those left below the header with a pattern that an index takes. The
handle of a line is that of the live entry whose payload has the line, so that each live entry is that of one line,
and no two lines have one handle. No line comes twice in the four stores of rules; and as many rules are counted as
lines are left below the header that compile to one, which is to say that compiling them adds one. -/
theorem coherent_edits (text : Text) (changes : List Edit) :
    let r := (ofText text).edits changes
    let header := (Header.ofLines (splitLines text)).size
    (r.handles.Perm r.index.patternHandles ∧ (r.handles.map (·.1)).Nodup
      ∧ ∀ n, r.handles.lookup n = r.index.patternHandles.lookup n)
    ∧ (∀ n, n ∈ r.handles.map (·.1) ↔ header < n ∧ ∃ line rule p guard, r.get? n = some line
        ∧ Rule.ofLine line = .ok (some rule) ∧ rule.body = .pattern p guard ∧ p.isServed = true)
    ∧ (∀ n h, r.handles.lookup n = some h ↔ ∃ e, r.index.patterns.entryAt? h = some e ∧ e.value.line = n)
    ∧ (r.handles.map (·.2)).Nodup
    ∧ (∀ x ∈ r.index.patterns.entries, ∃! n, r.handles.lookup n = some x.1)
    ∧ r.index.lines.Nodup
    ∧ r.ruleCount = (r.lines.filter fun x => decide (header < x.1) && Rule.isCompiled x.2).length
    ∧ ∀ n line, (r.index.addLine n line).1.ruleCount = r.ruleCount + if Rule.isCompiled line then 1 else 0 := by
  intro r header
  obtain ⟨s, hf, hheader⟩ : ∃ s, r.Follows s ∧ s.header = header :=
    ⟨_, follows_edits text changes, header_edits _ changes⟩
  have hc := hf.compiles
  have hlines := s.pairwise_rules
  have hkeys := hc.nodup_fst_handles hlines
  have hfound : ∀ n h, r.handles.lookup n = some h ↔
      ∃ e, r.index.patterns.entryAt? h = some e ∧ e.value.line = n :=
    fun n h => hc.lookup_eq_some_iff hlines
  refine ⟨⟨hc.handles_perm, hkeys, fun n => Option.ext fun h => ?_⟩, fun n => ?_, hfound, ?_, ?_,
    hc.nodup_lines hlines, ?_, hc.ruleCount_addLine⟩
  · have hkeys' := (hc.handles_perm.map (·.1)).nodup_iff.mp hkeys
    rw [List.lookup_eq_some_iff_mem hkeys, List.lookup_eq_some_iff_mem hkeys', hc.handles_perm.mem_iff]
  · rw [hf.mem_fst_handles_iff, hheader]
  · exact (hc.handles_perm.map (·.2)).nodup_iff.mpr (RuleIndex.nodup_snd_patternHandles _)
  · -- a live entry names the line that it is of
    rintro ⟨h, e⟩ he
    rw [Index.mem_entries] at he
    refine ⟨e.value.line, (hfound _ _).mpr ⟨e, he, rfl⟩, fun n hn => ?_⟩
    obtain ⟨e', he', rfl⟩ := (hfound _ _).mp hn
    obtain rfl := Option.some.inj (he.symm.trans he')
    rfl
  · rw [hf.ruleCount_eq, hheader]

end Ruleset

end ResultFilter
