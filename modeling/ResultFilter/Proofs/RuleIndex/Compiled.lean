import ResultFilter.Proofs.Index.Lookup
import ResultFilter.Proofs.RuleIndex.Order

/-!
# What compiled rules stand for

The index of the patterns and the lists of the other rules together stand for one list of rules in the
order of their lines. Adding a rule adds it to that list, removing a line removes its rule, and a question
is answered by the rules of the list that fire.

## Main definitions

* `RuleBody.fires` — whether the conditions of a rule hold of a search result.
* `RuleIndex.Compiles` — the rules that an index stands for, with the handles of its patterns.

## Main results

* `Compiles.addRule`, `Compiles.removeLine` — what the changes of an index do to its rules.
* `Compiles.query_eq` — a question is answered by the rules that fire, in the order of their lines.
-/

namespace List

variable {α β : Type*}

/-- Parts of a list taken out by functions of which at most one finds something, one after the other. -/
theorem filterMap_append_perm {f g : α → Option β} (h : ∀ a, f a = none ∨ g a = none) (l : List α) :
    (l.filterMap f ++ l.filterMap g).Perm (l.filterMap fun a => (f a).or (g a)) := by
  induction l with
  | nil => exact .refl _
  | cons a l ih =>
    simp only [filterMap_cons]
    rcases h a with hf | hg
    · rw [hf, Option.none_or]
      cases g a with
      | none => exact ih
      | some b => exact perm_middle.trans (ih.cons b)
    · rw [hg, Option.or_none]
      cases f a with
      | none => exact ih
      | some b => exact ih.cons b

/-- A filter can go before a function that keeps what the filter looks at. -/
theorem filter_filterMap_eq {f : α → Option β} {p : α → Bool} {q : β → Bool}
    (h : ∀ a b, f a = some b → q b = p a) (l : List α) :
    (l.filterMap f).filter q = (l.filter p).filterMap f := by
  rw [filter_filterMap, filterMap_filter]
  refine filterMap_congr fun a _ => ?_
  cases hf : f a with
  | none => simp
  | some b => simp [Option.filter, h a b hf]

/-- The same for what it keeps. -/
theorem map_filterMap_sublist {γ : Type*} {f : α → Option β} {p : α → γ} {q : β → γ}
    (h : ∀ a b, f a = some b → q b = p a) (l : List α) :
    ((l.filterMap f).map q).Sublist (l.map p) := by
  induction l with
  | nil => exact .slnil
  | cons a l ih =>
    rw [filterMap_cons, map_cons]
    cases hf : f a with
    | none => exact ih.cons _
    | some b =>
      rw [map_cons, h a b hf]
      exact ih.cons_cons _

theorem map_filter_eq_filterMap (p : α → Bool) (f : α → β) (l : List α) :
    (l.filter p).map f = l.filterMap fun a => if p a then some (f a) else none := by
  rw [← filterMap_eq_filter, map_filterMap]
  refine filterMap_congr fun a _ => ?_
  cases h : p a <;> simp [Option.guard, h]

theorem filterMap_concat (f : α → Option β) (l : List α) (a : α) :
    (l ++ [a]).filterMap f = l.filterMap f ++ (f a).toList := by
  rw [filterMap_append, filterMap_cons, filterMap_nil]
  cases f a <;> rfl

end List

namespace ResultFilter

/-- Whether the conditions of a rule hold of a search result: a pattern that an index takes has to cover
the address, and a guard has to hold; a regular expression has to occur in its property; an expression has
to hold. -/
def RuleBody.fires (props : Props) : RuleBody → Bool
  | .pattern p guard =>
    p.isServed && (Url.ofText? props.url).any p.isMatch && guard.all (·.eval props)
  | .regex target r => (props.get? target.prop).any r.isMatch
  | .expression e => e.eval props

/-- The rule on a line, if there is one. -/
def Rule.ofLine? (line : Text) : Option Rule :=
  match Rule.ofLine line with
  | .ok rule => rule
  | .error _ => none

theorem Rule.ofLine?_eq_some_iff {line : Text} {rule : Rule} :
    Rule.ofLine? line = some rule ↔ Rule.ofLine line = .ok (some rule) := by
  unfold Rule.ofLine?
  cases Rule.ofLine line <;> simp

namespace LineRule

/-- The pattern of a rule and what is left to ask, if it has a pattern that an index takes. -/
def patternPart? (r : LineRule RuleBody) : Option (MatchPattern × LineRule (Option Expression)) :=
  match r.condition with
  | .pattern p guard => if p.isServed then some (p, ⟨r.line, r.specifier, guard⟩) else none
  | _ => none

/-- The regular expression of a rule, if it has one for a property. -/
def regexPart? (target : RegexTarget) (r : LineRule RuleBody) : Option (LineRule Regex) :=
  match r.condition with
  | .regex t x => if t = target then some ⟨r.line, r.specifier, x⟩ else none
  | _ => none

/-- The expression of a rule, if it has one. -/
def expressionPart? (r : LineRule RuleBody) : Option (LineRule Expression) :=
  match r.condition with
  | .expression e => some ⟨r.line, r.specifier, e⟩
  | _ => none

theorem line_of_patternPart? {r : LineRule RuleBody} {x : MatchPattern × LineRule (Option Expression)}
    (h : r.patternPart? = some x) : x.2.line = r.line := by
  unfold patternPart? at h
  split at h
  · split at h
    · obtain rfl := Option.some.inj h
      rfl
    · exact absurd h (by simp)
  · exact absurd h (by simp)

theorem line_of_regexPart? {target : RegexTarget} {r : LineRule RuleBody} {x : LineRule Regex}
    (h : r.regexPart? target = some x) : x.line = r.line := by
  unfold regexPart? at h
  split at h
  · split at h
    · obtain rfl := Option.some.inj h
      rfl
    · exact absurd h (by simp)
  · exact absurd h (by simp)

theorem line_of_expressionPart? {r : LineRule RuleBody} {x : LineRule Expression}
    (h : r.expressionPart? = some x) : x.line = r.line := by
  unfold expressionPart? at h
  split at h
  · obtain rfl := Option.some.inj h
    rfl
  · exact absurd h (by simp)

section Match

variable (props : Props) (r : LineRule RuleBody)

/-- The match of a rule with a pattern, if it fires. -/
def patternMatch? : Option RuleMatch :=
  (r.patternPart?.filter fun x =>
    (Url.ofText? props.url).any x.1.isMatch && x.2.condition.all (·.eval props)).map (·.2.toMatch)

/-- The match of a rule with a regular expression for a property, if it fires. -/
def regexMatch? (target : RegexTarget) : Option RuleMatch :=
  ((r.regexPart? target).filter fun x => (props.get? target.prop).any x.condition.isMatch).map toMatch

/-- The match of a rule with an expression, if it fires. -/
def expressionMatch? : Option RuleMatch :=
  (r.expressionPart?.filter fun x => x.condition.eval props).map toMatch

/-- The match of a rule comes from what kind of rule it is. -/
theorem or_match?_eq :
    (((r.regexMatch? props .url).or (r.regexMatch? props .title)).or (r.expressionMatch? props)).or
        (r.patternMatch? props)
      = if r.condition.fires props then some r.toMatch else none := by
  obtain ⟨line, specifier, body⟩ := r
  cases body with
  | pattern p guard =>
    cases hp : p.isServed <;>
      simp [regexMatch?, regexPart?, expressionMatch?, expressionPart?, patternMatch?, patternPart?,
        RuleBody.fires, hp, Option.filter, toMatch, apply_ite]
  | regex target x =>
    cases target with
    | url =>
      cases h : (props.get? RegexTarget.url.prop).any x.isMatch <;>
        simp [regexMatch?, regexPart?, expressionMatch?, expressionPart?, patternMatch?, patternPart?,
          RuleBody.fires, Option.filter, toMatch, h]
    | title =>
      cases h : (props.get? RegexTarget.title.prop).any x.isMatch <;>
        simp [regexMatch?, regexPart?, expressionMatch?, expressionPart?, patternMatch?, patternPart?,
          RuleBody.fires, Option.filter, toMatch, h]
  | expression e =>
    cases h : e.eval props <;>
      simp [regexMatch?, regexPart?, expressionMatch?, expressionPart?, patternMatch?, patternPart?,
        RuleBody.fires, Option.filter, toMatch, h]

end Match

/-- A rule is of one kind. -/
theorem parts_eq_none (r : LineRule RuleBody) :
    (r.regexPart? .title = none ∧ r.expressionPart? = none ∧ r.patternPart? = none)
      ∨ (r.regexPart? .url = none ∧ r.expressionPart? = none ∧ r.patternPart? = none)
      ∨ (r.regexPart? .url = none ∧ r.regexPart? .title = none ∧ r.patternPart? = none)
      ∨ (r.regexPart? .url = none ∧ r.regexPart? .title = none ∧ r.expressionPart? = none) := by
  obtain ⟨line, specifier, body⟩ := r
  cases body with
  | pattern p guard => exact Or.inr (Or.inr (Or.inr ⟨rfl, rfl, rfl⟩))
  | regex target x =>
    cases target with
    | url => exact Or.inl ⟨rfl, rfl, rfl⟩
    | title => exact Or.inr (Or.inl ⟨rfl, rfl, rfl⟩)
  | expression e => exact Or.inr (Or.inr (Or.inl ⟨rfl, rfl, rfl⟩))

/-- What is made of the parts of rules, kind by kind, is what is made of the rules one by one. -/
theorem filterMap_parts_perm {β : Type} {url title expression pattern : LineRule RuleBody → Option β}
    (hurl : ∀ r, r.regexPart? .url = none → url r = none)
    (htitle : ∀ r, r.regexPart? .title = none → title r = none)
    (hexpression : ∀ r, r.expressionPart? = none → expression r = none)
    (hpattern : ∀ r, r.patternPart? = none → pattern r = none) (rules : List (LineRule RuleBody)) :
    (rules.filterMap url ++ rules.filterMap title ++ rules.filterMap expression ++ rules.filterMap pattern).Perm
      (rules.filterMap fun r => (((url r).or (title r)).or (expression r)).or (pattern r)) := by
  have hone : ∀ r, (url r = none ∨ title r = none) ∧ ((url r).or (title r) = none ∨ expression r = none)
      ∧ (((url r).or (title r)).or (expression r) = none ∨ pattern r = none) := by
    intro r
    rcases r.parts_eq_none with ⟨ht, he, hp⟩ | ⟨hu, he, hp⟩ | ⟨hu, ht, hp⟩ | ⟨hu, ht, he⟩
    · simp [htitle r ht, hexpression r he, hpattern r hp]
    · simp [hurl r hu, hexpression r he, hpattern r hp]
    · simp [hurl r hu, htitle r ht, hpattern r hp]
    · simp [hurl r hu, htitle r ht, hexpression r he]
  refine (((List.filterMap_append_perm (fun r => (hone r).1) rules).append_right _).append_right _).trans ?_
  refine ((List.filterMap_append_perm (fun r => (hone r).2.1) rules).append_right _).trans ?_
  exact List.filterMap_append_perm (fun r => (hone r).2.2) rules

theorem fired_eq_filterMap (rules : List (LineRule RuleBody)) (props : Props) :
    fired rules (·.fires props)
      = rules.filterMap fun r => if r.condition.fires props then some r.toMatch else none :=
  List.map_filter_eq_filterMap _ _ rules

theorem fired_filterMap {α β : Type} (part? : α → Option (LineRule β)) (holds : β → Bool)
    (rules : List α) :
    fired (rules.filterMap part?) holds
      = rules.filterMap fun r => ((part? r).filter fun x => holds x.condition).map toMatch := by
  rw [fired, List.filter_filterMap, List.map_filterMap]

end LineRule

namespace RuleIndex

/-- The rules that an index stands for: the index of the patterns holds those with a pattern that it takes,
the lists have the others, and the handles of the patterns are known by line, the latest first. -/
structure Compiles (index : RuleIndex) (handles : List (Nat × Handle))
    (rules : List (LineRule RuleBody)) : Prop where
  /-- The rules with a pattern. -/
  patterns : ∃ filings, index.patterns.Holds filings
    ∧ filings.map (fun f => (f.pattern, f.value)) = rules.filterMap LineRule.patternPart?
    ∧ handles = (filings.map fun f => (f.value.line, f.handle)).reverse
  /-- The regular expressions for the address. -/
  url : index.url = rules.filterMap (LineRule.regexPart? .url)
  /-- The regular expressions for the title. -/
  title : index.title = rules.filterMap (LineRule.regexPart? .title)
  /-- The expressions. -/
  expressions : index.expressions = rules.filterMap LineRule.expressionPart?

theorem compiles_empty : empty.Compiles [] [] :=
  ⟨⟨[], Index.holds_empty, rfl, rfl⟩, rfl, rfl, rfl⟩

/-! ### Questions -/

theorem firedRegexes_eq (target : RegexTarget) (rules : List (LineRule Regex)) (props : Props) :
    firedRegexes target rules props
      = LineRule.fired rules fun x => (props.get? target.prop).any x.isMatch := by
  unfold firedRegexes
  cases props.get? target.prop with
  | none => simp [LineRule.fired]
  | some value => rfl

theorem firedPatterns_eq (index : RuleIndex) (props : Props) :
    index.firedPatterns props
      = LineRule.fired (index.patterns.lookupText props.url) (·.all (·.eval props)) := by
  unfold firedPatterns
  congr 1
  funext guard
  cases guard <;> rfl

namespace Compiles

variable {index : RuleIndex} {handles : List (Nat × Handle)} {rules : List (LineRule RuleBody)}
  (hc : index.Compiles handles rules)
include hc

theorem firedPatterns_perm (props : Props) :
    (index.firedPatterns props).Perm (rules.filterMap (LineRule.patternMatch? props)) := by
  obtain ⟨filings, hh, hparts, -⟩ := hc.patterns
  have hlookup : (index.patterns.lookupText props.url).Perm
      ((filings.filter fun f => (Url.ofText? props.url).any f.pattern.isMatch).map (·.value)) := by
    unfold Index.lookupText
    cases Url.ofText? props.url with
    | none => simp
    | some u => exact hh.lookup_perm u
  have hrules : rules.filterMap (LineRule.patternMatch? props)
      = LineRule.fired ((filings.filter fun f =>
          (Url.ofText? props.url).any f.pattern.isMatch).map (·.value)) (·.all (·.eval props)) := by
    unfold LineRule.patternMatch? LineRule.fired
    rw [← List.map_filterMap, ← List.filter_filterMap, ← hparts, List.filter_map, List.filter_map,
      List.filter_filter, List.map_map, List.map_map]
    simp only [Function.comp_def, Bool.and_comm]
  rw [hrules, firedPatterns_eq]
  exact (hlookup.filter _).map _

/-- The rules found to fire, in whatever order, are those of the list that fire. -/
theorem fired_perm (props : Props) :
    (index.firedOthers props ++ index.firedPatterns props).Perm
      (LineRule.fired rules (·.fires props)) := by
  have hothers : index.firedOthers props
      = rules.filterMap (LineRule.regexMatch? props · .url)
        ++ rules.filterMap (LineRule.regexMatch? props · .title)
        ++ rules.filterMap (LineRule.expressionMatch? props) := by
    rw [firedOthers, hc.url, hc.title, hc.expressions, firedRegexes_eq, firedRegexes_eq,
      LineRule.fired_filterMap, LineRule.fired_filterMap, LineRule.fired_filterMap]
    rfl
  rw [hothers, LineRule.fired_eq_filterMap]
  simp only [← LineRule.or_match?_eq]
  refine ((hc.firedPatterns_perm props).append_left _).trans ?_
  refine LineRule.filterMap_parts_perm (fun r h => ?_) (fun r h => ?_) (fun r h => ?_) (fun r h => ?_) rules
  · rw [LineRule.regexMatch?, h]
    rfl
  · rw [LineRule.regexMatch?, h]
    rfl
  · rw [LineRule.expressionMatch?, h]
    rfl
  · rw [LineRule.patternMatch?, h]
    rfl

/-- A question is answered by the rules that fire, in the order of their lines. -/
theorem query_eq (hlines : rules.Pairwise (·.line < ·.line)) (props : Props) :
    index.query props = LineRule.fired rules (·.fires props) := by
  have hsorted : (LineRule.fired rules (·.fires props)).Pairwise (·.line < ·.line) :=
    List.pairwise_map.mpr (hlines.filter _)
  have hperm := hc.fired_perm props
  have hnodup : ((LineRule.fired rules (·.fires props)).map (·.line)).Nodup :=
    List.pairwise_map.mpr (hsorted.imp Nat.ne_of_lt)
  obtain ⟨hq, hqsorted⟩ := query_perm ((hperm.map _).nodup_iff.mpr hnodup)
  exact RuleMatch.eq_of_perm hqsorted hsorted (hq.trans hperm)

/-! ### Changes -/

/-- A rule added goes to the end of the rules. -/
theorem addRule (n : Nat) (rule : Rule) :
    (index.addRule n rule).1.Compiles (((index.addRule n rule).2.map (n, ·)).toList ++ handles)
      (rules ++ [⟨n, rule.specifier, rule.body⟩]) := by
  obtain ⟨⟨filings, hh, hparts, hhandles⟩, hurl, htitle, hexpressions⟩ := hc
  unfold RuleIndex.addRule
  cases hbody : rule.body with
  | pattern p guard =>
    cases hp : p.isServed with
    | false =>
      -- nothing is filed, and the rule never fires
      obtain ⟨e, he⟩ := Index.insertPattern_of_not_isServed index.patterns hp
        (⟨n, rule.specifier, guard⟩ : LineRule (Option Expression))
      simp only [he]
      refine ⟨⟨filings, hh, ?_, hhandles⟩, ?_, ?_, ?_⟩ <;> rw [List.filterMap_concat]
      · simpa [LineRule.patternPart?, hp]
      all_goals simpa [LineRule.regexPart?, LineRule.expressionPart?]
    | true =>
      obtain ⟨patterns, h, hins⟩ := index.patterns.exists_insertPattern hp
        (⟨n, rule.specifier, guard⟩ : LineRule (Option Expression))
      simp only [hins]
      refine ⟨⟨_, (hh.insertPattern hins).1, ?_, by simpa⟩, ?_, ?_, ?_⟩ <;> rw [List.filterMap_concat]
      · simpa [LineRule.patternPart?, hp]
      all_goals simpa [LineRule.regexPart?, LineRule.expressionPart?]
  | regex target r =>
    cases target with
    | url =>
      refine ⟨⟨filings, hh, ?_, hhandles⟩, ?_, ?_, ?_⟩ <;> rw [List.filterMap_concat] <;>
        simpa [LineRule.patternPart?, LineRule.regexPart?, LineRule.expressionPart?]
    | title =>
      refine ⟨⟨filings, hh, ?_, hhandles⟩, ?_, ?_, ?_⟩ <;> rw [List.filterMap_concat] <;>
        simpa [LineRule.patternPart?, LineRule.regexPart?, LineRule.expressionPart?]
  | expression e =>
    refine ⟨⟨filings, hh, ?_, hhandles⟩, ?_, ?_, ?_⟩ <;> rw [List.filterMap_concat] <;>
      simpa [LineRule.patternPart?, LineRule.regexPart?, LineRule.expressionPart?]

/-- The rule on a line that is added, if there is one, goes to the end of the rules. -/
theorem addLine (n : Nat) (line : Text) :
    (index.addLine n line).1.Compiles (((index.addLine n line).2.map (n, ·)).toList ++ handles)
      (rules ++ ((Rule.ofLine? line).map fun rule =>
        (⟨n, rule.specifier, rule.body⟩ : LineRule RuleBody)).toList) := by
  have hskip : index.Compiles (((none : Option Handle).map (n, ·)).toList ++ handles)
      (rules ++ ((none : Option Rule).map fun rule =>
        (⟨n, rule.specifier, rule.body⟩ : LineRule RuleBody)).toList) := by
    rwa [Option.map_none, Option.map_none, Option.toList_none, Option.toList_none, List.nil_append,
      List.append_nil]
  unfold RuleIndex.addLine Rule.ofLine?
  cases Rule.ofLine line with
  | error e => exact hskip
  | ok rule =>
    cases rule with
    | none => exact hskip
    | some rule => exact hc.addRule n rule

/-- The handles know the pattern of a line, if it has one. -/
theorem removeLine (hlines : (rules.map (·.line)).Nodup) (n : Nat) :
    (index.removeLine n (handles.lookup n)).Compiles (handles.filter (·.1 != n))
      (rules.filter (·.line != n)) := by
  obtain ⟨⟨filings, hh, hparts, hhandles⟩, hurl, htitle, hexpressions⟩ := hc
  have hfilings : (filings.map (·.value.line)).Nodup := by
    have hmap : filings.map (·.value.line) = (rules.filterMap LineRule.patternPart?).map (·.2.line) := by
      rw [← hparts, List.map_map]
      rfl
    rw [hmap]
    exact hlines.sublist (List.map_filterMap_sublist (fun _ _ => LineRule.line_of_patternPart?) rules)
  have hhandle {h : Handle} : (n, h) ∈ handles ↔ ∃ f ∈ filings, f.value.line = n ∧ f.handle = h := by
    simp [hhandles]
  have hremoved : (index.removeLine n (handles.lookup n)).patterns.Holds
      (filings.filter (·.value.line != n)) := by
    unfold RuleIndex.removeLine
    cases hlookup : handles.lookup n with
    | none =>
      have hkeep : filings.filter (·.value.line != n) = filings := by
        refine List.filter_eq_self.mpr fun f hf => ?_
        by_contra hline
        have hmem := hhandle.mpr ⟨f, hf, by simpa using hline, rfl⟩
        exact absurd (List.lookup_eq_none_iff.mp hlookup _ hmem) (by simp)
      rwa [hkeep]
    | some h =>
      obtain ⟨l₁, l₂, hsplit, -⟩ := List.lookup_eq_some_iff.mp hlookup
      obtain ⟨f, hf, hline, rfl⟩ := hhandle.mp (hsplit ▸ List.mem_append_right _ List.mem_cons_self)
      have hsame : filings.filter (·.value.line != n) = filings.filter (·.handle ≠ f.handle) := by
        refine List.filter_congr fun g hg => ?_
        -- a filing is known by its line as well as by its handle
        have hiff : g.value.line = n ↔ g.handle = f.handle := by
          rw [← hline]
          exact ⟨fun h => congrArg _ (List.inj_on_of_nodup_map hfilings hg hf h),
            fun h => congrArg (·.value.line) (List.inj_on_of_nodup_map hh.nodup hg hf h)⟩
        rw [bne, beq_eq_decide, ← decide_not, decide_eq_decide, hiff]
      exact hsame ▸ hh.remove f.handle
  refine ⟨⟨_, hremoved, ?_, ?_⟩, ?_, ?_, ?_⟩
  · rw [← List.filter_filterMap_eq fun r x hx => congrArg (· != n) (LineRule.line_of_patternPart? hx),
      ← hparts, List.filter_map]
    rfl
  · rw [hhandles, List.filter_reverse, List.filter_map]
    rfl
  · rw [← List.filter_filterMap_eq fun r x hx => congrArg (· != n) (LineRule.line_of_regexPart? hx),
      ← hurl]
    rfl
  · rw [← List.filter_filterMap_eq fun r x hx => congrArg (· != n) (LineRule.line_of_regexPart? hx),
      ← htitle]
    rfl
  · rw [← List.filter_filterMap_eq fun r x hx => congrArg (· != n) (LineRule.line_of_expressionPart? hx),
      ← hexpressions]
    rfl

end Compiles

end RuleIndex

end ResultFilter
