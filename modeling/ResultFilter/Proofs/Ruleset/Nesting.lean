import ResultFilter.Proofs.Index.Nesting
import ResultFilter.Proofs.Ruleset.Reload

/-!
# Rulesets that can be read again

What is stored is nested as deep as the hosts and the conditions of the rules make it, and nothing bounds
these; what is read may be nested less deep than a limit. A ruleset can be read again just if there is room
for all of it. The labels of a host count even when its rules have been deleted.

## Main definitions

* `Expression.nesting` — how deep a condition is nested when it is stored.
* `Ruleset.HasRoom` — the hosts and the conditions of a ruleset leave room below a limit.

## Main results

* `Ruleset.depth_toJson_lt_iff` — how deep a stored ruleset is nested.
* `Ruleset.isSome_load_store_iff` — when it can be read.
-/

namespace ResultFilter

namespace Expression

/-- How deep the objects and arrays of a stored condition are nested. -/
def nesting : Expression → Nat
  | .not e => e.nesting + 1
  | .and a b => max a.nesting b.nesting + 2
  | .or a b => max a.nesting b.nesting + 2
  | .compare _ _ _ _ => 2
  | .search _ _ => 3

end Expression

theorem Json.depthFields_optionalField (name : String) (v : Option Json) :
    depthFields (optionalField name v) = v.elim 0 depth := by
  cases v with
  | none => rfl
  | some v => exact Nat.max_zero _

theorem Expression.depth_toJson (e : Expression) : e.toJson.depth = e.nesting := by
  induction e with
  | not e ih => simp [toJson, nesting, Json.field, Json.depth, Json.depthFields, ih]
  | and a b iha ihb =>
    simp [toJson, nesting, Json.field, Json.depth, Json.depthFields, Json.depthItems, iha, ihb]
  | or a b iha ihb =>
    simp [toJson, nesting, Json.field, Json.depth, Json.depthFields, Json.depthItems, iha, ihb]
  | compare prop op value ignoreCase =>
    cases ignoreCase <;> rfl
  | search prop r =>
    simp [toJson, nesting, Json.field, Json.depth, Json.depthFields, Regex.depth_toJson]

namespace LineRule

variable {α : Type}

/-- A rule is nested one level deeper than what it asks. -/
theorem depth_toJson (r : LineRule α) (condition : List (Text × Json)) :
    (r.toJson condition).depth = Json.depthFields condition + 1 := by
  have hspecifier : Json.depthFields (Json.optionalField "specifier" (r.specifier.map Specifier.toJson)) = 0 := by
    rw [Json.depthFields_optionalField]
    cases r.specifier <;> rfl
  rw [toJson, Json.depth, List.cons_append, Json.field, Json.depthFields, Json.depthFields_append, hspecifier]
  simp [Json.ofNat, Json.depth]

theorem depth_guardJson (r : LineRule (Option Expression)) :
    r.guardJson.depth = r.condition.elim 0 Expression.nesting + 1 := by
  rw [guardJson, depth_toJson, Json.depthFields_optionalField]
  cases r.condition with
  | none => rfl
  | some e => rw [Option.map_some, Option.elim_some, Option.elim_some, e.depth_toJson]

theorem depth_regexJson (r : LineRule Regex) : r.regexJson.depth = 2 := by
  rw [regexJson, depth_toJson, Json.field, Json.depthFields, Regex.depth_toJson]
  rfl

theorem depth_expressionJson (r : LineRule Expression) : r.expressionJson.depth = r.condition.nesting + 1 := by
  rw [expressionJson, depth_toJson, Json.field, Json.depthFields, Expression.depth_toJson]
  exact congrArg (· + 1) (Nat.max_zero _)

end LineRule

/-- Regular expressions are never nested deep. -/
theorem RuleIndex.depth_toJson_lt_iff {index : RuleIndex} {limit : Nat} (hlimit : 4 < limit) :
    index.toJson.depth < limit ↔ (index.patterns.toJson LineRule.guardJson).depth + 1 < limit
      ∧ ∀ x ∈ index.expressions, x.condition.nesting + 3 < limit := by
  have hregexes : ∀ rules : List (LineRule Regex), (Json.array (rules.map LineRule.regexJson)).depth + 1 < limit := by
    intro rules
    rw [← Nat.lt_sub_iff_add_lt, Json.depth_array_lt_iff (by omega), List.forall_mem_map]
    intro r _
    rw [r.depth_regexJson]
    omega
  have hexpressions : (Json.array (index.expressions.map LineRule.expressionJson)).depth + 1 < limit
      ↔ ∀ x ∈ index.expressions, x.condition.nesting + 3 < limit := by
    rw [← Nat.lt_sub_iff_add_lt, Json.depth_array_lt_iff (by omega), List.forall_mem_map]
    refine forall₂_congr fun r _ => ?_
    rw [r.depth_expressionJson]
    omega
  have hurl := hregexes index.url
  have htitle := hregexes index.title
  have hdepth : index.toJson.depth
      = Json.depthFields [Json.field "patterns" (index.patterns.toJson LineRule.guardJson),
          Json.field "url" (.array (index.url.map LineRule.regexJson)),
          Json.field "title" (.array (index.title.map LineRule.regexJson)),
          Json.field "expressions" (.array (index.expressions.map LineRule.expressionJson))] + 1 := rfl
  rw [← hexpressions, hdepth]
  simp only [Json.field, Json.depthFields]
  omega

namespace Ruleset

/-- The labels of the hosts, the guards and conditions of the rules, and the metadata leave room below a
limit of nesting. The shelves that are empty count, but not that of the root's host alone. -/
structure HasRoom (r : Ruleset) (limit : Nat) : Prop where
  /-- For the rules for every address. -/
  allUrls : ∀ e ∈ r.index.patterns.allUrls.live, e.value.condition.elim 0 Expression.nesting + 5 < limit
  /-- For the labels of a host and the rules for it. -/
  host : ∀ isWildcard labels l, Shelf.host isWildcard labels ≠ .host false [] →
    r.index.patterns.shelf? (.host isWildcard labels) = some l →
    2 * labels.length + 4 < limit
      ∧ ∀ e ∈ l, 2 * labels.length + e.value.condition.elim 0 Expression.nesting + 6 < limit
  /-- For the conditions. -/
  expressions : ∀ x ∈ r.index.expressions, x.condition.nesting + 4 < limit
  /-- For what the header says. -/
  metadata : (Json.object r.metadata).depth + 1 < limit

theorem depth_toJson_lt_iff {r : Ruleset} (ht : r.IsTracked) {limit : Nat} (hlimit : 5 < limit) :
    r.toJson.depth < limit ↔ r.HasRoom limit := by
  have hsource : (Json.array (r.source.toList.map fun line => .nullable (line.map .string))).depth + 1 < limit := by
    rw [← Nat.lt_sub_iff_add_lt, Json.depth_array_lt_iff (by omega), List.forall_mem_map]
    intro line _
    cases line <;> exact Nat.lt_of_lt_of_le (show 1 < 4 by decide) (by omega)
  have hparts : r.toJson.depth < limit
      ↔ (Json.object r.metadata).depth + 1 < limit ∧ r.index.toJson.depth < limit - 1 := by
    rw [toJson, Json.depth]
    simp only [Json.field, Json.depthFields]
    omega
  have hpatterns : (r.index.patterns.toJson LineRule.guardJson).depth + 1 < limit - 1
      ↔ (r.index.patterns.toJson LineRule.guardJson).depth < limit - 2 := by omega
  rw [hparts, RuleIndex.depth_toJson_lt_iff (by omega), hpatterns, Index.depth_toJson_lt_iff ht.regular]
  simp only [LineRule.depth_guardJson]
  constructor
  · rintro ⟨hmetadata, ⟨hall, hhost⟩, hexpressions⟩
    refine ⟨fun e he => ?_, fun isWildcard labels l hne hl => ?_, fun x hx => ?_, hmetadata⟩
    · have := hall e he
      omega
    · obtain ⟨hlabels, hentries⟩ := hhost isWildcard labels l hne hl
      refine ⟨by omega, fun e he => ?_⟩
      have := hentries e he
      omega
    · have := hexpressions x hx
      omega
  · rintro ⟨hall, hhost, hexpressions, hmetadata⟩
    refine ⟨hmetadata, ⟨fun e he => ?_, fun isWildcard labels l hne hl => ?_⟩, fun x hx => ?_⟩
    · have := hall e he
      omega
    · obtain ⟨hlabels, hentries⟩ := hhost isWildcard labels l hne hl
      refine ⟨by omega, fun e he => ?_⟩
      have := hentries e he
      omega
    · have := hexpressions x hx
      omega

/-- A ruleset that was stored can be read just if there is room for it and its metadata can be read by
themselves. -/
theorem isSome_load_store_iff {r : Ruleset} (hr : r.Attained) (hcount : r.lineCount < 2 ^ 32) :
    (load? r.store).isSome = true
      ↔ r.HasRoom JsonTree.depthLimit
        ∧ (Json.ofText? (Json.object r.metadata).render).isSome = true := by
  have ht := hr.isTracked
  rw [load?_store_eq ht hcount, Json.ofText?_render, Json.again?]
  have hroom := depth_toJson_lt_iff ht (show 5 < JsonTree.depthLimit by decide)
  by_cases hdepth : r.toJson.depth < JsonTree.depthLimit
  · have hr := hroom.mp hdepth
    rw [if_pos hdepth, if_pos (Nat.lt_of_succ_lt hr.metadata), Option.isSome_map, Option.isSome_map]
    exact (and_iff_right hr).symm
  · rw [if_neg hdepth]
    constructor
    · intro h
      exact absurd h (by simp)
    · rintro ⟨hr, -⟩
      exact absurd (hroom.mpr hr) hdepth

/-- A rule with some negations can be read, and so can its line after more rules were added. -/
theorem isSome_load_store_iff_example :
    let r := (ofText "!!(title=\"a\" & url=\"b\")".toList).edits [.extend "*://*.b.org/*".toList]
    r.HasRoom JsonTree.depthLimit := by
  intro r
  have hr : r.Attained := (Attained.ofText _).edits _
  exact ((isSome_load_store_iff hr (by decide +kernel)).mp (by decide +kernel)).1

/-- A rule for a host of sixty-one labels is stored and cannot be read, and neither can a condition with
a hundred and twenty-two negations. -/
theorem load_store_counterexample :
    let deepHost := "*://".toList ++ (List.replicate 60 "a.".toList).flatten ++ "a/*".toList
    let deepCondition := List.replicate 122 '!' ++ "title=\"a\"".toList
    (ofText deepHost).ruleCount = 1 ∧ load? (ofText deepHost).store = none
      ∧ (ofText deepCondition).ruleCount = 1 ∧ load? (ofText deepCondition).store = none := by
  intro deepHost deepCondition
  refine ⟨by decide +kernel, ?_, by decide +kernel, ?_⟩
  · rw [load?_store_eq (isTracked_ofText _) (by decide +kernel)]
    exact if_neg (by decide +kernel)
  · rw [load?_store_eq (isTracked_ofText _) (by decide +kernel)]
    exact if_neg (by decide +kernel)

end Ruleset

end ResultFilter
