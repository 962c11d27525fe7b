import ResultFilter.Engine
import ResultFilter.Proofs.Ruleset.Votes

/-!
# Decisions from votes

A decision depends only on the specifiers of the rules that fire. Blocking is the weakest vote, so a result
is blocked exactly if all who vote agree on it; if the user's rules do not vote the rulesets followed
decide.

## Main definitions

* `outcome` — the decision of votes, or that of others if there are none.
* `Engine.carryOut` — an engine after lines were deleted and added.

## Main results

* `outcome_eq_block_iff` — when a result is blocked.
* `Engine.decide_eq`, `Engine.decisionAfter_eq`, `Engine.decide_carryOut` — the decisions of an engine,
  before and after a patch.
-/

namespace ResultFilter

open ResultFilter.Text

namespace Decision

theorem max_eq_block_iff {a b : Decision} : max a b = .block ↔ a = .block ∧ b = .block := by
  unfold max
  split
  · next h => cases a <;> cases b <;> simp_all [rank]
  · next h => cases a <;> cases b <;> simp_all [rank]

theorem ofSpecifier_eq_block_iff {v : Option Specifier} : ofSpecifier v = .block ↔ v = none := by
  cases v with
  | none => simp [ofSpecifier]
  | some s => cases s <;> simp [ofSpecifier]

/-- Votes block exactly if there are some and none has a specifier. -/
theorem aggregate_eq_block_iff (vs : List (Option Specifier)) :
    aggregate vs = some .block ↔ vs ≠ [] ∧ ∀ v ∈ vs, v = none := by
  induction vs with
  | nil => simp
  | cons v rest ih =>
    rw [aggregate]
    cases hrest : aggregate rest with
    | none =>
      obtain rfl := (aggregate_eq_none_iff rest).mp hrest
      simp [ofSpecifier_eq_block_iff]
    | some d =>
      rw [hrest, Option.some_inj] at ih
      have hne : rest ≠ [] := by
        rintro rfl
        exact absurd hrest (by simp)
      simp [max_eq_block_iff, ofSpecifier_eq_block_iff, ih, hne]

end Decision

/-- The decision of votes, or another one if nobody votes. -/
def outcome (vs : List (Option Specifier)) (other : Option Decision) : Option Decision :=
  (Decision.aggregate vs).or other

theorem outcome_nil (other : Option Decision) : outcome [] other = other := rfl

theorem outcome_eq_block_iff {vs : List (Option Specifier)} (hvs : vs ≠ []) (other : Option Decision) :
    outcome vs other = some .block ↔ ∀ v ∈ vs, v = none := by
  have hsome : Decision.aggregate vs ≠ none := mt (Decision.aggregate_eq_none_iff vs).mp hvs
  have hblock := Decision.aggregate_eq_block_iff vs
  unfold outcome
  cases h : Decision.aggregate vs with
  | none => exact absurd h hsome
  | some d => rw [Option.some_or, ← h, hblock, and_iff_right hvs]

theorem decisionOf_or_eq (fired : List RuleMatch) (other : Option Decision) :
    (match decisionOf fired with
      | some d => some d
      | none => other) = outcome (fired.map (·.specifier)) other := by
  unfold decisionOf outcome
  cases Decision.aggregate (fired.map (·.specifier)) <;> rfl

namespace Engine

/-- An engine after lines of the user's ruleset were deleted and those of a text added. -/
def carryOut (e : Engine) (ns : List Nat) (rules : Text) : Engine :=
  { e with
    user := (ns.foldl (fun user n => (user.delete n).2) e.user).extend rules
    pending := none }

theorem applyPatch_eq {e : Engine} {p : PendingPatch} (hp : e.pending = some p) :
    e.applyPatch = some (e.carryOut p.linesToRemove p.patch.rulesToAdd) := by
  rw [applyPatch, hp]
  rfl

/-- The votes of the user's rules, but for those on some lines. -/
def keptVotes (e : Engine) (ns : List Nat) (props : Props) : List (Option Specifier) :=
  ((e.user.query props).filter fun m => !ns.contains m.line).map (·.specifier)

theorem decide_eq (e : Engine) (props : Props) :
    e.decide props = outcome ((e.user.query props).map (·.specifier)) (e.subscribedDecision props) :=
  decisionOf_or_eq _ _

/-- The decision that is foreseen leaves the header of the lines out. -/
theorem decisionAfter_eq (e : Engine) (p : PendingPatch) (rules : Text) :
    e.decisionAfter p rules
      = outcome (e.keptVotes p.linesToRemove p.patch.props
          ++ votes ((splitLines rules).drop (Header.ofLines (splitLines rules)).size) p.patch.props)
        (e.subscribedDecision p.patch.props) := by
  rw [← Ruleset.votes_ofText, keptVotes, ← List.map_append]
  exact decisionOf_or_eq _ _

/-- The decision after lines were deleted and added: those added vote, one and all. -/
theorem decide_carryOut {e : Engine} (huser : e.user.Reachable) (ns : List Nat) (rules : Text)
    (props : Props) :
    (e.carryOut ns rules).decide props
      = outcome (e.keptVotes ns props ++ votes (splitLines rules) props) (e.subscribedDecision props) := by
  obtain ⟨hreach, hquery⟩ := huser.query_foldl_delete ns props
  rw [decide_eq, keptVotes, ← hquery, ← hreach.votes_extend]
  rfl

end Engine

end ResultFilter
