import ResultFilter.Proofs.Engine.Patch

/-!
# What patches add

A patch deletes the lines of the user that stand against it, no others, and adds a rule only if deleting them
is not enough. Whether it is enough is told beforehand, from the rules that fire and from the decision of the
others: it is if a rule of the user is left to vote, or else if the others decide as the patch is to.

## Main definitions

* `Engine.deleteLines` — an engine after lines were deleted and none added.

## Main results

* `Engine.planPatch_against` — the lines that stand against a patch.
* `Engine.planPatch_needsRule_iff` — when deleting them is not enough.
* `Engine.createPatch_minimal` — what a patch deletes, and when it adds nothing.
-/

namespace ResultFilter

open ResultFilter.Text

/-- Whether a rule is suggested does not depend on what it is to do. -/
theorem exists_suggestedRule {suffixes : Option SuffixList} {url line : Text} {unblock widen : Bool}
    (h : suggestedRule suffixes url unblock widen = some line) (unblock' widen' : Bool) :
    ∃ line', suggestedRule suffixes url unblock' widen' = some line' := by
  unfold suggestedRule at h ⊢
  split
  · next hu =>
    rw [hu] at h
    exact absurd h (by simp)
  · next u hu =>
    rw [hu] at h
    split
    · next hempty =>
      dsimp only at h
      rw [if_pos hempty] at h
      exact absurd h (by simp)
    · exact ⟨_, rfl⟩

namespace Engine

variable {e : Engine} {props : Props}

/-- An engine after lines of the user's ruleset were deleted. -/
def deleteLines (e : Engine) (ns : List Nat) : Engine :=
  { e with user := e.user.deletes ns }

/-- The lines that are left decide, or the others if none of them votes. -/
theorem decide_deleteLines (huser : e.user.Reachable) (ns : List Nat) (props : Props) :
    (e.deleteLines ns).decide props = outcome (e.keptVotes ns props) (e.subscribedDecision props) := by
  obtain ⟨-, hquery⟩ := huser.query_foldl_delete ns props
  rw [decide_eq, keptVotes, ← hquery]
  rfl

/-- Against a patch for blocking stand the rules with a specifier, against one for leaving alone those
without. -/
theorem planPatch_against (e : Engine) (props : Props) :
    (e.planPatch props).2.1 = (e.user.query props).filter (·.isPlainBlock == (e.planPatch props).1) := by
  rcases planPatch_cases e props with ⟨-, hplan⟩ | ⟨-, hall, hplan⟩ | ⟨hnone, hplan⟩
  · rw [hplan]
    exact List.filter_congr fun m _ => (beq_false m.isPlainBlock).symm
  · rw [hplan]
    refine (List.filter_eq_self.mpr fun m hm => ?_).symm
    rw [beq_iff_eq, isPlainBlock_iff]
    exact hall m hm
  · rw [hplan, hnone]
    rfl

/-- The rules left by a patch vote as it is to decide. -/
theorem keptVotes_planPatch (huser : e.user.Reachable) (props : Props) :
    e.keptVotes ((e.planPatch props).2.1.map (·.line)) props
      = ((e.user.query props).filter (·.isPlainBlock != (e.planPatch props).1)).map (·.specifier) := by
  rw [planPatch_against]
  exact keptVotes_filter huser props _

/-- A rule is added only if no rule of the user is left and the others decide the other way. -/
theorem planPatch_of_needsRule (huser : e.user.Reachable) (hneeds : (e.planPatch props).2.2 = true) :
    e.keptVotes ((e.planPatch props).2.1.map (·.line)) props = []
      ∧ (e.planPatch props).1 = (e.subscribedDecision props == some .block) := by
  rw [keptVotes_planPatch huser, List.map_eq_nil_iff, List.filter_eq_nil_iff]
  rcases planPatch_cases e props with ⟨-, hplan⟩ | ⟨-, hall, hplan⟩ | ⟨hnone, hplan⟩
  · rw [hplan] at hneeds ⊢
    obtain ⟨hplain, hother⟩ := Bool.and_eq_true_iff.mp hneeds
    rw [Bool.not_eq_true', List.any_eq_false] at hplain
    rw [Bool.not_eq_true'] at hother
    refine ⟨fun m hm => ?_, hother.symm⟩
    rw [Bool.bne_false]
    exact hplain m hm
  · rw [hplan] at hneeds ⊢
    refine ⟨fun m hm => ?_, hneeds.symm⟩
    rw [(isPlainBlock_iff m).mpr (hall m hm), bne_self_eq_false]
    exact Bool.false_ne_true
  · rw [hplan, hnone]
    exact ⟨fun m hm => absurd hm List.not_mem_nil, rfl⟩

/-- No rule is added exactly if without the lines against it the decision is the one that the patch is for. -/
theorem planPatch_needsRule_iff (huser : e.user.Reachable) (props : Props) :
    (e.planPatch props).2.2 = false
      ↔ (outcome (e.keptVotes ((e.planPatch props).2.1.map (·.line)) props) (e.subscribedDecision props)
          = some .block ↔ (e.planPatch props).1 = false) := by
  obtain ⟨-, hdirection⟩ := planPatch_spec huser props
  cases hneeds : (e.planPatch props).2.2 with
  | false =>
    rw [hneeds, planVotes, if_neg Bool.false_ne_true, List.append_nil] at hdirection
    exact iff_of_true rfl hdirection
  | true =>
    -- the others decide, as they did, and the patch is to turn that around
    obtain ⟨hkept, hother⟩ := planPatch_of_needsRule huser hneeds
    rw [hkept, outcome_nil, hother]
    cases hblock : e.subscribedDecision props == some .block with
    | true => simp [eq_of_beq hblock]
    | false => simp [ne_of_beq_false hblock]

/-- A patch deletes just the lines of the user that fire and stand against it: the rules with a specifier if
it is for blocking, those without if it is for leaving alone. If there is a rule to suggest, none is added
exactly if with these lines deleted, and nothing else done, the decision is the one that the patch is for. -/
theorem createPatch_minimal (huser : e.user.Reachable) {unblock widen : Bool} {line : Text}
    (hline : suggestedRule e.suffixes props.url unblock widen = some line) (widenPatch : Bool) :
    ∃ p, (e.createPatch props widenPatch).2.pending = some p
      ∧ p.patch = (e.createPatch props widenPatch).1
      ∧ p.linesToRemove = ((e.user.query props).filter (·.isPlainBlock == p.patch.unblock)).map (·.line)
      ∧ (p.patch.rulesToAdd = []
        ↔ ((e.deleteLines p.linesToRemove).decide props = some .block ↔ p.patch.unblock = false)) := by
  refine ⟨e.newPatch props widenPatch, rfl, rfl, congrArg (List.map _) (planPatch_against e props), ?_⟩
  rw [decide_deleteLines huser]
  refine Iff.trans ?_ (planPatch_needsRule_iff huser props)
  obtain ⟨suggested, hsuggested⟩ := exists_suggestedRule hline (e.planPatch props).1 widenPatch
  show (if (e.planPatch props).2.2 then suggestedRule e.suffixes props.url (e.planPatch props).1 widenPatch
    else none).getD [] = [] ↔ _
  rw [hsuggested]
  cases (e.planPatch props).2.2 with
  | false => exact iff_of_true rfl rfl
  | true =>
    -- what is suggested ends in a star, so it is not empty
    refine iff_of_false (fun hnil => ?_) Bool.false_ne_true.symm
    have hlast := getLast?_suggestedRule hsuggested
    rw [show suggested = [] from hnil] at hlast
    exact absurd hlast (by decide)

/-- Where another rule of the user blocks, deleting the one that leaves the result alone is enough. -/
theorem createPatch_minimal_example :
    let e := ofRulesets (.ofText "@*://example.com/*\n*://*.com/*".toList) [] none
    let props := [("url".toList, "https://example.com/".toList)]
    (e.createPatch props false).1.rulesToAdd = [] ∧ (e.deleteLines [1]).decide props = some .block := by
  intro e props
  have hline : suggestedRule e.suffixes (Props.url props) false false = some "*://example.com/*".toList := by
    decide +kernel
  obtain ⟨p, hp, hpatch, hlines, hadds⟩ := createPatch_minimal ⟨_, [], rfl⟩ hline false
  have hunblock : p.patch.unblock = false := by rw [hpatch]; decide +kernel
  have hquery : (e.user.query props).filter (·.isPlainBlock == false) = [⟨1, some .negate⟩] := by
    decide +kernel
  rw [hunblock, hquery] at hlines
  have hadded : p.patch.rulesToAdd = [] := by rw [hpatch]; decide +kernel
  have hdecide := (hadds.mp hadded).mpr hunblock
  rw [hlines] at hdecide
  exact ⟨hpatch ▸ hadded, hdecide⟩

end Engine

end ResultFilter
