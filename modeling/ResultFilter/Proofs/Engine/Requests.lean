import ResultFilter.Proofs.Engine.Patch
import ResultFilter.Proofs.Ruleset.Lines

/-!
# Runs of an engine

An engine is asked to create a patch, to put other lines into it, to apply it, or to drop it, in any order.
At all times the patch that waits fits the user's ruleset: the lines that it is to delete are there, in
ascending order, and the rules on them fire. The user's ruleset changes only when a patch that waits is
applied, and then in those lines and the lines added alone.

## Main definitions

* `PatchRequest`, `Engine.perform`, `Engine.performAll` — what an engine is asked for.
* `PendingPatch.Fits` — a patch fits the ruleset that it is to change.

## Main results

* `Engine.Sound.perform` — a request leaves an engine sound.
* `Engine.sound_performAll` — what holds of an engine at any time, and what its next request does.
-/

namespace List

/-- Where a function finds something for every element, what it finds is all there is. -/
theorem map_eq_map_some_filterMap {α β : Type*} {f : α → Option β} {l : List α}
    (h : ∀ a ∈ l, (f a).isSome = true) : l.map f = (l.filterMap f).map some := by
  induction l with
  | nil => rfl
  | cons a l ih =>
    obtain ⟨b, hb⟩ := Option.isSome_iff_exists.mp (h a mem_cons_self)
    rw [map_cons, filterMap_cons, hb, map_cons, ih fun x hx => h x (mem_cons_of_mem a hx)]

end List

namespace ResultFilter

open ResultFilter.Text

/-- A request that concerns patches. -/
inductive PatchRequest where
  /-- A patch for a search result is created. -/
  | create (props : Props) (widen : Bool)
  /-- Other lines to add are put into the patch. -/
  | modify (rules : Text)
  /-- The patch is applied. -/
  | apply
  /-- The patch is dropped. -/
  | discard
deriving DecidableEq

/-- A patch fits a ruleset: it is to delete lines that are there and whose rules fire on its search result,
the first of them first, and it shows the texts of these lines. -/
structure PendingPatch.Fits (p : PendingPatch) (user : Ruleset) : Prop where
  /-- The numbers of the lines ascend, so none is there twice. -/
  pairwise : p.linesToRemove.Pairwise (· < ·)
  /-- The rule on each of the lines fires. -/
  fires : ∀ n ∈ p.linesToRemove, ∃ m ∈ user.query p.patch.props, m.line = n
  /-- The lines are there, and their texts are those shown. -/
  texts : ∃ texts, p.linesToRemove.map user.get? = texts.map some
    ∧ p.patch.rulesToRemove = Text.join ['\n'] texts

namespace Engine

variable {e : Engine}

/-- The engine after a request. To apply a patch where none waits changes nothing. -/
def perform (e : Engine) : PatchRequest → Engine
  | .create props widen => (e.createPatch props widen).2
  | .modify rules => (e.modifyPatch rules).2
  | .apply => e.applyPatch.getD e
  | .discard => e.discardPatch

/-- The engine after requests, one after another. -/
def performAll (e : Engine) (requests : List PatchRequest) : Engine :=
  requests.foldl perform e

/-- What holds of an engine at any time. -/
structure Sound (e : Engine) : Prop where
  /-- The user's ruleset is one that a text and changes lead to. -/
  user : e.user.Reachable
  /-- The patch that waits fits it. -/
  pending : ∀ p, e.pending = some p → p.Fits e.user

theorem sound_ofRulesets {user : Ruleset} (huser : user.Reachable) (subscriptions : List Ruleset)
    (suffixes : Option SuffixList) : (ofRulesets user subscriptions suffixes).Sound :=
  ⟨huser, fun _ hp => nomatch hp⟩

/-! ### Each request -/

/-- The matches against a new patch are among those of the user's rules, in the same order. -/
theorem planPatch_sublist (e : Engine) (props : Props) :
    (e.planPatch props).2.1.Sublist (e.user.query props) := by
  rcases planPatch_cases e props with ⟨-, hplan⟩ | ⟨-, -, hplan⟩ | ⟨-, hplan⟩
  · rw [hplan]
    exact List.filter_sublist
  · rw [hplan]
  · rw [hplan]
    exact List.nil_sublist _

theorem fits_newPatch (huser : e.user.Reachable) (props : Props) (widen : Bool) :
    (e.newPatch props widen).Fits e.user := by
  have hsub := planPatch_sublist e props
  have hlines : (e.newPatch props widen).linesToRemove = (e.planPatch props).2.1.map (·.line) := rfl
  have hmem : ∀ n ∈ (e.newPatch props widen).linesToRemove, ∃ m ∈ e.user.query props, m.line = n := by
    intro n hn
    rw [hlines] at hn
    obtain ⟨m, hm, rfl⟩ := List.mem_map.mp hn
    exact ⟨m, hsub.mem hm, rfl⟩
  refine ⟨?_, hmem, (e.newPatch props widen).linesToRemove.filterMap e.user.get?, ?_, rfl⟩
  · rw [hlines]
    obtain ⟨s, hf⟩ := huser.exists_follows
    exact List.pairwise_map.mpr ((hf.query_eq props ▸ s.pairwise_fired props).sublist hsub)
  · refine List.map_eq_map_some_filterMap fun n hn => ?_
    obtain ⟨m, hm, rfl⟩ := hmem n hn
    exact huser.get?_isSome_of_mem_query hm

/-- A patch into which other lines are put still fits. -/
theorem Sound.modifyPatch (he : e.Sound) (rules : Text) : (e.modifyPatch rules).2.Sound := by
  cases hp : e.pending with
  | none =>
    rw [Engine.modifyPatch, hp]
    exact he
  | some p =>
    rw [modifyPatch_of_pending hp]
    split
    · refine ⟨he.user, fun q hq => ?_⟩
      obtain rfl := Option.some.inj hq
      exact { he.pending p hp with }
    · exact he

theorem reachable_carryOut (huser : e.user.Reachable) (ns : List Nat) (rules : Text) :
    (e.carryOut ns rules).user.Reachable :=
  (huser.query_foldl_delete ns []).1.edit (.extend rules)

theorem Sound.perform (he : e.Sound) (q : PatchRequest) : (e.perform q).Sound := by
  cases q with
  | create props widen =>
    refine ⟨he.user, fun p hp => ?_⟩
    obtain rfl := Option.some.inj hp
    exact fits_newPatch he.user props widen
  | modify rules => exact he.modifyPatch rules
  | apply =>
    cases hp : e.pending with
    | none =>
      rw [Engine.perform, applyPatch, hp]
      exact he
    | some p =>
      rw [Engine.perform, applyPatch_eq hp]
      exact ⟨reachable_carryOut he.user _ _, fun _ hq => (Option.some_ne_none _ hq.symm).elim⟩
  | discard => exact ⟨he.user, fun _ hq => (Option.some_ne_none _ hq.symm).elim⟩

theorem Sound.performAll (he : e.Sound) (requests : List PatchRequest) : (e.performAll requests).Sound := by
  induction requests generalizing e with
  | nil => exact he
  | cons q requests ih => exact ih (he.perform q)

/-- The user's ruleset stays as it is unless a patch that waits is applied. -/
theorem user_perform {q : PatchRequest} (h : q = .apply → e.pending = none) :
    (e.perform q).user = e.user := by
  cases q with
  | create props widen => rfl
  | modify rules =>
    rw [perform]
    cases hp : e.pending with
    | none => rw [modifyPatch, hp]
    | some p =>
      rw [modifyPatch_of_pending hp]
      split <;> rfl
  | apply => rw [perform, applyPatch, h rfl, Option.getD_none]
  | discard => rfl

/-- A request whose answer is that no patch waits, or that lines would not turn the decision around, changes
nothing. -/
theorem modifyPatch_snd_of_not_accepted {rules : Text}
    (h : ∀ patch, (e.modifyPatch rules).1 ≠ .accepted patch) : (e.modifyPatch rules).2 = e := by
  cases hp : e.pending with
  | none => rw [modifyPatch, hp]
  | some p =>
    rw [modifyPatch_of_pending hp] at h ⊢
    split
    · next hacc =>
      rw [if_pos hacc] at h
      exact absurd rfl (h _)
    · rfl

theorem modifyPatch_eq_noPatch_iff (rules : Text) :
    (e.modifyPatch rules).1 = .noPatch ↔ e.pending = none := by
  cases hp : e.pending with
  | none => simp [modifyPatch, hp]
  | some p =>
    rw [modifyPatch_of_pending hp]
    split <;> simp

theorem applyPatch_eq_none_iff : e.applyPatch = none ↔ e.pending = none := by
  cases hp : e.pending with
  | none => simp [applyPatch, hp]
  | some p => simp [applyPatch_eq hp]

section CarryOut

variable (ns : List Nat) (rules : Text)

theorem lines_carryOut :
    (e.carryOut ns rules).user.lines
      = (e.user.lines.filter fun x => !ns.contains x.1) ++ numbered e.user.lineCount (splitLines rules) := by
  rw [carryOut, Ruleset.lines_extend, Ruleset.lines_foldl_delete, Ruleset.lineCount_foldl_delete]

theorem lineCount_carryOut :
    (e.carryOut ns rules).user.lineCount = e.user.lineCount + (splitLines rules).length := by
  rw [carryOut, Ruleset.lineCount_extend, Ruleset.lineCount_foldl_delete]

theorem metadata_carryOut : (e.carryOut ns rules).user.metadata = e.user.metadata := by
  rw [carryOut, Ruleset.metadata_extend, Ruleset.metadata_foldl_delete]

theorem query_carryOut (huser : e.user.Reachable) (props : Props) :
    (e.carryOut ns rules).user.query props
      = ((e.user.query props).filter fun m => !ns.contains m.line)
        ++ firedOn (numbered e.user.lineCount (splitLines rules)) props := by
  obtain ⟨hreach, hquery⟩ := huser.query_foldl_delete ns props
  rw [carryOut, hreach.query_extend, hquery, Ruleset.lineCount_foldl_delete]

end CarryOut

/-! ### Runs -/

/-- At any time the patch that waits fits the user's ruleset. A request changes that ruleset only if it is to
apply the patch that waits; then the lines of the patch are deleted, those to add come after all others with
the numbers that come next, every other line keeps its number, its text and what it says to each search
result, and no patch waits any more. A request that is refused changes nothing. -/
theorem sound_performAll {user : Ruleset} (huser : user.Reachable) (subscriptions : List Ruleset)
    (suffixes : Option SuffixList) (requests : List PatchRequest) :
    let e := (ofRulesets user subscriptions suffixes).performAll requests
    (∀ p, e.pending = some p → p.Fits e.user)
      ∧ (∀ q, (q = .apply → e.pending = none) → (e.perform q).user = e.user)
      ∧ (∀ p, e.pending = some p → ∃ e', e.applyPatch = some e'
          ∧ e'.pending = none ∧ e'.subscriptions = e.subscriptions ∧ e'.suffixes = e.suffixes
          ∧ e'.user.lines = (e.user.lines.filter fun x => !p.linesToRemove.contains x.1)
              ++ numbered e.user.lineCount (splitLines p.patch.rulesToAdd)
          ∧ e'.user.lineCount = e.user.lineCount + (splitLines p.patch.rulesToAdd).length
          ∧ e'.user.metadata = e.user.metadata
          ∧ ∀ props, e'.user.query props
              = ((e.user.query props).filter fun m => !p.linesToRemove.contains m.line)
                ++ firedOn (numbered e.user.lineCount (splitLines p.patch.rulesToAdd)) props)
      ∧ (∀ rules, (e.modifyPatch rules).1 = .rejected → e.perform (.modify rules) = e)
      ∧ (∀ rules, (e.modifyPatch rules).1 = .noPatch ↔ e.pending = none)
      ∧ (e.applyPatch = none ↔ e.pending = none)
      ∧ (e.pending = none → e.perform .apply = e ∧ ∀ rules, e.perform (.modify rules) = e) := by
  intro e
  have he : e.Sound := (sound_ofRulesets huser subscriptions suffixes).performAll requests
  refine ⟨he.pending, fun q hq => user_perform hq, fun p hp => ?_, fun rules hrej => ?_,
    modifyPatch_eq_noPatch_iff, applyPatch_eq_none_iff, fun hnone => ⟨?_, fun rules => ?_⟩⟩
  · exact ⟨_, applyPatch_eq hp, rfl, rfl, rfl, lines_carryOut _ _, lineCount_carryOut _ _,
      metadata_carryOut _ _, query_carryOut _ _ he.user⟩
  · exact modifyPatch_snd_of_not_accepted fun patch hacc => by simp [hrej] at hacc
  · rw [perform, applyPatch_eq_none_iff.mpr hnone, Option.getD_none]
  · refine modifyPatch_snd_of_not_accepted fun patch hacc => ?_
    rw [(modifyPatch_eq_noPatch_iff rules).mpr hnone] at hacc
    exact absurd hacc (by simp)

/-- A patch for blocking takes the place of one that was dropped; other lines are put into it, and it is
applied: the rule that left the result alone goes, and two lines come. -/
theorem sound_performAll_example :
    let props := [("url".toList, "https://example.com/".toList)]
    let rules := "# mine\n*://*.example.com/*".toList
    let e := (ofRulesets (.ofText "# header\n@*://*/*".toList) [] none).performAll
      [.create props true, .discard, .create props false, .modify "@*://*/*".toList, .modify rules]
    ∃ e', e.applyPatch = some e' ∧ e'.pending = none
      ∧ e'.user.lines
        = [(1, "# header".toList), (3, "# mine".toList), (4, "*://*.example.com/*".toList)]
      ∧ e'.user.query props = [⟨4, none⟩] := by
  intro props rules e
  have hpending : e.pending.map (fun p => (p.linesToRemove, p.patch.rulesToAdd)) = some ([2], rules) := by
    decide +kernel
  obtain ⟨p, hp, hparts⟩ := Option.map_eq_some_iff.mp hpending
  obtain ⟨hlines, hrules⟩ := Prod.mk.inj hparts
  obtain ⟨-, -, happly, -⟩ := sound_performAll (.ofText "# header\n@*://*/*".toList) [] none
    [.create props true, .discard, .create props false, .modify "@*://*/*".toList, .modify rules]
  obtain ⟨e', happlied, hnone, -, -, hafter, -, -, hquery⟩ := happly p hp
  refine ⟨e', happlied, hnone, ?_, ?_⟩
  · rw [hafter, hlines, hrules]
    decide +kernel
  · rw [hquery props, hlines, hrules]
    decide +kernel

end Engine

end ResultFilter
