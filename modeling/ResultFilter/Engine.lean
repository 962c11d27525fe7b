import ResultFilter.PublicSuffix
import ResultFilter.Ruleset.Basic

/-!
# Deciding and patching

The user has a ruleset of their own and follows others. If a rule of the user fires on a search result the
user's rules decide; otherwise all rules followed do together. A patch turns the decision on one search
result around: it deletes the user's rules that stand against it and adds one if these are not enough.

## Main definitions

* `Engine` — the rulesets, and the patch that waits to be applied.
* `Engine.decide`, `Engine.subscribedDecision` — the decisions.
* `suggestedRule` — the rule that a patch adds.
* `Engine.createPatch`, `Engine.modifyPatch`, `Engine.applyPatch`, `Engine.discardPatch` — patches.
-/

namespace ResultFilter

open ResultFilter.Text

/-- A change of the user's ruleset that turns a decision around. -/
structure Patch where
  /-- Whether the search result is to be left alone rather than blocked. -/
  unblock : Bool
  /-- The search result. -/
  props : Props
  /-- The lines to be added. -/
  rulesToAdd : Text
  /-- The lines to be deleted. -/
  rulesToRemove : Text
deriving DecidableEq, Repr

/-- A patch as it is stored. -/
def Patch.toJson (p : Patch) : Json :=
  .object [Json.field "unblock" (.bool p.unblock),
    Json.field "props" (.object (p.props.map fun (name, value) => (name, .string value))),
    Json.field "rulesToAdd" (.string p.rulesToAdd),
    Json.field "rulesToRemove" (.string p.rulesToRemove)]

/-- A patch that waits to be applied. -/
structure PendingPatch where
  /-- The patch. -/
  patch : Patch
  /-- The numbers of the lines to be deleted. -/
  linesToRemove : List Nat
deriving Repr

/-- The user's ruleset, those followed, and the patch that waits to be applied. -/
structure Engine where
  /-- The user's ruleset. -/
  user : Ruleset
  /-- The rulesets followed. -/
  subscriptions : List Ruleset
  /-- The list of public suffixes, if one is loaded. -/
  suffixes : Option SuffixList
  /-- The patch that waits to be applied. -/
  pending : Option PendingPatch

/-- The decision of rules that fire. -/
def decisionOf (fired : List RuleMatch) : Option Decision :=
  Decision.aggregate (fired.map (·.specifier))

/-- The rule that covers the host of an address, or the whole registrable domain of it. An address
without a host has none. -/
def suggestedRule (suffixes : Option SuffixList) (url : Text) (unblock widen : Bool) : Option Text :=
  match Url.ofText? url with
  | none => none
  | some u =>
    if u.host.isEmpty then none
    else
      let host :=
        if widen && !Host.isAddress u.host then '*' :: '.' :: registrableDomain suffixes u.host
        else u.host
      some ((if unblock then ['@'] else []) ++ "*://".toList ++ host ++ anyPath)

namespace Engine

/-- An engine without a patch. -/
def ofRulesets (user : Ruleset) (subscriptions : List Ruleset) (suffixes : Option SuffixList) :
    Engine :=
  ⟨user, subscriptions, suffixes, none⟩

/-- The decision of the rulesets followed. -/
def subscribedDecision (e : Engine) (props : Props) : Option Decision :=
  decisionOf (e.subscriptions.flatMap (·.query props))

/-- The decision on a search result. -/
def decide (e : Engine) (props : Props) : Option Decision :=
  match decisionOf (e.user.query props) with
  | some d => some d
  | none => e.subscribedDecision props

/-- The direction of the patch for a search result, the matches of the user's rules that stand against
it, and whether deleting their lines is not enough. -/
def planPatch (e : Engine) (props : Props) : Bool × List RuleMatch × Bool :=
  let fired := e.user.query props
  let subscribedBlock := e.subscribedDecision props == some .block
  let against := fired.filter (!·.isPlainBlock)
  if !against.isEmpty then
    (false, against, !fired.any (·.isPlainBlock) && !subscribedBlock)
  else if !fired.isEmpty then (true, fired, subscribedBlock)
  else (subscribedBlock, [], true)

/-- The patch that turns the decision on a search result around. -/
def newPatch (e : Engine) (props : Props) (widen : Bool) : PendingPatch :=
  let (unblock, against, needsRule) := e.planPatch props
  let linesToRemove := against.map (·.line)
  let rule := if needsRule then suggestedRule e.suffixes props.url unblock widen else none
  { linesToRemove
    patch :=
      { unblock
        props
        rulesToAdd := rule.getD []
        rulesToRemove := Text.join ['\n'] (linesToRemove.filterMap e.user.get?) } }

/-- Creates a patch, which takes the place of one that waits. -/
def createPatch (e : Engine) (props : Props) (widen : Bool) : Patch × Engine :=
  let pending := e.newPatch props widen
  (pending.patch, { e with pending := some pending })

/-- The decision on the search result of a patch if other lines are added. -/
def decisionAfter (e : Engine) (p : PendingPatch) (rules : Text) : Option Decision :=
  let kept := (e.user.query p.patch.props).filter fun m => !p.linesToRemove.contains m.line
  match decisionOf (kept ++ (Ruleset.ofText rules).query p.patch.props) with
  | some d => some d
  | none => e.subscribedDecision p.patch.props

/-- Whether a decision is the one that a patch is for. -/
def Patch.accepts (p : Patch) (d : Option Decision) : Bool :=
  (d == some .block) != p.unblock

/-- What becomes of a request for other lines to add. -/
inductive Modification where
  /-- No patch waits. -/
  | noPatch
  /-- The lines would not turn the decision around. -/
  | rejected
  /-- The patch with the lines. -/
  | accepted (patch : Patch)
deriving DecidableEq, Repr

/-- Puts other lines to add into the patch that waits, if they too turn the decision around. -/
def modifyPatch (e : Engine) (rules : Text) : Modification × Engine :=
  match e.pending with
  | none => (.noPatch, e)
  | some p =>
    if Patch.accepts p.patch (e.decisionAfter p rules) then
      let patch := { p.patch with rulesToAdd := rules }
      (.accepted patch, { e with pending := some { p with patch } })
    else (.rejected, e)

/-- Applies the patch that waits, if there is one. -/
def applyPatch (e : Engine) : Option Engine :=
  match e.pending with
  | none => none
  | some p =>
    let user := p.linesToRemove.foldl (fun user n => (user.delete n).2) e.user
    some { e with user := user.extend p.patch.rulesToAdd, pending := none }

/-- Drops the patch that waits. -/
def discardPatch (e : Engine) : Engine :=
  { e with pending := none }

end Engine

end ResultFilter
