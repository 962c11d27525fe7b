import ResultFilter.Proofs.Engine.Decision
import ResultFilter.Proofs.Engine.Suggestion

/-!
# What patches do to decisions

A patch is made to turn the decision on one search result around, and when it is applied it does. If
other lines are put into a patch, the decision that is foreseen for them is the one that follows unless
they begin with a header: its lines are not asked when the decision is foreseen, but they are added.

## Main definitions

* `Engine.planVotes` — the vote that a plan adds.
* `Engine.HeaderTips` — whether the rules of a header tip a decision.

## Main results

* `Engine.planPatch_cases` — the three plans.
* `Engine.decide_applyPatch_createPatch` — a patch turns the decision around.
* `Engine.modifyPatch_faithful_iff` — what is foreseen for other lines, and when it is what follows.
-/

namespace ResultFilter

open ResultFilter.Text

namespace Engine

variable {e : Engine} {props : Props}

theorem nodup_query (huser : e.user.Reachable) (props : Props) :
    ((e.user.query props).map (·.line)).Nodup := by
  obtain ⟨s, hf⟩ := huser.exists_follows
  rw [hf.query_eq]
  exact List.pairwise_map.mpr ((s.pairwise_fired props).imp Nat.ne_of_lt)

/-- The votes without those of some matches. -/
theorem keptVotes_filter (huser : e.user.Reachable) (props : Props) (q : RuleMatch → Bool) :
    e.keptVotes (((e.user.query props).filter q).map (·.line)) props
      = ((e.user.query props).filter (!q ·)).map (·.specifier) := by
  unfold keptVotes
  congr 1
  refine List.filter_congr fun m hm => congrArg (! ·) (Bool.eq_iff_iff.mpr ?_)
  rw [List.contains_iff_mem, List.mem_map]
  -- no two matches are of one line, so a line among those deleted is that of a match among them
  constructor
  · rintro ⟨m', hm', hline⟩
    obtain ⟨hmem, hq⟩ := List.mem_filter.mp hm'
    rwa [← List.inj_on_of_nodup_map (nodup_query huser props) hmem hm hline]
  · intro hq
    exact ⟨m, List.mem_filter.mpr ⟨hm, hq⟩, rfl⟩

theorem isPlainBlock_iff (m : RuleMatch) : m.isPlainBlock = true ↔ m.specifier = none :=
  Option.isNone_iff_eq_none

/-- The three plans: some rule of the user stands against blocking, or all of them block, or none fires. -/
theorem planPatch_cases (e : Engine) (props : Props) :
    ((∃ m ∈ e.user.query props, m.specifier ≠ none)
        ∧ e.planPatch props = (false, (e.user.query props).filter (!·.isPlainBlock),
            !(e.user.query props).any (·.isPlainBlock) && !(e.subscribedDecision props == some .block)))
      ∨ (e.user.query props ≠ [] ∧ (∀ m ∈ e.user.query props, m.specifier = none)
        ∧ e.planPatch props = (true, e.user.query props, e.subscribedDecision props == some .block))
      ∨ (e.user.query props = []
        ∧ e.planPatch props = (e.subscribedDecision props == some .block, [], true)) := by
  have hagainst : ((e.user.query props).filter (!·.isPlainBlock)).isEmpty = true
      ↔ ∀ m ∈ e.user.query props, m.specifier = none := by
    rw [List.isEmpty_iff, List.filter_eq_nil_iff]
    refine forall₂_congr fun m _ => ?_
    rw [Bool.not_eq_true, Bool.not_eq_false', isPlainBlock_iff]
  unfold planPatch
  dsimp only
  split
  · next h =>
    rw [Bool.not_eq_true', ← Bool.not_eq_true, hagainst] at h
    push Not at h
    exact Or.inl ⟨h, rfl⟩
  · next h =>
    rw [Bool.not_eq_true', Bool.not_eq_false, hagainst] at h
    split
    · next hsome =>
      refine Or.inr (Or.inl ⟨?_, h, rfl⟩)
      rintro hnil
      rw [hnil] at hsome
      exact absurd hsome (by decide)
    · next hnone =>
      rw [Bool.not_eq_true', Bool.not_eq_false, List.isEmpty_iff] at hnone
      exact Or.inr (Or.inr ⟨hnone, rfl⟩)

/-- The vote of the rule that a plan adds, if it adds one. -/
def planVotes (unblock needsRule : Bool) : List (Option Specifier) :=
  if needsRule then [if unblock then some .negate else none] else []

/-- The rules left by a patch for blocking block, or else one more does, or the others do. -/
theorem outcome_plain_block (fired : List RuleMatch) (other : Option Decision) :
    outcome ((fired.filter (·.isPlainBlock)).map (·.specifier)
        ++ planVotes false (!fired.any (·.isPlainBlock) && !(other == some .block))) other
      = some .block := by
  cases hany : fired.any (·.isPlainBlock) with
  | true =>
    obtain ⟨b, hb, hplain⟩ := List.any_eq_true.mp hany
    have hvotes : planVotes false (!true && !(other == some .block)) = [] := rfl
    rw [hvotes, List.append_nil, outcome_eq_block_iff]
    · intro v hv
      obtain ⟨m, hm, rfl⟩ := List.mem_map.mp hv
      exact (isPlainBlock_iff m).mp (List.mem_filter.mp hm).2
    · exact List.ne_nil_of_mem (List.mem_map_of_mem (List.mem_filter.mpr ⟨hb, hplain⟩))
  | false =>
    have hnil : fired.filter (·.isPlainBlock) = [] :=
      List.filter_eq_nil_iff.mpr fun b hb => List.any_eq_false.mp hany b hb
    rw [hnil, List.map_nil, List.nil_append]
    cases hother : other == some .block with
    | true => exact eq_of_beq hother
    | false => exact (outcome_eq_block_iff (List.cons_ne_nil none []) other).mpr (by simp)

/-- One mark is enough against others that block, and none is needed against others that do not. -/
theorem outcome_negate_ne_block (other : Option Decision) :
    outcome (planVotes true (other == some .block)) other ≠ some .block := by
  cases hother : other == some .block with
  | true =>
    rw [ne_eq, planVotes, if_pos rfl, outcome_eq_block_iff (List.cons_ne_nil _ _)]
    simp
  | false => exact ne_of_beq_false hother

/-- One rule turns the decision of others around if no rule of the user fires. -/
theorem outcome_planVotes (other : Option Decision) :
    outcome (planVotes (other == some .block) true) other = some .block ↔ (other == some .block) = false := by
  rw [planVotes, if_pos rfl, outcome_eq_block_iff (List.cons_ne_nil _ _)]
  cases other == some .block <;> simp

/-- A patch is to leave a result alone exactly if it is blocked. Without the lines against it, and with
one more vote if these are not enough, the decision is the one that the patch is for. -/
theorem planPatch_spec (huser : e.user.Reachable) (props : Props) :
    ((e.planPatch props).1 = true ↔ e.decide props = some .block)
      ∧ (outcome (e.keptVotes ((e.planPatch props).2.1.map (·.line)) props
            ++ planVotes (e.planPatch props).1 (e.planPatch props).2.2)
          (e.subscribedDecision props) = some .block ↔ (e.planPatch props).1 = false) := by
  rw [decide_eq]
  rcases planPatch_cases e props with ⟨⟨m, hm, hmark⟩, hplan⟩ | ⟨hsome, hall, hplan⟩ | ⟨hnone, hplan⟩
  · -- some rule of the user stands against blocking
    rw [hplan, outcome_eq_block_iff (List.ne_nil_of_mem (List.mem_map_of_mem hm))]
    refine ⟨iff_of_false Bool.false_ne_true fun h => hmark (h _ (List.mem_map_of_mem hm)), iff_of_true ?_ rfl⟩
    have hkept := keptVotes_filter huser props (!·.isPlainBlock)
    simp only [Bool.not_not] at hkept
    rw [hkept]
    exact outcome_plain_block _ _
  · -- all rules of the user that fire block, and none of them is kept
    have hne : (e.user.query props).map (·.specifier) ≠ [] := mt List.map_eq_nil_iff.mp hsome
    rw [hplan, outcome_eq_block_iff hne]
    refine ⟨iff_of_true rfl (List.forall_mem_map.mpr hall), iff_of_false ?_ (by simp)⟩
    have hkept := keptVotes_filter huser props fun _ => true
    rw [List.filter_true, Bool.not_true, List.filter_false, List.map_nil] at hkept
    rw [hkept, List.nil_append]
    exact outcome_negate_ne_block _
  · -- the rulesets followed decide
    have hkept : e.keptVotes [] props = [] := by
      rw [keptVotes, hnone]
      rfl
    rw [hplan, hnone]
    refine ⟨beq_iff_eq, ?_⟩
    rw [List.map_nil, hkept, List.nil_append]
    exact outcome_planVotes _

/-- A patch says which way the decision on a search result goes, and when it is applied the result is
blocked exactly if it was not, given that the rule suggested for its address is one that fires on it. -/
theorem decide_applyPatch_createPatch (huser : e.user.Reachable) {widen : Bool} {line : Text} {rule : Rule}
    (hline : suggestedRule e.suffixes props.url (e.createPatch props widen).1.unblock widen = some line)
    (hrule : Rule.ofLine line = .ok (some rule)) (hfires : rule.body.fires props = true) :
    ((e.createPatch props widen).1.unblock = true ↔ e.decide props = some .block)
      ∧ ∃ e', (e.createPatch props widen).2.applyPatch = some e'
        ∧ (e'.decide props = some .block ↔ e.decide props ≠ some .block) := by
  obtain ⟨hunblock, hplan⟩ := planPatch_spec huser props
  have hdirection : (e.createPatch props widen).1.unblock = (e.planPatch props).1 := rfl
  rw [hdirection] at hline ⊢
  refine ⟨hunblock, _, applyPatch_eq rfl, ?_⟩
  -- the rule that is added is one line and fires, so it has one vote
  have hadded : votes (splitLines (e.createPatch props widen).1.rulesToAdd) props
      = planVotes (e.planPatch props).1 (e.planPatch props).2.2 := by
    show votes (splitLines ((if (e.planPatch props).2.2
      then suggestedRule e.suffixes props.url (e.planPatch props).1 widen else none).getD [])) props = _
    unfold planVotes
    split
    · rw [hline, Option.getD_some, splitLines_suggestedRule hline, ← specifier_of_suggestedRule hline hrule]
      simp [votes, Rule.ofLine?_eq_some_iff.mpr hrule, hfires]
    · rfl
  have hafter : ((e.createPatch props widen).2.carryOut ((e.planPatch props).2.1.map (·.line))
      (e.createPatch props widen).1.rulesToAdd).decide props = some .block ↔ (e.planPatch props).1 = false := by
    rw [decide_carryOut (e := (e.createPatch props widen).2) huser, hadded]
    exact hplan
  exact hafter.trans ((Bool.not_eq_true _).symm.to_iff.trans (not_congr hunblock))

/-- A result that a rule of the user leaves alone is blocked by a patch. -/
theorem decide_applyPatch_createPatch_example :
    let e := ofRulesets (.ofText "@*://*/*".toList) [] none
    let props := [("url".toList, "https://example.com/".toList)]
    ((e.createPatch props false).1.unblock = true ↔ e.decide props = some .block)
      ∧ ∃ e', (e.createPatch props false).2.applyPatch = some e'
        ∧ (e'.decide props = some .block ↔ e.decide props ≠ some .block) := by
  intro e props
  have hline : suggestedRule e.suffixes (Props.url props) (e.createPatch props false).1.unblock false
      = some "*://example.com/*".toList := by decide +kernel
  have hrule : Rule.ofLine "*://example.com/*".toList
      = .ok (some ⟨none, .pattern (.url ['*'] (.exact "example.com".toList) "/*".toList) none⟩) := by
    decide +kernel
  exact decide_applyPatch_createPatch ⟨_, [], rfl⟩ hline hrule (by decide +kernel)

/-! ### Putting other lines in -/

theorem accepts_iff (p : Patch) (d : Option Decision) :
    Patch.accepts p d = true ↔ (d = some .block ↔ p.unblock = false) := by
  have hblock : d = some .block ↔ (d == some .block) = true := beq_iff_eq.symm
  rw [hblock, Patch.accepts]
  cases d == some .block <;> cases p.unblock <;> simp

theorem modifyPatch_of_pending {p : PendingPatch} (hp : e.pending = some p) (rules : Text) :
    e.modifyPatch rules
      = if Patch.accepts p.patch (e.decisionAfter p rules) then
          (.accepted { p.patch with rulesToAdd := rules },
            { e with pending := some { p with patch := { p.patch with rulesToAdd := rules } } })
        else (.rejected, e) := by
  rw [modifyPatch, hp]

theorem accepted_iff {p : PendingPatch} (hp : e.pending = some p) (rules : Text) :
    (∃ patch, (e.modifyPatch rules).1 = .accepted patch)
      ↔ (e.decisionAfter p rules = some .block ↔ p.patch.unblock = false) := by
  rw [modifyPatch_of_pending hp, ← accepts_iff]
  split
  · next h => simp [h]
  · next h => simp [h]

/-- An accepted patch deletes the lines that it was made for and adds those put in. -/
theorem applyPatch_modifyPatch {p : PendingPatch} (hp : e.pending = some p) {rules : Text}
    (hacc : ∃ patch, (e.modifyPatch rules).1 = .accepted patch) :
    (e.modifyPatch rules).2.applyPatch = some (e.carryOut p.linesToRemove rules) := by
  rw [modifyPatch_of_pending hp] at hacc ⊢
  split at hacc
  · next h =>
    rw [if_pos h]
    exact applyPatch_eq
      (p := { p with patch := { p.patch with rulesToAdd := rules } }) rfl
  · obtain ⟨patch, hpatch⟩ := hacc
    exact absurd hpatch (by simp)

theorem iff_congr_left_iff {a b c : Prop} : ((a ↔ c) ↔ (b ↔ c)) ↔ (a ↔ b) := by
  tauto

/-- Whether the votes of a header tip a decision: some of its rules fire, and either nobody else votes and
the header does not vote as the others decide, or all other votes block and the header does not. -/
def HeaderTips (voters header : List (Option Specifier)) (other : Option Decision) : Prop :=
  header ≠ []
    ∧ if voters = [] then (other = some .block ↔ ∃ v ∈ header, v ≠ none)
      else (∀ v ∈ voters, v = none) ∧ ∃ v ∈ header, v ≠ none

/-- The votes of a header make a difference exactly if they tip the decision. -/
theorem outcome_header_iff (kept header body : List (Option Specifier)) (other : Option Decision) :
    (outcome (kept ++ body) other = some .block ↔ outcome (kept ++ (header ++ body)) other = some .block)
      ↔ ¬ HeaderTips (kept ++ body) header other := by
  have hmark : (∃ v ∈ header, v ≠ none) ↔ ¬ ∀ v ∈ header, v = none := by simp
  unfold HeaderTips
  rw [hmark]
  by_cases hheader : header = []
  · simp [hheader]
  have hall : kept ++ (header ++ body) ≠ [] := by simp [hheader]
  rw [outcome_eq_block_iff hall]
  split
  · next hvoters =>
    obtain ⟨rfl, rfl⟩ := List.append_eq_nil_iff.mp hvoters
    rw [List.nil_append, outcome_nil, List.nil_append, List.append_nil]
    tauto
  · next hvoters =>
    rw [outcome_eq_block_iff hvoters]
    simp only [List.forall_mem_append]
    tauto

/-- The decision that is foreseen for other lines leaves their header out. It is the one that follows, and
an accepted patch turns the decision around, unless the rules of the header tip the decision; lines
without a header never do. -/
theorem modifyPatch_faithful_iff (huser : e.user.Reachable) {p : PendingPatch} (hp : e.pending = some p)
    (rules : Text) :
    let size := (Header.ofLines (splitLines rules)).size
    let kept := e.keptVotes p.linesToRemove p.patch.props
    let header := votes ((splitLines rules).take size) p.patch.props
    let body := votes ((splitLines rules).drop size) p.patch.props
    let other := e.subscribedDecision p.patch.props
    let after := (e.carryOut p.linesToRemove rules).decide p.patch.props
    let isAccepted := ∃ patch, (e.modifyPatch rules).1 = .accepted patch
    (isAccepted ↔ (outcome (kept ++ body) other = some .block ↔ p.patch.unblock = false))
      ∧ ((isAccepted ↔ (after = some .block ↔ p.patch.unblock = false))
        ↔ ¬ HeaderTips (kept ++ body) header other)
      ∧ (isAccepted → ∃ e', (e.modifyPatch rules).2.applyPatch = some e'
        ∧ ((e'.decide p.patch.props = some .block ↔ p.patch.unblock = false)
          ↔ ¬ HeaderTips (kept ++ body) header other))
      ∧ (size = 0 → ¬ HeaderTips (kept ++ body) header other) := by
  intro size kept header body other after isAccepted
  have haccepted : isAccepted ↔ (outcome (kept ++ body) other = some .block ↔ p.patch.unblock = false) :=
    decisionAfter_eq e p rules ▸ accepted_iff hp rules
  have hafter : after = outcome (kept ++ (header ++ body)) other := by
    rw [← votes_append, List.take_append_drop]
    exact decide_carryOut huser _ _ _
  have htips := outcome_header_iff kept header body other
  rw [← hafter] at htips
  refine ⟨haccepted, ?_, fun hacc => ⟨_, applyPatch_modifyPatch hp hacc, ?_⟩, ?_⟩
  · rw [haccepted, ← htips]
    exact iff_congr_left_iff
  · rw [← htips, haccepted.mp hacc]
    exact Iff.comm
  · intro hsize
    rintro ⟨hheader, -⟩
    refine hheader ?_
    show votes ((splitLines rules).take size) p.patch.props = []
    rw [hsize]
    rfl

/-- A line put into a patch for blocking, and the patch applied. -/
theorem modifyPatch_faithful_iff_example :
    let props := [("url".toList, "https://example.com/".toList)]
    let e := ((ofRulesets (.ofText []) [] none).createPatch props false).2
    let rules := "*://*.example.com/*".toList
    ∃ e', (e.modifyPatch rules).2.applyPatch = some e' ∧ e'.decide props = some .block := by
  intro props e rules
  obtain ⟨p, hp, hpatch⟩ : ∃ p, e.pending = some p
      ∧ p.patch = ⟨false, props, "*://example.com/*".toList, []⟩ := ⟨_, rfl, by decide +kernel⟩
  have haccepted : (e.modifyPatch rules).1 = .accepted ⟨false, props, rules, []⟩ := by decide +kernel
  have hsize : (Header.ofLines (splitLines rules)).size = 0 := by decide +kernel
  obtain ⟨-, -, happly, hnone⟩ := modifyPatch_faithful_iff ⟨[], [], rfl⟩ hp rules
  obtain ⟨e', happlied, hdecide⟩ := happly ⟨_, haccepted⟩
  have hblock := (hdecide.mpr (hnone hsize)).mpr (by rw [hpatch])
  rw [hpatch] at hblock
  exact ⟨e', happlied, hblock⟩

/-- A rule in the header of the lines put in is not asked, but it is added: a patch for blocking is
accepted, and the result is left alone when it is applied. -/
theorem modifyPatch_header_counterexample :
    let props := [("url".toList, "https://example.com/".toList)]
    let e := ((ofRulesets (.ofText []) [] none).createPatch props false).2
    let rules := "---\n@*://example.com/*\n---\n*://example.com/*".toList
    e.user.Reachable
      ∧ (e.modifyPatch rules).1 = .accepted ⟨false, props, rules, []⟩
      ∧ (e.carryOut [] rules).decide props = some .unblock
      ∧ (e.modifyPatch rules).2.applyPatch.map (·.decide props) = some (some .unblock) :=
  ⟨⟨[], [], rfl⟩, by decide +kernel, by decide +kernel, by decide +kernel⟩

end Engine

end ResultFilter
