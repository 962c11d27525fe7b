import ResultFilter.Proofs.Engine.Decision
import ResultFilter.Proofs.Ruleset.Saved

/-!
# Rules and rulesets in another order

The strongest vote counts, whoever casts it and in whatever order, so only the set of the votes matters for
a decision. A line votes by itself where no header takes it in. Hence the lines of a text may be put in
another order, and so may the rulesets followed, while the numbers of the rules, the index that they are
filed in and the order in which they are found all change. And a line that is added can make a decision
only stronger.

## Main definitions

* `IsPlain` — texts without delimiters.
* `Rearranged`, `FeedsRearranged` — lines, and rulesets, in another order.

## Main results

* `Decision.aggregate_eq_some_iff` — the strongest vote.
* `Decision.aggregate_congr` — only the set of the votes matters.
* `Engine.decide_rearranged` — what the order of rules and rulesets changes, and what more rules do.
-/

namespace ResultFilter

open ResultFilter.Text

/-! ### The strongest vote -/

namespace Decision

theorem rank_max (a b : Decision) : (max a b).rank = Nat.max a.rank b.rank := by
  unfold max
  split
  · next h => exact (Nat.max_eq_right h).symm
  · next h => exact (Nat.max_eq_left (Nat.le_of_not_le h)).symm

theorem max_eq_or (a b : Decision) : max a b = a ∨ max a b = b := by
  unfold max
  split
  · exact Or.inr rfl
  · exact Or.inl rfl

theorem aggregate_spec {vs : List (Option Specifier)} {d : Decision} (h : aggregate vs = some d) :
    (∃ v ∈ vs, ofSpecifier v = d) ∧ ∀ v ∈ vs, (ofSpecifier v).rank ≤ d.rank := by
  induction vs generalizing d with
  | nil => exact absurd h (by simp)
  | cons v rest ih =>
    rw [aggregate] at h
    cases hrest : aggregate rest with
    | none =>
      obtain rfl := (aggregate_eq_none_iff rest).mp hrest
      rw [hrest] at h
      obtain rfl := Option.some.inj h
      simp
    | some strongest =>
      rw [hrest] at h
      obtain rfl := Option.some.inj h
      obtain ⟨⟨w, hw, hcast⟩, hle⟩ := ih hrest
      constructor
      · rcases max_eq_or (ofSpecifier v) strongest with heq | heq
        · exact ⟨v, List.mem_cons_self, heq.symm⟩
        · exact ⟨w, List.mem_cons_of_mem v hw, hcast.trans heq.symm⟩
      · rw [rank_max]
        exact List.forall_mem_cons.mpr
          ⟨Nat.le_max_left _ _, fun u hu => Nat.le_trans (hle u hu) (Nat.le_max_right _ _)⟩

/-- The strongest vote is one of the votes, and none is stronger. -/
theorem aggregate_eq_some_iff {vs : List (Option Specifier)} {d : Decision} :
    aggregate vs = some d
      ↔ (∃ v ∈ vs, ofSpecifier v = d) ∧ ∀ v ∈ vs, (ofSpecifier v).rank ≤ d.rank := by
  refine ⟨aggregate_spec, ?_⟩
  rintro ⟨⟨v, hv, rfl⟩, hle⟩
  cases h : aggregate vs with
  | none =>
    obtain rfl := (aggregate_eq_none_iff vs).mp h
    exact absurd hv List.not_mem_nil
  | some d =>
    obtain ⟨⟨w, hw, rfl⟩, hle'⟩ := aggregate_spec h
    exact congrArg some (rank_injective (Nat.le_antisymm (hle w hw) (hle' v hv)))

/-- Only the set of the votes matters. -/
theorem aggregate_congr {vs ws : List (Option Specifier)} (h : ∀ v, v ∈ vs ↔ v ∈ ws) :
    aggregate vs = aggregate ws := by
  refine Option.ext fun d => ?_
  simp only [aggregate_eq_some_iff, h]

/-- More votes do not make a decision weaker. -/
theorem exists_aggregate_append {vs : List (Option Specifier)} {d : Decision} (h : aggregate vs = some d)
    (more : List (Option Specifier)) : ∃ d', aggregate (vs ++ more) = some d' ∧ d.rank ≤ d'.rank := by
  obtain ⟨⟨v, hv, rfl⟩, -⟩ := aggregate_eq_some_iff.mp h
  have hmem := List.mem_append_left more hv
  cases hall : aggregate (vs ++ more) with
  | none => exact absurd ((aggregate_eq_none_iff _).mp hall) (List.ne_nil_of_mem hmem)
  | some d' => exact ⟨d', rfl, (aggregate_eq_some_iff.mp hall).2 v hmem⟩

end Decision

/-! ### Lines in another order -/

/-- No line of a text is a delimiter, so that none of them is taken for a header in whatever order. -/
def IsPlain (text : Text) : Prop :=
  ∀ line ∈ splitLines text, Header.isDelimiter line = false

/-- Two texts have the same lines, each as often, in any order. -/
def Rearranged (text other : Text) : Prop :=
  (splitLines text).Perm (splitLines other)

/-- Texts have their lines in another order, and come themselves in another order. -/
def FeedsRearranged (feeds others : List Text) : Prop :=
  ∃ mid, List.Forall₂ Rearranged feeds mid ∧ mid.Perm others

theorem IsPlain.of_rearranged {text other : Text} (h : IsPlain text) (hlines : Rearranged text other) :
    IsPlain other :=
  fun line hline => h line (hlines.mem_iff.mpr hline)

theorem votes_perm {lines others : List Text} (h : lines.Perm others) (props : Props) :
    (votes lines props).Perm (votes others props) :=
  ((h.filterMap _).filter _).map _

namespace Ruleset

theorem votes_ofText_of_head {text : Text}
    (h : ∀ line ∈ (splitLines text).head?, Header.isDelimiter line = false) (props : Props) :
    ((ofText text).query props).map (·.specifier) = votes (splitLines text) props := by
  rw [votes_ofText, Header.ofLines_eq_absent h]
  rfl

theorem votes_ofText_of_isPlain {text : Text} (h : IsPlain text) (props : Props) :
    ((ofText text).query props).map (·.specifier) = votes (splitLines text) props :=
  votes_ofText_of_head (fun line hline => h line (List.mem_of_mem_head? hline)) props

theorem votes_ofText_perm {text other : Text} (h : IsPlain text) (hlines : Rearranged text other)
    (props : Props) :
    (((ofText text).query props).map (·.specifier)).Perm
      (((ofText other).query props).map (·.specifier)) := by
  rw [votes_ofText_of_isPlain h, votes_ofText_of_isPlain (h.of_rearranged hlines)]
  exact votes_perm hlines props

/-- The votes of texts together are the same ones when lines and texts come in another order. -/
theorem votes_feeds_perm {feeds others : List Text} (h : ∀ text ∈ feeds, IsPlain text)
    (hfeeds : FeedsRearranged feeds others) (props : Props) :
    (feeds.flatMap fun text => ((ofText text).query props).map (·.specifier)).Perm
      (others.flatMap fun text => ((ofText text).query props).map (·.specifier)) := by
  obtain ⟨mid, hlines, hperm⟩ := hfeeds
  refine List.Perm.trans ?_ (hperm.flatMap_right _)
  clear hperm
  induction hlines with
  | nil => exact List.Perm.nil
  | cons htext _ ih =>
    obtain ⟨hplain, hrest⟩ := List.forall_mem_cons.mp h
    rw [List.flatMap_cons, List.flatMap_cons]
    exact (votes_ofText_perm hplain htext props).append (ih hrest)

end Ruleset

/-! ### Decisions -/

namespace Engine

/-- An engine of texts compiled. -/
def ofTexts (user : Text) (feeds : List Text) (suffixes : Option SuffixList) : Engine :=
  ofRulesets (.ofText user) (feeds.map .ofText) suffixes

variable {user user' : Text} {feeds feeds' : List Text} {suffixes : Option SuffixList} {props : Props}

theorem subscribedDecision_ofTexts :
    (ofTexts user feeds suffixes).subscribedDecision props = Decision.aggregate
      (feeds.flatMap fun text => ((Ruleset.ofText text).query props).map (·.specifier)) := by
  show decisionOf ((feeds.map Ruleset.ofText).flatMap _) = _
  rw [decisionOf, List.flatMap_map, List.map_flatMap]

theorem subscribedDecision_rearranged (hplain : ∀ text ∈ feeds, IsPlain text)
    (hfeeds : FeedsRearranged feeds feeds') :
    (ofTexts user' feeds' suffixes).subscribedDecision props
      = (ofTexts user feeds suffixes).subscribedDecision props := by
  rw [subscribedDecision_ofTexts, subscribedDecision_ofTexts]
  exact Decision.aggregate_congr fun v => (Ruleset.votes_feeds_perm hplain hfeeds props).mem_iff.symm

/-- The decision of the user's rules is the decision, whatever rulesets are followed. -/
theorem decide_eq_of_user {e : Engine} {d : Decision} (h : decisionOf (e.user.query props) = some d) :
    e.decide props = some d := by
  rw [decide, h]

/-- More lines do not make the decision of the user's rules weaker. -/
theorem exists_decisionOf_of_prefix {longer : Text} {d : Decision} (hplain : IsPlain user)
    (hlonger : splitLines user <+: splitLines longer)
    (h : decisionOf ((Ruleset.ofText user).query props) = some d) :
    ∃ d', decisionOf ((Ruleset.ofText longer).query props) = some d' ∧ d.rank ≤ d'.rank := by
  obtain ⟨more, hmore⟩ := hlonger
  rw [decisionOf, Ruleset.votes_ofText_of_isPlain hplain] at h
  -- a rule fires, so there is a first line, and it is that of the longer text
  have hne : splitLines user ≠ [] := by
    intro hnil
    rw [hnil] at h
    exact Option.some_ne_none d h.symm
  have hhead : ∀ line ∈ (splitLines longer).head?, Header.isDelimiter line = false := by
    intro line hline
    rw [← hmore, List.head?_append_of_ne_nil _ hne] at hline
    exact hplain line (List.mem_of_mem_head? hline)
  rw [decisionOf, Ruleset.votes_ofText_of_head hhead, ← hmore, votes_append]
  exact Decision.exists_aggregate_append h _

/-- If no text has a delimiter, neither the order of the rules nor that of the rulesets followed changes a
decision. Where a rule of the user fires, the rulesets followed are not asked, and further lines of the user
make the decision only stronger. -/
theorem decide_rearranged (hplain : ∀ text ∈ user :: feeds, IsPlain text) (huser : Rearranged user user')
    (hfeeds : FeedsRearranged feeds feeds') (suffixes : Option SuffixList) (props : Props) :
    let e := ofTexts user feeds suffixes
    let e' := ofTexts user' feeds' suffixes
    e'.decide props = e.decide props
      ∧ e'.subscribedDecision props = e.subscribedDecision props
      ∧ (e.user.query props ≠ [] →
        ∀ subscriptions, ({ e with subscriptions } : Engine).decide props = e.decide props)
      ∧ ∀ d, decisionOf (e.user.query props) = some d →
        e.decide props = some d
          ∧ ∀ longer, splitLines user <+: splitLines longer →
            ∃ d', (ofTexts longer feeds suffixes).decide props = some d' ∧ d.rank ≤ d'.rank := by
  intro e e'
  obtain ⟨hplain, hplainFeeds⟩ := List.forall_mem_cons.mp hplain
  have hsubscribed : e'.subscribedDecision props = e.subscribedDecision props :=
    subscribedDecision_rearranged hplainFeeds hfeeds
  have hvotes : decisionOf (e'.user.query props) = decisionOf (e.user.query props) :=
    Decision.aggregate_congr fun v => (Ruleset.votes_ofText_perm hplain huser props).mem_iff.symm
  refine ⟨?_, hsubscribed, fun hfired subscriptions => ?_, fun d hd => ⟨decide_eq_of_user hd, ?_⟩⟩
  · rw [decide, hvotes, hsubscribed]
    rfl
  · -- the rules of the user vote, so theirs is the decision with any rulesets followed
    obtain ⟨d, hd⟩ : ∃ d, decisionOf (e.user.query props) = some d :=
      Option.ne_none_iff_exists'.mp
        (mt (Decision.aggregate_eq_none_iff _).mp (mt List.map_eq_nil_iff.mp hfired))
    rw [decide_eq_of_user hd]
    exact decide_eq_of_user hd
  · intro longer hlonger
    obtain ⟨d', hd', hle⟩ := exists_decisionOf_of_prefix hplain hlonger hd
    exact ⟨d', decide_eq_of_user hd', hle⟩

/-- Three rules of a user and three in two rulesets followed, and one more rule of the user. -/
theorem decide_rearranged_example :
    let user := "@*://*.example.com/*\n@3*://*/videos/*\r\n*://ads.example.com/*".toList
    let user' := "*://ads.example.com/*\n@*://*.example.com/*\n@3*://*/videos/*".toList
    let longer := "@*://*.example.com/*\n@3*://*/videos/*\n*://ads.example.com/*\n@5*://*/*".toList
    let feeds := ["*://a.org/*\n@*://b.org/*".toList, "@2*://*.org/*".toList]
    let feeds' := ["@2*://*.org/*".toList, "@*://b.org/*\n*://a.org/*".toList]
    let props := [("url".toList, "https://ads.example.com/videos/1".toList)]
    (ofTexts user' feeds' none).decide props = some (.highlight 3)
      ∧ (ofTexts user feeds none).decide props = some (.highlight 3)
      ∧ ∃ d, (ofTexts longer feeds none).decide props = some d ∧ Decision.rank (.highlight 3) ≤ d.rank := by
  intro user user' longer feeds feeds' props
  have hplain : ∀ text ∈ user :: feeds, IsPlain text := by
    show ∀ text ∈ user :: feeds, ∀ line ∈ splitLines text, Header.isDelimiter line = false
    decide +kernel
  have huser : Rearranged user user' := by
    show (splitLines user).Perm (splitLines user')
    decide +kernel
  have hfeeds : FeedsRearranged feeds feeds' := by
    refine ⟨["@*://b.org/*\n*://a.org/*".toList, "@2*://*.org/*".toList], .cons ?_ (.cons ?_ .nil), ?_⟩
    · show (splitLines _).Perm (splitLines _)
      decide +kernel
    · exact List.Perm.refl _
    · exact List.Perm.swap _ _ _
  have hfired : decisionOf ((ofTexts user feeds none).user.query props) = some (.highlight 3) := by
    decide +kernel
  obtain ⟨heq, -, -, hmore⟩ := decide_rearranged hplain huser hfeeds none props
  obtain ⟨hdecide, hlonger⟩ := hmore _ hfired
  exact ⟨heq.trans hdecide, hdecide, hlonger longer (by decide +kernel)⟩

end Engine

end ResultFilter
