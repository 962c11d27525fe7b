import ResultFilter.Proofs.Ruleset.Sheet

/-!
# The votes of lines

For a decision only the specifiers of the rules that fire count, and these can be told line by line: a line
votes by itself, wherever it stands. Deleting a line silences it, and lines added vote after all others.

## Main definitions

* `votes` — the specifiers of the rules on some lines that fire.
* `Ruleset.Reachable` — the rulesets that a text and changes lead to.

## Main results

* `Reachable.query_foldl_delete` — a question after lines were deleted.
* `Reachable.votes_extend` — the votes after lines were added.
* `Ruleset.votes_ofText` — the lines of a header do not vote.
-/

namespace ResultFilter

open ResultFilter.Text

/-- The specifiers of the rules on some lines that fire on a search result. -/
def votes (lines : List Text) (props : Props) : List (Option Specifier) :=
  ((lines.filterMap Rule.ofLine?).filter (·.body.fires props)).map (·.specifier)

theorem votes_append (lines others : List Text) (props : Props) :
    votes (lines ++ others) props = votes lines props ++ votes others props := by
  rw [votes, List.filterMap_append, List.filter_append, List.map_append]
  rfl

namespace Sheet

theorem fired_append (s : Sheet) (lines : List (Option Text)) (props : Props) :
    ({ s with lines := s.lines ++ lines } : Sheet).fired props
      = s.fired props
        ++ LineRule.fired ((lines.zipIdx s.lines.length).filterMap s.ruleAt?) (·.fires props) := by
  rw [fired, rules_append, LineRule.fired, List.filter_append, List.map_append]
  rfl

theorem fired_set_none (s : Sheet) (i : Nat) (props : Props) :
    ({ s with lines := s.lines.set i none } : Sheet).fired props
      = (s.fired props).filter (·.line != i + 1) := by
  rw [fired, rules_set_none, LineRule.fired, List.filter_comm, fired, LineRule.fired, List.filter_map]
  rfl

theorem fired_delete (s : Sheet) (n : Nat) (props : Props) :
    (s.edit (.delete n)).fired props = (s.fired props).filter (·.line != n) := by
  show (if n = 0 then s else { s with lines := s.lines.set (n - 1) none }).fired props = _
  split
  · next hn =>
    -- lines are numbered from one
    refine (List.filter_eq_self.mpr fun m hm => ?_).symm
    obtain ⟨-, -, hlt, -⟩ := mem_fired_iff.mp hm
    rw [hn, bne_iff_ne]
    exact Nat.ne_zero_of_lt hlt
  · next hn => rw [fired_set_none, Nat.sub_add_cancel (Nat.pos_of_ne_zero hn)]

/-- Below the header a line votes by itself. -/
theorem votes_filterMap_ruleAt? (s : Sheet) (props : Props) : ∀ {lines : List Text} {n : Nat},
    s.header ≤ n →
    (LineRule.fired (((lines.map some).zipIdx n).filterMap s.ruleAt?) (·.fires props)).map (·.specifier)
      = votes lines props := by
  intro lines
  induction lines with
  | nil => intro n _; rfl
  | cons line lines ih =>
    intro n hn
    have hrule : s.ruleAt? (some line, n) = (Rule.ofLine? line).map fun rule =>
        ⟨n + 1, rule.specifier, rule.body⟩ := if_neg (Nat.not_lt.mpr hn)
    have hrest := ih (Nat.le_succ_of_le hn)
    unfold LineRule.fired votes at hrest ⊢
    rw [List.map_cons, List.zipIdx_cons, List.filterMap_cons, hrule, List.filterMap_cons]
    cases Rule.ofLine? line with
    | none => exact hrest
    | some rule =>
      cases hfires : rule.body.fires props with
      | false => simpa [hfires] using hrest
      | true => simpa [hfires, LineRule.toMatch] using hrest

end Sheet

namespace Ruleset

/-- A ruleset that is made from a text and changed by adding and deleting lines. -/
def Reachable (r : Ruleset) : Prop :=
  ∃ text changes, r = (ofText text).edits changes

theorem Reachable.edit {r : Ruleset} (hr : r.Reachable) (change : Edit) : (r.edit change).Reachable := by
  obtain ⟨text, changes, rfl⟩ := hr
  exact ⟨text, changes ++ [change], by simp [edits]⟩

theorem Reachable.exists_follows {r : Ruleset} (hr : r.Reachable) : ∃ s : Sheet, r.Follows s := by
  obtain ⟨text, changes, rfl⟩ := hr
  exact ⟨_, follows_edits text changes⟩

namespace Follows

variable {r : Ruleset} {s : Sheet} (hf : r.Follows s)
include hf

theorem query_delete (n : Nat) (props : Props) :
    (r.delete n).2.query props = (r.query props).filter (·.line != n) := by
  rw [(hf.delete n).query_eq, hf.query_eq, Sheet.fired_delete]

theorem votes_foldl_pushLine (lines : List Text) (props : Props) :
    ((lines.foldl Ruleset.pushLine r).query props).map (·.specifier)
      = (r.query props).map (·.specifier) ++ votes lines props := by
  rw [(hf.foldl_pushLine lines).query_eq, hf.query_eq, Sheet.fired_append, List.map_append,
    Sheet.votes_filterMap_ruleAt? s props hf.header_le]

end Follows

namespace Reachable

variable {r : Ruleset} (hr : r.Reachable)
include hr

theorem query_foldl_delete (ns : List Nat) (props : Props) :
    (ns.foldl (fun r n => (r.delete n).2) r).Reachable
      ∧ (ns.foldl (fun r n => (r.delete n).2) r).query props
        = (r.query props).filter fun m => !ns.contains m.line := by
  induction ns generalizing r with
  | nil => exact ⟨hr, by simp⟩
  | cons n ns ih =>
    obtain ⟨s, hf⟩ := hr.exists_follows
    obtain ⟨hreach, hquery⟩ := ih (hr.edit (.delete n))
    refine ⟨hreach, ?_⟩
    rw [List.foldl_cons]
    refine hquery.trans ?_
    rw [show r.edit (.delete n) = (r.delete n).2 from rfl, hf.query_delete, List.filter_filter]
    refine List.filter_congr fun m _ => ?_
    rw [List.contains_cons, Bool.not_or, bne, Bool.and_comm]

theorem votes_extend (text : Text) (props : Props) :
    ((r.extend text).query props).map (·.specifier)
      = (r.query props).map (·.specifier) ++ votes (splitLines text) props := by
  obtain ⟨s, hf⟩ := hr.exists_follows
  exact hf.votes_foldl_pushLine (splitLines text) props

end Reachable

theorem votes_ofText (text : Text) (props : Props) :
    ((ofText text).query props).map (·.specifier)
      = votes ((splitLines text).drop (Header.ofLines (splitLines text)).size) props := by
  obtain ⟨r, hstart, htext⟩ := follows_header text
  have hnone : r.query props = [] := by
    rw [hstart.query_eq, Sheet.fired, Sheet.rules_eq_nil]
    · rfl
    · rw [List.length_map]
      exact List.length_take_le _ _
  rw [htext, hstart.votes_foldl_pushLine, hnone, List.map_nil, List.nil_append]

end Ruleset

end ResultFilter
