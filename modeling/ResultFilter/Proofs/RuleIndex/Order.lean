import Mathlib.Data.List.Nodup
import ResultFilter.RuleIndex.Basic

/-!
# The order of matches

The answer to a question is put together match by match, each in its place. If no two of the matches are
of one line, the answer is all of them in ascending order of the lines, whatever the order in which they
were found; and an ascending list is known by its members. Of matches of one line one is left, so the lines
of the answer are always those of all matches.

## Main results

* `RuleIndex.query_perm` — the answer to a question.
* `RuleIndex.mem_lines_query` — the lines of the answer.
* `RuleMatch.eq_of_perm` — two ascending lists with the same members are equal.
-/

namespace ResultFilter

namespace RuleMatch

/-! ### Putting matches in their places -/

theorem put_perm {m : RuleMatch} {ms : List RuleMatch} (hm : m.line ∉ ms.map (·.line)) :
    (m.put ms).Perm (m :: ms) := by
  induction ms with
  | nil => exact .refl _
  | cons n rest ih =>
    simp only [List.map_cons, List.mem_cons, not_or] at hm
    rw [put, if_neg hm.1]
    split
    · exact .refl _
    · exact ((ih hm.2).cons n).trans (.swap m n rest)

theorem pairwise_put {m : RuleMatch} {ms : List RuleMatch} (hm : m.line ∉ ms.map (·.line))
    (hs : ms.Pairwise (·.line < ·.line)) : (m.put ms).Pairwise (·.line < ·.line) := by
  induction ms with
  | nil => exact List.pairwise_singleton _ m
  | cons n rest ih =>
    simp only [List.map_cons, List.mem_cons, not_or] at hm
    obtain ⟨hn, hrest⟩ := List.pairwise_cons.mp hs
    rw [put, if_neg hm.1]
    split
    · next hlt =>
      refine List.pairwise_cons.mpr ⟨fun x hx => ?_, hs⟩
      rcases List.mem_cons.mp hx with rfl | hx
      · exact hlt
      · exact Nat.lt_trans hlt (hn x hx)
    · next hge =>
      refine List.pairwise_cons.mpr ⟨fun x hx => ?_, ih hm.2 hrest⟩
      rcases List.mem_cons.mp ((put_perm hm.2).mem_iff.mp hx) with rfl | hx
      · exact Nat.lt_of_le_of_ne (Nat.le_of_not_lt hge) (Ne.symm hm.1)
      · exact hn x hx

/-- If all lines differ, the next match has a line of its own, and all still differ when it is put in its
place. -/
theorem nodup_append_put {m : RuleMatch} {l ms : List RuleMatch}
    (hn : ((m :: l ++ ms).map (·.line)).Nodup) :
    m.line ∉ ms.map (·.line) ∧ (l ++ m.put ms).Perm (m :: l ++ ms) := by
  have hm : m.line ∉ ms.map (·.line) := by
    rw [List.cons_append, List.map_cons, List.map_append] at hn
    exact fun hmem => (List.nodup_cons.mp hn).1 (List.mem_append_right _ hmem)
  exact ⟨hm, ((put_perm hm).append_left l).trans List.perm_middle⟩

/-- Matches of different lines, put in their places one after another. -/
theorem foldl_put : ∀ {l ms : List RuleMatch}, ((l ++ ms).map (·.line)).Nodup →
    ms.Pairwise (·.line < ·.line) →
    (l.foldl (fun ms m => m.put ms) ms).Perm (l ++ ms)
      ∧ (l.foldl (fun ms m => m.put ms) ms).Pairwise (·.line < ·.line) := by
  intro l
  induction l with
  | nil => intro ms _ hs; exact ⟨.refl _, hs⟩
  | cons m l ih =>
    intro ms hn hs
    -- a match put in its place leaves those to come and those in place the same together
    obtain ⟨hm, hmove⟩ := nodup_append_put hn
    obtain ⟨hp, hsorted⟩ := ih ((hmove.map _).nodup_iff.mpr hn) (pairwise_put hm hs)
    exact ⟨hp.trans hmove, hsorted⟩

/-- Where all lines differ it makes no difference that a match gives way to one of its line. -/
theorem foldl_putNew_eq : ∀ {l ms : List RuleMatch}, ((l ++ ms).map (·.line)).Nodup →
    l.foldl (fun ms m => m.putNew ms) ms = l.foldl (fun ms m => m.put ms) ms := by
  intro l
  induction l with
  | nil => intro ms _; rfl
  | cons m l ih =>
    intro ms hn
    obtain ⟨hm, hmove⟩ := nodup_append_put hn
    have hnew : m.putNew ms = m.put ms := by
      rw [putNew, if_neg]
      intro hany
      obtain ⟨x, hx, heq⟩ := List.any_eq_true.mp hany
      exact hm (List.mem_map.mpr ⟨x, hx, by simpa using heq⟩)
    rw [List.foldl_cons, List.foldl_cons, hnew]
    exact ih ((hmove.map _).nodup_iff.mpr hn)

/-! ### Lines -/

section Lines

variable {n : Nat}

theorem mem_lines_put {m : RuleMatch} {ms : List RuleMatch} :
    n ∈ (m.put ms).map (·.line) ↔ n = m.line ∨ n ∈ ms.map (·.line) := by
  induction ms with
  | nil => rw [put, List.map_singleton, List.map_nil, List.mem_singleton, or_iff_left List.not_mem_nil]
  | cons k rest ih =>
    rw [put]
    split
    · rw [List.map_cons, List.mem_cons]
    · split
      · next heq => rw [List.map_cons, List.map_cons, List.mem_cons, List.mem_cons, heq, or_self_left]
      · rw [List.map_cons, List.mem_cons, ih, List.map_cons, List.mem_cons, or_left_comm]

theorem mem_lines_putNew {m : RuleMatch} {ms : List RuleMatch} :
    n ∈ (m.putNew ms).map (·.line) ↔ n = m.line ∨ n ∈ ms.map (·.line) := by
  rw [putNew]
  split
  · next hany =>
    obtain ⟨x, hx, hline⟩ := List.any_eq_true.mp hany
    have hmem : m.line ∈ ms.map (·.line) := List.mem_map.mpr ⟨x, hx, eq_of_beq hline⟩
    exact (or_iff_right_of_imp fun h => h ▸ hmem).symm
  · exact mem_lines_put

/-- Putting matches in, in whichever way, puts in their lines. -/
theorem mem_lines_foldl {f : List RuleMatch → RuleMatch → List RuleMatch}
    (hf : ∀ ms m, n ∈ (f ms m).map (·.line) ↔ n = m.line ∨ n ∈ ms.map (·.line)) :
    ∀ {l ms : List RuleMatch}, n ∈ (l.foldl f ms).map (·.line) ↔ n ∈ l.map (·.line) ∨ n ∈ ms.map (·.line) := by
  intro l
  induction l with
  | nil => intro ms; rw [List.foldl_nil, List.map_nil, or_iff_right List.not_mem_nil]
  | cons m l ih => intro ms; rw [List.foldl_cons, ih, hf, List.map_cons, List.mem_cons, or_assoc, or_left_comm]

end Lines

/-- Two lists in ascending order of the lines with the same members are equal. -/
theorem eq_of_perm {l l' : List RuleMatch} (hs : l.Pairwise (·.line < ·.line))
    (hs' : l'.Pairwise (·.line < ·.line)) (hp : l.Perm l') : l = l' :=
  hp.eq_of_pairwise (fun _ _ _ _ h h' => absurd h (Nat.lt_asymm h')) hs hs'

end RuleMatch

namespace RuleIndex

/-- The matches of the rules without a pattern, in the order in which they are found. -/
def firedOthers (index : RuleIndex) (props : Props) : List RuleMatch :=
  firedRegexes .url index.url props ++ firedRegexes .title index.title props
    ++ LineRule.fired index.expressions (·.eval props)

/-- If no two of the rules that fire are of one line, the answer to a question is all of them, in the order
of their lines. -/
theorem query_perm {index : RuleIndex} {props : Props}
    (hn : ((index.firedOthers props ++ index.firedPatterns props).map (·.line)).Nodup) :
    (index.query props).Perm (index.firedOthers props ++ index.firedPatterns props)
      ∧ (index.query props).Pairwise (·.line < ·.line) := by
  have hpatterns : ((index.firedPatterns props ++ []).map RuleMatch.line).Nodup := by
    rw [List.append_nil]
    rw [List.map_append] at hn
    exact hn.of_append_right
  obtain ⟨hp, hs⟩ := RuleMatch.foldl_put hpatterns List.Pairwise.nil
  rw [List.append_nil] at hp
  -- all lines differ, so none of the others gives way to a rule with a pattern
  have hall := ((hp.append_left (index.firedOthers props)).map RuleMatch.line).nodup_iff.mpr hn
  obtain ⟨hp', hs'⟩ := RuleMatch.foldl_put hall hs
  have hquery : index.query props = _ := RuleMatch.foldl_putNew_eq hall
  exact hquery ▸ ⟨hp'.trans (hp.append_left _), hs'⟩

/-- The lines of the answer to a question are those of all rules that fire. -/
theorem mem_lines_query {index : RuleIndex} {props : Props} {n : Nat} :
    n ∈ (index.query props).map (·.line)
      ↔ n ∈ (index.firedOthers props).map (·.line) ∨ n ∈ (index.firedPatterns props).map (·.line) := by
  have hpatterns : n ∈ ((index.firedPatterns props).foldl (fun ms m => m.put ms) []).map (·.line)
      ↔ n ∈ (index.firedPatterns props).map (·.line) := by
    rw [RuleMatch.mem_lines_foldl fun _ _ => RuleMatch.mem_lines_put, List.map_nil,
      or_iff_left List.not_mem_nil]
  rw [← hpatterns]
  exact RuleMatch.mem_lines_foldl fun _ _ => RuleMatch.mem_lines_putNew

end RuleIndex

end ResultFilter
