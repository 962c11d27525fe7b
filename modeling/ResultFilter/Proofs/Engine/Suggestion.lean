import ResultFilter.Engine
import ResultFilter.Proofs.PublicSuffix
import ResultFilter.Proofs.Rule.Steps

/-!
# The suggested rule

A rule that is suggested for an address is one line, whatever the address is, and its mark tells which way
it turns the decision.

## Main results

* `splitLines_suggestedRule` — a suggested rule is one line.
* `specifier_of_suggestedRule` — its specifier, if it is a rule.
-/

namespace ResultFilter

open ResultFilter.Text

/-- A suggested rule is a pattern around a host, with a mark before it if it is to leave results alone. -/
theorem exists_host_of_suggestedRule {suffixes : Option SuffixList} {url line : Text}
    {unblock widen : Bool} (h : suggestedRule suffixes url unblock widen = some line) :
    ∃ host, (∀ c ∈ host, Host.isSpelling c = true)
      ∧ line = (if unblock then ['@'] else []) ++ "*://".toList ++ host ++ anyPath := by
  unfold suggestedRule at h
  split at h
  · exact absurd h (by simp)
  · next u hu =>
    split at h
    · exact absurd h (by simp)
    · refine ⟨_, ?_, (Option.some.inj h).symm⟩
      have hhost : ∀ c ∈ u.host, Host.isSpelling c = true := fun c => Url.isSpelling_of_mem_host hu
      intro c hc
      split at hc
      · rcases List.mem_cons.mp hc with rfl | hc
        · rfl
        · rcases List.mem_cons.mp hc with rfl | hc
          · rfl
          · exact isSpelling_of_mem_registrableDomain suffixes hhost hc
      · exact hhost c hc

/-- The path of a suggested rule ends in a star. -/
theorem getLast?_suggestedRule {suffixes : Option SuffixList} {url line : Text} {unblock widen : Bool}
    (h : suggestedRule suffixes url unblock widen = some line) : line.getLast? = some '*' := by
  obtain ⟨host, -, rfl⟩ := exists_host_of_suggestedRule h
  rw [List.getLast?_append]
  rfl

theorem splitLines_suggestedRule {suffixes : Option SuffixList} {url line : Text} {unblock widen : Bool}
    (h : suggestedRule suffixes url unblock widen = some line) : splitLines line = [line] := by
  have hlast := getLast?_suggestedRule h
  obtain ⟨host, hhost, rfl⟩ := exists_host_of_suggestedRule h
  -- no line end comes from the host, and the star at the end is no carriage return to be cut off
  have hbreak : '\n' ∉ (if unblock then ['@'] else []) ++ "*://".toList ++ host ++ anyPath := by
    simp only [List.mem_append, not_or]
    refine ⟨⟨⟨?_, by decide⟩, fun hmem => ?_⟩, by decide⟩
    · cases unblock <;> decide
    · exact absurd (hhost _ hmem) (by decide)
  rw [splitLines, if_neg, splitOn_of_not_mem hbreak, List.map_singleton, hlast, if_neg]
  · decide
  · rw [List.isEmpty_iff]
    exact List.append_ne_nil_of_right_ne_nil _ (List.cons_ne_nil _ _)

theorem specifier_of_suggestedRule {suffixes : Option SuffixList} {url line : Text} {unblock widen : Bool}
    {rule : Rule} (h : suggestedRule suffixes url unblock widen = some line)
    (hrule : Rule.ofLine line = .ok (some rule)) :
    rule.specifier = if unblock then some .negate else none := by
  obtain ⟨host, -, rfl⟩ := exists_host_of_suggestedRule h
  obtain ⟨rest, -, -, hspecifier, -⟩ := Rule.parts_of_ofLine hrule
  cases unblock with
  | true =>
    have hread : Rule.readSpecifier (trimStart (['@'] ++ "*://".toList ++ host ++ anyPath))
        = .ok (some .negate, "*://".toList ++ host ++ anyPath) := rfl
    exact (Prod.mk.inj (Except.ok.inj (hspecifier.symm.trans hread))).1
  | false =>
    have hread : Rule.readSpecifier (trimStart ([] ++ "*://".toList ++ host ++ anyPath))
        = .ok (none, "*://".toList ++ host ++ anyPath) := rfl
    exact (Prod.mk.inj (Except.ok.inj (hspecifier.symm.trans hread))).1

end ResultFilter
