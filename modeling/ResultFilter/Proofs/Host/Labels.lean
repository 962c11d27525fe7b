import ResultFilter.Pattern
import ResultFilter.Proofs.Text

/-!
# The labels of a host

The labels of a host stand between its dots, and empty ones do not count: a text without dots is its own
label, and a dot parts the labels before it from those behind it, which come first because labels are listed
from the outermost inwards.

So the host of a pattern covers what a reader of the pattern expects, unless a host has empty labels: one host
covers itself alone, and a domain with everything below covers itself and each text that ends in a dot and the
domain.

## Main results

* `Host.reversedLabels_of_not_mem`, `Host.reversedLabels_append` — the labels of a text without dots, and of
  two texts with a dot between them.
* `Host.reversedLabels_eq_nil_iff` — the hosts without a label.
* `HostPattern.covers_iff_eq`, `HostPattern.covers_iff_below` — the hosts that a pattern covers.
-/

namespace ResultFilter

open ResultFilter.Text

namespace Host

theorem splitDots_append (front back : Text) :
    splitDots (front ++ '.' :: back) = splitDots front ++ splitDots back :=
  splitOn_append_cons front back

/-- A text without dots is its own label. -/
theorem reversedLabels_of_not_mem {label : Text} (hdot : '.' ∉ label) (hne : label ≠ []) :
    reversedLabels label = [label] := by
  have hsplit : splitDots label = [label] := splitOn_of_not_mem hdot
  rw [reversedLabels, hsplit, List.reverse_singleton, List.filter_cons_of_pos (by simpa using hne), List.filter_nil]

/-- A dot parts labels, of which those behind it come first. -/
theorem reversedLabels_append (front back : Text) :
    reversedLabels (front ++ '.' :: back) = reversedLabels back ++ reversedLabels front := by
  rw [reversedLabels, splitDots_append, List.reverse_append, List.filter_append, reversedLabels, reversedLabels]

theorem forall_splitDots_eq_nil_iff {host : Text} :
    (∀ label ∈ splitDots host, label = []) ↔ ∀ c ∈ host, c = '.' := by
  induction host with
  | nil => simp
  | cons c host ih =>
    by_cases hc : c = '.'
    · rw [splitDots, Text.splitOn, if_pos hc, ← splitDots]
      simpa [hc] using ih
    · rw [splitDots, Text.splitOn, if_neg hc]
      constructor
      · intro h
        split at h
        · exact absurd (h _ List.mem_cons_self) (by simp)
        · exact absurd (h _ List.mem_cons_self) (by simp)
      · exact fun h => absurd (h c List.mem_cons_self) hc

/-- A host has no label just if it is made of dots. -/
theorem reversedLabels_eq_nil_iff {host : Text} : reversedLabels host = [] ↔ ∀ c ∈ host, c = '.' := by
  rw [← forall_splitDots_eq_nil_iff, reversedLabels, List.filter_eq_nil_iff]
  simp

/-! ### Hosts without empty labels -/

theorem reversedLabels_of_proper {host : Text} (h : [] ∉ splitDots host) :
    reversedLabels host = (splitDots host).reverse := by
  rw [reversedLabels, List.filter_eq_self]
  intro label hlabel
  have hne : label ≠ [] := by
    rintro rfl
    exact h (List.mem_reverse.mp hlabel)
  simpa using hne

theorem eq_of_splitDots_eq {host other : Text} (h : splitDots host = splitDots other) : host = other := by
  rw [← joinDots_splitDots host, h, joinDots_splitDots]

/-- The labels of a domain end those of a host just if the host is the domain, or ends in a dot and the
domain. -/
theorem splitDots_suffix_iff {domain host : Text} :
    splitDots domain <:+ splitDots host ↔ host = domain ∨ ∃ front, host = front ++ '.' :: domain := by
  constructor
  · rintro ⟨labels, hlabels⟩
    rcases eq_or_ne labels [] with rfl | hne
    · rw [List.nil_append] at hlabels
      exact Or.inl (eq_of_splitDots_eq hlabels.symm)
    · -- the labels before those of the domain, joined again, are what stands before it
      have hdots : ∀ label ∈ labels, '.' ∉ label := by
        intro label hlabel
        have hin : label ∈ splitDots host := hlabels ▸ List.mem_append_left _ hlabel
        exact not_mem_of_mem_splitOn hin
      have hjoined : splitDots (joinDots labels) = labels := splitOn_join hne hdots
      refine Or.inr ⟨joinDots labels, eq_of_splitDots_eq ?_⟩
      rw [splitDots_append, hjoined, hlabels]
  · rintro (rfl | ⟨front, rfl⟩)
    · exact List.suffix_rfl
    · rw [splitDots_append]
      exact List.suffix_append _ _

end Host

/-! ### The hosts that a pattern covers -/

namespace HostPattern

theorem covers_iff_of_isWildcard {p : HostPattern} (hp : p.isWildcard = true) {host : Text} :
    p.covers host = true ↔ Host.reversedLabels p.domain <+: Host.reversedLabels host := by
  unfold covers
  dsimp only
  rw [hp, if_pos rfl]
  exact List.isPrefixOf_iff_prefix

theorem covers_exact_iff {host other : Text} :
    (exact host).covers other = true ↔ Host.reversedLabels host = Host.reversedLabels other :=
  beq_iff_eq

/-- The star alone covers every host. -/
theorem covers_any (host : Text) : any.covers host = true :=
  (covers_iff_of_isWildcard rfl).mpr List.nil_prefix

/-- One host covers itself alone. -/
theorem covers_iff_eq {host other : Text} (hhost : [] ∉ Host.splitDots host) (hother : [] ∉ Host.splitDots other) :
    (exact host).covers other = true ↔ other = host := by
  rw [covers_exact_iff, Host.reversedLabels_of_proper hhost, Host.reversedLabels_of_proper hother,
    List.reverse_inj]
  constructor
  · intro h
    exact Host.eq_of_splitDots_eq h.symm
  · rintro rfl
    rfl

/-- A domain with everything below covers itself and what ends in a dot and the domain. -/
theorem covers_iff_below {domain other : Text} (hdomain : [] ∉ Host.splitDots domain)
    (hother : [] ∉ Host.splitDots other) :
    (subdomains domain).covers other = true ↔ other = domain ∨ ∃ front, other = front ++ '.' :: domain := by
  have hcovers : (subdomains domain).covers other = true
      ↔ Host.reversedLabels domain <+: Host.reversedLabels other := covers_iff_of_isWildcard rfl
  rw [hcovers, Host.reversedLabels_of_proper hdomain, Host.reversedLabels_of_proper hother, List.reverse_prefix,
    Host.splitDots_suffix_iff]

end HostPattern

end ResultFilter
