import Mathlib.Data.List.Basic
import ResultFilter.Proofs.Host.Reread
import ResultFilter.PublicSuffix

/-!
# Registrable domains as hosts

A registrable domain is some of the labels at the end of its host, whether the list has it or the rule of
thumb. The domain of a name that is read as it is written, and that does not end in dots, is read as it is
written too.

## Main definitions

* `Host.bare` — a host in small letters, without the dots at its end.
* `Host.endsInDots` — whether dots are left at the end of a host without its final one.

## Main results

* `exists_labels_of_registrableDomain` — a registrable domain is some of the labels at the end of the host.
* `isSpelling_of_mem_registrableDomain` — it is written in the characters of hosts.
* `keepsLabels_registrableDomain` — it is read as it is written, and its labels end those of the host.
-/

namespace ResultFilter

open ResultFilter.Text

theorem isSpelling_toLower {c : Char} (h : Host.isSpelling c = true) :
    Host.isSpelling c.toLower = true := by
  have := Host.forall_ascii (p := fun c => !Host.isSpelling c || Host.isSpelling c.toLower)
    (by decide) (Host.toNat_lt_of_isSpelling h)
  rwa [h, Bool.not_true, Bool.false_or] at this

/-- A host in small letters, without the dots at its end. -/
def Host.bare (host : Text) : Text :=
  lowerAscii (host.reverse.dropWhile (· == '.')).reverse

/-- A registrable domain is some of the labels at the end of the host. -/
theorem exists_labels_of_registrableDomain (list : Option SuffixList) (host : Text) :
    ∃ labels, labels ≠ [] ∧ labels <:+ Host.splitDots (Host.bare host)
      ∧ registrableDomain list host = Host.joinDots labels := by
  have hne : Host.splitDots (Host.bare host) ≠ [] := Text.splitOn_ne_nil '.' _
  unfold registrableDomain
  rw [← Host.bare]
  dsimp only
  split
  · exact ⟨_, hne, List.suffix_refl _, (Host.joinDots_splitDots _).symm⟩
  -- the labels come from the list or from the rule of thumb
  cases hlist : list.bind (·.registrable? (Host.bare host)) with
  | some domain =>
    obtain ⟨suffixes, -, hdomain⟩ := Option.bind_eq_some_iff.mp hlist
    unfold SuffixList.registrable? at hdomain
    split at hdomain
    · exact absurd hdomain (by simp)
    dsimp only at hdomain
    split at hdomain
    · exact absurd hdomain (by simp)
    · exact absurd hdomain (by simp)
    · refine ⟨_, ?_, ?_, (Option.some.inj hdomain).symm⟩
      · rw [ne_eq, List.reverse_eq_nil_iff, List.take_eq_nil_iff, not_or, List.reverse_eq_nil_iff]
        exact ⟨Nat.succ_ne_zero _, hne⟩
      · rw [← List.reverse_prefix, List.reverse_reverse]
        exact List.take_prefix _ _
  | none =>
    have hlength := List.length_pos_iff.mpr hne
    rw [Option.getD_none]
    simp only [guessRegistrable]
    split
    all_goals
      refine ⟨_, List.ne_nil_of_length_pos ?_, List.drop_suffix _ _, rfl⟩
      rw [List.length_drop]
      omega

/-- A registrable domain is written in the characters of hosts if the host is. -/
theorem isSpelling_of_mem_registrableDomain (list : Option SuffixList) {host : Text}
    (hhost : ∀ c ∈ host, Host.isSpelling c = true) {c : Char} (hc : c ∈ registrableDomain list host) :
    Host.isSpelling c = true := by
  obtain ⟨labels, -, hlabels, hdomain⟩ := exists_labels_of_registrableDomain list host
  rw [hdomain] at hc
  rcases Text.mem_join hc with hdot | ⟨label, hlabel, hc⟩
  · obtain rfl := List.mem_singleton.mp hdot
    rfl
  · have hbare := Text.mem_of_mem_splitOn (hlabels.subset hlabel) hc
    obtain ⟨d, hd, rfl⟩ := List.mem_map.mp hbare
    have hmem := (List.dropWhile_sublist _).mem (List.mem_reverse.mp hd)
    exact isSpelling_toLower (hhost d (List.mem_reverse.mp hmem))

/-! ### Domains that are read again -/

namespace Host

/-- Whether dots are left at the end of a host without its final one, or nothing. -/
def endsInDots (host : Text) : Bool :=
  (dropFinalEmpty (splitDots host)).getLast? == some []

theorem dropFinalEmpty_subset (labels : List Text) : dropFinalEmpty labels ⊆ labels := by
  unfold dropFinalEmpty
  split
  · exact List.dropLast_subset labels
  · exact List.Subset.refl labels

theorem endsInNumber_congr {a b : Text}
    (h : (dropFinalEmpty (splitDots a)).getLast? = (dropFinalEmpty (splitDots b)).getLast?) :
    endsInNumber a = endsInNumber b := by
  rw [endsInNumber, endsInNumber, h]

section Joined

variable {name : Text} {labels : List Text} (hmem : ∀ label ∈ labels, label ∈ splitDots name)

include hmem

theorem splitDots_joinDots_of_mem (hne : labels ≠ []) : splitDots (joinDots labels) = labels :=
  splitDots_joinDots hne fun label hlabel => Text.not_mem_of_mem_splitOn (hmem label hlabel)

theorem mem_joinDots_of_mem {c : Char} (hc : c ∈ joinDots labels) : c = '.' ∨ c ∈ name := by
  rcases Text.mem_join hc with hdot | ⟨label, hlabel, hc⟩
  · exact Or.inl (List.mem_singleton.mp hdot)
  · exact Or.inr (Text.mem_of_mem_splitOn (hmem label hlabel) hc)

/-- Labels of an ordinary name make an ordinary name. -/
theorem isOrdinary_joinDots (hne : labels ≠ []) (hord : isOrdinary name = true) :
    isOrdinary (joinDots labels) = true := by
  obtain ⟨hlower, hmarks⟩ := isOrdinary_iff.mp hord
  refine isOrdinary_iff.mpr ⟨lowerAscii_eq_self_iff.mpr fun c hc => ?_, fun label hlabel => ?_⟩
  · rcases mem_joinDots_of_mem hmem hc with rfl | hc
    · rfl
    · exact lowerAscii_eq_self_iff.mp hlower c hc
  · rw [splitDots_joinDots_of_mem hmem hne] at hlabel
    exact hmarks label (hmem label hlabel)

end Joined

theorem joinDots_concat_nil {labels : List Text} (h : labels ≠ []) :
    joinDots (labels ++ [[]]) = joinDots labels ++ ['.'] := by
  rw [joinDots, Text.join_concat [] h, List.append_nil]
  rfl

theorem getLast?_joinDots {labels : List Text} {label : Text} (h : labels.getLast? = some label)
    (hne : label ≠ []) : (joinDots labels).getLast? = label.getLast? := by
  obtain ⟨init, rfl⟩ := List.getLast?_eq_some_iff.mp h
  rcases eq_or_ne init [] with rfl | hinit
  · rfl
  · rw [joinDots, Text.join_concat label hinit, List.getLast?_append_of_ne_nil _ hne]

theorem dropDots_of_getLast?_ne {cs : Text} (h : cs.getLast? ≠ some '.') :
    (cs.reverse.dropWhile (· == '.')).reverse = cs := by
  rw [List.dropWhile_beq_eq_self_of_head?_ne (by rwa [List.head?_reverse]), List.reverse_reverse]

/-- A host that does not end in dots has a last label, and an empty one behind it if it ends in a dot. -/
theorem exists_last_of_not_endsInDots {host : Text} (hne : host ≠ []) (hdots : endsInDots host = false) :
    ∃ init last, last ≠ [] ∧ dropFinalEmpty (splitDots host) = init ++ [last]
      ∧ (splitDots host = init ++ [last] ∨ splitDots host = init ++ [last] ++ [[]]) := by
  have hlast : (dropFinalEmpty (splitDots host)).getLast? ≠ some [] := by
    rw [endsInDots] at hdots
    simpa using hdots
  obtain ⟨labels, final, hsplit⟩ := (List.eq_nil_or_concat _).resolve_left (Text.splitOn_ne_nil '.' host)
  rw [← splitDots, List.concat_eq_append] at hsplit
  rcases eq_or_ne final [] with rfl | hfinal
  · have hdrop : dropFinalEmpty (splitDots host) = labels := by
      rw [hsplit, dropFinalEmpty, List.getLast?_concat, List.dropLast_concat]
      rfl
    rw [hdrop] at hlast ⊢
    rcases List.eq_nil_or_concat labels with rfl | ⟨init, last, rfl⟩
    · -- a host with one label, which is empty, is empty
      have hnil := joinDots_splitDots host
      rw [hsplit] at hnil
      exact absurd hnil.symm hne
    · rw [List.concat_eq_append] at hlast hsplit ⊢
      refine ⟨init, last, fun h => hlast ?_, rfl, Or.inr hsplit⟩
      rw [List.getLast?_concat, h]
  · refine ⟨labels, final, hfinal, ?_, Or.inl hsplit⟩
    rw [hsplit, dropFinalEmpty, List.getLast?_concat, if_neg (by simpa using hfinal)]

/-- The bare form of a host that does not end in dots has its labels, but for the empty one behind a final
dot. -/
theorem splitDots_bare {host : Text} (hlower : lowerAscii host = host) (hne : host ≠ [])
    (hdots : endsInDots host = false) : splitDots (bare host) = dropFinalEmpty (splitDots host) := by
  have hmem := dropFinalEmpty_subset (splitDots host)
  obtain ⟨init, last, hlast, hdrop, hsplit⟩ := exists_last_of_not_endsInDots hne hdots
  rw [hdrop] at hmem ⊢
  have hnames : init ++ [last] ≠ [] := List.append_ne_nil_of_right_ne_nil _ (List.cons_ne_nil _ _)
  have hend : (joinDots (init ++ [last])).getLast? ≠ some '.' := by
    rw [getLast?_joinDots List.getLast?_concat hlast]
    intro h
    have hdot : '.' ∉ last := Text.not_mem_of_mem_splitOn (hmem (List.mem_append_right _ List.mem_cons_self))
    exact hdot (List.mem_of_getLast? h)
  have hstrip : (host.reverse.dropWhile (· == '.')).reverse = joinDots (init ++ [last]) := by
    rw [← joinDots_splitDots host]
    rcases hsplit with h | h
    · rw [h]
      exact dropDots_of_getLast?_ne hend
    · rw [h, joinDots_concat_nil hnames, List.reverse_concat, List.dropWhile_cons_of_pos rfl]
      exact dropDots_of_getLast?_ne hend
  have hbare : bare host = joinDots (init ++ [last]) := by
    rw [bare, hstrip]
    refine lowerAscii_eq_self_iff.mpr fun c hc => lowerAscii_eq_self_iff.mp hlower c ?_
    rw [← hstrip] at hc
    exact List.mem_reverse.mp ((List.dropWhile_sublist _).mem (List.mem_reverse.mp hc))
  rw [hbare, splitDots_joinDots_of_mem (fun label hlabel => hmem hlabel) hnames]

theorem reversedLabels_eq {host : Text} (hne : host ≠ []) (hdots : endsInDots host = false) :
    reversedLabels host = (dropFinalEmpty (splitDots host)).reverse.filter (!·.isEmpty) := by
  obtain ⟨init, last, -, hdrop, hsplit⟩ := exists_last_of_not_endsInDots hne hdots
  rw [reversedLabels, hdrop]
  rcases hsplit with h | h
  · rw [h]
  · rw [h, List.reverse_concat]
    rfl

end Host

/-- The registrable domain of a name that is read as it is written, and does not end in dots, is read as it
is written, and its labels end those of the name. -/
theorem keepsLabels_registrableDomain (list : Option SuffixList) {name : Text}
    (hname : ∀ c ∈ name, Host.isNameChar c = true) (hord : Host.isOrdinary name = true) (hne : name ≠ [])
    (hnumber : Host.endsInNumber name = false) (hdots : Host.endsInDots name = false) :
    Host.KeepsLabels (registrableDomain list name)
      ∧ Host.reversedLabels (registrableDomain list name) <+: Host.reversedLabels name := by
  obtain ⟨labels, hlabels, hsuffix, hdomain⟩ := exists_labels_of_registrableDomain list name
  rw [Host.splitDots_bare (Host.isOrdinary_iff.mp hord).1 hne hdots] at hsuffix
  have hmem : ∀ label ∈ labels, label ∈ Host.splitDots name := fun label hlabel =>
    Host.dropFinalEmpty_subset _ (hsuffix.subset hlabel)
  have hjoined := Host.splitDots_joinDots_of_mem hmem hlabels
  obtain ⟨init, last, hlast, hdrop, -⟩ := Host.exists_last_of_not_endsInDots hne hdots
  -- the domain ends in the last label of the name, so it is no number either
  have hend : labels.getLast? = some last := by
    obtain ⟨front, hfront⟩ := hsuffix
    have h := congrArg List.getLast? hfront
    rwa [hdrop, List.getLast?_append_of_ne_nil _ hlabels, List.getLast?_concat] at h
  have hsame : Host.endsInNumber (Host.joinDots labels) = Host.endsInNumber name := by
    refine Host.endsInNumber_congr ?_
    rw [hjoined, hdrop, List.getLast?_concat, Host.dropFinalEmpty, hend, if_neg (by simpa using hlast), hend]
  rw [hdomain]
  refine ⟨Host.keepsLabels_of_name (fun c hc => ?_) (Host.isOrdinary_joinDots hmem hlabels hord) ?_
    (hsame.trans hnumber), ?_⟩
  · rcases Host.mem_joinDots_of_mem hmem hc with rfl | hc
    · rfl
    · exact hname c hc
  · intro hnil
    rw [hnil] at hjoined
    rw [← hjoined] at hend
    exact hlast (Option.some.inj hend).symm
  · rw [Host.reversedLabels_eq hne hdots, Host.reversedLabels, hjoined]
    exact (List.reverse_prefix.mpr hsuffix).filter _

end ResultFilter
