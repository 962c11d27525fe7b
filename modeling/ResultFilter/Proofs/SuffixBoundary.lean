import Mathlib.Data.List.DropRight
import ResultFilter.Engine
import ResultFilter.Proofs.PublicSuffix

/-!
# Registrable domains and public suffixes

The registrable domain of a host is some of its last labels: one more than its public suffix has, if there is
one more, and otherwise two or three by the rule of thumb. The rule of thumb knows nothing of the list. For a
host that is itself a public suffix of more labels than that it answers with a domain above the suffix, and a
rule for this domain covers the names that others have registered there.

## Main definitions

* `SuffixList.suffixLabels` — the labels of the public suffix of a host.
* `SuffixList.IsSuffix` — a host with no name before its public suffix.
* `guessSize` — how many labels the rule of thumb keeps.
* `IsAbove` — a domain is above a suffix.

## Main results

* `SuffixList.registrable?_eq_none_iff` — the hosts for which a list has no registrable domain.
* `registrableDomain_isAbove_iff` — the hosts whose registrable domain is above their public suffix.
-/

namespace List

/-- The last members of a list are fewer than those of an end of it just if these end in them, and are not the
same. -/
theorem rtake_suffix_and_ne_iff {α : Type*} {l s : List α} (h : s <:+ l) (n : ℕ) :
    l.rtake n <:+ s ∧ l.rtake n ≠ s ↔ n < s.length := by
  have hle := h.length_le
  have hlength : (l.rtake n).length = l.length - (l.length - n) := by rw [rtake, length_drop]
  constructor
  · rintro ⟨hsuffix, hne⟩
    have hlt := Nat.lt_of_le_of_ne hsuffix.length_le fun heq => hne (hsuffix.eq_of_length heq)
    omega
  · intro hn
    refine ⟨suffix_of_suffix_length_le (drop_suffix _ _) h (by omega), fun heq => ?_⟩
    rw [heq] at hlength
    omega

end List

namespace ResultFilter

open ResultFilter.Text

/-- A domain is above a suffix: its labels are some at the end of those of the suffix, and not all of them. -/
def IsAbove (domain : Text) (suffix : List Text) : Prop :=
  Host.splitDots domain <:+ suffix ∧ Host.splitDots domain ≠ suffix

instance (domain : Text) (suffix : List Text) : Decidable (IsAbove domain suffix) :=
  inferInstanceAs (Decidable (_ ∧ _))

/-! ### The last labels of a host -/

theorem Host.splitDots_joinDots_rtake (host : Text) {n : ℕ} (hn : 0 < n) :
    splitDots (joinDots ((splitDots host).rtake n)) = (splitDots host).rtake n := by
  have hpos : 0 < (splitDots host).length := List.length_pos_iff.mpr (Text.splitOn_ne_nil '.' host)
  refine splitDots_joinDots (List.ne_nil_of_length_pos ?_) fun label hlabel => ?_
  · rw [List.rtake, List.length_drop]
    omega
  · exact Text.not_mem_of_mem_splitOn (List.mem_of_mem_drop hlabel)

/-- How many labels the rule of thumb keeps of a host. -/
def guessSize (host : Text) : ℕ :=
  if commonSuffixes.contains (Host.joinDots ((Host.splitDots host).rtake 2)) then 3 else 2

theorem splitDots_guessRegistrable (host : Text) :
    Host.splitDots (guessRegistrable host) = (Host.splitDots host).rtake (guessSize host) := by
  have hguess : guessRegistrable host = Host.joinDots ((Host.splitDots host).rtake (guessSize host)) := by
    unfold guessSize
    split
    · next hcommon => exact if_pos hcommon
    · next hcommon => exact if_neg hcommon
  rw [hguess, Host.splitDots_joinDots_rtake]
  rw [guessSize]
  split <;> decide

namespace SuffixList

/-- The labels of the public suffix that a list gives to a host. -/
def suffixLabels (list : SuffixList) (host : Text) : List Text :=
  (Host.splitDots host).rtake (list.suffixSize (Host.splitDots host).reverse)

/-- A host has no name before its public suffix: it is the suffix, or there is only a dot before it. -/
def IsSuffix (list : SuffixList) (host : Text) : Prop :=
  Host.splitDots host = list.suffixLabels host ∨ Host.splitDots host = [] :: list.suffixLabels host

theorem suffixLabels_suffix (list : SuffixList) (host : Text) :
    list.suffixLabels host <:+ Host.splitDots host :=
  List.drop_suffix _ _

theorem length_suffixLabels_le (list : SuffixList) (host : Text) :
    (list.suffixLabels host).length ≤ list.suffixSize (Host.splitDots host).reverse := by
  rw [suffixLabels, List.rtake, List.length_drop]
  omega

/-- What stands before the suffix of a host is seen from the end as what follows the suffix. -/
theorem reverse_splitDots_drop (list : SuffixList) (host : Text) (front : List Text) :
    (Host.splitDots host).reverse.drop (list.suffixSize (Host.splitDots host).reverse) = front.reverse
      ↔ Host.splitDots host = front ++ list.suffixLabels host := by
  rw [List.drop_reverse, List.reverse_inj, suffixLabels, List.rtake]
  conv_rhs => lhs; rw [← List.take_append_drop
    ((Host.splitDots host).length - list.suffixSize (Host.splitDots host).reverse) (Host.splitDots host)]
  rw [List.append_cancel_right_eq]

/-- A list has no registrable domain for the hosts without a name before their suffix. -/
theorem registrable?_eq_none_iff (list : SuffixList) (host : Text) :
    list.registrable? host = none ↔ list.IsSuffix host := by
  have hsuffix := list.reverse_splitDots_drop host []
  have hdot := list.reverse_splitDots_drop host [[]]
  rw [List.reverse_nil, List.nil_append] at hsuffix
  rw [List.reverse_singleton, List.singleton_append] at hdot
  rw [IsSuffix, ← hsuffix, ← hdot, registrable?]
  split
  · next hempty =>
    obtain rfl := List.isEmpty_iff.mp hempty
    -- the one label of the empty host is its suffix
    have hsize : list.suffixSize [[]] = 1 := by
      rw [suffixSize]
      split <;> rfl
    exact iff_of_true rfl (Or.inl (by rw [show (Host.splitDots []).reverse = [[]] from rfl, hsize]; rfl))
  · dsimp only
    split
    · next h => exact iff_of_true rfl (Or.inl h)
    · next h => exact iff_of_true rfl (Or.inr h)
    · next hnil hempty => exact iff_of_false (by simp) (not_or.mpr ⟨hnil, hempty⟩)

/-- The registrable domain by a list has one label more than the suffix. -/
theorem splitDots_of_registrable? {list : SuffixList} {host domain : Text}
    (h : list.registrable? host = some domain) :
    Host.splitDots domain
      = (Host.splitDots host).rtake (list.suffixSize (Host.splitDots host).reverse + 1) := by
  unfold registrable? at h
  split at h
  · exact absurd h (by simp)
  dsimp only at h
  split at h
  · exact absurd h (by simp)
  · exact absurd h (by simp)
  · obtain rfl := Option.some.inj h
    rw [← Host.splitDots_joinDots_rtake host (Nat.succ_pos _), List.rtake_eq_reverse_take_reverse]

end SuffixList

/-! ### Domains above a suffix -/

/-- The registrable domain of a host is above its public suffix just if the host is a name without a label
before that suffix, and the rule of thumb keeps fewer labels than the suffix has. -/
theorem registrableDomain_isAbove_iff (list : SuffixList) (host : Text) :
    IsAbove (registrableDomain (some list) host) (list.suffixLabels (Host.bare host))
      ↔ Host.isAddress (Host.bare host) = false ∧ list.IsSuffix (Host.bare host)
        ∧ guessSize (Host.bare host) < (list.suffixLabels (Host.bare host)).length := by
  have hsuffix := list.suffixLabels_suffix (Host.bare host)
  rw [IsAbove, registrableDomain, ← Host.bare, Option.bind_some]
  split
  · next haddress =>
    -- an address is kept whole
    have hwhole : Host.splitDots (Host.bare host)
        = (Host.splitDots (Host.bare host)).rtake (Host.splitDots (Host.bare host)).length := by
      rw [List.rtake, Nat.sub_self, List.drop_zero]
    rw [hwhole, List.rtake_suffix_and_ne_iff hsuffix, haddress]
    exact iff_of_false (Nat.not_lt_of_le hsuffix.length_le) fun h => Bool.true_eq_false.mp h.1
  · next hname =>
    rw [← list.registrable?_eq_none_iff, and_iff_right (eq_false_of_ne_true hname)]
    cases hdomain : list.registrable? (Host.bare host) with
    | some domain =>
      rw [Option.getD_some, SuffixList.splitDots_of_registrable? hdomain,
        List.rtake_suffix_and_ne_iff hsuffix]
      have hle := list.length_suffixLabels_le (Host.bare host)
      exact iff_of_false (by omega) fun h => Option.some_ne_none domain h.1
    | none =>
      rw [Option.getD_none, splitDots_guessRegistrable, List.rtake_suffix_and_ne_iff hsuffix,
        and_iff_right rfl]

/-- A school district of one state is a public suffix of three labels. As a host it is widened to the state,
and the rule for it covers every name registered there. -/
theorem registrableDomain_isAbove_counterexample :
    ∃ list ∈ SuffixList.ofText? "// BEGIN ICANN DOMAINS\nus\nca.us\nk12.ca.us\n".toList,
      Host.isAddress "k12.ca.us".toList = false
        ∧ list.suffixLabels "k12.ca.us".toList = ["k12".toList, "ca".toList, "us".toList]
        ∧ registrableDomain (some list) "k12.ca.us".toList = "ca.us".toList
        ∧ IsAbove (registrableDomain (some list) "k12.ca.us".toList) (list.suffixLabels "k12.ca.us".toList)
        ∧ suggestedRule (some list) "https://k12.ca.us/".toList false true = some "*://*.ca.us/*".toList := by
  decide +kernel

end ResultFilter
