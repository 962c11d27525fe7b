import Mathlib.Data.List.Basic
import ResultFilter.Pattern

/-!
# Path patterns and the texts they stand for

The pieces of a pattern are looked for from left to right, each as early as it can be. That finds all there
is to find: what follows an early place ends with what follows any later one, and the star before the next
piece takes the difference.

## Main definitions

* `Glob.Spread` — pieces that stand in a text in their order, any run before each.

## Main results

* `Glob.expands_iff` — what a pattern stands for, told by its pieces.
* `Glob.isMatch_eq_true_iff` — the test finds just the texts that the pattern stands for.
* `pathMatches_slash_iff` — so does the test of paths, with its shortcut.
-/

namespace ResultFilter

open ResultFilter.Text

namespace Glob

variable {α : Type} {star : α}

/-! ### One character of a pattern -/

theorem expands_nil_iff {t : List α} : Expands star [] t ↔ t = [] := by
  constructor
  · rintro ⟨⟩
    rfl
  · rintro rfl
    exact .nil

theorem expands_literal_iff {c : α} {p t : List α} (hc : c ≠ star) :
    Expands star (c :: p) t ↔ ∃ u, t = c :: u ∧ Expands star p u := by
  constructor
  · intro h
    cases h with
    | literal _ h => exact ⟨_, rfl, h⟩
    | star _ h => exact absurd rfl hc
  · rintro ⟨u, rfl, h⟩
    exact .literal hc h

theorem expands_star_iff {p t : List α} : Expands star (star :: p) t ↔ ∃ u, u <:+ t ∧ Expands star p u := by
  constructor
  · intro h
    cases h with
    | literal hne _ => exact absurd rfl hne
    | star run h => exact ⟨_, List.suffix_append run _, h⟩
  · rintro ⟨u, ⟨run, rfl⟩, h⟩
    exact .star run h

/-- What a star stands for can be made longer at its front. -/
theorem Expands.of_suffix {p t u : List α} (h : Expands star (star :: p) u) (hu : u <:+ t) :
    Expands star (star :: p) t := by
  obtain ⟨v, hv, h⟩ := expands_star_iff.mp h
  exact expands_star_iff.mpr ⟨v, hv.trans hu, h⟩

theorem expands_star_nil_iff {p : List α} : Expands star (star :: p) [] ↔ Expands star p [] := by
  simp only [expands_star_iff, List.suffix_nil, exists_eq_left]

/-- A star stands for nothing, or takes one character more. -/
theorem expands_star_cons_iff {p t : List α} {d : α} :
    Expands star (star :: p) (d :: t) ↔ Expands star p (d :: t) ∨ Expands star (star :: p) t := by
  simp only [expands_star_iff, List.suffix_cons_iff]
  constructor
  · rintro ⟨u, rfl | hu, h⟩
    · exact Or.inl h
    · exact Or.inr ⟨u, hu, h⟩
  · rintro (h | ⟨u, hu, h⟩)
    · exact ⟨_, Or.inl rfl, h⟩
    · exact ⟨u, Or.inr hu, h⟩

/-! ### The pieces of a pattern -/

/-- Pieces stand in a text in their order, with any run before each, and the last one ends the text. -/
def Spread : List (List α) → List α → Prop
  | [], t => t = []
  | piece :: rest, t => ∃ u, piece ++ u <:+ t ∧ Spread rest u

/-- There is room for pieces in any longer text: the run before the first one grows. -/
theorem Spread.of_suffix {piece t u : List α} {rest : List (List α)} (h : Spread (piece :: rest) u)
    (hu : u <:+ t) : Spread (piece :: rest) t := by
  obtain ⟨v, hv, h⟩ := h
  exact ⟨v, hv.trans hu, h⟩

variable [DecidableEq α]

/-- A pattern stands for the texts that begin with its first piece and have the others spread over the rest. -/
theorem expands_iff {p t : List α} :
    Expands star p t ↔ ∃ u, (pieces star p).1 ++ u = t ∧ Spread (pieces star p).2 u := by
  induction p generalizing t with
  | nil => simp [expands_nil_iff, Spread]
  | cons c p ih =>
    by_cases hc : c = star
    · subst hc
      rw [expands_star_iff, pieces_star]
      simp only [ih, List.nil_append, exists_eq_left, Spread]
      constructor
      · rintro ⟨_, hu, v, rfl, h⟩
        exact ⟨v, hu, h⟩
      · rintro ⟨v, hu, h⟩
        exact ⟨_, hu, v, rfl, h⟩
    · rw [expands_literal_iff hc, pieces_literal hc]
      simp only [ih, List.cons_append]
      constructor
      · rintro ⟨_, rfl, v, rfl, h⟩
        exact ⟨v, rfl, h⟩
      · rintro ⟨v, rfl, h⟩
        exact ⟨_, rfl, v, rfl, h⟩

/-! ### The earliest place of a piece -/

theorem suffix_of_dropPast? {piece t u : List α} (h : dropPast? piece t = some u) : piece ++ u <:+ t := by
  induction t with
  | nil =>
    rw [dropPast?] at h
    split at h
    · next hempty =>
      obtain rfl := Option.some.inj h
      obtain rfl := List.isEmpty_iff.mp hempty
      exact List.suffix_rfl
    · exact absurd h (by simp)
  | cons d t ih =>
    rw [dropPast?] at h
    split at h
    · next rest hrest =>
      obtain rfl := Option.some.inj h
      have heq : piece ++ rest = d :: t := List.isPrefixOf?_eq_some_iff_append_eq.mp hrest
      exact heq ▸ List.suffix_rfl
    · exact (ih h).trans (List.suffix_cons d t)

/-- No place of a piece is earlier than the one that is found: more follows it than any other. -/
theorem exists_dropPast? {piece t v : List α} (h : piece ++ v <:+ t) :
    ∃ u, dropPast? piece t = some u ∧ v <:+ u := by
  induction t with
  | nil =>
    obtain ⟨rfl, rfl⟩ := List.append_eq_nil_iff.mp (List.suffix_nil.mp h)
    exact ⟨[], rfl, List.suffix_rfl⟩
  | cons d t ih =>
    rw [dropPast?]
    split
    · next rest hrest =>
      refine ⟨rest, rfl, ?_⟩
      -- both follow the piece at some place of the same text, so the shorter one ends the other
      have heq := List.isPrefixOf?_eq_some_iff_append_eq.mp hrest
      have hrest : rest <:+ d :: t := heq ▸ List.suffix_append piece rest
      have hv : v <:+ d :: t := (List.suffix_append piece v).trans h
      refine List.suffix_of_suffix_length_le hv hrest ?_
      have hle := h.length_le
      rw [← heq, List.length_append, List.length_append] at hle
      exact Nat.le_of_add_le_add_left hle
    · next hnone =>
      refine ih ((List.suffix_cons_iff.mp h).resolve_left fun heq => ?_)
      rw [List.isPrefixOf?_eq_some_iff_append_eq.mpr heq] at hnone
      exact absurd hnone (by simp)

theorem matchPieces_eq_true_iff {piece t : List α} {rest : List (List α)} :
    matchPieces (piece :: rest) t = true ↔ Spread (piece :: rest) t := by
  induction rest generalizing piece t with
  | nil => simp [matchPieces, Spread, List.isSuffixOf_iff_suffix]
  | cons next rest ih =>
    rw [matchPieces]
    constructor
    · intro h
      split at h
      · next u hu => exact ⟨u, suffix_of_dropPast? hu, ih.mp h⟩
      · exact absurd h (by simp)
    · rintro ⟨v, hv, h⟩
      obtain ⟨u, hu, hvu⟩ := exists_dropPast? hv
      rw [hu]
      exact ih.mpr (h.of_suffix hvu)

/-- The test finds just the texts that the pattern stands for. -/
theorem isMatch_eq_true_iff {p t : List α} : isMatch star p t = true ↔ Expands star p t := by
  rw [expands_iff, isMatch]
  split
  · next piece hpieces =>
    simp [hpieces, Spread]
  · next piece rest hrest hpieces =>
    obtain ⟨next, rest, rfl⟩ := List.exists_cons_of_ne_nil hrest
    rw [hpieces]
    split
    · next u hu =>
      rw [List.isPrefixOf?_eq_some_iff_append_eq] at hu
      subst hu
      simp only [List.append_cancel_left_eq, exists_eq_left, matchPieces_eq_true_iff]
    · next hnone =>
      refine iff_of_false Bool.false_ne_true ?_
      rintro ⟨u, hu, -⟩
      rw [List.isPrefixOf?_eq_some_iff_append_eq.mpr hu] at hnone
      exact absurd hnone (by simp)

end Glob

/-! ### Paths -/

/-- The star of path patterns, as a byte. -/
def starByte : UInt8 := 0x2A

/-- On texts that begin with a slash the test of paths finds just those that the pattern stands for. -/
theorem pathMatches_slash_iff (pattern rest : Text) :
    pathMatches pattern ('/' :: rest) = true ↔ Glob.Expands starByte (utf8 pattern) (utf8 ('/' :: rest)) := by
  rw [pathMatches, Bool.or_eq_true, beq_iff_eq]
  constructor
  · rintro (rfl | h)
    · -- the star of the shortcut takes all that follows the slash
      have hstar : Glob.Expands starByte [starByte] (utf8 rest ++ []) := .star (utf8 rest) .nil
      rw [List.append_nil] at hstar
      exact .literal (by decide) hstar
    · exact Glob.isMatch_eq_true_iff.mp h
  · exact fun h => Or.inr (Glob.isMatch_eq_true_iff.mpr h)

end ResultFilter
