import Mathlib.Data.Prod.Lex
import ResultFilter.Proofs.Glob.Expansion

/-!
# Path patterns in one pass

A text can be tested against a pattern with two places that move along and one place to go back to: at a
mismatch the last star passed takes one character more. No earlier star need ever take more, since what the
last one leaves over ends with whatever an earlier one would leave over. A scan comes to an end: each step
leaves fewer stars to pass, or less for the last star to take, or less of the text.

## Main definitions

* `Glob.Scan`, `Glob.Scan.step?` — a scan, and its steps.
* `Glob.Scan.Ends` — a scan comes to an answer, and no step of it fails.
* `Glob.Scan.Sound` — what every scan keeps to.
* `Glob.Scan.Finds` — what a scan can still find.
* `Glob.Scan.left` — what grows smaller with each step.

## Main results

* `Glob.Scan.Sound.next` — what a step keeps, and what it makes smaller.
* `Glob.Scan.Sound.answer` — an answer tells whether there was something to be found.
* `Glob.Scan.Sound.exists_ends` — every scan comes to such an answer.
* `pathMatches_exact` — the test, the scan and the texts that the pattern stands for agree.
-/

namespace ResultFilter

open ResultFilter.Text

namespace Glob

/-- The place of a star that has been passed, and the place up to which it has taken the text. -/
structure PassedStar where
  place : Nat
  taken : Nat
deriving DecidableEq, Repr

/-- A scan of a text for a pattern. -/
structure Scan where
  /-- The place in the pattern. -/
  place : Nat
  /-- The place in the text. -/
  offset : Nat
  /-- The last star passed. -/
  last : Option PassedStar
deriving DecidableEq, Repr

namespace Scan

/-- The scan that has read nothing. -/
def start : Scan := ⟨0, 0, none⟩

/-- The scan behind the star that it is at; the star takes nothing yet. -/
def passStar (s : Scan) : Scan := ⟨s.place + 1, s.offset, some ⟨s.place, s.offset⟩⟩

/-- The scan behind a character of the pattern that stands in the text. -/
def passBoth (s : Scan) : Scan := ⟨s.place + 1, s.offset + 1, s.last⟩

/-- The scan behind a star that takes one character more. -/
def retry (q : PassedStar) : Scan := ⟨q.place + 1, q.taken + 1, some ⟨q.place, q.taken + 1⟩⟩

variable {α : Type} {star : α} {p t : List α} {s s' : Scan} {q : PassedStar}

/-- What follows a mismatch: the last star takes more, or there is none and the text is refused. -/
def goBack (s : Scan) : Scan ⊕ Bool :=
  match s.last with
  | some q => .inl (retry q)
  | none => .inr false

/-- One step: the scan after it, or the answer. A character is read behind a test that its place is there. At
the end of the text the rest of the pattern has to be stars; the pattern is cut without a test then, and the
step fails if the place is not in it. -/
def step? [DecidableEq α] (star : α) (p t : List α) (s : Scan) : Option (Scan ⊕ Bool) :=
  if htext : s.offset < t.length then
    if hpattern : s.place < p.length then
      if p[s.place] = star then some (.inl s.passStar)
      else if p[s.place] = t[s.offset] then some (.inl s.passBoth)
      else some s.goBack
    else some s.goBack
  else if s.place ≤ p.length then some (.inr ((p.drop s.place).all (· = star)))
  else none

/-- A scan comes to an answer after finitely many steps, none of which fails. -/
inductive Ends [DecidableEq α] (star : α) (p t : List α) : Scan → Bool → Prop where
  | answer {s : Scan} {b : Bool} (h : step? star p t s = some (.inr b)) : Ends star p t s b
  | next {s s' : Scan} {b : Bool} (h : step? star p t s = some (.inl s')) (hs' : Ends star p t s' b) :
      Ends star p t s b

/-- What a scan has read since the last star. -/
structure Since (star : α) (p t : List α) (s : Scan) (q : PassedStar) : Prop where
  /-- The star is in the pattern. -/
  place_lt : q.place < p.length
  /-- It has taken no more than the text has. -/
  taken_le : q.taken ≤ t.length
  /-- A run without stars goes from the star to the scan, and the same run from what the star has taken. -/
  run : ∃ run, star ∉ run ∧ p.drop (q.place + 1) = run ++ p.drop s.place
    ∧ t.drop q.taken = run ++ t.drop s.offset

/-- What every scan keeps to: its places are in the pattern and in the text, and since the last star it has
read the same in both. -/
structure Sound (star : α) (p t : List α) (s : Scan) : Prop where
  place_le : s.place ≤ p.length
  offset_le : s.offset ≤ t.length
  since : ∀ q ∈ s.last, Since star p t s q

/-- What a scan can still find: the rest of the pattern stands for the rest of the text, or it would if the
last star took more. -/
def Finds (star : α) (p t : List α) (s : Scan) : Prop :=
  Expands star (p.drop s.place) (t.drop s.offset)
    ∨ ∃ q ∈ s.last, Expands star (star :: p.drop (q.place + 1)) (t.drop (q.taken + 1))

/-- What is left to a scan: the pattern from the last star on, then the text that the last star has not taken,
then the text that has not been read. -/
def left (p t : List α) (s : Scan) : Nat ×ₗ Nat ×ₗ Nat :=
  toLex (s.last.elim (p.length + 1) fun q => p.length - q.place,
    toLex (s.last.elim 0 fun q => t.length - q.taken, t.length - s.offset))

/-! ### Runs without stars -/

/-- A run without stars stands for itself. -/
theorem expands_run_iff {run rest : List α} (hrun : star ∉ run) :
    Expands star (run ++ rest) t ↔ ∃ u, run ++ u = t ∧ Expands star rest u := by
  induction run generalizing t with
  | nil => simp
  | cons c run ih =>
    rw [List.mem_cons, not_or] at hrun
    obtain ⟨hc, hrun⟩ := hrun
    rw [List.cons_append, expands_literal_iff (Ne.symm hc)]
    simp only [ih hrun]
    constructor
    · rintro ⟨_, rfl, u, rfl, h⟩
      exact ⟨u, rfl, h⟩
    · rintro ⟨u, rfl, h⟩
      exact ⟨_, rfl, u, rfl, h⟩

/-- A star never has to take more once another star has been passed: whatever the rest of the pattern stands
for after more has been taken also ends what has been left by the run between the two. -/
theorem expands_star_of_run {run rest u v : List α} (hrun : star ∉ run)
    (h : Expands star (star :: (run ++ rest)) v) (hv : v <:+ run ++ u) : Expands star (star :: rest) u := by
  obtain ⟨w, hw, h⟩ := expands_star_iff.mp h
  obtain ⟨x, rfl, hx⟩ := (expands_run_iff hrun).mp h
  have hle := (hw.trans hv).length_le
  rw [List.length_append, List.length_append] at hle
  have hxu : x <:+ u :=
    List.suffix_of_suffix_length_le ((List.suffix_append run x).trans (hw.trans hv))
      (List.suffix_append run u) (Nat.le_of_add_le_add_left hle)
  exact expands_star_iff.mpr ⟨x, hxu, hx⟩

/-- A pattern stands for nothing just if it is all stars. -/
theorem expands_nil_right_iff [DecidableEq α] {p : List α} : Expands star p [] ↔ p.all (· = star) = true := by
  induction p with
  | nil => simp [expands_nil_iff]
  | cons c p ih =>
    by_cases hc : c = star
    · subst hc
      rw [expands_star_nil_iff, ih]
      simp
    · simp [expands_literal_iff hc, hc]

/-! ### One step -/

/-- What a step finds, and what comes of it. -/
theorem step?_cases [DecidableEq α] {outcome : Scan ⊕ Bool} (h : step? star p t s = some outcome) :
    (s.offset < t.length
      ∧ ((p[s.place]? = some star ∧ outcome = .inl s.passStar)
        ∨ (p[s.place]? ≠ some star ∧ p[s.place]? = t[s.offset]? ∧ outcome = .inl s.passBoth)
        ∨ (p[s.place]? ≠ some star ∧ p[s.place]? ≠ t[s.offset]? ∧ outcome = s.goBack)))
    ∨ (t.length ≤ s.offset ∧ outcome = .inr ((p.drop s.place).all (· = star))) := by
  unfold step? at h
  split at h
  · next htext =>
    refine Or.inl ⟨htext, ?_⟩
    rw [List.getElem?_eq_getElem htext]
    split at h
    · next hpattern =>
      rw [List.getElem?_eq_getElem hpattern]
      simp only [ne_eq, Option.some.injEq]
      split at h
      · next hstar => exact Or.inl ⟨hstar, (Option.some.inj h).symm⟩
      · next hstar =>
        split at h
        · next hsame => exact Or.inr (Or.inl ⟨hstar, hsame, (Option.some.inj h).symm⟩)
        · next hsame => exact Or.inr (Or.inr ⟨hstar, hsame, (Option.some.inj h).symm⟩)
    · next hpattern =>
      rw [List.getElem?_eq_none (Nat.le_of_not_lt hpattern)]
      exact Or.inr (Or.inr ⟨nofun, nofun, (Option.some.inj h).symm⟩)
  · next htext =>
    split at h
    · exact Or.inr ⟨Nat.le_of_not_lt htext, (Option.some.inj h).symm⟩
    · exact absurd h (by simp)

/-- What a step that goes on has found, and where it goes. -/
theorem next_cases [DecidableEq α] (h : step? star p t s = some (.inl s')) : s.offset < t.length
    ∧ ((p[s.place]? = some star ∧ s' = s.passStar)
      ∨ (p[s.place]? ≠ some star ∧ p[s.place]? = t[s.offset]? ∧ s' = s.passBoth)
      ∨ (p[s.place]? ≠ some star ∧ p[s.place]? ≠ t[s.offset]? ∧ ∃ q ∈ s.last, s' = retry q)) := by
  rcases step?_cases h with ⟨htext, ⟨hstar, hs'⟩ | ⟨hstar, hsame, hs'⟩ | ⟨hstar, hsame, hs'⟩⟩ | ⟨-, hs'⟩
  · exact ⟨htext, Or.inl ⟨hstar, Sum.inl.inj hs'⟩⟩
  · exact ⟨htext, Or.inr (Or.inl ⟨hstar, hsame, Sum.inl.inj hs'⟩)⟩
  · refine ⟨htext, Or.inr (Or.inr ⟨hstar, hsame, ?_⟩)⟩
    unfold goBack at hs'
    split at hs'
    · next q hq => exact ⟨q, hq, Sum.inl.inj hs'⟩
    · exact nomatch hs'
  · exact nomatch hs'

/-- What a step that ends has found. -/
theorem answer_cases [DecidableEq α] {b : Bool} (h : step? star p t s = some (.inr b)) :
    (s.offset < t.length ∧ p[s.place]? ≠ some star ∧ p[s.place]? ≠ t[s.offset]? ∧ s.last = none ∧ b = false)
      ∨ (t.length ≤ s.offset ∧ b = (p.drop s.place).all (· = star)) := by
  rcases step?_cases h with ⟨htext, ⟨-, hb⟩ | ⟨-, -, hb⟩ | ⟨hstar, hsame, hb⟩⟩ | ⟨htext, hb⟩
  · exact nomatch hb
  · exact nomatch hb
  · unfold goBack at hb
    split at hb
    · exact nomatch hb
    · next hlast => exact Or.inl ⟨htext, hstar, hsame, hlast, Sum.inr.inj hb⟩
  · exact Or.inr ⟨htext, Sum.inr.inj hb⟩

theorem drop_eq_cons {l : List α} {i : Nat} {c : α} (h : l[i]? = some c) : l.drop i = c :: l.drop (i + 1) := by
  obtain ⟨hi, rfl⟩ := List.getElem?_eq_some_iff.mp h
  exact List.drop_eq_getElem_cons hi

/-- A mismatch leaves nothing to be found without going back. -/
theorem not_expands_of_mismatch (hoffset : s.offset < t.length) (hstar : p[s.place]? ≠ some star)
    (hsame : p[s.place]? ≠ t[s.offset]?) : ¬ Expands star (p.drop s.place) (t.drop s.offset) := by
  have htext := drop_eq_cons (List.getElem?_eq_getElem hoffset)
  rw [List.getElem?_eq_getElem hoffset] at hsame
  cases hc : p[s.place]? with
  | none =>
    rw [List.drop_eq_nil_iff.mpr (List.getElem?_eq_none_iff.mp hc), expands_nil_iff, htext]
    exact List.cons_ne_nil _ _
  | some c =>
    rw [hc] at hstar hsame
    rw [drop_eq_cons hc, htext, expands_literal_iff fun heq => hstar (congrArg some heq)]
    rintro ⟨u, heq, -⟩
    exact hsame (congrArg some (List.cons.inj heq).1.symm)

/-- A star finds what it finds without taking more, or by taking one character more. -/
theorem expands_star_drop_iff {rest : List α} {n : Nat} : Expands star (star :: rest) (t.drop n)
    ↔ Expands star rest (t.drop n) ∨ Expands star (star :: rest) (t.drop (n + 1)) := by
  cases hdrop : t.drop n with
  | nil =>
    have hnext : t.drop (n + 1) = [] := by
      rw [List.drop_eq_nil_iff] at hdrop ⊢
      exact Nat.le_succ_of_le hdrop
    rw [hnext, expands_star_nil_iff, or_self]
  | cons d u =>
    have hnext : t.drop (n + 1) = u := by rw [← List.tail_drop, hdrop, List.tail_cons]
    rw [hnext, expands_star_cons_iff]

namespace Since

theorem place_lt_place (h : Since star p t s q) (hs : Sound star p t s) : q.place < s.place := by
  obtain ⟨run, -, hrun, -⟩ := h.run
  have hlength := congrArg List.length hrun
  rw [List.length_append, List.length_drop, List.length_drop] at hlength
  have hq := h.place_lt
  have hplace := hs.place_le
  omega

theorem taken_le_offset (h : Since star p t s q) (hs : Sound star p t s) : q.taken ≤ s.offset := by
  obtain ⟨run, -, -, hrun⟩ := h.run
  have hlength := congrArg List.length hrun
  rw [List.length_append, List.length_drop, List.length_drop] at hlength
  have htaken := h.taken_le
  have hoffset := hs.offset_le
  omega

/-- What the last star would find by taking more is found by a star at the place of the scan. -/
theorem expands_star (h : Since star p t s q)
    (hmore : Expands star (star :: p.drop (q.place + 1)) (t.drop (q.taken + 1))) :
    Expands star (star :: p.drop s.place) (t.drop s.offset) := by
  obtain ⟨run, hstar, hp, ht⟩ := h.run
  rw [hp] at hmore
  refine expands_star_of_run hstar hmore ?_
  rw [← ht, ← List.drop_drop]
  exact List.drop_suffix 1 _

end Since

/-! ### What a step keeps -/

namespace Sound

theorem start (star : α) (p t : List α) : Sound star p t Scan.start :=
  ⟨Nat.zero_le _, Nat.zero_le _, fun q hq => absurd hq (by simp [Scan.start])⟩

theorem passStar (h : Sound star p t s) (hstar : p[s.place]? = some star) : Sound star p t s.passStar := by
  obtain ⟨hplace, -⟩ := List.getElem?_eq_some_iff.mp hstar
  refine ⟨hplace, h.offset_le, fun q hq => ?_⟩
  obtain rfl := Option.some.inj hq
  exact ⟨hplace, h.offset_le, [], List.not_mem_nil, rfl, rfl⟩

theorem passBoth (h : Sound star p t s) (hoffset : s.offset < t.length) (hstar : p[s.place]? ≠ some star)
    (hsame : p[s.place]? = t[s.offset]?) : Sound star p t s.passBoth := by
  have htext := List.getElem?_eq_getElem hoffset
  have hpattern := hsame.trans htext
  obtain ⟨hplace, -⟩ := List.getElem?_eq_some_iff.mp hpattern
  refine ⟨hplace, hoffset, fun q hq => ?_⟩
  obtain ⟨hq, htaken, run, hrun, hp, ht⟩ := h.since q hq
  -- the character that has been read is no star, and goes to the end of the run
  refine ⟨hq, htaken, run ++ [t[s.offset]], ?_, ?_, ?_⟩
  · rw [List.mem_append, List.mem_singleton, not_or]
    exact ⟨hrun, fun heq => hstar (heq ▸ hpattern)⟩
  · rw [hp, drop_eq_cons hpattern, List.append_assoc]
    rfl
  · rw [ht, drop_eq_cons htext, List.append_assoc]
    rfl

theorem retry (h : Sound star p t s) (hoffset : s.offset < t.length) (hq : q ∈ s.last) :
    Sound star p t (Scan.retry q) := by
  have hsince := h.since q hq
  have htaken : q.taken < t.length := Nat.lt_of_le_of_lt (hsince.taken_le_offset h) hoffset
  refine ⟨hsince.place_lt, htaken, fun q' hq' => ?_⟩
  obtain rfl := Option.some.inj hq'
  exact ⟨hsince.place_lt, htaken, [], List.not_mem_nil, rfl, rfl⟩

theorem finds_passStar_iff (h : Sound star p t s) (hstar : p[s.place]? = some star) :
    Finds star p t s.passStar ↔ Finds star p t s := by
  have hpattern := drop_eq_cons hstar
  have hpassed : Finds star p t s.passStar ↔ Expands star (p.drop s.place) (t.drop s.offset) := by
    rw [hpattern, expands_star_drop_iff]
    simp [Finds, Scan.passStar]
  rw [hpassed]
  constructor
  · exact Or.inl
  · rintro (hfinds | ⟨q, hq, hmore⟩)
    · exact hfinds
    · -- the star before this one need not take more
      have hfinds := (h.since q hq).expands_star hmore
      rw [hpattern] at hfinds ⊢
      obtain ⟨u, hu, hfinds⟩ := expands_star_iff.mp hfinds
      exact hfinds.of_suffix hu

theorem finds_passBoth_iff (hoffset : s.offset < t.length) (hstar : p[s.place]? ≠ some star)
    (hsame : p[s.place]? = t[s.offset]?) : Finds star p t s.passBoth ↔ Finds star p t s := by
  have htext := List.getElem?_eq_getElem hoffset
  have hpattern := hsame.trans htext
  have hne : t[s.offset] ≠ star := fun heq => hstar (heq ▸ hpattern)
  have hread : Expands star (p.drop s.place) (t.drop s.offset)
      ↔ Expands star (p.drop (s.place + 1)) (t.drop (s.offset + 1)) := by
    rw [drop_eq_cons hpattern, expands_literal_iff hne, drop_eq_cons htext]
    constructor
    · rintro ⟨u, heq, hfinds⟩
      rwa [(List.cons.inj heq).2]
    · exact fun hfinds => ⟨_, rfl, hfinds⟩
  rw [Finds, Finds, hread]
  rfl

theorem finds_retry_iff (hoffset : s.offset < t.length) (hstar : p[s.place]? ≠ some star)
    (hsame : p[s.place]? ≠ t[s.offset]?) (hq : q ∈ s.last) :
    Finds star p t (Scan.retry q) ↔ Finds star p t s := by
  have hstuck := not_expands_of_mismatch hoffset hstar hsame
  have hs : Finds star p t s ↔ Expands star (star :: p.drop (q.place + 1)) (t.drop (q.taken + 1)) := by
    rw [Finds, or_iff_right hstuck, Option.mem_def.mp hq]
    simp
  rw [hs, expands_star_drop_iff]
  simp [Finds, Scan.retry]

theorem left_passStar_lt (h : Sound star p t s) (hstar : p[s.place]? = some star) :
    left p t s.passStar < left p t s := by
  obtain ⟨hplace, -⟩ := List.getElem?_eq_some_iff.mp hstar
  refine Prod.Lex.toLex_lt_toLex.mpr (Or.inl ?_)
  show p.length - s.place < s.last.elim (p.length + 1) fun q => p.length - q.place
  cases hlast : s.last with
  | none =>
    rw [Option.elim_none]
    omega
  | some q =>
    have hq := (h.since q hlast).place_lt_place h
    rw [Option.elim_some]
    omega

theorem left_passBoth_lt (hoffset : s.offset < t.length) : left p t s.passBoth < left p t s := by
  refine Prod.Lex.toLex_lt_toLex.mpr (Or.inr ⟨rfl, Prod.Lex.toLex_lt_toLex.mpr (Or.inr ⟨rfl, ?_⟩)⟩)
  show t.length - (s.offset + 1) < t.length - s.offset
  omega

theorem left_retry_lt (h : Sound star p t s) (hoffset : s.offset < t.length) (hq : q ∈ s.last) :
    left p t (Scan.retry q) < left p t s := by
  have htaken := (h.since q hq).taken_le_offset h
  unfold left
  rw [Option.mem_def.mp hq]
  refine Prod.Lex.toLex_lt_toLex.mpr (Or.inr ⟨rfl, Prod.Lex.toLex_lt_toLex.mpr (Or.inl ?_)⟩)
  show t.length - (q.taken + 1) < t.length - q.taken
  omega

/-- A step goes on from a sound scan to a sound one, which has less left and finds the same. -/
theorem next [DecidableEq α] (h : Sound star p t s) (hstep : step? star p t s = some (.inl s')) :
    Sound star p t s' ∧ left p t s' < left p t s ∧ (Finds star p t s' ↔ Finds star p t s) := by
  obtain ⟨hoffset, ⟨hstar, rfl⟩ | ⟨hstar, hsame, rfl⟩ | ⟨hstar, hsame, q, hq, rfl⟩⟩ := next_cases hstep
  · exact ⟨h.passStar hstar, h.left_passStar_lt hstar, h.finds_passStar_iff hstar⟩
  · exact ⟨h.passBoth hoffset hstar hsame, left_passBoth_lt hoffset, finds_passBoth_iff hoffset hstar hsame⟩
  · exact ⟨h.retry hoffset hq, h.left_retry_lt hoffset hq, finds_retry_iff hoffset hstar hsame hq⟩

/-- The answer of a sound scan tells whether there was something to be found. -/
theorem answer [DecidableEq α] {b : Bool} (h : Sound star p t s) (hstep : step? star p t s = some (.inr b)) :
    b = true ↔ Finds star p t s := by
  rcases answer_cases hstep with ⟨hoffset, hstar, hsame, hlast, rfl⟩ | ⟨hoffset, rfl⟩
  · have hstuck := not_expands_of_mismatch hoffset hstar hsame
    simp [Finds, hlast, hstuck]
  · have hnil : t.drop s.offset = [] := List.drop_eq_nil_iff.mpr hoffset
    rw [← expands_nil_right_iff, Finds, hnil]
    constructor
    · exact Or.inl
    · rintro (hfinds | ⟨q, hq, hmore⟩)
      · exact hfinds
      · -- nothing is left of the text, so the last star cannot help either
        have hfinds := (h.since q hq).expands_star hmore
        rwa [hnil, expands_star_nil_iff] at hfinds

/-- A sound scan can take a step, and no step of it reads outside of the pattern. -/
theorem isSome_step? [DecidableEq α] (h : Sound star p t s) : (step? star p t s).isSome = true := by
  unfold step?
  rw [if_pos h.place_le]
  split
  · split
    · split
      · rfl
      · split <;> rfl
    · rfl
  · rfl

/-- A sound scan comes to the answer to what it can still find. The induction is on what is left to it. -/
theorem exists_ends [DecidableEq α] (h : Sound star p t s) :
    ∃ b, Ends star p t s b ∧ (b = true ↔ Finds star p t s) := by
  induction hleft : left p t s using WellFoundedLT.induction generalizing s with
  | ind n ih =>
    obtain ⟨outcome, hstep⟩ := Option.isSome_iff_exists.mp h.isSome_step?
    cases outcome with
    | inr b => exact ⟨b, .answer hstep, h.answer hstep⟩
    | inl s' =>
      obtain ⟨hs', hless, hfinds⟩ := h.next hstep
      obtain ⟨b, hends, hb⟩ := ih (left p t s') (hleft ▸ hless) hs' rfl
      exact ⟨b, .next hstep hends, hb.trans hfinds⟩

end Sound

theorem finds_start_iff : Finds star p t start ↔ Expands star p t := by
  simp [Finds, start]

/-- The scan of a text comes to the answer of the test. -/
theorem ends_isMatch [DecidableEq α] (star : α) (p t : List α) : Ends star p t start (isMatch star p t) := by
  obtain ⟨b, hends, hb⟩ := (Sound.start star p t).exists_ends
  have hsame : isMatch star p t = b := by
    rw [Bool.eq_iff_iff, hb, finds_start_iff, isMatch_eq_true_iff]
  rwa [hsame]

end Scan

end Glob

/-- The test of a pattern finds just the texts that come from the pattern by putting some run of bytes in the
place of each star; the scan of the text comes to the same answer after finitely many steps, and reads neither
outside of the pattern nor outside of the text. On texts that begin with a slash the test of paths finds just
the same, with its shortcut. -/
theorem pathMatches_exact :
    (∀ p t : List UInt8, Glob.Scan.Ends starByte p t Glob.Scan.start (Glob.isMatch starByte p t)
        ∧ (Glob.isMatch starByte p t = true ↔ Glob.Expands starByte p t))
      ∧ ∀ pattern rest : Text,
        pathMatches pattern ('/' :: rest) = true
          ↔ Glob.Expands starByte (utf8 pattern) (utf8 ('/' :: rest)) := by
  refine ⟨fun p t => ⟨Glob.Scan.ends_isMatch starByte p t, Glob.isMatch_eq_true_iff⟩, fun pattern rest => ?_⟩
  exact pathMatches_slash_iff pattern rest

end ResultFilter
