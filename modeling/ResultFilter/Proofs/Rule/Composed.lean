import ResultFilter.Proofs.Json.Numeral
import ResultFilter.Proofs.Rule.Front

/-!
# Lines put together

A text that is a rule by itself is the same rule within a longer line: blanks may stand around it, a specifier
before it, a comment behind it, and before that a guard if it is a match pattern. A body is read up to the
same place whatever follows, and begins with nothing that a specifier could go on with.

## Main definitions

* `Rule.IsBody` — a line is a rule that is nothing but its body.
* `Rule.SpecifierText`, `Rule.GuardText`, `Rule.CommentText` — what may stand around it.
* `Rule.Front` — the text of a body without the blanks around it.

## Main results

* `Rule.finish_eq_ok_iff` — how lines end.
* `Rule.Front.ofLine_eq` — a line around the text of a body.
* `Rule.isBody_iff` — a line that is its body alone is such a text between blanks, and no other line is.
* `Rule.ofLine_composed` — the parts of a line can be put together.
-/

namespace ResultFilter

open ResultFilter.Text

namespace Rule

/-! ### The parts of a line -/

/-- A text of blanks. -/
def Blanks (w : Text) : Prop :=
  ∀ c ∈ w, isBlank c = true

instance (w : Text) : Decidable (Blanks w) :=
  decidable_of_iff (w.all isBlank = true) List.all_eq_true

/-- The text of a specifier; the number of a colour may have zeros before it. -/
inductive SpecifierText : Text → Option Specifier → Prop where
  | absent : SpecifierText [] none
  | negate : SpecifierText ['@'] (some .negate)
  | highlight {zeros n : Nat} (hpos : 1 ≤ n) (hlt : n < 2 ^ 32) :
      SpecifierText ('@' :: (List.replicate zeros '0' ++ decimalDigits n)) (some (.highlight n))

/-- A text is an expression, with blanks behind it or none. -/
def IsExpression (text : Text) (e : Expression) : Prop :=
  ∃ width last, readExpression width text = .ok (e, last) ∧ Blanks last

/-- The text of a guard behind a body, and what becomes of the body. -/
inductive GuardText : Text → RuleBody → RuleBody → Prop where
  | absent {body : RuleBody} : GuardText [] body body
  | present {w v text : Text} {p : MatchPattern} {guard : Expression} (hw : Blanks w) (hne : w ≠ [])
      (hv : Blanks v) (htext : IsExpression text guard) :
      GuardText (w ++ "@if".toList ++ v ++ '(' :: text ++ [')']) (.pattern p none) (.pattern p (some guard))

/-- The text of a comment behind a rule. -/
inductive CommentText : Text → Prop where
  | absent : CommentText []
  | present {w y : Text} (hw : Blanks w) (hne : w ≠ []) : CommentText (w ++ '#' :: y)

/-- A line has a comment: it stays the same rule if the text from some `#` behind a blank on is left out. -/
def HasComment (line : Text) : Prop :=
  ∃ front c y, line = front ++ c :: '#' :: y ∧ isBlank c = true ∧ ofLine (front ++ [c]) = ofLine line

/-- A line is a rule that is nothing but its body: it has no specifier, no guard and no comment. -/
structure IsBody (line : Text) (body : RuleBody) : Prop where
  eq : ofLine line = .ok (some ⟨none, body⟩)
  unguarded : ∀ p guard, body ≠ .pattern p (some guard)
  uncommented : ¬ HasComment line

/-! ### Blanks -/

section Blank

variable {w rest : Text} (hw : Blanks w)

theorem Blanks.nil : Blanks [] := fun _ hc => nomatch hc

theorem trimStart_cons {c : Char} (hc : isBlank c = false) (cs : Text) : trimStart (c :: cs) = c :: cs :=
  List.dropWhile_cons_of_neg (by rw [hc]; decide)

include hw

theorem Blanks.trimStart_append (cs : Text) : trimStart (w ++ cs) = trimStart cs :=
  List.dropWhile_append_of_pos hw

theorem Blanks.trimStart_eq : trimStart w = [] :=
  List.dropWhile_eq_nil_iff.mpr hw

theorem Blanks.append {v : Text} (hv : Blanks v) : Blanks (w ++ v) :=
  fun c hc => (List.mem_append.mp hc).elim (hw c) (hv c)

theorem Blanks.isBlank_of_mem_head? {c : Char} (hne : w ≠ []) (hc : c ∈ (w ++ rest).head?) : isBlank c = true := by
  obtain ⟨b, v, rfl⟩ := List.exists_cons_of_ne_nil hne
  obtain rfl : b = c := Option.some.inj hc
  exact hw b List.mem_cons_self

theorem Blanks.parts : Parts w where
  isBlank _ hc := hw _ (List.mem_of_mem_head? hc)
  closes := closes_of_trimStart (by simp [hw.trimStart_eq])

/-- Blanks part a body from a mark that goes on with no expression. -/
theorem Blanks.parts_append {c : Char} (hne : w ≠ []) (hc : isBlank c = false) (hi : c ≠ 'i') (hand : c ≠ '&')
    (hor : c ≠ '|') : Parts (w ++ c :: rest) where
  isBlank _ := hw.isBlank_of_mem_head? hne
  closes := closes_of_trimStart (by
    rw [hw.trimStart_append, trimStart_cons hc]
    simp [hi, hand, hor])

end Blank

/-! ### The end of a line -/

/-- What a line ends with: blanks, or a comment behind a blank. -/
inductive Trailer : Text → Prop where
  | blanks {w : Text} (hw : Blanks w) : Trailer w
  | comment {w y : Text} (hw : Blanks w) (hne : w ≠ []) : Trailer (w ++ '#' :: y)

/-- A line ends with blanks, or with a comment behind a blank. -/
theorem finish_eq_ok_iff {width : Nat} {rest : Text} : finish width rest = .ok () ↔ Trailer rest := by
  unfold finish
  constructor
  · intro h
    obtain ⟨w, hw, hrest⟩ := Grammar.afterBlanks_trimStart rest
    split at h
    · next htrim =>
      rw [htrim, List.append_nil] at hrest
      rw [hrest]
      exact .blanks hw
    · next c cs htrim =>
      split at h
      · next hcomment =>
        obtain ⟨rfl, hlt⟩ := hcomment
        rw [htrim] at hrest
        rw [hrest] at hlt ⊢
        refine .comment hw ?_
        rintro rfl
        exact absurd hlt (Nat.lt_irrefl _)
      · exact nomatch h
  · intro h
    cases h with
    | blanks hw => rw [hw.trimStart_eq]
    | @comment w y hw hne =>
      have hlt : ('#' :: y).length < (w ++ '#' :: y).length := by
        have := List.length_pos_iff.mpr hne
        rw [List.length_append]
        omega
      rw [hw.trimStart_append, trimStart_cons (by decide)]
      exact if_pos ⟨rfl, hlt⟩

theorem Trailer.parts {rest : Text} (h : Trailer rest) : Parts rest := by
  cases h with
  | blanks hw => exact hw.parts
  | comment hw hne => exact hw.parts_append hne (by decide) (by decide) (by decide) (by decide)

theorem Trailer.append {w rest : Text} (hw : Blanks w) (h : Trailer rest) : Trailer (w ++ rest) := by
  cases h with
  | blanks hv => exact .blanks (hw.append hv)
  | comment hv hne =>
    rw [← List.append_assoc]
    exact .comment (hw.append hv) (List.append_ne_nil_of_right_ne_nil _ hne)

/-- What follows a comment is part of it. -/
theorem CommentText.trailer {comment w : Text} (h : CommentText comment) (hw : Blanks w) :
    Trailer (comment ++ w) := by
  cases h with
  | absent => exact .blanks hw
  | present hv hne =>
    rw [List.append_assoc, List.cons_append]
    exact .comment hv hne

/-- A comment may be put behind a blank where a line ends. -/
theorem Trailer.append_comment {rest : Text} (h : Trailer rest) {c : Char} (hc : isBlank c = true) (y : Text) :
    Trailer (rest ++ c :: '#' :: y) := by
  cases h with
  | blanks hw =>
    have hw' : Blanks (rest ++ [c]) := hw.append (by simpa [Blanks] using hc)
    have htrailer := Trailer.comment (y := y) hw' (List.append_ne_nil_of_right_ne_nil _ (List.cons_ne_nil _ _))
    rwa [List.append_assoc] at htrailer
  | comment hw hne =>
    rw [List.append_assoc, List.cons_append]
    exact .comment hw hne

/-- No guard begins where a line ends. -/
theorem Trailer.ends {rest : Text} (h : Trailer rest) (width : Nat) (body : RuleBody) :
    Ends width body rest body := by
  refine .plain ?_ (finish_eq_ok_iff.mpr h)
  cases h with
  | blanks hw =>
    rw [hw.trimStart_eq]
    rfl
  | comment hw _ =>
    rw [hw.trimStart_append, trimStart_cons (by decide)]
    rfl

/-! ### Guards -/

/-- A closing parenthesis ends an expression before it. -/
theorem IsExpression.readExpression_append {text : Text} {e : Expression} (h : IsExpression text e) (rest : Text)
    (width : Nat) :
    ∃ last, Blanks last ∧ readExpression width (text ++ ')' :: rest) = .ok (e, last ++ ')' :: rest) := by
  obtain ⟨width', last, hread, hlast⟩ := h
  obtain ⟨front, rfl, hfront⟩ := (Grammar.derives_of_readOr hread).exists_front
  have hmark : Grammar.Mark [')'] (last ++ ')' :: rest) rest := ⟨last, hlast, rfl⟩
  have hcloses : Grammar.Closes (last ++ ')' :: rest) := closes_of_trimStart (by
    rw [hlast.trimStart_append, trimStart_cons (by decide)]
    simp)
  refine ⟨last, hlast, ?_⟩
  rw [List.append_assoc]
  exact Grammar.readExpression_of_closes (hfront _ (hmark.endsWord (by decide))) hcloses width

/-- An expression in parentheses behind a pattern is its guard. -/
theorem ends_of_guard {w v text rest : Text} {p : MatchPattern} {guard : Expression} (hw : Blanks w) (hv : Blanks v)
    (htext : IsExpression text guard) (hrest : Trailer rest) (width : Nat) :
    Ends width (.pattern p none) (w ++ ("@if".toList ++ (v ++ '(' :: (text ++ ')' :: rest))))
      (.pattern p (some guard)) := by
  have hmark : "@if".toList.isPrefixOf? (trimStart (w ++ ("@if".toList ++ (v ++ '(' :: (text ++ ')' :: rest)))))
      = some (v ++ '(' :: (text ++ ')' :: rest)) := by
    rw [hw.trimStart_append]
    rfl
  obtain ⟨last, hlast, hread⟩ := htext.readExpression_append rest width
  have hopen : expect width '(' (trimStart (v ++ '(' :: (text ++ ')' :: rest))) = .ok (text ++ ')' :: rest) := by
    rw [hv.trimStart_append, trimStart_cons (by decide)]
    rfl
  have hclose : expect width ')' (trimStart (last ++ ')' :: rest)) = .ok rest := by
    rw [hlast.trimStart_append, trimStart_cons (by decide)]
    rfl
  have hguard : readGuard width (v ++ '(' :: (text ++ ')' :: rest)) = .ok (guard, rest) := by
    refine Except.bind_eq_ok_iff.mpr ⟨_, hopen, ?_⟩
    refine Except.bind_eq_ok_iff.mpr ⟨_, hread, ?_⟩
    exact Except.bind_eq_ok_iff.mpr ⟨_, hclose, rfl⟩
  exact .guarded hmark hguard (finish_eq_ok_iff.mpr hrest)

/-! ### Specifiers -/

/-- Zeros before a number do not change it. -/
theorem ofDigits_zeros (zeros n : Nat) :
    ofDigits 10 (digitValues (List.replicate zeros '0' ++ decimalDigits n)) = n := by
  have hzeros : ofDigits 10 (List.replicate zeros 0) = 0 := by
    induction zeros with
    | zero => rfl
    | succ zeros ih => exact ih
  rw [digitValues_append, digitValues_replicate_zero, ofDigits, List.foldl_append]
  rw [ofDigits] at hzeros
  rw [hzeros]
  exact ofDigits_decimalDigits n

theorem SpecifierText.eq_nil_or {s : Text} {specifier : Option Specifier} (h : SpecifierText s specifier) :
    s = [] ∨ ∃ digits, s = '@' :: digits := by
  cases h with
  | absent => exact Or.inl rfl
  | negate => exact Or.inr ⟨[], rfl⟩
  | highlight => exact Or.inr ⟨_, rfl⟩

/-- A specifier is read up to a character that is no digit. -/
theorem readSpecifier_append {s : Text} {specifier : Option Specifier} (h : SpecifierText s specifier) {after : Text}
    (hdigit : ∀ c ∈ after.head?, c.isDigit = false) (hat : s = [] → ∀ c ∈ after.head?, c ≠ '@') :
    readSpecifier (s ++ after) = .ok (specifier, after) := by
  cases h with
  | absent =>
    refine readSpecifier_eq_ok_iff.mpr (.absent fun tail htail => ?_)
    exact hat rfl '@' (congrArg List.head? htail) rfl
  | negate =>
    obtain ⟨htake, hdrop⟩ := List.span_append_of_stop (l := []) (fun c hc => nomatch hc) hdigit
    rw [List.nil_append] at htake hdrop
    rw [List.singleton_append, readSpecifier, htake, hdrop]
    rfl
  | @highlight zeros n hpos hlt =>
    have hdigits : ∀ c ∈ List.replicate zeros '0' ++ decimalDigits n, c.isDigit = true := fun c hc =>
      (List.mem_append.mp hc).elim JsonTree.isDigit_of_mem_zeros isDigit_of_mem_decimalDigits
    obtain ⟨htake, hdrop⟩ := List.span_append_of_stop hdigits hdigit
    have hne : (List.replicate zeros '0' ++ decimalDigits n).isEmpty = false :=
      List.isEmpty_eq_false_iff.mpr (List.append_ne_nil_of_right_ne_nil _ (decimalDigits_ne_nil n))
    have hcolor : ofDigits 10 ((List.replicate zeros '0' ++ decimalDigits n).filterMap decimalValue?) = n :=
      ofDigits_zeros zeros n
    have hlargest : n ≤ largestColor := Nat.le_of_lt_succ hlt
    rw [List.cons_append, readSpecifier, htake, hdrop, hne, hcolor, if_neg Bool.false_ne_true, if_pos ⟨hpos, hlargest⟩]

/-- A line begins with blanks, a specifier and blanks before the first character of a body. -/
theorem exists_readSpecifier {w₁ s w₂ : Text} {specifier : Option Specifier} {c : Char} (hw₁ : Blanks w₁)
    (hs : SpecifierText s specifier) (hw₂ : Blanks w₂) (hblank : isBlank c = false) (hcomment : c ≠ '#')
    (hat : c ≠ '@') (hdigit : c.isDigit = false) (cs : Text) :
    ∃ d ds after, trimStart (w₁ ++ s ++ w₂ ++ c :: cs) = d :: ds ∧ d ≠ '#'
      ∧ readSpecifier (d :: ds) = .ok (specifier, after) ∧ trimStart after = c :: cs := by
  rcases hs.eq_nil_or with rfl | ⟨digits, rfl⟩
  · refine ⟨c, cs, c :: cs, ?_, hcomment, ?_, trimStart_cons hblank _⟩
    · rw [List.append_nil, (hw₁.append hw₂).trimStart_append]
      exact trimStart_cons hblank _
    · exact readSpecifier_append hs (by simpa using hdigit) (by simpa using hat)
  · -- the number of a colour ends at a blank, or at the body
    have hstop : ∀ a ∈ (w₂ ++ c :: cs).head?, a.isDigit = false := by
      intro a ha
      rcases eq_or_ne w₂ [] with rfl | hne
      · obtain rfl : c = a := Option.some.inj ha
        exact hdigit
      · exact (isAlphanum_of_isBlank (hw₂.isBlank_of_mem_head? hne ha)).2
    have hspecifier := readSpecifier_append hs hstop fun hnil => absurd hnil (List.cons_ne_nil _ _)
    refine ⟨'@', digits ++ (w₂ ++ c :: cs), w₂ ++ c :: cs, ?_, by decide, hspecifier, ?_⟩
    · rw [List.append_assoc, List.append_assoc, hw₁.trimStart_append]
      exact trimStart_cons (by decide) _
    · rw [hw₂.trimStart_append]
      exact trimStart_cons hblank _

/-! ### Lines -/

/-- Where there is no specifier nothing is passed over. -/
theorem eq_of_readSpecifier_none {c : Char} {cs rest : Text} (h : readSpecifier (c :: cs) = .ok (none, rest)) :
    rest = c :: cs ∧ c ≠ '@' := by
  cases readSpecifier_eq_ok_iff.mp h with
  | absent hat =>
    refine ⟨rfl, ?_⟩
    rintro rfl
    exact hat cs rfl

/-- The guard of a pattern is read behind its body. -/
theorem unguarded_of_readBody {width : Nat} {cs rest : Text} {body : RuleBody}
    (h : readBody width cs = .ok (body, rest)) (p : MatchPattern) (guard : Expression) :
    body ≠ .pattern p (some guard) := by
  rintro rfl
  cases readBody_eq_ok_iff.mp h

/-- A text is that of a body: it is read as one before all that may follow, and it begins with neither a
blank nor anything that stands before a body. -/
structure Front (front : Text) (body : RuleBody) : Prop where
  reads : ∀ width rest, Parts rest → readBody width (front ++ rest) = .ok (body, rest)
  starts : ∃ c tail, front = c :: tail ∧ isBlank c = false ∧ c ≠ '#' ∧ c ≠ '@' ∧ c.isDigit = false

theorem Front.trimStart_append {front : Text} {body : RuleBody} (h : Front front body) (rest : Text) :
    trimStart (front ++ rest) = front ++ rest := by
  obtain ⟨c, tail, rfl, hblank, -⟩ := h.starts
  exact trimStart_cons hblank _

/-- A line around the text of a body is a rule with this body, up to the guard. -/
theorem Front.ofLine_eq {w₁ s w₂ front rest : Text} {specifier : Option Specifier} {body body' : RuleBody}
    (hfront : Front front body) (hw₁ : Blanks w₁) (hs : SpecifierText s specifier) (hw₂ : Blanks w₂)
    (hrest : Parts rest) (hends : ∀ width, Ends width body rest body') :
    ofLine (w₁ ++ s ++ w₂ ++ front ++ rest) = .ok (some ⟨specifier, body'⟩) := by
  obtain ⟨c, tail, rfl, hblank, hcomment, hat, hdigit⟩ := hfront.starts
  obtain ⟨d, ds, after, hstart, hd, hspecifier, hafter⟩ :=
    exists_readSpecifier hw₁ hs hw₂ hblank hcomment hat hdigit (tail ++ rest)
  rw [List.append_assoc, List.cons_append]
  refine ofLine_eq_some_iff.mpr ⟨d, ds, after, body, rest, hstart, hd, hspecifier, ?_, hends _⟩
  rw [hafter]
  exact hfront.reads _ rest hrest

/-- A line without specifier and guard is the text of a body between blanks, with a comment behind it or
none. -/
theorem exists_front_of_ofLine {line : Text} {body : RuleBody} (h : ofLine line = .ok (some ⟨none, body⟩))
    (hunguarded : ∀ p guard, body ≠ .pattern p (some guard)) :
    ∃ w front rest, line = w ++ front ++ rest ∧ Blanks w ∧ Trailer rest ∧ Front front body := by
  obtain ⟨c, cs, after, read, rest, hstart, hcomment, hspecifier, hbody, hends⟩ := ofLine_eq_some_iff.mp h
  obtain ⟨w, hw, hline⟩ := Grammar.afterBlanks_trimStart line
  have hblank : isBlank c = false := by
    have hhead := List.head?_dropWhile_not isBlank line
    rw [show line.dropWhile isBlank = c :: cs from hstart] at hhead
    simpa using hhead
  obtain ⟨rfl, hat⟩ := eq_of_readSpecifier_none hspecifier
  rw [trimStart_cons hblank] at hbody
  cases hends with
  | guarded => exact absurd rfl (hunguarded _ _)
  | plain hmark hfinish =>
    have hrest := finish_eq_ok_iff.mp hfinish
    obtain ⟨front, hcs, hreads⟩ := exists_front_of_readBody hbody hrest.parts.isBlank
    rw [hstart, hcs, ← List.append_assoc] at hline
    refine ⟨w, front, rest, hline, hw, hrest, hreads, ?_⟩
    cases front with
    | nil => exact nomatch hreads 0 [] Blanks.nil.parts
    | cons d tail =>
      obtain rfl : c = d := (List.cons.inj hcs).1
      exact ⟨c, tail, rfl, hblank, hcomment, hat, isDigit_of_readBody hbody hblank⟩

/-- A line is a body alone just if it is the text of the body between blanks. -/
theorem isBody_iff {line : Text} {body : RuleBody} :
    IsBody line body ↔ ∃ w front last, line = w ++ front ++ last ∧ Blanks w ∧ Blanks last ∧ Front front body := by
  have hread {w front last : Text} (hfront : Front front body) (hw : Blanks w) (hlast : Blanks last) :
      ofLine (w ++ front ++ last) = .ok (some ⟨none, body⟩) := by
    have hline := hfront.ofLine_eq hw .absent Blanks.nil hlast.parts fun width =>
      (Trailer.blanks hlast).ends width body
    simpa using hline
  constructor
  · intro h
    obtain ⟨w, front, rest, rfl, hw, hrest, hfront⟩ := exists_front_of_ofLine h.eq h.unguarded
    cases hrest with
    | blanks hlast => exact ⟨w, front, rest, rfl, hw, hlast, hfront⟩
    | @comment blanks y hblanks hne =>
      refine absurd ?_ h.uncommented
      obtain ⟨blanks, c, rfl⟩ := (List.eq_nil_or_concat' blanks).resolve_left hne
      have hshort := hread hfront hw hblanks
      refine ⟨w ++ front ++ blanks, c, y, by simp, hblanks c (by simp), ?_⟩
      rw [h.eq, ← hshort]
      simp
  · rintro ⟨w, front, last, rfl, hw, hlast, hfront⟩
    have hunguarded := unguarded_of_readBody (hfront.reads 0 [] Blanks.nil.parts)
    refine ⟨hread hfront hw hlast, hunguarded, ?_⟩
    rintro ⟨short, c, y, hline, hc, hsame⟩
    -- a body is read of the shorter line, and before the comment it is read of the whole line as well
    rw [hread hfront hw hlast] at hsame
    obtain ⟨w', front', rest, rfl, hw', hrest, hfront'⟩ :=
      exists_front_of_ofLine (ofLine_of_append_blank hc _ hsame) hunguarded
    have htrailer := hrest.append_comment hc y
    have htext : front ++ last = front' ++ (rest ++ c :: '#' :: y) := by
      have htrim := congrArg trimStart hline
      simp only [List.append_assoc] at htrim
      rwa [hw.trimStart_append, hw'.trimStart_append, hfront.trimStart_append, hfront'.trimStart_append] at htrim
    have hbody := hfront.reads 0 last hlast.parts
    rw [htext, hfront'.reads 0 _ htrailer.parts] at hbody
    obtain ⟨-, rfl⟩ := Prod.mk.inj (Except.ok.inj hbody)
    exact absurd (hlast '#' (by simp)) (by decide)

/-! ### Patterns -/

/-- A word that is a pattern is the text of a body. -/
theorem front_of_ofText {word : Text} {p : MatchPattern} (hword : ∀ c ∈ word, isBlank c = false)
    (h : MatchPattern.ofText word = .ok p) : Front word (.pattern p none) where
  reads width rest hrest := readBody_of_ofText hword h hrest.isBlank width
  starts := by
    obtain ⟨c, tail, rfl, hc⟩ := MatchPattern.exists_cons_of_ofText h
    have hmark : c ≠ '#' ∧ c ≠ '@' ∧ c.isDigit = false := by
      rcases hc with hc | rfl | rfl
      · refine ⟨?_, ?_, isDigit_of_isAlpha hc⟩
        · rintro rfl
          exact absurd hc (by decide)
        · rintro rfl
          exact absurd hc (by decide)
      · decide
      · decide
    exact ⟨c, tail, rfl, hword c List.mem_cons_self, hmark⟩

/-! ### Composed lines -/

/-- A word that is a pattern is the body of a rule by itself. And every such body is read within a line: blanks,
a specifier, blanks, the body, then a guard if the body is a pattern, then a comment, and blanks make a rule
with just this specifier and this body, up to the guard. -/
theorem ofLine_composed :
    (∀ {word : Text} {p : MatchPattern}, (∀ c ∈ word, isBlank c = false) → MatchPattern.ofText word = .ok p →
      IsBody word (.pattern p none))
    ∧ ∀ {w₁ s w₂ b guard comment w₃ : Text} {specifier : Option Specifier} {body body' : RuleBody},
      Blanks w₁ → SpecifierText s specifier → Blanks w₂ → IsBody b body → GuardText guard body body' →
      CommentText comment → Blanks w₃ →
      ofLine (w₁ ++ s ++ w₂ ++ b ++ guard ++ comment ++ w₃) = .ok (some ⟨specifier, body'⟩) := by
  constructor
  · intro word p hword hp
    exact isBody_iff.mpr ⟨[], word, [], by simp, Blanks.nil, Blanks.nil, front_of_ofText hword hp⟩
  intro w₁ s w₂ b guard comment w₃ specifier body body' hw₁ hs hw₂ hb hguard hcomment hw₃
  obtain ⟨lead, front, last, rfl, hlead, hlast, hfront⟩ := isBody_iff.mp hb
  have htrailer := hcomment.trailer hw₃
  cases hguard with
  | absent =>
    have hend := Trailer.append hlast htrailer
    have hline := hfront.ofLine_eq hw₁ hs (hw₂.append hlead) hend.parts fun width => hend.ends width body
    simpa using hline
  | @present w v text p e hw hne hv htext =>
    have hend := ends_of_guard (p := p) (hlast.append hw) hv htext htrailer
    have hparts : Parts (last ++ w ++ ("@if".toList ++ (v ++ '(' :: (text ++ ')' :: (comment ++ w₃))))) :=
      (hlast.append hw).parts_append (c := '@') (List.append_ne_nil_of_right_ne_nil _ hne) (by decide) (by decide)
        (by decide) (by decide)
    have hline := hfront.ofLine_eq hw₁ hs (hw₂.append hlead) hparts hend
    simpa using hline

theorem ofLine_composed_example :
    ofLine "  @3 *://example.com/* @if (title=\"x\" i)  # c ".toList
      = .ok (some ⟨some (.highlight 3), .pattern (.url anyScheme (.exact "example.com".toList) anyPath)
          (some (.comparison "title".toList .equals "x".toList true))⟩) := by
  have hword : MatchPattern.ofText "*://example.com/*".toList
      = .ok (.url anyScheme (.exact "example.com".toList) anyPath) := by decide +kernel
  have hsolid : ∀ c ∈ "*://example.com/*".toList, isBlank c = false := by
    have hall : "*://example.com/*".toList.all (!isBlank ·) = true := rfl
    simpa using hall
  have hbody := ofLine_composed.1 hsolid hword
  have htext : IsExpression "title=\"x\" i".toList (.comparison "title".toList .equals "x".toList true) :=
    ⟨0, [], by decide +kernel, Blanks.nil⟩
  have hspecifier : SpecifierText ('@' :: (List.replicate 0 '0' ++ decimalDigits 3)) (some (.highlight 3)) :=
    .highlight (by decide) (by decide)
  have hblanks : Blanks [' ', ' '] := by decide
  have hblank : Blanks [' '] := by decide
  have hguard := GuardText.present (p := .url anyScheme (.exact "example.com".toList) anyPath) hblank (by decide)
    hblank htext
  have hcomment : CommentText ([' ', ' '] ++ '#' :: " c".toList) := .present hblanks (by decide)
  refine Eq.trans (congrArg ofLine ?_)
    (ofLine_composed.2 hblanks hspecifier hblank hbody hguard hcomment hblank)
  decide +kernel

end Rule

end ResultFilter
