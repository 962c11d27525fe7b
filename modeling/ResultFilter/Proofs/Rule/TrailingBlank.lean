import ResultFilter.Proofs.Rule.Steps
import ResultFilter.Proofs.RuleIndex.Compiled
import ResultFilter.Proofs.Text

/-!
# Blanks at the end of a line

A blank at the end of a line says nothing: with it the line is the rule that it is without. Every reader
stops before the blank, or has failed already, so the two answers agree but for the blank that is left.

## Main definitions

* `AgreeBy` — two answers are refusals, or both found something, and what they found is related.
* `Behind` — what two readers found is the same, and the second left one character more.

## Main results

* `Rule.readExpression_append_blank`, `Rule.readBody_append_blank` — readers and a blank at the end.
* `Rule.ofLine?_append_blank` — a line and a blank at its end.
-/

namespace ResultFilter

open ResultFilter.Text

namespace Rule

/-- Reads a comparison after the name of a property. -/
def readComparison (width : Nat) (prop cs : Text) : Except SyntaxError (Expression × Text) :=
  match readOp? cs with
  | none => .error (.atRest width cs)
  | some (op, rest) => do
    let (value, rest) ← Literal.readString width (trimStart rest)
    let (ignoreCase, rest) := readIgnoreCase rest
    return (.comparison prop op value ignoreCase, rest)

/-- Reads what follows the name of a property and the blanks behind it. -/
def readTest (width : Nat) (prop : Text) : Text → Except SyntaxError (Expression × Text)
  | '=' :: '~' :: rest => do
    let (regex, rest) ← readRegex width (trimStart rest)
    return (.search prop regex, rest)
  | cs => readComparison width prop cs

theorem readPredicate_eq (width : Nat) (cs : Text) :
    readPredicate width cs = readIdent width cs >>= fun x => readTest width x.1 (trimStart x.2) := by
  unfold readPredicate readTest
  rfl

theorem readTest_of_ne {width : Nat} {prop cs : Text} (h : ∀ rest, cs ≠ '=' :: '~' :: rest) :
    readTest width prop cs = readComparison width prop cs := by
  unfold readTest
  split
  · next rest => exact absurd rfl (h rest)
  · rfl

/-- The regular expression that a text begins with if its target is named. -/
def namedStart? (cs : Text) : Option (RegexTarget × Text) :=
  match "url/".toList.isPrefixOf? cs with
  | some rest => some (.url, '/' :: rest)
  | none =>
    match "title/".toList.isPrefixOf? cs with
    | some rest => some (.title, '/' :: rest)
    | none => none

theorem regexStart?_of_ne {cs : Text} (h : ∀ rest, cs ≠ '/' :: rest) : regexStart? cs = namedStart? cs := by
  unfold regexStart?
  split
  · next rest => exact absurd rfl (h rest)
  · rfl

section Start

variable {rest : Text} (hrest : ∀ c ∈ rest.head?, isBlank c = true)
include hrest

/-- A mark without blanks is found before a blank just if it stands there. -/
theorem isPrefixOf?_append_of_blank {mark : Text} (hmark : mark.all (!isBlank ·) = true) (cs : Text) :
    mark.isPrefixOf? (cs ++ rest) = (mark.isPrefixOf? cs).map (· ++ rest) := by
  refine List.isPrefixOf?_append_of_stop (fun c hc hmem => ?_) cs
  have hblank := List.all_eq_true.mp hmark c hmem
  rw [hrest c hc] at hblank
  exact absurd hblank (by decide)

theorem namedStart?_append (cs : Text) :
    namedStart? (cs ++ rest) = (namedStart? cs).map fun x => (x.1, x.2 ++ rest) := by
  unfold namedStart?
  rw [isPrefixOf?_append_of_blank hrest rfl, isPrefixOf?_append_of_blank hrest rfl]
  cases "url/".toList.isPrefixOf? cs with
  | some after => rfl
  | none => cases "title/".toList.isPrefixOf? cs <;> rfl

/-- The start of a regular expression is not found across a blank. -/
theorem regexStart?_append (cs : Text) :
    regexStart? (cs ++ rest) = (regexStart? cs).map fun x => (x.1, x.2 ++ rest) := by
  have hnamed := namedStart?_append hrest cs
  cases cs with
  | nil =>
    have hslash (after : Text) : [] ++ rest ≠ '/' :: after := by
      rintro rfl
      exact absurd (hrest '/' rfl) (by decide)
    rwa [regexStart?_of_ne hslash, regexStart?_of_ne (by simp)]
  | cons d cs =>
    by_cases hd : d = '/'
    · subst hd
      rfl
    · rwa [regexStart?_of_ne (by simp [hd]), regexStart?_of_ne (by simp [hd])]

end Start

end Rule

/-- Two answers are both refusals, or both found something, and what they found is related. -/
def AgreeBy {α β : Type} (R : α → β → Prop) : Except SyntaxError α → Except SyntaxError β → Prop
  | .ok a, .ok b => R a b
  | .error _, .error _ => True
  | _, _ => False

/-- Two readers found the same, and the second left one character more. -/
def Behind {α : Type} (c : Char) (x y : α × Text) : Prop :=
  y.1 = x.1 ∧ y.2 = x.2 ++ [c]

theorem AgreeBy.bind {α β γ δ : Type} {R : α → β → Prop} {S : γ → δ → Prop} {x : Except SyntaxError α}
    {y : Except SyntaxError β} (h : AgreeBy R x y) {f : α → Except SyntaxError γ} {g : β → Except SyntaxError δ}
    (hfg : ∀ a b, R a b → AgreeBy S (f a) (g b)) : AgreeBy S (x >>= f) (y >>= g) := by
  cases x with
  | error e =>
    cases y with
    | error e' => trivial
    | ok b => exact h.elim
  | ok a =>
    cases y with
    | error e' => exact h.elim
    | ok b => exact hfg a b h

/-- A reader that finds something hands on what it finds and what it leaves. -/
theorem AgreeBy.bind_behind {α γ δ : Type} {c : Char} {S : γ → δ → Prop}
    {x y : Except SyntaxError (α × Text)} (h : AgreeBy (Behind c) x y)
    {f g : α × Text → Except SyntaxError _}
    (hfg : ∀ a rest, AgreeBy S (f (a, rest)) (g (a, rest ++ [c]))) : AgreeBy S (x >>= f) (y >>= g) := by
  refine h.bind fun a b hab => ?_
  obtain ⟨a, rest⟩ := a
  obtain ⟨b, rest'⟩ := b
  obtain ⟨hb, hrest⟩ := hab
  dsimp only at hb hrest
  rw [hb, hrest]
  exact hfg a rest

section Blank

variable {c : Char} (hc : isBlank c = true)
include hc

/-- A blank is no character that a reader looks for. -/
theorem ne_of_isBlank {d : Char} (hd : isBlank d = false) : c ≠ d := by
  rintro rfl
  rw [hc] at hd
  exact absurd hd (by simp)

theorem toNat_of_isBlank : c.toNat ≤ 32 ∨ 0x80 ≤ c.toNat := by
  unfold isBlank at hc
  simp only [Bool.or_eq_true, Bool.and_eq_true, decide_eq_true_eq, beq_iff_eq] at hc
  omega

/-- A blank is no letter and no digit. -/
theorem isAlphanum_of_isBlank : c.isAlpha = false ∧ c.isDigit = false := by
  have hn := toNat_of_isBlank hc
  have hval : c.val.toNat = c.toNat := rfl
  constructor
  · delta Char.isAlpha Char.isUpper Char.isLower
    simp only [Bool.or_eq_false_iff, Bool.and_eq_false_iff, decide_eq_false_iff_not, UInt32.le_iff_toNat_le,
      ge_iff_le, hval]
    rw [show ('A'.val).toNat = 65 from rfl, show ('Z'.val).toNat = 90 from rfl,
      show ('a'.val).toNat = 97 from rfl, show ('z'.val).toNat = 122 from rfl]
    omega
  · simp only [Char.isDigit, Bool.and_eq_false_iff, decide_eq_false_iff_not, UInt32.le_iff_toNat_le,
      ge_iff_le, hval]
    rw [show ('0'.val).toNat = 48 from rfl, show ('9'.val).toNat = 57 from rfl]
    omega

theorem isIdentChar_of_isBlank : Rule.isIdentChar c = false ∧ Rule.isIdentStart c = false := by
  obtain ⟨halpha, hdigit⟩ := isAlphanum_of_isBlank hc
  have hunderscore := ne_of_isBlank hc (d := '_') (by decide)
  have hdollar := ne_of_isBlank hc (d := '$') (by decide)
  simp [Rule.isIdentChar, Rule.isIdentStart, Char.isAlphanum, halpha, hdigit, hunderscore, hdollar]

theorem not_le_of_isBlank {a b : Char} (ha : 32 < a.toNat) (hb : b.toNat < 0x80) : ¬ (a ≤ c ∧ c ≤ b) := by
  have hn := toNat_of_isBlank hc
  rw [Char.le_def, Char.le_def, UInt32.le_iff_toNat_le, UInt32.le_iff_toNat_le]
  have hval : c.val.toNat = c.toNat := rfl
  have haval : a.val.toNat = a.toNat := rfl
  have hbval : b.val.toNat = b.toNat := rfl
  omega

theorem octalValue?_of_isBlank : octalValue? c = none :=
  if_neg (not_le_of_isBlank hc (by decide) (by decide))

theorem hexValue?_of_isBlank : hexValue? c = none := by
  rw [hexValue?, if_neg (not_le_of_isBlank hc (by decide) (by decide)),
    if_neg (not_le_of_isBlank hc (by decide) (by decide)), if_neg (not_le_of_isBlank hc (by decide) (by decide))]

/-- A blank at the end is passed over with the blanks before it, or stays there. -/
theorem trimStart_append_blank (cs : Text) :
    (trimStart cs = [] ∧ trimStart (cs ++ [c]) = [])
      ∨ (trimStart cs ≠ [] ∧ trimStart (cs ++ [c]) = trimStart cs ++ [c]) := by
  unfold trimStart
  induction cs with
  | nil => simp [hc]
  | cons d cs ih =>
    cases hd : isBlank d with
    | false => simp [hd]
    | true => simpa only [List.cons_append, List.dropWhile_cons, hd, if_true] using ih

/-- A reader that begins behind blanks finds nothing where nothing else is left. -/
theorem AgreeBy.trimStart {α β : Type} {R : α → β → Prop} {f : Text → Except SyntaxError α}
    {g : Text → Except SyntaxError β} (hnil : AgreeBy R (f []) (g []))
    (h : ∀ cs, AgreeBy R (f cs) (g (cs ++ [c]))) (cs : Text) :
    AgreeBy R (f (Text.trimStart cs)) (g (Text.trimStart (cs ++ [c]))) := by
  rcases trimStart_append_blank hc cs with ⟨h1, h2⟩ | ⟨-, h2⟩
  · rw [h1, h2]
    exact hnil
  · rw [h2]
    exact h _

/-! ### String literals -/

namespace Literal

theorem readOctal_append_blank : ∀ (count n : Nat) (cs : Text),
    readOctal count n (cs ++ [c]) = ((readOctal count n cs).1, (readOctal count n cs).2 ++ [c]) := by
  intro count
  induction count with
  | zero => intro n cs; rfl
  | succ count ih =>
    intro n cs
    cases cs with
    | nil => simp [readOctal, octalValue?_of_isBlank hc]
    | cons d cs =>
      rw [List.cons_append, readOctal, readOctal]
      cases octalValue? d with
      | none => rfl
      | some v =>
        dsimp only
        split
        · exact ih _ cs
        · rfl

theorem readHex?_append_blank : ∀ (count n : Nat) (cs : Text),
    readHex? count n (cs ++ [c]) = (readHex? count n cs).map fun x => (x.1, x.2 ++ [c]) := by
  intro count
  induction count with
  | zero => intro n cs; rfl
  | succ count ih =>
    intro n cs
    cases cs with
    | nil => simp [readHex?, hexValue?_of_isBlank hc]
    | cons d cs =>
      rw [List.cons_append, readHex?, readHex?]
      cases hexValue? d with
      | none => rfl
      | some v => exact ih _ cs

theorem readBraces?_append_blank : ∀ (cs : Text) (count n : Nat),
    readBraces? count n (cs ++ [c]) = (readBraces? count n cs).map fun x => (x.1, x.2 ++ [c]) := by
  intro cs
  induction cs with
  | nil =>
    intro count n
    have hbrace := ne_of_isBlank hc (d := '\x7d') (by decide)
    simp [readBraces?, hbrace, hexValue?_of_isBlank hc]
  | cons d cs ih =>
    intro count n
    rw [List.cons_append, readBraces?, readBraces?]
    split
    · rfl
    · split
      · cases hexValue? d with
        | none => rfl
        | some v => exact ih _ _
      · rfl

theorem readCode?_append_blank (d : Char) (cs : Text) :
    readCode? d (cs ++ [c]) = (readCode? d cs).map fun x => (x.1, x.2 ++ [c]) := by
  unfold readCode?
  cases octalValue? d with
  | some v => exact congrArg some (readOctal_append_blank hc 2 v cs)
  | none =>
    dsimp only
    by_cases hx : d = 'x'
    · subst hx
      exact readHex?_append_blank hc 2 0 cs
    by_cases hu : d = 'u'
    · subst hu
      cases cs with
      | nil =>
        have hbrace := ne_of_isBlank hc (d := '\x7b') (by decide)
        have hread := readHex?_append_blank hc 4 0 []
        simpa [hbrace] using hread
      | cons b cs =>
        by_cases hb : b = '\x7b'
        · subst hb
          exact readBraces?_append_blank hc cs 0 0
        · have hread := readHex?_append_blank hc 4 0 (b :: cs)
          simpa [hb] using hread
    · simp [hu]

theorem namedEscape?_of_isBlank : namedEscape? c = none := by
  unfold namedEscape?
  split
  all_goals first
    | rfl
    | exact absurd hc (by decide)

theorem readCode?_of_isBlank : readCode? c [] = none := by
  have hx := ne_of_isBlank hc (d := 'x') (by decide)
  have hu := ne_of_isBlank hc (d := 'u') (by decide)
  unfold readCode?
  rw [octalValue?_of_isBlank hc]
  dsimp only
  split
  · exact absurd rfl hx
  · exact absurd rfl hu
  · exact absurd rfl hu
  · rfl

theorem readEscape_append_blank (column column' : Nat) (cs : Text) :
    AgreeBy (Behind c) (readEscape column cs) (readEscape column' (cs ++ [c])) := by
  cases cs with
  | nil =>
    rw [List.nil_append, readEscape, readEscape, namedEscape?_of_isBlank hc]
    dsimp only
    rw [readCode?_of_isBlank hc]
    trivial
  | cons d cs =>
    rw [List.cons_append, readEscape, readEscape]
    cases namedEscape? d with
    | some v => exact ⟨rfl, rfl⟩
    | none =>
      dsimp only
      rw [readCode?_append_blank hc]
      cases readCode? d cs with
      | none => trivial
      | some x =>
        obtain ⟨n, rest⟩ := x
        dsimp only [Option.map_some]
        split
        · exact ⟨rfl, rfl⟩
        · trivial

theorem readBody_append_blank (width width' : Nat) : ∀ {fuel fuel' : Nat} {cs : Text},
    cs.length < fuel → cs.length + 1 < fuel' →
    AgreeBy (Behind c) (readBody width fuel cs) (readBody width' fuel' (cs ++ [c])) := by
  intro fuel
  induction fuel with
  | zero => intro fuel' cs h; exact absurd h (Nat.not_lt_zero _)
  | succ fuel ih =>
    intro fuel' cs h h'
    obtain ⟨fuel', rfl⟩ := Nat.exists_eq_succ_of_ne_zero (Nat.ne_zero_of_lt h')
    cases cs with
    | nil =>
      obtain ⟨fuel', rfl⟩ : ∃ k, fuel' = k + 1 := ⟨fuel' - 1, by simp at h'; omega⟩
      have hquote := ne_of_isBlank hc (d := '"') (by decide)
      have hback := ne_of_isBlank hc (d := '\\') (by decide)
      simp [readBody, hquote, hback, AgreeBy]
    | cons d cs =>
      rw [List.length_cons] at h h'
      rw [List.cons_append, readBody, readBody]
      split
      · exact ⟨rfl, rfl⟩
      · split
        · have hescape := readEscape_append_blank hc (SyntaxError.column width (d :: cs))
            (SyntaxError.column width' (d :: (cs ++ [c]))) cs
          cases hx : readEscape (SyntaxError.column width (d :: cs)) cs with
          | error e =>
            rw [hx] at hescape
            cases hy : readEscape (SyntaxError.column width' (d :: (cs ++ [c]))) (cs ++ [c]) with
            | error e' => trivial
            | ok y => rw [hy] at hescape; exact hescape.elim
          | ok x =>
            rw [hx] at hescape
            obtain ⟨v, rest⟩ := x
            cases hy : readEscape (SyntaxError.column width' (d :: (cs ++ [c]))) (cs ++ [c]) with
            | error e' => rw [hy] at hescape; exact hescape.elim
            | ok y =>
              rw [hy] at hescape
              obtain ⟨v', rest'⟩ := y
              obtain ⟨hv, hrest'⟩ := hescape
              dsimp only at hv hrest'
              subst hv hrest'
              have hle := length_le_of_readEscape hx
              dsimp only
              have hrest : AgreeBy (Behind c) (readBody width fuel rest) (readBody width' fuel' (rest ++ [c])) :=
                ih (by omega) (by omega)
              revert hrest
              cases readBody width fuel rest <;> cases readBody width' fuel' (rest ++ [c]) <;>
                simp [AgreeBy, Behind]
        · have hrest : AgreeBy (Behind c) (readBody width fuel cs) (readBody width' fuel' (cs ++ [c])) :=
            ih (by omega) (by omega)
          revert hrest
          cases readBody width fuel cs <;> cases readBody width' fuel' (cs ++ [c]) <;>
            simp [AgreeBy, Behind]

theorem readString_append_blank (width width' : Nat) (cs : Text) :
    AgreeBy (Behind c) (readString width cs) (readString width' (cs ++ [c])) := by
  cases cs with
  | nil =>
    have hquote := ne_of_isBlank hc (d := '"') (by decide)
    simp [readString, AgreeBy, hquote]
  | cons d cs =>
    by_cases hd : d = '"'
    · subst hd
      refine readBody_append_blank hc width width' (Nat.lt_succ_self _) ?_
      simp
    · simp [readString, AgreeBy, hd]

end Literal

/-! ### Regular expressions and tests -/

namespace Rule

theorem expect_append_blank (width width' : Nat) {d : Char} (hd : isBlank d = false) (cs : Text) :
    AgreeBy (fun rest rest' => rest' = rest ++ [c]) (expect width d cs) (expect width' d (cs ++ [c])) := by
  cases cs with
  | nil =>
    rw [List.nil_append, expect, expect, if_neg (ne_of_isBlank hc hd)]
    trivial
  | cons b cs =>
    rw [List.cons_append, expect, expect]
    split
    · exact rfl
    · trivial

theorem readSource?_append_blank (inClass : Bool) (cs : Text) :
    readSource? inClass (cs ++ [c]) = (readSource? inClass cs).map fun x => (x.1, x.2 ++ [c]) := by
  fun_induction readSource? inClass cs with
  | case1 inClass =>
    have hslash := ne_of_isBlank hc (d := '/') (by decide)
    rw [List.nil_append, readSource?, if_neg fun h => hslash h.1]
    · simp [readSource?]
    · exact ne_of_isBlank hc (by decide)
  | case2 inClass => simp [readSource?]
  | case3 inClass b cs ih =>
    rw [List.cons_append, List.cons_append, readSource?, ih, Option.map_map, Option.map_map]
    rfl
  | case4 inClass b cs hb hslash =>
    rw [List.cons_append, readSource?, if_pos hslash]
    · rfl
    · exact hb
  | case5 inClass b cs hb hslash ih =>
    rw [List.cons_append, readSource?, if_neg hslash, ih, Option.map_map, Option.map_map]
    · rfl
    · exact hb

theorem readRegex_append_blank (width width' : Nat) (cs : Text) :
    AgreeBy (Behind c) (readRegex width cs) (readRegex width' (cs ++ [c])) := by
  obtain ⟨halpha, -⟩ := isAlphanum_of_isBlank hc
  refine (expect_append_blank hc width width' (by decide) cs).bind ?_
  rintro rest _ rfl
  rw [readSource?_append_blank hc]
  cases readSource? false rest with
  | none => trivial
  | some x =>
    obtain ⟨source, tail⟩ := x
    dsimp only [Option.map_some]
    have hstop : ∀ a ∈ [c].head?, a.isAlpha = false := by simpa using halpha
    rw [List.takeWhile_append_of_stop hstop, List.dropWhile_append_of_stop hstop]
    split
    · trivial
    · split
      · trivial
      · split
        · exact ⟨rfl, rfl⟩
        · trivial

theorem readIdent_append_blank (width width' : Nat) (cs : Text) :
    AgreeBy (Behind c) (readIdent width cs) (readIdent width' (cs ++ [c])) := by
  obtain ⟨hchar, hstart⟩ := isIdentChar_of_isBlank hc
  cases cs with
  | nil => simp [readIdent, hstart, AgreeBy]
  | cons d cs =>
    have hstop : ∀ a ∈ [c].head?, isIdentChar a = false := by simpa using hchar
    rw [List.cons_append, readIdent, readIdent, ← List.cons_append,
      List.takeWhile_append_of_stop hstop, List.dropWhile_append_of_stop hstop]
    split
    · exact ⟨rfl, rfl⟩
    · trivial

theorem readOp?_append_blank (cs : Text) :
    readOp? (cs ++ [c]) = (readOp? cs).map fun x => (x.1, x.2 ++ [c]) := by
  have hequals := ne_of_isBlank hc (d := '=') (by decide)
  match cs with
  | [] => simp [readOp?, hequals]
  | [a] =>
    by_cases ha : a = '='
    · subst ha
      rfl
    · simp [readOp?, ha, hequals]
  | a :: b :: cs =>
    unfold readOp?
    split <;> simp_all

theorem readIgnoreCase_append_blank (cs : Text) :
    readIgnoreCase (cs ++ [c]) = ((readIgnoreCase cs).1, (readIgnoreCase cs).2 ++ [c]) := by
  obtain ⟨hchar, -⟩ := isIdentChar_of_isBlank hc
  unfold readIgnoreCase
  rcases trimStart_append_blank hc cs with ⟨h1, h2⟩ | ⟨hne, h2⟩
  · rw [h1, h2]
  · rw [h2]
    match htrim : trimStart cs with
    | [] => exact absurd htrim hne
    | [a] =>
      by_cases ha : a = 'i'
      · subst ha
        simp [hchar]
      · simp [ha]
    | a :: b :: rest =>
      by_cases ha : a = 'i'
      · subst ha
        simp only [List.cons_append]
        split <;> rfl
      · simp [ha]

theorem readComparison_append_blank (width width' : Nat) (prop cs : Text) :
    AgreeBy (Behind c) (readComparison width prop cs) (readComparison width' prop (cs ++ [c])) := by
  unfold readComparison
  rw [readOp?_append_blank hc]
  cases readOp? cs with
  | none => trivial
  | some x =>
    obtain ⟨op, rest⟩ := x
    have hstring := AgreeBy.trimStart hc (f := Literal.readString width) (g := Literal.readString width')
      trivial (Literal.readString_append_blank hc width width') rest
    refine hstring.bind_behind fun value last => ?_
    dsimp only
    rw [readIgnoreCase_append_blank hc]
    exact ⟨rfl, rfl⟩

theorem readTest_append_blank (width width' : Nat) (prop cs : Text) :
    AgreeBy (Behind c) (readTest width prop cs) (readTest width' prop (cs ++ [c])) := by
  have hcomparison := readComparison_append_blank hc width width' prop
  match cs with
  | [] =>
    rw [readTest_of_ne (by simp), readTest_of_ne (by simp)]
    exact hcomparison []
  | [a] =>
    rw [readTest_of_ne (by simp), readTest_of_ne (by simp [ne_of_isBlank hc (d := '~') (by decide)])]
    exact hcomparison [a]
  | a :: b :: rest =>
    by_cases hab : a = '=' ∧ b = '~'
    · obtain ⟨rfl, rfl⟩ := hab
      have hregex := AgreeBy.trimStart hc (f := readRegex width) (g := readRegex width') trivial
        (readRegex_append_blank hc width width') rest
      exact hregex.bind_behind fun regex last => ⟨rfl, rfl⟩
    · rw [readTest_of_ne (by simpa using hab), readTest_of_ne (by simpa using hab)]
      exact hcomparison (a :: b :: rest)

theorem readPredicate_append_blank (width width' : Nat) (cs : Text) :
    AgreeBy (Behind c) (readPredicate width cs) (readPredicate width' (cs ++ [c])) := by
  rw [readPredicate_eq, readPredicate_eq]
  refine (readIdent_append_blank hc width width' cs).bind_behind fun prop rest => ?_
  have hnil : AgreeBy (Behind c) (readTest width prop []) (readTest width' prop []) := trivial
  exact AgreeBy.trimStart hc hnil (readTest_append_blank hc width width' prop) rest

/-! ### Expressions -/

/-- The readers of an expression, given the same steps with a blank at the end and without it. -/
structure PassesBlank (c : Char) (width width' fuel : Nat) : Prop where
  or (cs : Text) : AgreeBy (Behind c) (readOr width fuel cs) (readOr width' fuel (cs ++ [c]))
  orRest (left : Expression) (cs : Text) :
    AgreeBy (Behind c) (readOrRest width fuel left cs) (readOrRest width' fuel left (cs ++ [c]))
  and (cs : Text) : AgreeBy (Behind c) (readAnd width fuel cs) (readAnd width' fuel (cs ++ [c]))
  andRest (left : Expression) (cs : Text) :
    AgreeBy (Behind c) (readAndRest width fuel left cs) (readAndRest width' fuel left (cs ++ [c]))
  unary (cs : Text) : AgreeBy (Behind c) (readUnary width fuel cs) (readUnary width' fuel (cs ++ [c]))

theorem passesBlank (width width' : Nat) : ∀ fuel, PassesBlank c width width' fuel := by
  intro fuel
  induction fuel with
  | zero =>
    exact ⟨fun _ => trivial, fun _ _ => trivial, fun _ => trivial, fun _ _ => trivial, fun _ => trivial⟩
  | succ fuel ih =>
    refine ⟨fun cs => ?_, fun left cs => ?_, fun cs => ?_, fun left cs => ?_, fun cs => ?_⟩
    · rw [readOr, readOr]
      exact (ih.and cs).bind_behind fun e rest => ih.orRest e rest
    · rw [readOrRest, readOrRest]
      rcases trimStart_append_blank hc cs with ⟨h1, h2⟩ | ⟨-, h2⟩
      · rw [h1, h2]
        exact ⟨rfl, rfl⟩
      · rw [h2]
        cases trimStart cs with
        | nil => simp [AgreeBy, Behind, ne_of_isBlank hc (d := '|') (by decide)]
        | cons d rest =>
          by_cases hd : d = '|'
          · subst hd
            exact (ih.and rest).bind_behind fun right last => ih.orRest (.or left right) last
          · simp [hd, AgreeBy, Behind]
    · rw [readAnd, readAnd]
      exact (ih.unary cs).bind_behind fun e rest => ih.andRest e rest
    · rw [readAndRest, readAndRest]
      rcases trimStart_append_blank hc cs with ⟨h1, h2⟩ | ⟨-, h2⟩
      · rw [h1, h2]
        exact ⟨rfl, rfl⟩
      · rw [h2]
        cases trimStart cs with
        | nil => simp [AgreeBy, Behind, ne_of_isBlank hc (d := '&') (by decide)]
        | cons d rest =>
          by_cases hd : d = '&'
          · subst hd
            exact (ih.unary rest).bind_behind fun right last => ih.andRest (.and left right) last
          · simp [hd, AgreeBy, Behind]
    · rw [readUnary, readUnary]
      rcases trimStart_append_blank hc cs with ⟨h1, h2⟩ | ⟨hne, h2⟩
      · rw [h1, h2]
        trivial
      · rw [h2]
        cases htrim : trimStart cs with
        | nil => exact absurd htrim hne
        | cons d rest =>
          by_cases hnot : d = '!'
          · subst hnot
            exact (ih.unary rest).bind_behind fun e last => ⟨rfl, rfl⟩
          by_cases hparen : d = '('
          · subst hparen
            refine (ih.or rest).bind_behind fun e last => ?_
            have hclose := AgreeBy.trimStart hc (f := expect width ')') (g := expect width' ')') trivial
              (expect_append_blank hc width width' (by decide)) last
            refine hclose.bind ?_
            rintro after _ rfl
            exact ⟨rfl, rfl⟩
          · have hread := readPredicate_append_blank hc width width' (d :: rest)
            simpa [hnot, hparen] using hread

theorem readExpression_append_blank (width width' : Nat) (cs : Text) :
    AgreeBy (Behind c) (readExpression width cs) (readExpression width' (cs ++ [c])) := by
  have hread := (passesBlank hc width width' (stepsFor (cs ++ [c]))).or cs
  rwa [readOr_eq width] at hread
  simp only [stepsFor, List.length_append]
  omega

/-! ### Lines -/

theorem readSpecifier_append_blank (cs : Text) :
    AgreeBy (Behind c) (readSpecifier cs) (readSpecifier (cs ++ [c])) := by
  obtain ⟨-, hdigit⟩ := isAlphanum_of_isBlank hc
  cases cs with
  | nil =>
    have hat := ne_of_isBlank hc (d := '@') (by decide)
    simp [readSpecifier, AgreeBy, Behind, hat]
  | cons d cs =>
    by_cases hd : d = '@'
    · subst hd
      rw [List.cons_append, readSpecifier, readSpecifier]
      have hstop : ∀ a ∈ [c].head?, a.isDigit = false := by simpa using hdigit
      rw [List.takeWhile_append_of_stop hstop, List.dropWhile_append_of_stop hstop]
      split
      · exact ⟨rfl, rfl⟩
      · split
        · exact ⟨rfl, rfl⟩
        · trivial
    · simp [readSpecifier, AgreeBy, Behind, hd]

theorem readBody_append_blank (width width' : Nat) (cs : Text) :
    AgreeBy (Behind c) (readBody width cs) (readBody width' (cs ++ [c])) := by
  have hblank : ∀ a ∈ [c].head?, isBlank a = true := by simpa using hc
  have hword : ∀ a ∈ [c].head?, (!isBlank a) = false := by simpa using hc
  unfold readBody
  dsimp only
  rw [List.takeWhile_append_of_stop hword, List.dropWhile_append_of_stop hword, regexStart?_append hblank]
  split
  · split
    · exact ⟨rfl, rfl⟩
    · trivial
  · cases regexStart? cs with
    | some x =>
      obtain ⟨target, tail⟩ := x
      exact (readRegex_append_blank hc width width' tail).bind_behind fun regex last => ⟨rfl, rfl⟩
    | none => exact (readExpression_append_blank hc width width' cs).bind_behind fun e last => ⟨rfl, rfl⟩

theorem readGuard_append_blank (width width' : Nat) (cs : Text) :
    AgreeBy (Behind c) (readGuard width cs) (readGuard width' (cs ++ [c])) := by
  have hexpect : ∀ {d : Char}, isBlank d = false → ∀ cs : Text,
      AgreeBy (fun rest rest' => rest' = rest ++ [c]) (expect width d (trimStart cs))
        (expect width' d (trimStart (cs ++ [c]))) := fun {d} hd cs =>
    AgreeBy.trimStart hc (f := expect width d) (g := expect width' d) trivial
      (expect_append_blank hc width width' hd) cs
  refine (hexpect (by decide) cs).bind ?_
  rintro rest _ rfl
  refine (readExpression_append_blank hc width width' rest).bind_behind fun e last => ?_
  refine (hexpect (by decide) last).bind ?_
  rintro after _ rfl
  exact ⟨rfl, rfl⟩

theorem finish_append_blank (width width' : Nat) (rest : Text) :
    AgreeBy (fun _ _ => True) (finish width rest) (finish width' (rest ++ [c])) := by
  unfold finish
  rcases trimStart_append_blank hc rest with ⟨h1, h2⟩ | ⟨hne, h2⟩
  · rw [h1, h2]
    trivial
  · rw [h2]
    match htrim : trimStart rest with
    | [] => exact absurd htrim hne
    | d :: cs =>
      have hlength : (d :: (cs ++ [c])).length < (rest ++ [c]).length ↔ (d :: cs).length < rest.length := by
        simp
      dsimp only [List.cons_append]
      simp only [hlength]
      split <;> trivial

/-- With a blank at its end a line is the rule that it is without. -/
theorem ofLine_append_blank (line : Text) : AgreeBy (· = ·) (ofLine line) (ofLine (line ++ [c])) := by
  have hempty : ∀ width width' : Nat, AgreeBy (Behind c) (readBody width []) (readBody width' []) :=
    fun _ _ => trivial
  unfold ofLine
  dsimp only
  rcases trimStart_append_blank hc line with ⟨h1, h2⟩ | ⟨hne, h2⟩
  · rw [h1, h2]
    trivial
  rw [h2]
  match htrim : trimStart line with
  | [] => exact absurd htrim hne
  | d :: cs =>
    by_cases hcomment : d = '#'
    · subst hcomment
      exact rfl
    have hspecifier := readSpecifier_append_blank hc (d :: cs)
    rw [List.cons_append] at hspecifier ⊢
    split
    · next h => exact absurd h (by simp)
    · next h => exact absurd (List.cons.inj h).1 hcomment
    split
    · next h => exact absurd h (by simp)
    · next h => exact absurd (List.cons.inj h).1 hcomment
    refine hspecifier.bind_behind fun specifier rest => ?_
    have hbody := AgreeBy.trimStart hc (f := readBody line.length) (g := readBody (line ++ [c]).length)
      (hempty _ _) (readBody_append_blank hc _ _) rest
    refine hbody.bind_behind fun body after => ?_
    dsimp only
    have hif : "@if".toList.isPrefixOf? (trimStart (after ++ [c]))
        = ("@if".toList.isPrefixOf? (trimStart after)).map (· ++ [c]) := by
      rcases trimStart_append_blank hc after with ⟨h1, h2⟩ | ⟨-, h2⟩
      · rw [h1, h2]
        rfl
      · rw [h2]
        exact isPrefixOf?_append_of_blank (by simpa using hc) rfl _
    rw [hif]
    cases "@if".toList.isPrefixOf? (trimStart after) with
    | none => exact (finish_append_blank hc _ _ after).bind fun _ _ _ => rfl
    | some afterIf =>
      cases body with
      | pattern p guard =>
        refine (readGuard_append_blank hc _ _ afterIf).bind_behind fun e last => ?_
        exact (finish_append_blank hc _ _ last).bind fun _ _ _ => rfl
      | regex target r => trivial
      | expression e => trivial

/-- A blank at the end of a line can be left out. -/
theorem ofLine_of_append_blank (line : Text) {rule : Option Rule} (h : ofLine (line ++ [c]) = .ok rule) :
    ofLine line = .ok rule := by
  have hread := ofLine_append_blank hc line
  rw [h] at hread
  cases hx : ofLine line with
  | error e =>
    rw [hx] at hread
    exact hread.elim
  | ok rule' =>
    rw [hx] at hread
    exact congrArg Except.ok hread

theorem ofLine?_append_blank (line : Text) : ofLine? (line ++ [c]) = ofLine? line := by
  have hread := ofLine_append_blank hc line
  unfold ofLine?
  cases hx : ofLine line with
  | error e =>
    rw [hx] at hread
    cases hy : ofLine (line ++ [c]) with
    | error e' => rfl
    | ok rule => rw [hy] at hread; exact hread.elim
  | ok rule =>
    rw [hx] at hread
    cases hy : ofLine (line ++ [c]) with
    | error e' => rw [hy] at hread; exact hread.elim
    | ok rule' =>
      rw [hy] at hread
      obtain rfl : rule = rule' := hread
      rfl

end Rule

end Blank

end ResultFilter
