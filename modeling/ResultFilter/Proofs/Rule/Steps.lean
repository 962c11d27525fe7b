import Mathlib.Data.List.Basic
import ResultFilter.Rule.Basic

/-!
# How far reading goes

Every reader of a part of a rule line takes at least one character when it finds something, and hands on
what follows. So the steps allowed for an expression are never used up: a larger number of them gives the
same answer.

## Main results

* `Rule.length_lt_of_readPredicate`, `Rule.shortens` — what is left is shorter.
* `Rule.readOr_eq` — more steps than one needs make no difference.
* `Rule.readSpecifier_eq_ok_iff`, `Rule.readBody_eq_ok_iff` — the ways in which a text begins with the specifier
  and with the body of a rule.
* `Rule.ofLine_eq_some_iff` — the parts of a line that is a rule.
-/

namespace Except

theorem bind_eq_ok_iff {ε α β : Type} {x : Except ε α} {f : α → Except ε β} {b : β} :
    (x >>= f) = .ok b ↔ ∃ a, x = .ok a ∧ f a = .ok b := by
  cases x with
  | error e =>
    constructor
    · intro h
      exact nomatch h
    · rintro ⟨a, h, -⟩
      exact nomatch h
  | ok a =>
    constructor
    · intro h
      exact ⟨a, rfl, h⟩
    · rintro ⟨a', ha, h⟩
      obtain rfl := Except.ok.inj ha
      exact h

end Except

namespace ResultFilter

open ResultFilter.Text

theorem length_trimStart_le (cs : Text) : (trimStart cs).length ≤ cs.length :=
  (List.dropWhile_sublist isBlank).length_le

theorem length_lt_of_trimStart {cs rest : Text} {c : Char} (h : trimStart cs = c :: rest) :
    rest.length < cs.length := by
  have hle := length_trimStart_le cs
  rwa [h, List.length_cons] at hle

/-! ### String literals -/

namespace Literal

theorem length_le_of_readOctal : ∀ {count n m : Nat} {cs rest : Text},
    readOctal count n cs = (m, rest) → rest.length ≤ cs.length := by
  intro count
  induction count with
  | zero =>
    intro n m cs rest h
    obtain ⟨-, rfl⟩ := Prod.mk.inj h
    exact Nat.le_refl _
  | succ count ih =>
    intro n m cs rest h
    cases cs with
    | nil =>
      obtain ⟨-, rfl⟩ := Prod.mk.inj h
      exact Nat.le_refl _
    | cons c cs =>
      rw [readOctal] at h
      split at h
      · split at h
        · exact Nat.le_succ_of_le (ih h)
        · obtain ⟨-, rfl⟩ := Prod.mk.inj h
          exact Nat.le_refl _
      · obtain ⟨-, rfl⟩ := Prod.mk.inj h
        exact Nat.le_refl _

theorem length_le_of_readHex? : ∀ {count n m : Nat} {cs rest : Text},
    readHex? count n cs = some (m, rest) → rest.length ≤ cs.length := by
  intro count
  induction count with
  | zero =>
    intro n m cs rest h
    obtain ⟨-, rfl⟩ := Prod.mk.inj (Option.some.inj h)
    exact Nat.le_refl _
  | succ count ih =>
    intro n m cs rest h
    cases cs with
    | nil => exact nomatch h
    | cons c cs =>
      obtain ⟨d, -, hrest⟩ := Option.bind_eq_some_iff.mp h
      exact Nat.le_succ_of_le (ih hrest)

theorem length_le_of_readBraces? : ∀ {cs rest : Text} {count n m : Nat},
    readBraces? count n cs = some (m, rest) → rest.length ≤ cs.length := by
  intro cs
  induction cs with
  | nil =>
    intro rest count n m h
    exact nomatch h
  | cons c cs ih =>
    intro rest count n m h
    rw [readBraces?] at h
    split at h
    · obtain ⟨-, rfl⟩ := Prod.mk.inj (Option.some.inj h)
      exact Nat.le_succ _
    · split at h
      · obtain ⟨d, -, hrest⟩ := Option.bind_eq_some_iff.mp h
        exact Nat.le_succ_of_le (ih hrest)
      · exact nomatch h

theorem length_le_of_readCode? {c : Char} {cs rest : Text} {n : Nat}
    (h : readCode? c cs = some (n, rest)) : rest.length ≤ cs.length := by
  unfold readCode? at h
  split at h
  · exact length_le_of_readOctal (Option.some.inj h)
  · split at h
    · exact length_le_of_readHex? h
    · exact Nat.le_succ_of_le (length_le_of_readBraces? h)
    · exact length_le_of_readHex? h
    · cases h

theorem length_le_of_readEscape {column : Nat} {cs rest : Text} {d : Char}
    (h : readEscape column cs = .ok (d, rest)) : rest.length ≤ cs.length := by
  unfold readEscape at h
  split at h
  · exact nomatch h
  · split at h
    · obtain ⟨-, rfl⟩ := Prod.mk.inj (Except.ok.inj h)
      exact Nat.le_succ _
    · split at h
      · next hcode =>
        split at h
        · obtain ⟨-, rfl⟩ := Prod.mk.inj (Except.ok.inj h)
          exact Nat.le_succ_of_le (length_le_of_readCode? hcode)
        · exact nomatch h
      · exact nomatch h

theorem length_lt_of_readBody {width : Nat} : ∀ {fuel : Nat} {cs value rest : Text},
    readBody width fuel cs = .ok (value, rest) → rest.length < cs.length := by
  intro fuel
  induction fuel with
  | zero =>
    intro cs value rest h
    exact nomatch h
  | succ fuel ih =>
    intro cs value rest h
    cases cs with
    | nil => exact nomatch h
    | cons c cs =>
      rw [readBody] at h
      split at h
      · obtain ⟨-, rfl⟩ := Prod.mk.inj (Except.ok.inj h)
        exact Nat.lt_succ_self _
      · split at h
        · split at h
          · next hescape =>
            split at h
            · next hbody =>
              obtain ⟨-, rfl⟩ := Prod.mk.inj (Except.ok.inj h)
              exact Nat.lt_succ_of_lt (Nat.lt_of_lt_of_le (ih hbody) (length_le_of_readEscape hescape))
            · exact nomatch h
          · exact nomatch h
        · split at h
          · next hbody =>
            obtain ⟨-, rfl⟩ := Prod.mk.inj (Except.ok.inj h)
            exact Nat.lt_succ_of_lt (ih hbody)
          · exact nomatch h

theorem length_lt_of_readString {width : Nat} {cs value rest : Text}
    (h : readString width cs = .ok (value, rest)) : rest.length < cs.length := by
  unfold readString at h
  split at h
  · exact Nat.lt_succ_of_lt (length_lt_of_readBody h)
  · exact nomatch h

end Literal

namespace Rule

/-! ### Regular expressions and tests -/

theorem eq_cons_of_expect {width : Nat} {c : Char} {cs rest : Text}
    (h : expect width c cs = .ok rest) : cs = c :: rest := by
  unfold expect at h
  split at h
  · split at h
    · next hd => rw [hd, Except.ok.inj h]
    · exact nomatch h
  · exact nomatch h

theorem length_lt_of_readSource? {inClass : Bool} {cs source rest : Text}
    (h : readSource? inClass cs = some (source, rest)) : rest.length < cs.length := by
  fun_induction readSource? inClass cs generalizing source rest with
  | case1 => exact nomatch h
  | case2 => exact nomatch h
  | case3 inClass c cs ih =>
    obtain ⟨⟨source', rest'⟩, hread, heq⟩ := Option.map_eq_some_iff.mp h
    obtain ⟨-, rfl⟩ := Prod.mk.inj heq
    exact Nat.lt_succ_of_lt (Nat.lt_succ_of_lt (ih hread))
  | case4 =>
    obtain ⟨-, rfl⟩ := Prod.mk.inj (Option.some.inj h)
    exact Nat.lt_succ_self _
  | case5 inClass c cs _ _ ih =>
    obtain ⟨⟨source', rest'⟩, hread, heq⟩ := Option.map_eq_some_iff.mp h
    obtain ⟨-, rfl⟩ := Prod.mk.inj heq
    exact Nat.lt_succ_of_lt (ih hread)

theorem length_lt_of_readRegex {width : Nat} {cs rest : Text} {r : Regex}
    (h : readRegex width cs = .ok (r, rest)) : rest.length < cs.length := by
  obtain ⟨after, hexpect, h⟩ := Except.bind_eq_ok_iff.mp h
  rw [eq_cons_of_expect hexpect]
  split at h
  · exact nomatch h
  · next source tail hsource =>
    split at h
    · exact nomatch h
    · split at h
      · exact nomatch h
      · split at h
        · obtain ⟨-, rfl⟩ := Prod.mk.inj (Except.ok.inj h)
          have hdrop : (tail.dropWhile Char.isAlpha).length ≤ tail.length := (List.dropWhile_sublist _).length_le
          have hlt := length_lt_of_readSource? hsource
          rw [List.length_cons]
          omega
        · exact nomatch h

theorem isIdentChar_of_isIdentStart {c : Char} (h : isIdentStart c = true) : isIdentChar c = true := by
  unfold isIdentStart at h
  unfold isIdentChar Char.isAlphanum
  rcases (Bool.or_eq_true ..).mp h with h | h
  · rcases (Bool.or_eq_true ..).mp h with h | h <;> simp [h]
  · simp [h]

theorem length_lt_of_readIdent {width : Nat} {cs name rest : Text}
    (h : readIdent width cs = .ok (name, rest)) : rest.length < cs.length := by
  unfold readIdent at h
  split at h
  · next c cs =>
    split at h
    · next hstart =>
      obtain ⟨-, rfl⟩ := Prod.mk.inj (Except.ok.inj h)
      rw [List.dropWhile_cons_of_pos (isIdentChar_of_isIdentStart hstart)]
      exact Nat.lt_succ_of_le (List.dropWhile_sublist isIdentChar).length_le
    · exact nomatch h
  · exact nomatch h

theorem length_lt_of_readOp? {cs rest : Text} {op : StringOp} (h : readOp? cs = some (op, rest)) :
    rest.length < cs.length := by
  unfold readOp? at h
  split at h
  · obtain ⟨-, rfl⟩ := Prod.mk.inj (Option.some.inj h)
    exact Nat.lt_succ_of_lt (Nat.lt_succ_self _)
  · obtain ⟨-, rfl⟩ := Prod.mk.inj (Option.some.inj h)
    exact Nat.lt_succ_of_lt (Nat.lt_succ_self _)
  · obtain ⟨-, rfl⟩ := Prod.mk.inj (Option.some.inj h)
    exact Nat.lt_succ_of_lt (Nat.lt_succ_self _)
  · obtain ⟨-, rfl⟩ := Prod.mk.inj (Option.some.inj h)
    exact Nat.lt_succ_self _
  · exact nomatch h

theorem length_readIgnoreCase_le (cs : Text) : (readIgnoreCase cs).2.length ≤ cs.length := by
  have htrim := length_trimStart_le cs
  unfold readIgnoreCase
  split
  · exact Nat.zero_le _
  · next c rest hcs =>
    rw [hcs] at htrim
    split
    · exact Nat.le_refl _
    · exact Nat.le_of_succ_le htrim
  · exact Nat.le_refl _

/-- A test of a property takes at least one character. -/
theorem length_lt_of_readPredicate {width : Nat} {cs rest : Text} {e : Expression}
    (h : readPredicate width cs = .ok (e, rest)) : rest.length < cs.length := by
  obtain ⟨⟨prop, after⟩, hident, h⟩ := Except.bind_eq_ok_iff.mp h
  have hlt := length_lt_of_readIdent hident
  have htrim := length_trimStart_le after
  dsimp only at h
  split at h
  · next tail hafter =>
    obtain ⟨⟨regex, last⟩, hregex, h⟩ := Except.bind_eq_ok_iff.mp h
    obtain ⟨-, rfl⟩ := Prod.mk.inj (Except.ok.inj h)
    have hregexlt := length_lt_of_readRegex hregex
    have htail := length_trimStart_le tail
    rw [hafter, List.length_cons, List.length_cons] at htrim
    dsimp only
    omega
  · split at h
    · exact nomatch h
    · next op tail hop =>
      obtain ⟨⟨value, last⟩, hstring, h⟩ := Except.bind_eq_ok_iff.mp h
      obtain ⟨-, rfl⟩ := Prod.mk.inj (Except.ok.inj h)
      have hoplt := length_lt_of_readOp? hop
      have hstringlt := Literal.length_lt_of_readString hstring
      have htail := length_trimStart_le tail
      have hcase := length_readIgnoreCase_le last
      dsimp only at hcase ⊢
      omega

/-! ### Expressions -/

/-- What each reader of an expression leaves, given the steps that it may take: those that begin an operand
leave less than they were given, those that go on with one no more. -/
structure Shortens (width fuel : Nat) : Prop where
  or {cs rest : Text} {e : Expression} : readOr width fuel cs = .ok (e, rest) → rest.length < cs.length
  orRest {cs rest : Text} {left e : Expression} :
    readOrRest width fuel left cs = .ok (e, rest) → rest.length ≤ cs.length
  and {cs rest : Text} {e : Expression} : readAnd width fuel cs = .ok (e, rest) → rest.length < cs.length
  andRest {cs rest : Text} {left e : Expression} :
    readAndRest width fuel left cs = .ok (e, rest) → rest.length ≤ cs.length
  unary {cs rest : Text} {e : Expression} : readUnary width fuel cs = .ok (e, rest) → rest.length < cs.length

theorem shortens (width : Nat) : ∀ fuel, Shortens width fuel := by
  intro fuel
  induction fuel with
  | zero =>
    exact ⟨fun h => (nomatch h), fun h => (nomatch h), fun h => (nomatch h), fun h => (nomatch h),
      fun h => (nomatch h)⟩
  | succ fuel ih =>
    refine ⟨fun {cs rest e} h => ?_, fun {cs rest left e} h => ?_, fun {cs rest e} h => ?_,
      fun {cs rest left e} h => ?_, fun {cs rest e} h => ?_⟩
    · rw [readOr] at h
      obtain ⟨⟨a, after⟩, ha, h⟩ := Except.bind_eq_ok_iff.mp h
      exact Nat.lt_of_le_of_lt (ih.orRest h) (ih.and ha)
    · rw [readOrRest] at h
      split at h
      · next tail hcs =>
        obtain ⟨⟨a, after⟩, ha, h⟩ := Except.bind_eq_ok_iff.mp h
        have hshort := length_lt_of_trimStart hcs
        have hlt := ih.and ha
        have hle := ih.orRest h
        omega
      · obtain ⟨-, rfl⟩ := Prod.mk.inj (Except.ok.inj h)
        exact Nat.le_refl _
    · rw [readAnd] at h
      obtain ⟨⟨a, after⟩, ha, h⟩ := Except.bind_eq_ok_iff.mp h
      exact Nat.lt_of_le_of_lt (ih.andRest h) (ih.unary ha)
    · rw [readAndRest] at h
      split at h
      · next tail hcs =>
        obtain ⟨⟨a, after⟩, ha, h⟩ := Except.bind_eq_ok_iff.mp h
        have hshort := length_lt_of_trimStart hcs
        have hlt := ih.unary ha
        have hle := ih.andRest h
        omega
      · obtain ⟨-, rfl⟩ := Prod.mk.inj (Except.ok.inj h)
        exact Nat.le_refl _
    · rw [readUnary] at h
      split at h
      · next tail hcs =>
        obtain ⟨⟨a, after⟩, ha, h⟩ := Except.bind_eq_ok_iff.mp h
        obtain ⟨-, rfl⟩ := Prod.mk.inj (Except.ok.inj h)
        have hshort := length_lt_of_trimStart hcs
        have hlt := ih.unary ha
        omega
      · next tail hcs =>
        obtain ⟨⟨a, after⟩, ha, h⟩ := Except.bind_eq_ok_iff.mp h
        obtain ⟨last, hexpect, h⟩ := Except.bind_eq_ok_iff.mp h
        obtain ⟨-, rfl⟩ := Prod.mk.inj (Except.ok.inj h)
        have hshort := length_lt_of_trimStart hcs
        have hlt := ih.or ha
        have hclose := length_lt_of_trimStart (eq_cons_of_expect hexpect)
        omega
      · exact Nat.lt_of_lt_of_le (length_lt_of_readPredicate h) (length_trimStart_le cs)

/-- One more step makes no difference to a reader that has enough for what it is given: a character is
reached through at most four readers. -/
structure Settled (width fuel : Nat) : Prop where
  or {cs : Text} : 4 * cs.length + 3 ≤ fuel → readOr width (fuel + 1) cs = readOr width fuel cs
  orRest {left : Expression} {cs : Text} :
    4 * cs.length + 1 ≤ fuel → readOrRest width (fuel + 1) left cs = readOrRest width fuel left cs
  and {cs : Text} : 4 * cs.length + 2 ≤ fuel → readAnd width (fuel + 1) cs = readAnd width fuel cs
  andRest {left : Expression} {cs : Text} :
    4 * cs.length + 1 ≤ fuel → readAndRest width (fuel + 1) left cs = readAndRest width fuel left cs
  unary {cs : Text} : 4 * cs.length + 1 ≤ fuel → readUnary width (fuel + 1) cs = readUnary width fuel cs

/-- Two runs of readers in sequence agree if the first parts do, and the second parts on what these leave. -/
theorem bind_congr_ok {α β : Type} {x y : Except SyntaxError α} {f g : α → Except SyntaxError β}
    (hxy : x = y) (hfg : ∀ a, y = .ok a → f a = g a) : (x >>= f) = (y >>= g) := by
  subst hxy
  cases x with
  | error e => rfl
  | ok a => exact hfg a rfl

theorem settled (width : Nat) : ∀ fuel, Settled width fuel := by
  intro fuel
  induction fuel with
  | zero =>
    exact ⟨fun h => absurd h (by omega), fun h => absurd h (by omega), fun h => absurd h (by omega),
      fun h => absurd h (by omega), fun h => absurd h (by omega)⟩
  | succ fuel ih =>
    have hs := shortens width fuel
    refine ⟨fun {cs} h => ?_, fun {left cs} h => ?_, fun {cs} h => ?_, fun {left cs} h => ?_,
      fun {cs} h => ?_⟩
    · rw [readOr, readOr]
      refine bind_congr_ok (ih.and (by omega)) fun a ha => ?_
      have hlt := hs.and ha
      exact ih.orRest (by omega)
    · rw [readOrRest, readOrRest]
      split
      · next tail hcs =>
        have hshort := length_lt_of_trimStart hcs
        refine bind_congr_ok (ih.and (by omega)) fun a ha => ?_
        have hlt := hs.and ha
        exact ih.orRest (by omega)
      · rfl
    · rw [readAnd, readAnd]
      refine bind_congr_ok (ih.unary (by omega)) fun a ha => ?_
      have hlt := hs.unary ha
      exact ih.andRest (by omega)
    · rw [readAndRest, readAndRest]
      split
      · next tail hcs =>
        have hshort := length_lt_of_trimStart hcs
        refine bind_congr_ok (ih.unary (by omega)) fun a ha => ?_
        have hlt := hs.unary ha
        exact ih.andRest (by omega)
      · rfl
    · rw [readUnary, readUnary]
      split
      · next tail hcs =>
        have hshort := length_lt_of_trimStart hcs
        exact bind_congr_ok (ih.unary (by omega)) fun a _ => rfl
      · next tail hcs =>
        have hshort := length_lt_of_trimStart hcs
        exact bind_congr_ok (ih.or (by omega)) fun a _ => rfl
      · rfl

/-- More steps than those allowed for a text make no difference. -/
theorem readOr_eq (width : Nat) {fuel : Nat} {cs : Text} (h : stepsFor cs ≤ fuel) :
    readOr width fuel cs = readExpression width cs := by
  induction h with
  | refl => rfl
  | @step fuel hle ih =>
    rw [← ih]
    refine (settled width fuel).or ?_
    have hsteps : 4 * cs.length + 4 ≤ fuel := hle
    omega

/-! ### Whole lines -/

/-- How a text begins with a specifier or with none, and what that leaves of it. -/
inductive BeginsSpecifier : Text → Option Specifier → Text → Prop
  /-- A sign without a number lifts a block. -/
  | negate {tail : Text} (hdigits : (tail.takeWhile Char.isDigit).isEmpty = true) :
      BeginsSpecifier ('@' :: tail) (some .negate) (tail.dropWhile Char.isDigit)
  /-- The number behind a sign is that of a colour. -/
  | highlight {tail : Text} {color : Nat} (hdigits : (tail.takeWhile Char.isDigit).isEmpty = false)
      (hcolor : ofDigits 10 ((tail.takeWhile Char.isDigit).filterMap decimalValue?) = color)
      (hrange : 1 ≤ color ∧ color ≤ largestColor) :
      BeginsSpecifier ('@' :: tail) (some (.highlight color)) (tail.dropWhile Char.isDigit)
  /-- There is no specifier. -/
  | absent {cs : Text} (hat : ∀ tail, cs ≠ '@' :: tail) : BeginsSpecifier cs none cs

theorem readSpecifier_eq_ok_iff {cs rest : Text} {specifier : Option Specifier} :
    readSpecifier cs = .ok (specifier, rest) ↔ BeginsSpecifier cs specifier rest := by
  constructor
  · intro h
    unfold readSpecifier at h
    split at h
    · next tail =>
      dsimp only at h
      split at h
      · next hdigits =>
        obtain ⟨rfl, rfl⟩ := Prod.mk.inj (Except.ok.inj h)
        exact .negate hdigits
      next hdigits =>
      split at h
      · next hrange =>
        obtain ⟨rfl, rfl⟩ := Prod.mk.inj (Except.ok.inj h)
        exact .highlight (Bool.eq_false_iff.mpr hdigits) rfl hrange
      · exact absurd h (by simp)
    · next hat =>
      obtain ⟨rfl, rfl⟩ := Prod.mk.inj (Except.ok.inj h)
      exact .absent hat
  · intro h
    cases h with
    | negate hdigits => rw [readSpecifier, hdigits, if_pos rfl]
    | highlight hdigits hcolor hrange =>
      rw [readSpecifier, hdigits, hcolor, if_neg Bool.false_ne_true, if_pos hrange]
    | absent hat =>
      rw [readSpecifier]
      exact hat

/-- How a text begins with the body of a rule, and what the body leaves of it. The first word tells whether the
body is a match pattern; if it is none, the name of a target tells a regular expression from an expression. -/
inductive Begins (width : Nat) (cs : Text) : RuleBody → Text → Prop
  /-- The first word is a match pattern. -/
  | pattern {p : MatchPattern} (hlooks : looksLikePattern (cs.takeWhile (!isBlank ·)) = true)
      (hpattern : MatchPattern.ofText (cs.takeWhile (!isBlank ·)) = .ok p) :
      Begins width cs (.pattern p none) (cs.dropWhile (!isBlank ·))
  /-- A regular expression follows the name of its target. -/
  | regex {target : RegexTarget} {r : Regex} {tail after : Text}
      (hlooks : looksLikePattern (cs.takeWhile (!isBlank ·)) = false)
      (hstart : regexStart? cs = some (target, tail)) (hread : readRegex width tail = .ok (r, after)) :
      Begins width cs (.regex target r) after
  /-- Anything else is an expression. -/
  | expression {e : Expression} {after : Text}
      (hlooks : looksLikePattern (cs.takeWhile (!isBlank ·)) = false) (hstart : regexStart? cs = none)
      (hread : readExpression width cs = .ok (e, after)) : Begins width cs (.expression e) after

theorem readBody_eq_ok_iff {width : Nat} {cs after : Text} {body : RuleBody} :
    readBody width cs = .ok (body, after) ↔ Begins width cs body after := by
  unfold readBody
  dsimp only
  constructor
  · intro h
    split at h
    · next hlooks =>
      split at h
      · next p hpattern =>
        obtain ⟨rfl, rfl⟩ := Prod.mk.inj (Except.ok.inj h)
        exact .pattern hlooks hpattern
      · exact absurd h (by simp)
    next hlooks =>
    rw [Bool.not_eq_true] at hlooks
    split at h
    · next target tail hstart =>
      obtain ⟨⟨r, last⟩, hread, h⟩ := Except.bind_eq_ok_iff.mp h
      obtain ⟨rfl, rfl⟩ := Prod.mk.inj (Except.ok.inj h)
      exact .regex hlooks hstart hread
    · next hstart =>
      obtain ⟨⟨e, last⟩, hread, h⟩ := Except.bind_eq_ok_iff.mp h
      obtain ⟨rfl, rfl⟩ := Prod.mk.inj (Except.ok.inj h)
      exact .expression hlooks hstart hread
  · intro h
    cases h with
    | pattern hlooks hpattern => rw [if_pos hlooks, hpattern]
    | regex hlooks hstart hread =>
      rw [hlooks, if_neg Bool.false_ne_true, hstart]
      exact Except.bind_eq_ok_iff.mpr ⟨_, hread, rfl⟩
    | expression hlooks hstart hread =>
      rw [hlooks, if_neg Bool.false_ne_true, hstart]
      exact Except.bind_eq_ok_iff.mpr ⟨_, hread, rfl⟩

/-- How a line goes on behind the body of its rule up to its end, and what the body is then: a guard makes
another one of it. -/
inductive Ends (width : Nat) : RuleBody → Text → RuleBody → Prop
  /-- No guard follows. -/
  | plain {body : RuleBody} {after : Text} (hmark : "@if".toList.isPrefixOf? (trimStart after) = none)
      (hfinish : finish width after = .ok ()) : Ends width body after body
  /-- A guard follows a match pattern. -/
  | guarded {p : MatchPattern} {old : Option Expression} {guard : Expression} {after behind last : Text}
      (hmark : "@if".toList.isPrefixOf? (trimStart after) = some behind)
      (hguard : readGuard width behind = .ok (guard, last)) (hfinish : finish width last = .ok ()) :
      Ends width (.pattern p old) after (.pattern p (some guard))

/-- A line is a rule just if a specifier or none, a body, and an end follow each other in it. -/
theorem ofLine_eq_some_iff {line : Text} {rule : Rule} :
    ofLine line = .ok (some rule) ↔ ∃ c cs rest body after, trimStart line = c :: cs ∧ c ≠ '#'
      ∧ readSpecifier (c :: cs) = .ok (rule.specifier, rest)
      ∧ readBody line.length (trimStart rest) = .ok (body, after)
      ∧ Ends line.length body after rule.body := by
  unfold ofLine
  dsimp only
  split
  · next hstart =>
    refine iff_of_false (by simp) ?_
    rintro ⟨c, cs, -, -, -, heq, -⟩
    exact List.cons_ne_nil c cs (heq.symm.trans hstart)
  · next hstart =>
    refine iff_of_false (by simp) ?_
    rintro ⟨c, cs, -, -, -, heq, hc, -⟩
    exact hc (List.cons.inj (heq.symm.trans hstart)).1
  · next hnil hcomment =>
    obtain ⟨c, cs, hstart⟩ := List.exists_cons_of_ne_nil hnil
    have hc : c ≠ '#' := by
      rintro rfl
      exact hcomment cs hstart
    simp only [Except.bind_eq_ok_iff, Prod.exists]
    constructor
    · rintro ⟨specifier, rest, hspecifier, body, after, hbody, h⟩
      refine ⟨c, cs, rest, body, after, hstart, hc, ?_⟩
      split at h
      · next hmark =>
        obtain ⟨⟨⟩, hfinish, h⟩ := Except.bind_eq_ok_iff.mp h
        obtain rfl : _ = rule := Option.some.inj (Except.ok.inj h)
        exact ⟨hstart ▸ hspecifier, hbody, .plain hmark hfinish⟩
      · next behind hmark =>
        split at h
        · obtain ⟨⟨guard, last⟩, hguard, h⟩ := Except.bind_eq_ok_iff.mp h
          obtain ⟨⟨⟩, hfinish, h⟩ := Except.bind_eq_ok_iff.mp h
          obtain rfl : _ = rule := Option.some.inj (Except.ok.inj h)
          exact ⟨hstart ▸ hspecifier, hbody, .guarded hmark hguard hfinish⟩
        · exact nomatch h
    · rintro ⟨c', cs', rest, body, after, hstart', -, hspecifier, hbody, hends⟩
      refine ⟨rule.specifier, rest, hstart' ▸ hspecifier, body, after, hbody, ?_⟩
      obtain ⟨specifier, body'⟩ := rule
      cases hends with
      | plain hmark hfinish =>
        rw [hmark]
        exact Except.bind_eq_ok_iff.mpr ⟨(), hfinish, rfl⟩
      | guarded hmark hguard hfinish =>
        rw [hmark]
        refine Except.bind_eq_ok_iff.mpr ⟨_, hguard, ?_⟩
        exact Except.bind_eq_ok_iff.mpr ⟨(), hfinish, rfl⟩

/-- A rule has the specifier and the body that its line begins with, the body maybe with a guard. -/
theorem parts_of_ofLine {line : Text} {rule : Rule} (h : ofLine line = .ok (some rule)) :
    ∃ rest body after, readSpecifier (trimStart line) = .ok (rule.specifier, rest)
      ∧ readBody line.length (trimStart rest) = .ok (body, after)
      ∧ (rule.body = body ∨ ∃ p guard cs last,
          readGuard line.length cs = .ok (guard, last) ∧ rule.body = .pattern p (some guard)) := by
  obtain ⟨c, cs, rest, body, after, hstart, -, hspecifier, hbody, hends⟩ := ofLine_eq_some_iff.mp h
  refine ⟨rest, body, after, hstart ▸ hspecifier, hbody, ?_⟩
  obtain ⟨specifier, body'⟩ := rule
  cases hends with
  | plain => exact Or.inl rfl
  | guarded hmark hguard => exact Or.inr ⟨_, _, _, _, hguard, rfl⟩

end Rule

end ResultFilter
