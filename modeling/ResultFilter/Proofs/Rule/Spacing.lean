import ResultFilter.Proofs.Rule.Composed

/-!
# Spacing in tests

A test is the name of a property, an operator and an operand. Blanks between the name and the operator do not
change it, and they may be left out unless the operator is that for endings. Its dollar sign may stand in a
name too, and a name is read as far as it goes: without a blank the dollar sign is the last character of the
name, and what is left is a test of another property for equality.

## Main definitions

* `Grammar.IsName` — the names of properties.
* `Grammar.Condition` — what a test asks of its property.
* `Grammar.Condition.Operand` — the operands that are accepted behind an operator.
* `Grammar.Condition.glued` — what is read without blanks before the operator.

## Main results

* `Grammar.Condition.readPredicate_eq` — a name, an operator and an operand are read as a test.
* `Rule.ofLine_of_readPredicate` — a test by itself is a rule.
* `Rule.ofLine_glued` — tests with and without blanks before their operator.
-/

namespace ResultFilter

open ResultFilter.Text

theorem StringOp.spelling_injective : Function.Injective spelling := by
  intro op op' h
  revert h
  cases op <;> cases op' <;> decide

namespace Grammar

/-! ### Tests -/

/-- A text is the name of a property. -/
structure IsName (name : Text) : Prop where
  /-- It has a first character, which is one that a name may begin with. -/
  start : ∃ c tail, name = c :: tail ∧ Rule.isIdentStart c = true
  /-- Its characters may stand in a name. -/
  chars : ∀ c ∈ name, Rule.isIdentChar c = true

/-- What a test asks of its property. -/
inductive Condition where
  /-- The property compares with a text. -/
  | comparison (op : StringOp) (value : Text) (ignoreCase : Bool)
  /-- A regular expression occurs in it. -/
  | search (regex : Regex)

namespace Condition

/-- The operator of a test as it is written. -/
def sign : Condition → Text
  | .comparison op _ _ => op.spelling
  | .search _ => ['=', '~']

/-- The test of a property. -/
def test (name : Text) : Condition → Expression
  | .comparison op value ignoreCase => .comparison name op value ignoreCase
  | .search regex => .search name regex

/-- What is read if no blank stands between the name and the operator. -/
def glued (name : Text) : Condition → Expression
  | .comparison .endsWith value ignoreCase => .comparison (name ++ ['$']) .equals value ignoreCase
  | c => c.test name

/-- A text begins with an operand that is accepted behind the operator of a test, and `rest` follows it. The
letter that takes case out belongs to the operand if it is there. -/
def Operand : Condition → Text → Text → Prop
  | .comparison _ value ignoreCase, cs, rest =>
    ∃ last, StringToken value cs last ∧ CaseFlag ignoreCase last rest ∧ (ignoreCase = false → Unflagged rest)
  | .search regex, cs, rest => RegexToken regex cs rest

end Condition

/-! ### Names -/

theorem IsName.name {name rest : Text} (h : IsName name) (hrest : EndsWord rest) :
    Name name (name ++ rest) rest :=
  ⟨⟨[], Rule.Blanks.nil, rfl⟩, h.start, h.chars, hrest⟩

/-- A dollar sign goes on with a name. -/
theorem IsName.concat_dollar {name : Text} (h : IsName name) : IsName (name ++ ['$']) where
  start := by
    obtain ⟨c, tail, rfl, hc⟩ := h.start
    exact ⟨c, tail ++ ['$'], rfl, hc⟩
  chars := List.forall_mem_append.mpr ⟨h.chars, List.forall_mem_singleton.mpr rfl⟩

theorem endsWord_cons {d : Char} {tail : Text} (hd : Rule.isIdentChar d = false) : EndsWord (d :: tail) :=
  fun _ hc => Option.some.inj hc ▸ hd

/-! ### What is read -/

theorem mark_of_blanks {w mark : Text} (hw : Rule.Blanks w) (rest : Text) : Mark mark (w ++ mark ++ rest) rest :=
  ⟨w, hw, by rw [List.append_assoc]⟩

namespace Condition

/-- A name, an operator and an operand that is accepted behind it are read as a test. -/
theorem readPredicate_eq {c : Condition} {name cs after mid rest : Text} (hname : Name name cs after)
    (hsign : Mark c.sign after mid) (hmid : c.Operand mid rest) (width : Nat) :
    Rule.readPredicate width (trimStart cs) = .ok (c.test name, rest) := by
  cases c with
  | comparison op value ignoreCase =>
    obtain ⟨last, hvalue, hflag, hlone⟩ := hmid
    refine readPredicate_of_comparison hname hsign hvalue ?_
    cases ignoreCase with
    | true => exact hflag.readIgnoreCase_eq
    | false =>
      obtain rfl : last = rest := hflag
      exact (hlone rfl).readIgnoreCase_eq
  | search regex => exact readPredicate_of_search hname hsign hmid

section Spacing

variable {c : Condition} {name cs rest : Text} (hname : IsName name) (hcs : c.Operand cs rest) (width : Nat)
include hname hcs

/-- With blanks before the operator it does not matter how the operator begins. -/
theorem readPredicate_spaced {w : Text} (hw : Rule.Blanks w) (hne : w ≠ []) :
    Rule.readPredicate width (name ++ (w ++ c.sign ++ cs)) = .ok (c.test name, rest) := by
  have hends : EndsWord (w ++ c.sign ++ cs) := by
    rw [List.append_assoc]
    exact endsWord_of_isBlank fun _ => hw.isBlank_of_mem_head? hne
  have hread := readPredicate_eq (hname.name hends) (mark_of_blanks hw cs) hcs width
  rwa [(hname.name hends).trimStart_eq] at hread

/-- Without them a name ends before an operator that begins with no character of names. -/
theorem readPredicate_of_endsWord (hends : EndsWord (c.sign ++ cs)) :
    Rule.readPredicate width (name ++ (c.sign ++ cs)) = .ok (c.test name, rest) := by
  have hread := readPredicate_eq (hname.name hends) (mark_of_blanks Rule.Blanks.nil cs) hcs width
  rwa [(hname.name hends).trimStart_eq] at hread

/-- Without them the dollar sign of an operator is the end of the name. -/
theorem readPredicate_glued :
    Rule.readPredicate width (name ++ (c.sign ++ cs)) = .ok (c.glued name, rest) := by
  cases c with
  | search regex => exact readPredicate_of_endsWord hname hcs width (endsWord_cons (d := '=') rfl)
  | comparison op value ignoreCase =>
    cases op with
    | equals => exact readPredicate_of_endsWord hname hcs width (endsWord_cons (d := '=') rfl)
    | startsWith => exact readPredicate_of_endsWord hname hcs width (endsWord_cons (d := '^') rfl)
    | contains => exact readPredicate_of_endsWord hname hcs width (endsWord_cons (d := '*') rfl)
    | endsWith =>
      -- the operand is one behind an equals sign as well
      have hoperand : (Condition.comparison .equals value ignoreCase).Operand cs rest := hcs
      have hread := readPredicate_of_endsWord hname.concat_dollar hoperand width (endsWord_cons (d := '=') rfl)
      rwa [List.append_assoc] at hread

end Spacing

end Condition

end Grammar

namespace Rule

/-! ### Lines -/

/-- A name is followed by a character that goes on neither with it, nor with a scheme, nor as a regular
expression would. -/
structure AfterName (d : Char) : Prop where
  ident : isIdentChar d = false
  colon : d ≠ ':'
  slash : d ≠ '/'
  scheme : isBlank d = true ∨ Url.isSchemeChar d = false

theorem afterName_of_isBlank {d : Char} (hd : isBlank d = true) : AfterName d where
  ident := (isIdentChar_of_isBlank hd).1
  colon := ne_of_isBlank hd (by decide)
  slash := ne_of_isBlank hd (by decide)
  scheme := Or.inl hd

section Line

variable {name tail : Text} {d : Char} (hname : Grammar.IsName name) (hd : AfterName d)
include hname hd

/-- A scheme does not reach over the end of the name: a character that is none of a scheme follows, or a blank,
which ends the word. -/
theorem not_isSchemePattern {scheme rest : Text} (heq : name ++ d :: tail = scheme ++ ':' :: rest)
    (hsolid : ∀ c ∈ scheme, isBlank c = false) : isSchemePattern scheme = false := by
  obtain ⟨c, name, rfl, hc⟩ := hname.start
  have hcolon : ':' ∉ c :: name := fun hmem => absurd (hname.chars _ hmem) (by decide)
  refine eq_false_of_ne_true fun hscheme => ?_
  rcases exists_cons_of_isSchemePattern hscheme with rfl | ⟨-, -, -, -, hall⟩
  · obtain rfl : c = '*' := (List.cons.inj heq).1
    exact absurd hc (by decide)
  rcases List.append_eq_append_iff.mp heq with ⟨more, rfl, hmore⟩ | ⟨more, hmore, hrest⟩
  · cases more with
    | nil => exact hd.colon (List.cons.inj hmore).1
    | cons e more =>
      obtain rfl : d = e := (List.cons.inj hmore).1
      have hmem : d ∈ c :: name ++ d :: more := List.mem_append_right _ List.mem_cons_self
      rcases hd.scheme with hblank | hchar
      · exact absurd (hsolid d hmem) (by rw [hblank]; decide)
      · exact absurd (hall d hmem) (by rw [hchar]; decide)
  · cases more with
    | nil => exact hd.colon (List.cons.inj hrest).1.symm
    | cons e more =>
      obtain rfl : ':' = e := (List.cons.inj hrest).1
      exact hcolon (hmore ▸ List.mem_append_right _ List.mem_cons_self)

/-- A text that begins with a name and such a character does not begin as a match pattern does. -/
theorem looksLikePattern_of_isName :
    looksLikePattern ((name ++ d :: tail).takeWhile (!isBlank ·)) = false := by
  have hword : (name ++ d :: tail).takeWhile (!isBlank ·) ++ (name ++ d :: tail).dropWhile (!isBlank ·)
      = name ++ d :: tail := List.takeWhile_append_dropWhile
  have hsolid : ∀ c ∈ (name ++ d :: tail).takeWhile (!isBlank ·), isBlank c = false := by
    intro c hc
    simpa using List.all_eq_true.mp List.all_takeWhile c hc
  generalize (name ++ d :: tail).takeWhile (!isBlank ·) = word at hword hsolid ⊢
  rw [looksLikePattern, Bool.or_eq_false_iff, beq_eq_false_iff_ne]
  constructor
  · rintro rfl
    obtain ⟨c, rest, rfl, hc⟩ := hname.start
    obtain rfl : '<' = c := (List.cons.inj hword).1
    exact absurd hc (by decide)
  · split
    · next scheme after hcut =>
      obtain rfl := eq_of_cutAt? hcut
      rw [List.append_assoc, List.append_assoc] at hword
      exact not_isSchemePattern hname hd hword.symm fun c hc =>
        hsolid c (List.mem_append_left _ (List.mem_append_left _ hc))
    · rfl

/-- Nor does it begin as a regular expression does. -/
theorem regexStart?_of_isName : regexStart? (name ++ d :: tail) = none := by
  refine Option.eq_none_iff_forall_ne_some.mpr ?_
  rintro ⟨target, source⟩ hstart
  obtain ⟨mark, hmark, heq, hslash⟩ := parts_of_regexStart? hstart
  obtain ⟨source, rfl⟩ := List.head?_eq_some_iff.mp hslash
  have hletters : ∀ c ∈ mark, isIdentChar c = true := by
    simp only [List.mem_cons, List.not_mem_nil, or_false] at hmark
    rcases hmark with rfl | rfl | rfl <;> exact List.all_eq_true.mp (by decide)
  -- both are the name before the first character that is none of a name
  have hstop : ∀ c ∈ (d :: tail).head?, isIdentChar c = false := fun _ hc => Option.some.inj hc ▸ hd.ident
  have hstop' : ∀ c ∈ ('/' :: source).head?, isIdentChar c = false := fun _ hc => Option.some.inj hc ▸ by decide
  have hdrop := (List.span_append_of_stop hname.chars hstop).2
  rw [heq, (List.span_append_of_stop hletters hstop').2] at hdrop
  exact hd.slash (List.cons.inj hdrop).1.symm

/-- A test by itself is a rule, with blanks or a comment behind it. -/
theorem ofLine_of_readPredicate {e : Expression} {rest : Text}
    (hread : ∀ width, readPredicate width (name ++ d :: tail) = .ok (e, rest)) (hrest : Trailer rest) :
    ofLine (name ++ d :: tail) = .ok (some ⟨none, .expression e⟩) := by
  have hpattern : looksLikePattern ((name ++ d :: tail).takeWhile (!isBlank ·)) = false :=
    looksLikePattern_of_isName hname hd
  have hregex : regexStart? (name ++ d :: tail) = none := regexStart?_of_isName hname hd
  obtain ⟨c, name, rfl, hc⟩ := hname.start
  have hblank : isBlank c = false := eq_false_of_ne_true fun h => by simp [isIdentChar_of_isBlank h] at hc
  have hne {a : Char} (ha : isIdentStart a = false) : c ≠ a := by
    rintro rfl
    exact absurd hc (by rw [ha]; decide)
  have hstart : trimStart (c :: name ++ d :: tail) = c :: name ++ d :: tail := trimStart_cons hblank _
  have hspecifier : readSpecifier ([] ++ (c :: name ++ d :: tail)) = .ok (none, c :: name ++ d :: tail) :=
    readSpecifier_append .absent (fun a ha => Option.some.inj ha ▸ isDigit_of_isIdentStart hc)
      fun _ a ha => Option.some.inj ha ▸ hne (by decide)
  have hderives : Grammar.Derives .or (c :: name ++ d :: tail) e rest := by
    have htest := hread 0
    rw [← hstart] at htest
    exact .orOne (.andOne (.test (Grammar.derives_of_readPredicate htest)))
  refine ofLine_eq_some_iff.mpr ⟨c, _, _, _, rest, hstart, hne (by decide), hspecifier, ?_,
    hrest.ends _ (.expression e)⟩
  rw [hstart, readBody]
  dsimp only
  rw [if_neg (by rw [hpattern]; decide), hregex]
  exact Except.bind_eq_ok_iff.mpr ⟨_, Grammar.readExpression_of_closes hderives hrest.parts.closes _, rfl⟩

end Line

/-! ### With and without blanks -/

/-- Without blanks before the operator a text begins with a name all the same, if with a longer one. -/
theorem exists_isName_of_glued {name : Text} (hname : Grammar.IsName name) (c : Grammar.Condition) (cs : Text) :
    ∃ longest d tail, name ++ (c.sign ++ cs) = longest ++ d :: tail ∧ Grammar.IsName longest ∧ AfterName d := by
  have hequals : AfterName '=' := ⟨by decide, by decide, by decide, by decide⟩
  cases c with
  | search regex => exact ⟨name, '=', _, rfl, hname, hequals⟩
  | comparison op value ignoreCase =>
    cases op with
    | equals => exact ⟨name, '=', _, rfl, hname, hequals⟩
    | startsWith => exact ⟨name, '^', _, rfl, hname, by decide, by decide, by decide, by decide⟩
    | contains => exact ⟨name, '*', _, rfl, hname, by decide, by decide, by decide, by decide⟩
    | endsWith =>
      exact ⟨name ++ ['$'], '=', cs, (List.append_assoc name ['$'] _).symm, hname.concat_dollar, hequals⟩

open Grammar in
/-- Behind blanks every operator is read as itself, and the text is the test of the named property. Without
them it is the same test just if the operator is not that for endings, whose dollar sign would end the name.
This is so wherever a test may stand, and so of a line that is nothing else. -/
theorem ofLine_glued {c : Condition} {name w cs rest : Text} (hname : IsName name) (hw : Blanks w) (hne : w ≠ [])
    (hcs : c.Operand cs rest) :
    (∀ width, readPredicate width (name ++ (w ++ c.sign ++ cs)) = .ok (c.test name, rest)
      ∧ readPredicate width (name ++ (c.sign ++ cs)) = .ok (c.glued name, rest))
    ∧ (Trailer rest → ofLine (name ++ (w ++ c.sign ++ cs)) = .ok (some ⟨none, .expression (c.test name)⟩)
      ∧ ofLine (name ++ (c.sign ++ cs)) = .ok (some ⟨none, .expression (c.glued name)⟩))
    ∧ (c.glued name = c.test name ↔ c.sign ≠ StringOp.endsWith.spelling) := by
  have hspaced (width : Nat) := c.readPredicate_spaced hname hcs width hw hne
  have hglued (width : Nat) := c.readPredicate_glued hname hcs width
  refine ⟨fun width => ⟨hspaced width, hglued width⟩, fun hrest => ⟨?_, ?_⟩, ?_⟩
  · obtain ⟨b, v, rfl⟩ := List.exists_cons_of_ne_nil hne
    exact ofLine_of_readPredicate hname (afterName_of_isBlank (hw b List.mem_cons_self)) hspaced hrest
  · obtain ⟨longest, d, tail, heq, hlongest, hd⟩ := exists_isName_of_glued hname c cs
    rw [heq] at hglued ⊢
    exact ofLine_of_readPredicate hlongest hd hglued hrest
  · have hsame : c.sign ≠ StringOp.endsWith.spelling → c.glued name = c.test name := by
      intro hsign
      unfold Condition.glued
      split
      · exact absurd rfl hsign
      · rfl
    refine ⟨?_, hsame⟩
    intro heq hsign
    cases c with
    | search regex => exact absurd (List.cons.inj hsign).1 (by decide)
    | comparison op value ignoreCase =>
      obtain rfl : op = .endsWith := StringOp.spelling_injective hsign
      exact absurd (Expression.compare.inj heq).2.1 (by decide)

/-- A blank behind the operator, and the letter that takes case out behind the operand. -/
theorem ofLine_glued_example :
    ofLine "title *= \"deal\" i".toList
        = .ok (some ⟨none, .expression (.comparison "title".toList .contains "deal".toList true)⟩)
      ∧ ofLine "title*= \"deal\" i".toList
        = .ok (some ⟨none, .expression (.comparison "title".toList .contains "deal".toList true)⟩) := by
  have hname : Grammar.IsName "title".toList := ⟨⟨'t', "itle".toList, rfl, by decide⟩, List.all_eq_true.mp (by decide)⟩
  have hblank : Blanks [' '] := List.forall_mem_singleton.mpr rfl
  have hvalue : Grammar.StringToken "deal".toList " \"deal\" i".toList " i".toList :=
    ⟨"\"deal\" i".toList, 0, ⟨[' '], hblank, rfl⟩, by decide +kernel⟩
  have hflag : Grammar.CaseFlag true " i".toList [] := ⟨⟨[' '], hblank, rfl⟩, fun _ hc => nomatch hc⟩
  have hoperand : (Grammar.Condition.comparison .contains "deal".toList true).Operand " \"deal\" i".toList [] :=
    ⟨_, hvalue, hflag, nofun⟩
  exact (ofLine_glued hname hblank (by decide) hoperand).2.1 (.blanks Blanks.nil)

/-- The same operand is read behind a blank and without one, as tests of two properties. -/
theorem ofLine_glued_counterexample :
    Grammar.IsName "url".toList
      ∧ (Grammar.Condition.comparison .endsWith "/cart".toList false).Operand "\"/cart\"".toList []
      ∧ ofLine "url $=\"/cart\"".toList
        = .ok (some ⟨none, .expression (.comparison "url".toList .endsWith "/cart".toList false)⟩)
      ∧ ofLine "url$=\"/cart\"".toList
        = .ok (some ⟨none, .expression (.comparison "url$".toList .equals "/cart".toList false)⟩) := by
  have hvalue : Grammar.StringToken "/cart".toList "\"/cart\"".toList [] :=
    ⟨_, 0, ⟨[], Blanks.nil, rfl⟩, by decide +kernel⟩
  have hname : Grammar.IsName "url".toList := ⟨⟨'u', "rl".toList, rfl, by decide⟩, List.all_eq_true.mp (by decide)⟩
  exact ⟨hname, ⟨[], hvalue, rfl, fun _ => Grammar.unflagged_nil⟩, by decide +kernel, by decide +kernel⟩

end Rule

end ResultFilter
