import ResultFilter.Proofs.Rule.Literal
import ResultFilter.Proofs.Rule.TrailingBlank

/-!
# The grammar of expressions

An expression is a text of the grammar

```text
or        := and {'|' and}
and       := unary {'&' unary}
unary     := '!' unary | '(' or ')' | predicate
predicate := name operator string ['i'] | name '=~' regex
```

Blanks may stand before every token, and both operators associate to the left. A name is the longest run
of its characters, and the letter that takes case out of a comparison stands by itself. The grammar is a
relation and knows of no steps and no columns; the readers of a line read exactly the texts that it
derives.

## Main definitions

* `Grammar.AfterBlanks` — what follows any number of blanks.
* `Grammar.Mark`, `Grammar.Name`, `Grammar.StringToken`, `Grammar.RegexToken`, `Grammar.CaseFlag` — the
  tokens, and what follows them.
* `Grammar.Derives` — a phrase of the grammar with its tree, and what follows it.

## Main results

* `Grammar.derives_of_readOr` — what is read is derived, up to the place where reading stops.
* `Grammar.readAs_of_derives`, `Grammar.readExpression_of_closes` — what is derived is read, if what follows
  it does not go on with it.
* `Grammar.Derives.unique` — the grammar is unambiguous.
* `Grammar.readExpression_eq_ok_iff` — a text is read as a tree just if it is derived with that tree.
-/

namespace ResultFilter

open ResultFilter.Text

/-- A comparison as it is written. -/
def StringOp.spelling : StringOp → Text
  | .equals => ['=']
  | .startsWith => ['^', '=']
  | .endsWith => ['$', '=']
  | .contains => ['*', '=']

namespace Grammar

/-! ### Tokens -/

/-- A text begins with any number of blanks, and another text follows them. -/
def AfterBlanks (cs text : Text) : Prop :=
  ∃ blanks, (∀ c ∈ blanks, isBlank c = true) ∧ cs = blanks ++ text

/-- A text begins with a mark, and `rest` follows it. -/
def Mark (mark cs rest : Text) : Prop :=
  AfterBlanks cs (mark ++ rest)

/-- A text begins with a name, which is the longest run of its characters, and `rest` follows it. -/
structure Name (name cs rest : Text) : Prop where
  /-- The text is the name and the rest. -/
  eq : AfterBlanks cs (name ++ rest)
  /-- It has a first character, which is one that a name may begin with. -/
  start : ∃ c tail, name = c :: tail ∧ Rule.isIdentStart c = true
  /-- Its characters may stand in a name. -/
  chars : ∀ c ∈ name, Rule.isIdentChar c = true
  /-- The character after it may not. -/
  longest : ∀ c ∈ rest.head?, Rule.isIdentChar c = false

/-- A text begins with a string literal, and `rest` follows it. The width of the line does not matter. -/
def StringToken (value cs rest : Text) : Prop :=
  ∃ text width, AfterBlanks cs text ∧ Literal.readString width text = .ok (value, rest)

/-- A text begins with a regular expression, and `rest` follows it. -/
def RegexToken (regex : Regex) (cs rest : Text) : Prop :=
  ∃ text width, AfterBlanks cs text ∧ Rule.readRegex width text = .ok (regex, rest)

/-- The letter that takes case out of a comparison, by itself; or it is left out. -/
def CaseFlag : Bool → Text → Text → Prop
  | true, cs, rest => Mark ['i'] cs rest ∧ ∀ c ∈ rest.head?, Rule.isIdentChar c = false
  | false, cs, rest => cs = rest

/-! ### Phrases -/

/-- The phrases of the grammar, from the loosest to the tightest. -/
inductive Phrase where
  | or
  | and
  | unary
  | predicate
deriving DecidableEq, Repr

/-- A text begins with a phrase that has a tree, and `rest` follows it. -/
inductive Derives : Phrase → Text → Expression → Text → Prop
  | orOne {cs rest : Text} {e : Expression} (h : Derives .and cs e rest) : Derives .or cs e rest
  | orMore {cs mid after rest : Text} {a b : Expression} (ha : Derives .or cs a mid)
      (hmark : Mark ['|'] mid after) (hb : Derives .and after b rest) : Derives .or cs (.or a b) rest
  | andOne {cs rest : Text} {e : Expression} (h : Derives .unary cs e rest) : Derives .and cs e rest
  | andMore {cs mid after rest : Text} {a b : Expression} (ha : Derives .and cs a mid)
      (hmark : Mark ['&'] mid after) (hb : Derives .unary after b rest) : Derives .and cs (.and a b) rest
  | negation {cs after rest : Text} {e : Expression} (hmark : Mark ['!'] cs after)
      (h : Derives .unary after e rest) : Derives .unary cs (.not e) rest
  | parentheses {cs after mid rest : Text} {e : Expression} (hopen : Mark ['('] cs after)
      (h : Derives .or after e mid) (hclose : Mark [')'] mid rest) : Derives .unary cs e rest
  | test {cs rest : Text} {e : Expression} (h : Derives .predicate cs e rest) : Derives .unary cs e rest
  | comparison {cs after mid last rest prop value : Text} {op : StringOp} {ignoreCase : Bool}
      (hname : Name prop cs after) (hop : Mark op.spelling after mid) (hvalue : StringToken value mid last)
      (hcase : CaseFlag ignoreCase last rest) :
      Derives .predicate cs (.comparison prop op value ignoreCase) rest
  | search {cs after mid rest prop : Text} {regex : Regex} (hname : Name prop cs after)
      (hop : Mark ['=', '~'] after mid) (hregex : RegexToken regex mid rest) :
      Derives .predicate cs (.search prop regex) rest

/-! ### Blanks before a token -/

theorem afterBlanks_trimStart (cs : Text) : AfterBlanks cs (trimStart cs) := by
  refine ⟨cs.takeWhile isBlank, fun c hc => ?_, (List.takeWhile_append_dropWhile).symm⟩
  exact List.all_eq_true.mp List.all_takeWhile c hc

/-- The blanks before a token are all that stand there. -/
theorem AfterBlanks.trimStart_eq {cs text : Text} {c : Char} (h : AfterBlanks cs (c :: text))
    (hc : isBlank c = false) : trimStart cs = c :: text := by
  obtain ⟨blanks, hblanks, rfl⟩ := h
  rw [trimStart, List.dropWhile_append_of_pos hblanks, List.dropWhile_cons_of_neg (by rw [hc]; decide)]

theorem AfterBlanks.length_le {cs text : Text} (h : AfterBlanks cs text) : text.length ≤ cs.length := by
  obtain ⟨blanks, -, rfl⟩ := h
  rw [List.length_append]
  exact Nat.le_add_left _ _

theorem mark_of_trimStart_eq {mark cs rest : Text} (h : trimStart cs = mark ++ rest) : Mark mark cs rest := by
  unfold Mark
  rw [← h]
  exact afterBlanks_trimStart cs

theorem Mark.length_le {mark cs rest : Text} (h : Mark mark cs rest) :
    mark.length + rest.length ≤ cs.length := by
  have hle := AfterBlanks.length_le h
  rwa [List.length_append] at hle

theorem Mark.length_lt {c : Char} {cs rest : Text} (h : Mark [c] cs rest) : rest.length < cs.length := by
  have hle := h.length_le
  rw [List.length_singleton] at hle
  omega

/-- Only one mark can stand at the front of a text. -/
theorem Mark.not_mark {c d : Char} {cs after : Text} (h : Mark [c] cs after) (hc : isBlank c = false)
    (hd : isBlank d = false) (hne : c ≠ d) (last : Text) : ¬ Mark [d] cs last := by
  intro h'
  have htrim := (AfterBlanks.trimStart_eq h hc).symm.trans (AfterBlanks.trimStart_eq h' hd)
  exact hne (List.cons.inj htrim).1

/-! ### Readers of tokens -/

theorem name_of_readIdent {width : Nat} {cs name rest : Text}
    (h : Rule.readIdent width (trimStart cs) = .ok (name, rest)) : Name name cs rest := by
  have hblanks := afterBlanks_trimStart cs
  unfold Rule.readIdent at h
  split at h
  · next c tail htrim =>
    split at h
    · next hstart =>
      obtain ⟨rfl, rfl⟩ := Prod.mk.inj (Except.ok.inj h)
      rw [htrim]
      refine ⟨?_, ⟨c, tail.takeWhile Rule.isIdentChar, ?_, hstart⟩, fun d hd => ?_, fun d hd => ?_⟩
      · rwa [List.takeWhile_append_dropWhile, ← htrim]
      · rw [List.takeWhile_cons_of_pos (Rule.isIdentChar_of_isIdentStart hstart)]
      · exact List.all_eq_true.mp List.all_takeWhile d hd
      · have hnot := List.head?_dropWhile_not Rule.isIdentChar (c :: tail)
        rw [Option.mem_def.mp hd] at hnot
        simpa using hnot
    · exact nomatch h
  · exact nomatch h

theorem Name.trimStart_eq {name cs rest : Text} (h : Name name cs rest) : trimStart cs = name ++ rest := by
  obtain ⟨heq, ⟨c, tail, rfl, hstart⟩, -, -⟩ := h
  have hblank : isBlank c = false := by
    by_contra hc
    rw [Bool.not_eq_false] at hc
    exact absurd hstart (by simp [isIdentChar_of_isBlank hc])
  exact AfterBlanks.trimStart_eq heq hblank

theorem Name.readIdent_eq {name cs rest : Text} (h : Name name cs rest) (width : Nat) :
    Rule.readIdent width (trimStart cs) = .ok (name, rest) := by
  rw [h.trimStart_eq]
  obtain ⟨-, ⟨c, tail, rfl, hstart⟩, hchars, hlongest⟩ := h
  have hread : Rule.readIdent width (c :: tail ++ rest)
      = .ok ((c :: tail ++ rest).takeWhile Rule.isIdentChar, (c :: tail ++ rest).dropWhile Rule.isIdentChar) :=
    if_pos hstart
  obtain ⟨htake, hdrop⟩ := List.span_append_of_stop hchars hlongest
  rw [hread, htake, hdrop]

theorem Name.length_lt {name cs rest : Text} (h : Name name cs rest) : rest.length < cs.length :=
  Nat.lt_of_lt_of_le (Rule.length_lt_of_readIdent (h.readIdent_eq 0)) (length_trimStart_le cs)

theorem eq_spelling_append_of_readOp? {cs rest : Text} {op : StringOp}
    (h : Rule.readOp? cs = some (op, rest)) : cs = op.spelling ++ rest := by
  unfold Rule.readOp? at h
  split at h
  case h_5 => exact nomatch h
  all_goals
    obtain ⟨rfl, rfl⟩ := Prod.mk.inj (Option.some.inj h)
    rfl

theorem readOp?_spelling (op : StringOp) (rest : Text) :
    Rule.readOp? (op.spelling ++ rest) = some (op, rest) := by
  cases op <;> rfl

/-- Only the columns of faults depend on the width of the line, so a literal is read on every line. -/
theorem StringToken.readString_eq {value cs rest : Text} (h : StringToken value cs rest) (width : Nat) :
    Literal.readString width (trimStart cs) = .ok (value, rest) := by
  obtain ⟨text, width', hblanks, hread⟩ := h
  unfold Literal.readString at hread
  split at hread
  · rw [hblanks.trimStart_eq (by decide)]
    exact Literal.readString_eq_ok_iff.mpr (Literal.readString_eq_ok_iff.mp hread)
  · exact absurd hread (by simp)

theorem StringToken.length_lt {value cs rest : Text} (h : StringToken value cs rest) :
    rest.length < cs.length :=
  Nat.lt_of_lt_of_le (Literal.length_lt_of_readString (h.readString_eq 0)) (length_trimStart_le cs)

theorem RegexToken.readRegex_eq {regex : Regex} {cs rest : Text} (h : RegexToken regex cs rest) (width : Nat) :
    Rule.readRegex width (trimStart cs) = .ok (regex, rest) := by
  obtain ⟨text, width', hblanks, hread⟩ := h
  obtain ⟨after, hexpect, hread⟩ := Except.bind_eq_ok_iff.mp hread
  obtain rfl := Rule.eq_cons_of_expect hexpect
  have hslash : Rule.expect width '/' ('/' :: after) = .ok after := rfl
  rw [hblanks.trimStart_eq (by decide), Rule.readRegex, hslash]
  exact hread

theorem RegexToken.length_lt {regex : Regex} {cs rest : Text} (h : RegexToken regex cs rest) :
    rest.length < cs.length :=
  Nat.lt_of_lt_of_le (Rule.length_lt_of_readRegex (h.readRegex_eq 0)) (length_trimStart_le cs)

theorem caseFlag_readIgnoreCase (cs : Text) :
    CaseFlag (Rule.readIgnoreCase cs).1 cs (Rule.readIgnoreCase cs).2 := by
  unfold Rule.readIgnoreCase
  split
  · next htrim => exact ⟨mark_of_trimStart_eq htrim, fun c hc => nomatch hc⟩
  · next c rest htrim =>
    split
    · exact rfl
    · next hc =>
      refine ⟨mark_of_trimStart_eq htrim, fun d hd => ?_⟩
      obtain rfl := Option.some.inj hd
      exact eq_false_of_ne_true hc
  · exact rfl

theorem CaseFlag.readIgnoreCase_eq {cs rest : Text} (h : CaseFlag true cs rest) :
    Rule.readIgnoreCase cs = (true, rest) := by
  obtain ⟨hmark, hlone⟩ := h
  rw [Rule.readIgnoreCase, AfterBlanks.trimStart_eq hmark (by decide)]
  cases rest with
  | nil => rfl
  | cons c rest => simp [hlone c rfl]

theorem CaseFlag.length_le {ignoreCase : Bool} {cs rest : Text} (h : CaseFlag ignoreCase cs rest) :
    rest.length ≤ cs.length := by
  cases ignoreCase with
  | false => exact (congrArg List.length h).ge
  | true => exact Nat.le_trans (Nat.le_add_left _ _) h.1.length_le

/-- No letter follows that would take case out of a comparison before it. -/
def Unflagged (rest : Text) : Prop :=
  ∀ after, ¬ CaseFlag true rest after

/-- Where no letter follows there is none to be read. -/
theorem Unflagged.readIgnoreCase_eq {rest : Text} (h : Unflagged rest) :
    Rule.readIgnoreCase rest = (false, rest) := by
  have hflag := caseFlag_readIgnoreCase rest
  generalize Rule.readIgnoreCase rest = x at hflag ⊢
  obtain ⟨ignoreCase, after⟩ := x
  cases ignoreCase with
  | true => exact absurd hflag (h after)
  | false => exact congrArg (false, ·) (Eq.symm hflag)

theorem unflagged_nil : Unflagged [] := by
  rintro after ⟨hmark, -⟩
  exact absurd hmark.length_le (by simp)

theorem Mark.unflagged {c : Char} {cs after : Text} (h : Mark [c] cs after) (hc : isBlank c = false)
    (hne : c ≠ 'i') : Unflagged cs :=
  fun last hflag => h.not_mark hc (by decide) hne last hflag.1

/-! ### What is read is derived -/

/-- A comparison or a search that is read is derived. -/
theorem derives_of_readPredicate {width : Nat} {cs rest : Text} {e : Expression}
    (h : Rule.readPredicate width (trimStart cs) = .ok (e, rest)) : Derives .predicate cs e rest := by
  rw [Rule.readPredicate_eq] at h
  obtain ⟨⟨prop, after⟩, hident, h⟩ := Except.bind_eq_ok_iff.mp h
  have hname := name_of_readIdent hident
  dsimp only at h
  unfold Rule.readTest at h
  split at h
  · next mid hafter =>
    obtain ⟨⟨regex, last⟩, hregex, h⟩ := Except.bind_eq_ok_iff.mp h
    obtain ⟨rfl, rfl⟩ := Prod.mk.inj (Except.ok.inj h)
    exact .search hname (mark_of_trimStart_eq hafter) ⟨_, width, afterBlanks_trimStart mid, hregex⟩
  · unfold Rule.readComparison at h
    split at h
    · exact nomatch h
    · next op mid hop =>
      obtain ⟨⟨value, last⟩, hvalue, h⟩ := Except.bind_eq_ok_iff.mp h
      obtain ⟨rfl, rfl⟩ := Prod.mk.inj (Except.ok.inj h)
      exact .comparison hname (mark_of_trimStart_eq (eq_spelling_append_of_readOp? hop))
        ⟨_, width, afterBlanks_trimStart mid, hvalue⟩ (caseFlag_readIgnoreCase last)

/-- What the readers of phrases read with some number of steps is derived. Those that go on with a left
operand are given one that is derived from an earlier place. -/
structure ReadsDerived (width fuel : Nat) : Prop where
  or {cs rest : Text} {e : Expression} : Rule.readOr width fuel cs = .ok (e, rest) → Derives .or cs e rest
  orRest {start cs rest : Text} {left e : Expression} :
    Derives .or start left cs → Rule.readOrRest width fuel left cs = .ok (e, rest) → Derives .or start e rest
  and {cs rest : Text} {e : Expression} : Rule.readAnd width fuel cs = .ok (e, rest) → Derives .and cs e rest
  andRest {start cs rest : Text} {left e : Expression} :
    Derives .and start left cs → Rule.readAndRest width fuel left cs = .ok (e, rest) → Derives .and start e rest
  unary {cs rest : Text} {e : Expression} :
    Rule.readUnary width fuel cs = .ok (e, rest) → Derives .unary cs e rest

theorem readsDerived (width : Nat) : ∀ fuel, ReadsDerived width fuel := by
  intro fuel
  induction fuel with
  | zero =>
    exact ⟨(fun h => nomatch h), (fun _ h => nomatch h), (fun h => nomatch h), (fun _ h => nomatch h),
      (fun h => nomatch h)⟩
  | succ fuel ih =>
    refine ⟨fun {cs rest e} h => ?_, fun {start cs rest left e} hleft h => ?_, fun {cs rest e} h => ?_,
      fun {start cs rest left e} hleft h => ?_, fun {cs rest e} h => ?_⟩
    · rw [Rule.readOr] at h
      obtain ⟨⟨a, after⟩, ha, h⟩ := Except.bind_eq_ok_iff.mp h
      exact ih.orRest (.orOne (ih.and ha)) h
    · rw [Rule.readOrRest] at h
      split at h
      · next after hmark =>
        obtain ⟨⟨b, next⟩, hb, h⟩ := Except.bind_eq_ok_iff.mp h
        -- what has been read so far is the left operand of what follows
        exact ih.orRest (.orMore hleft (mark_of_trimStart_eq hmark) (ih.and hb)) h
      · obtain ⟨rfl, rfl⟩ := Prod.mk.inj (Except.ok.inj h)
        exact hleft
    · rw [Rule.readAnd] at h
      obtain ⟨⟨a, after⟩, ha, h⟩ := Except.bind_eq_ok_iff.mp h
      exact ih.andRest (.andOne (ih.unary ha)) h
    · rw [Rule.readAndRest] at h
      split at h
      · next after hmark =>
        obtain ⟨⟨b, next⟩, hb, h⟩ := Except.bind_eq_ok_iff.mp h
        exact ih.andRest (.andMore hleft (mark_of_trimStart_eq hmark) (ih.unary hb)) h
      · obtain ⟨rfl, rfl⟩ := Prod.mk.inj (Except.ok.inj h)
        exact hleft
    · rw [Rule.readUnary] at h
      split at h
      · next after hmark =>
        obtain ⟨⟨a, next⟩, ha, h⟩ := Except.bind_eq_ok_iff.mp h
        obtain ⟨rfl, rfl⟩ := Prod.mk.inj (Except.ok.inj h)
        exact .negation (mark_of_trimStart_eq hmark) (ih.unary ha)
      · next after hmark =>
        obtain ⟨⟨a, mid⟩, ha, h⟩ := Except.bind_eq_ok_iff.mp h
        obtain ⟨last, hclose, h⟩ := Except.bind_eq_ok_iff.mp h
        obtain ⟨rfl, rfl⟩ := Prod.mk.inj (Except.ok.inj h)
        exact .parentheses (mark_of_trimStart_eq hmark) (ih.or ha)
          (mark_of_trimStart_eq (Rule.eq_cons_of_expect hclose))
      · exact .test (derives_of_readPredicate h)

/-- What is read is derived, up to the place where reading stops. -/
theorem derives_of_readOr {width fuel : Nat} {cs rest : Text} {e : Expression}
    (h : Rule.readOr width fuel cs = .ok (e, rest)) : Derives .or cs e rest :=
  (readsDerived width fuel).or h

/-! ### What is derived is read -/

theorem length_lt_of_derives {phrase : Phrase} {cs rest : Text} {e : Expression}
    (h : Derives phrase cs e rest) : rest.length < cs.length := by
  induction h with
  | orOne _ ih => exact ih
  | orMore _ hmark _ iha ihb =>
    have hlt := hmark.length_lt
    omega
  | andOne _ ih => exact ih
  | andMore _ hmark _ iha ihb =>
    have hlt := hmark.length_lt
    omega
  | negation hmark _ ih =>
    have hlt := hmark.length_lt
    omega
  | parentheses hopen _ hclose ih =>
    have hlt := hopen.length_lt
    have hlt' := hclose.length_lt
    omega
  | test _ ih => exact ih
  | comparison hname hop hvalue hcase =>
    have hlt := hname.length_lt
    have hle := hop.length_le
    have hlt' := hvalue.length_lt
    have hle' := hcase.length_le
    omega
  | search hname hop hregex =>
    have hlt := hname.length_lt
    have hle := hop.length_le
    have hlt' := hregex.length_lt
    omega

/-- What the reader of a phrase does with a text that is derived: where the letter that takes case out does
not follow it reads the phrase, and where an operator may follow it goes on from there. Each character takes at
most four steps. -/
def ReadAs (width : Nat) : Phrase → Text → Expression → Text → Prop
  | .or, cs, e, rest =>
    (∀ after, ¬ Mark ['&'] rest after) → ∀ fuel, 4 * cs.length + 3 ≤ fuel →
      ∃ left, 4 * rest.length + 1 ≤ left ∧ Rule.readOr width fuel cs = Rule.readOrRest width left e rest
  | .and, cs, e, rest =>
    ∀ fuel, 4 * cs.length + 2 ≤ fuel →
      ∃ left, 4 * rest.length + 1 ≤ left ∧ Rule.readAnd width fuel cs = Rule.readAndRest width left e rest
  | .unary, cs, e, rest =>
    ∀ fuel, 4 * cs.length + 1 ≤ fuel → Rule.readUnary width fuel cs = .ok (e, rest)
  | .predicate, cs, e, rest => Rule.readPredicate width (trimStart cs) = .ok (e, rest)

theorem readOrRest_of_mark {width fuel : Nat} {left : Expression} {cs after : Text} (h : Mark ['|'] cs after) :
    Rule.readOrRest width (fuel + 1) left cs
      = Rule.readAnd width fuel after >>= fun x => Rule.readOrRest width fuel (.or left x.1) x.2 := by
  rw [Rule.readOrRest, AfterBlanks.trimStart_eq h (by decide)]
  rfl

theorem readAndRest_of_mark {width fuel : Nat} {left : Expression} {cs after : Text} (h : Mark ['&'] cs after) :
    Rule.readAndRest width (fuel + 1) left cs
      = Rule.readUnary width fuel after >>= fun x => Rule.readAndRest width fuel (.and left x.1) x.2 := by
  rw [Rule.readAndRest, AfterBlanks.trimStart_eq h (by decide)]
  rfl

theorem readOrRest_of_not_mark {width fuel : Nat} {left : Expression} {cs : Text}
    (h : ∀ after, ¬ Mark ['|'] cs after) (hfuel : 0 < fuel) :
    Rule.readOrRest width fuel left cs = .ok (left, cs) := by
  obtain ⟨fuel, rfl⟩ := Nat.exists_eq_add_one.mpr hfuel
  rw [Rule.readOrRest]
  split
  · next after htrim => exact absurd (mark_of_trimStart_eq htrim) (h after)
  · rfl

theorem readAndRest_of_not_mark {width fuel : Nat} {left : Expression} {cs : Text}
    (h : ∀ after, ¬ Mark ['&'] cs after) (hfuel : 0 < fuel) :
    Rule.readAndRest width fuel left cs = .ok (left, cs) := by
  obtain ⟨fuel, rfl⟩ := Nat.exists_eq_add_one.mpr hfuel
  rw [Rule.readAndRest]
  split
  · next after htrim => exact absurd (mark_of_trimStart_eq htrim) (h after)
  · rfl

theorem trimStart_eq_spelling {op : StringOp} {cs rest : Text} (h : Mark op.spelling cs rest) :
    trimStart cs = op.spelling ++ rest := by
  cases op <;> exact AfterBlanks.trimStart_eq h (by decide)

theorem readPredicate_of_comparison {width : Nat} {cs after mid last rest prop value : Text} {op : StringOp}
    {ignoreCase : Bool} (hname : Name prop cs after) (hop : Mark op.spelling after mid)
    (hvalue : StringToken value mid last) (hcase : Rule.readIgnoreCase last = (ignoreCase, rest)) :
    Rule.readPredicate width (trimStart cs) = .ok (.comparison prop op value ignoreCase, rest) := by
  have hvalue := hvalue.readString_eq width
  -- a string begins with a quote, so the equals sign before it is not that of a search
  have hne : ∀ tail, op.spelling ++ mid ≠ '=' :: '~' :: tail := by
    intro tail heq
    have hmid : mid = '~' :: tail := by
      cases op <;> simp [StringOp.spelling] at heq
      exact heq
    rw [hmid] at hvalue
    exact nomatch hvalue
  rw [Rule.readPredicate_eq, hname.readIdent_eq]
  show Rule.readTest width prop (trimStart after) = _
  rw [trimStart_eq_spelling hop, Rule.readTest_of_ne hne, Rule.readComparison, readOp?_spelling]
  dsimp only
  rw [hvalue]
  show Except.ok (Expression.comparison prop op value (Rule.readIgnoreCase last).1,
    (Rule.readIgnoreCase last).2) = _
  rw [hcase]

theorem readPredicate_of_search {width : Nat} {cs after mid rest prop : Text} {regex : Regex}
    (hname : Name prop cs after) (hop : Mark ['=', '~'] after mid) (hregex : RegexToken regex mid rest) :
    Rule.readPredicate width (trimStart cs) = .ok (.search prop regex, rest) := by
  have htrim : trimStart after = '=' :: '~' :: mid := AfterBlanks.trimStart_eq hop (by decide)
  rw [Rule.readPredicate_eq, hname.readIdent_eq]
  show Rule.readTest width prop (trimStart after) = _
  rw [htrim, Rule.readTest, hregex.readRegex_eq]
  rfl

/-- A predicate begins with neither of the marks that begin other phrases. -/
theorem readUnary_of_readPredicate {width fuel : Nat} {cs rest : Text} {e : Expression}
    (h : Rule.readPredicate width (trimStart cs) = .ok (e, rest)) :
    Rule.readUnary width (fuel + 1) cs = .ok (e, rest) := by
  rw [Rule.readUnary]
  split
  · next tail htrim =>
    obtain ⟨fault, hfault⟩ : ∃ fault, Rule.readPredicate width ('!' :: tail) = .error fault := ⟨_, rfl⟩
    rw [htrim, hfault] at h
    exact absurd h (by simp)
  · next tail htrim =>
    obtain ⟨fault, hfault⟩ : ∃ fault, Rule.readPredicate width ('(' :: tail) = .error fault := ⟨_, rfl⟩
    rw [htrim, hfault] at h
    exact absurd h (by simp)
  · exact h

/-- What is derived is read. The induction is on the derivation, with the steps general; what follows a phrase
may be anything but the letter that would go on with its last comparison. -/
theorem readAs_of_derives {width : Nat} {phrase : Phrase} {cs rest : Text} {e : Expression}
    (h : Derives phrase cs e rest) (hrest : Unflagged rest) : ReadAs width phrase cs e rest := by
  induction h with
  | @orOne cs rest e _ ih =>
    intro hnext fuel hfuel
    obtain ⟨fuel, rfl⟩ := Nat.exists_eq_add_one.mpr (Nat.zero_lt_of_lt hfuel)
    obtain ⟨left, hleft, hread⟩ := ih hrest fuel (by omega)
    refine ⟨fuel, ?_, ?_⟩
    · have hlt := length_lt_of_derives ‹_›
      omega
    · rw [Rule.readOr, hread, readAndRest_of_not_mark hnext (by omega)]
      rfl
  | @orMore cs mid after rest a b ha hmark hb iha ihb =>
    intro hnext fuel hfuel
    have hlt := length_lt_of_derives hb
    have hlt' := hmark.length_lt
    -- the operator ends the left operand, and the reader goes on from it with the steps that are left
    obtain ⟨left, hleft, hread⟩ := iha (hmark.unflagged (by decide) (by decide))
      (hmark.not_mark (by decide) (by decide) (by decide)) fuel hfuel
    obtain ⟨left, rfl⟩ := Nat.exists_eq_add_one.mpr (Nat.zero_lt_of_lt hleft)
    obtain ⟨left', hleft', hread'⟩ := ihb hrest left (by omega)
    refine ⟨left, by omega, ?_⟩
    rw [hread, readOrRest_of_mark hmark, hread', readAndRest_of_not_mark hnext (by omega)]
    rfl
  | @andOne cs rest e h ih =>
    intro fuel hfuel
    have hlt := length_lt_of_derives h
    obtain ⟨fuel, rfl⟩ := Nat.exists_eq_add_one.mpr (Nat.zero_lt_of_lt hfuel)
    refine ⟨fuel, by omega, ?_⟩
    rw [Rule.readAnd, ih hrest fuel (by omega)]
    rfl
  | @andMore cs mid after rest a b ha hmark hb iha ihb =>
    intro fuel hfuel
    have hlt := length_lt_of_derives hb
    have hlt' := hmark.length_lt
    obtain ⟨left, hleft, hread⟩ := iha (hmark.unflagged (by decide) (by decide)) fuel hfuel
    obtain ⟨left, rfl⟩ := Nat.exists_eq_add_one.mpr (Nat.zero_lt_of_lt hleft)
    refine ⟨left, by omega, ?_⟩
    rw [hread, readAndRest_of_mark hmark, ihb hrest left (by omega)]
    rfl
  | @negation cs after rest e hmark h ih =>
    intro fuel hfuel
    have hlt := hmark.length_lt
    obtain ⟨fuel, rfl⟩ := Nat.exists_eq_add_one.mpr (Nat.zero_lt_of_lt hfuel)
    rw [Rule.readUnary, AfterBlanks.trimStart_eq hmark (by decide)]
    show (Rule.readUnary width fuel after >>= _) = _
    rw [ih hrest fuel (by omega)]
    rfl
  | @parentheses cs after mid rest e hopen h hclose ih =>
    intro fuel hfuel
    have hlt := hopen.length_lt
    obtain ⟨fuel, rfl⟩ := Nat.exists_eq_add_one.mpr (Nat.zero_lt_of_lt hfuel)
    obtain ⟨left, hleft, hread⟩ := ih (hclose.unflagged (by decide) (by decide))
      (hclose.not_mark (by decide) (by decide) (by decide)) fuel (by omega)
    rw [readOrRest_of_not_mark (hclose.not_mark (by decide) (by decide) (by decide)) (by omega)] at hread
    have htrim : trimStart mid = ')' :: rest := AfterBlanks.trimStart_eq hclose (by decide)
    rw [Rule.readUnary, AfterBlanks.trimStart_eq hopen (by decide)]
    show (Rule.readOr width fuel after >>= _) = _
    rw [hread]
    show (Rule.expect width ')' (trimStart mid) >>= _) = _
    rw [htrim]
    rfl
  | @test cs rest e h ih =>
    intro fuel hfuel
    obtain ⟨fuel, rfl⟩ := Nat.exists_eq_add_one.mpr (Nat.zero_lt_of_lt hfuel)
    exact readUnary_of_readPredicate (ih hrest)
  | @comparison cs after mid last rest prop value op ignoreCase hname hop hvalue hcase =>
    refine readPredicate_of_comparison hname hop hvalue ?_
    cases ignoreCase with
    | true => exact hcase.readIgnoreCase_eq
    | false =>
      obtain rfl : last = rest := hcase
      exact hrest.readIgnoreCase_eq
  | search hname hop hregex => exact readPredicate_of_search hname hop hregex

/-- A text goes on with no expression before it: no operator comes next, and no letter of a comparison. -/
structure Closes (rest : Text) : Prop where
  unflagged : Unflagged rest
  noAnd (after : Text) : ¬ Mark ['&'] rest after
  noOr (after : Text) : ¬ Mark ['|'] rest after

theorem closes_nil : Closes [] where
  unflagged := unflagged_nil
  noAnd _ hmark := absurd hmark.length_le (by simp)
  noOr _ hmark := absurd hmark.length_le (by simp)

/-- A derived expression is read up to a text that closes it. -/
theorem readExpression_of_closes {cs rest : Text} {e : Expression} (h : Derives .or cs e rest) (hrest : Closes rest)
    (width : Nat) : Rule.readExpression width cs = .ok (e, rest) := by
  have hread : ReadAs width .or cs e rest := readAs_of_derives h hrest.unflagged
  obtain ⟨left, hleft, hread⟩ := hread hrest.noAnd (Rule.stepsFor cs) (Nat.le_succ _)
  rw [Rule.readExpression, hread, readOrRest_of_not_mark hrest.noOr (by omega)]

theorem readExpression_of_derives {cs : Text} {e : Expression} (h : Derives .or cs e []) (width : Nat) :
    Rule.readExpression width cs = .ok (e, []) :=
  readExpression_of_closes h closes_nil width

/-- The grammar is unambiguous: a text has one tree at most. -/
theorem Derives.unique {cs : Text} {e e' : Expression} (h : Derives .or cs e []) (h' : Derives .or cs e' []) :
    e = e' := by
  have hread := readExpression_of_derives h 0
  rw [readExpression_of_derives h' 0] at hread
  exact (Prod.mk.inj (Except.ok.inj hread)).1.symm

/-- The whole of a text is read as a tree just if the grammar derives it with that tree. -/
theorem readExpression_eq_ok_iff (width : Nat) (cs : Text) (e : Expression) :
    Rule.readExpression width cs = .ok (e, []) ↔ Derives .or cs e [] :=
  ⟨derives_of_readOr, fun h => readExpression_of_derives h width⟩

end Grammar

end ResultFilter
