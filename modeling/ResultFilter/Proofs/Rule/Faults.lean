import ResultFilter.Proofs.Rule.Front
import ResultFilter.Proofs.Rule.Scanners

/-!
# Where faults point

A fault of a line names the character that is found at its column. An escape is refused at its backslash, which
stands in a literal that the line has opened and not closed, and which is not escaped itself. A line is said to
end too early only when all of it has been taken.

That a literal has been opened is told by the grammar: what stands before its quote can begin an expression that
has a comparison there.

## Main definitions

* `Grammar.Opens` — a phrase up to a literal that is opened in it.
* `Rule.OpensLiteral` — a line up to a literal that is opened in it.
* `Rule.EscapeAt` — the column of a backslash in such a literal.

## Main results

* `Literal.Spells.isWhole` — a spelling does not end within an escape, and has no quote that is not escaped.
* `Rule.opensLiteral_of_ofLine` — an escape is refused in a literal that the line has opened.
* `Rule.ofLine_faults` — where the faults of lines point.
-/

namespace Except

theorem bind_eq_error_iff {ε α β : Type} {x : Except ε α} {f : α → Except ε β} {e : ε} :
    (x >>= f) = .error e ↔ x = .error e ∨ ∃ a, x = .ok a ∧ f a = .error e := by
  cases x with
  | error e' =>
    refine ⟨fun h => Or.inl ?_, ?_⟩
    · rw [Except.error.inj h]
    · rintro (h | ⟨a, h, -⟩)
      · rw [Except.error.inj h]
        rfl
      · exact nomatch h
  | ok a =>
    refine ⟨fun h => Or.inr ⟨a, rfl, h⟩, ?_⟩
    rintro (h | ⟨a', ha, h⟩)
    · exact nomatch h
    · obtain rfl := Except.ok.inj ha
      exact h

/-- If the second part of a sequence does not fail so, the first part does. -/
theorem eq_error_of_bind {ε α β : Type} {x : Except ε α} {f : α → Except ε β} {e : ε}
    (h : (x >>= f) = .error e) (hf : ∀ a, f a ≠ .error e) : x = .error e :=
  (bind_eq_error_iff.mp h).resolve_right fun ⟨a, _, ha⟩ => hf a ha

end Except

namespace ResultFilter

open ResultFilter.Text

/-! ### Quotes and backslashes of spellings -/

namespace RegexLiteral

/-- Behind a text that does not end within an escape the places are as they are without it. -/
theorem isEscaped_append_right {front : Text} (h : isEscaped front front.length = false) (text : Text) (i : ℕ) :
    isEscaped (front ++ text) (front.length + i) = isEscaped text i := by
  induction i with
  | zero => exact (isEscaped_append front text (Nat.le_refl _)).trans h
  | succ i ih =>
    rw [← Nat.add_assoc, isEscaped, isEscaped, ih, List.getElem?_append_right (Nat.le_add_right _ _),
      Nat.add_sub_cancel_left]

end RegexLiteral

open RegexLiteral (isEscaped)

namespace Literal

/-- The characters of a code are neither quotes nor backslashes. -/
theorem Digits.forall_mem {digit? : Char → Option Nat} {base n m : Nat} {text : Text}
    (h : Digits digit? base n text m) : ∀ c ∈ text, (digit? c).isSome = true := by
  induction h with
  | nil => exact fun _ hc => nomatch hc
  | cons hc _ ih => exact List.forall_mem_cons.mpr ⟨by rw [hc]; rfl, ih⟩

/-- A character that is neither a quote nor a backslash. -/
def IsPlain (c : Char) : Prop :=
  c ≠ '"' ∧ c ≠ '\\'

theorem isPlain_of_octalValue? {c : Char} (h : (octalValue? c).isSome = true) : IsPlain c := by
  refine ⟨?_, ?_⟩ <;> rintro rfl <;> exact absurd h (by decide)

theorem isPlain_of_hexValue? {c : Char} (h : (hexValue? c).isSome = true) : IsPlain c := by
  refine ⟨?_, ?_⟩ <;> rintro rfl <;> exact absurd h (by decide)

theorem HexCode.isPlain {text : Text} {n : Nat} (h : HexCode text n) : ∀ c ∈ text, IsPlain c := by
  have hdigits {digits : Text} (h : Digits hexValue? 16 0 digits n) : ∀ c ∈ digits, IsPlain c :=
    fun c hc => isPlain_of_hexValue? (h.forall_mem c hc)
  have hmark : IsPlain 'x' ∧ IsPlain 'u' ∧ IsPlain '\x7b' ∧ IsPlain '\x7d' := by
    unfold IsPlain
    decide
  obtain ⟨hx, hu, hopen, hclose⟩ := hmark
  cases h with
  | two _ h => exact List.forall_mem_cons.mpr ⟨hx, hdigits h⟩
  | four _ h => exact List.forall_mem_cons.mpr ⟨hu, hdigits h⟩
  | braces _ _ h =>
    refine List.forall_mem_cons.mpr ⟨hu, List.forall_mem_cons.mpr ⟨hopen, ?_⟩⟩
    exact List.forall_mem_append.mpr ⟨hdigits h, List.forall_mem_singleton.mpr hclose⟩

/-- An escape is one character behind the backslash, or a code. -/
theorem Escape.singleton_or_isPlain {c : Char} {spelling after : Text} (h : Escape c spelling after) :
    (∃ name, spelling = [name]) ∨ spelling ≠ [] ∧ ∀ d ∈ spelling, IsPlain d := by
  cases h with
  | named => exact Or.inl ⟨_, rfl⟩
  | octal h =>
    exact Or.inr ⟨h.ne_nil, fun d hd => isPlain_of_octalValue? (h.value.forall_mem d hd)⟩
  | hex h =>
    refine Or.inr ⟨?_, h.isPlain⟩
    obtain ⟨d, rest, rfl, -⟩ := exists_cons_of_hexCode h
    exact List.cons_ne_nil d rest

/-- The places of a text from which on nothing is escaped by it, and all of whose quotes are escaped. -/
structure IsWhole (text : Text) : Prop where
  /-- It does not end within an escape. -/
  complete : isEscaped text text.length = false
  /-- It has no quote that would close a literal. -/
  quotes : ∀ i, text[i]? = some '"' → isEscaped text i = true

theorem IsWhole.append {front text : Text} (hfront : IsWhole front) (htext : IsWhole text) :
    IsWhole (front ++ text) where
  complete := by
    rw [List.length_append, RegexLiteral.isEscaped_append_right hfront.complete]
    exact htext.complete
  quotes i hi := by
    rcases Nat.lt_or_ge i front.length with hlt | hge
    · rw [List.getElem?_append_left hlt] at hi
      rw [RegexLiteral.isEscaped_append front text (Nat.le_of_lt hlt)]
      exact hfront.quotes i hi
    · obtain ⟨j, rfl⟩ := Nat.exists_eq_add_of_le hge
      rw [List.getElem?_append_right hge, Nat.add_sub_cancel_left] at hi
      rw [RegexLiteral.isEscaped_append_right hfront.complete]
      exact htext.quotes j hi

theorem isWhole_singleton {c : Char} (h : IsPlain c) : IsWhole [c] where
  complete := RegexLiteral.isEscaped_succ_of_ne (by simpa using h.2)
  quotes i hi := by
    cases i with
    | zero => exact absurd (Option.some.inj hi) h.1
    | succ i => exact nomatch hi

theorem isWhole_of_isPlain {text : Text} (h : ∀ c ∈ text, IsPlain c) : IsWhole text := by
  induction text with
  | nil => exact ⟨rfl, fun _ hi => nomatch hi⟩
  | cons c text ih =>
    obtain ⟨hc, htext⟩ := List.forall_mem_cons.mp h
    exact (isWhole_singleton hc).append (ih htext)

/-- A backslash and the character that it escapes. -/
theorem isWhole_pair (c : Char) : IsWhole ['\\', c] where
  complete := by simp [isEscaped]
  quotes i hi := by
    obtain _ | _ | i := i
    · exact absurd (Option.some.inj hi) (by decide)
    · rfl
    · cases hi

/-- A spelling does not end within an escape, and has no quote that is not escaped. -/
theorem Spells.isWhole {value text : Text} (h : Spells value text) : IsWhole text := by
  induction h with
  | nil => exact ⟨rfl, fun _ hi => nomatch hi⟩
  | raw hquote hback _ ih => exact (isWhole_singleton ⟨hquote, hback⟩).append ih
  | @escape c spelling value text hc _ ih =>
    have hspelling : IsWhole ('\\' :: spelling) := by
      rcases hc.singleton_or_isPlain with ⟨name, rfl⟩ | ⟨hne, hplain⟩
      · exact isWhole_pair name
      · obtain ⟨d, rest, rfl⟩ := List.exists_cons_of_ne_nil hne
        exact (isWhole_pair d).append (isWhole_of_isPlain (List.forall_mem_cons.mp hplain).2)
    exact hspelling.append ih

end Literal

/-! ### Literals that are opened -/

namespace Grammar

/-- A text begins with a phrase up to the quote of a literal in it, and `inner` follows the quote. -/
inductive Opens : Phrase → Text → Text → Prop
  | orFirst {cs inner : Text} (h : Opens .and cs inner) : Opens .or cs inner
  | orNext {cs mid after inner : Text} {a : Expression} (ha : Derives .or cs a mid) (hmark : Mark ['|'] mid after)
      (h : Opens .and after inner) : Opens .or cs inner
  | andFirst {cs inner : Text} (h : Opens .unary cs inner) : Opens .and cs inner
  | andNext {cs mid after inner : Text} {a : Expression} (ha : Derives .and cs a mid) (hmark : Mark ['&'] mid after)
      (h : Opens .unary after inner) : Opens .and cs inner
  | negation {cs after inner : Text} (hmark : Mark ['!'] cs after) (h : Opens .unary after inner) :
      Opens .unary cs inner
  | parentheses {cs after inner : Text} (hopen : Mark ['('] cs after) (h : Opens .or after inner) :
      Opens .unary cs inner
  | test {cs inner : Text} (h : Opens .predicate cs inner) : Opens .unary cs inner
  | operand {cs after mid inner prop : Text} {op : StringOp} (hname : Name prop cs after)
      (hop : Mark op.spelling after mid) (hquote : Mark ['"'] mid inner) : Opens .predicate cs inner

theorem AfterBlanks.suffix {cs text : Text} (h : AfterBlanks cs text) : text <:+ cs := by
  obtain ⟨blanks, -, rfl⟩ := h
  exact List.suffix_append blanks text

theorem Mark.suffix {mark cs rest : Text} (h : Mark mark cs rest) : rest <:+ cs :=
  (List.suffix_append mark rest).trans (AfterBlanks.suffix h)

theorem Derives.suffix {phrase : Phrase} {cs rest : Text} {e : Expression} (h : Derives phrase cs e rest) :
    rest <:+ cs := by
  obtain ⟨front, rfl, -⟩ := h.exists_front
  exact List.suffix_append front rest

/-- The quote and what follows it are an end of the text. -/
theorem Opens.suffix {phrase : Phrase} {cs inner : Text} (h : Opens phrase cs inner) : '"' :: inner <:+ cs := by
  induction h with
  | orFirst _ ih => exact ih
  | orNext ha hmark _ ih => exact ih.trans (hmark.suffix.trans ha.suffix)
  | andFirst _ ih => exact ih
  | andNext ha hmark _ ih => exact ih.trans (hmark.suffix.trans ha.suffix)
  | negation hmark _ ih => exact ih.trans hmark.suffix
  | parentheses hopen _ ih => exact ih.trans hopen.suffix
  | test _ ih => exact ih
  | operand hname hop hquote =>
    obtain ⟨front, rfl, -⟩ := hname.exists_front
    exact (AfterBlanks.suffix hquote).trans (hop.suffix.trans (List.suffix_append _ _))

end Grammar

/-! ### Faults of the readers -/

namespace SyntaxError

theorem atRest_ne_invalidEscape (width : ℕ) (cs : Text) (k : ℕ) : atRest width cs ≠ .invalidEscape k := by
  cases cs <;> exact fun h => nomatch h

end SyntaxError

namespace Rule

section NoEscape

variable {width k : ℕ} {cs : Text}

theorem expect_ne_invalidEscape {c : Char} : expect width c cs ≠ .error (.invalidEscape k) := by
  have hne := SyntaxError.atRest_ne_invalidEscape width cs k
  unfold expect
  split
  · split
    · exact fun h => nomatch h
    · exact fun h => hne (Except.error.inj h)
  · exact fun h => hne (Except.error.inj h)

theorem readRegex_ne_invalidEscape : readRegex width cs ≠ .error (.invalidEscape k) := by
  intro h
  rcases Except.bind_eq_error_iff.mp h with h | ⟨rest, -, h⟩
  · exact expect_ne_invalidEscape h
  · split at h
    · exact nomatch h
    · split at h
      · exact nomatch h
      · split at h
        · exact nomatch h
        · split at h
          · exact nomatch h
          · exact nomatch h

theorem readIdent_ne_invalidEscape : readIdent width cs ≠ .error (.invalidEscape k) := by
  have hne := SyntaxError.atRest_ne_invalidEscape width cs k
  unfold readIdent
  split
  · split
    · exact fun h => nomatch h
    · exact fun h => hne (Except.error.inj h)
  · exact fun h => hne (Except.error.inj h)

theorem readSpecifier_ne_invalidEscape : readSpecifier cs ≠ .error (.invalidEscape k) := by
  unfold readSpecifier
  split
  · dsimp only
    split
    · exact fun h => nomatch h
    · split <;> exact fun h => nomatch h
  · exact fun h => nomatch h

theorem finish_ne_invalidEscape : finish width cs ≠ .error (.invalidEscape k) := by
  unfold finish
  split
  · exact fun h => nomatch h
  · next c rest _ =>
    split
    · exact fun h => nomatch h
    · exact fun h => SyntaxError.atRest_ne_invalidEscape width (c :: rest) k (Except.error.inj h)

end NoEscape

/-! ### Escapes that are refused -/

/-- A phrase opens a literal whose first defect is at a column. -/
def Refuses (width k : ℕ) (phrase : Grammar.Phrase) (cs : Text) : Prop :=
  ∃ inner, Grammar.Opens phrase cs inner ∧ Literal.readString width ('"' :: inner) = .error (.invalidEscape k)

theorem Refuses.imp {width k : ℕ} {phrase phrase' : Grammar.Phrase} {cs cs' : Text} (h : Refuses width k phrase cs)
    (himp : ∀ inner, Grammar.Opens phrase cs inner → Grammar.Opens phrase' cs' inner) :
    Refuses width k phrase' cs' := by
  obtain ⟨inner, hopens, hread⟩ := h
  exact ⟨inner, himp inner hopens, hread⟩

/-- A literal is refused for an escape only if there is a literal. -/
theorem exists_quote_of_readString {width k : ℕ} {cs : Text}
    (h : Literal.readString width cs = .error (.invalidEscape k)) : ∃ inner, cs = '"' :: inner := by
  unfold Literal.readString at h
  split at h
  · next inner => exact ⟨inner, rfl⟩
  · exact absurd (Except.error.inj h) (SyntaxError.atRest_ne_invalidEscape width cs k)

theorem refuses_of_readPredicate {width k : ℕ} {cs : Text}
    (h : readPredicate width (trimStart cs) = .error (.invalidEscape k)) : Refuses width k .predicate cs := by
  rw [readPredicate_eq] at h
  rcases Except.bind_eq_error_iff.mp h with h | ⟨⟨prop, after⟩, hident, h⟩
  · exact absurd h readIdent_ne_invalidEscape
  have hname := Grammar.name_of_readIdent hident
  dsimp only at h
  unfold readTest at h
  split at h
  · exact absurd (Except.eq_error_of_bind h fun _ => nofun) readRegex_ne_invalidEscape
  · unfold readComparison at h
    split at h
    · exact absurd (Except.error.inj h) (SyntaxError.atRest_ne_invalidEscape _ _ _)
    · next op mid hop =>
      replace h := Except.eq_error_of_bind h fun _ => nofun
      obtain ⟨inner, hquote⟩ := exists_quote_of_readString h
      rw [hquote] at h
      exact ⟨inner, .operand hname (Grammar.mark_of_trimStart_eq (Grammar.eq_spelling_append_of_readOp? hop))
        (Grammar.mark_of_trimStart_eq hquote), h⟩

/-- Where the readers of phrases refuse an escape with some number of steps a literal has been opened. Those that
go on with a left operand are given one that is derived from an earlier place. -/
structure RefusesOpened (width k fuel : ℕ) : Prop where
  or {cs : Text} : readOr width fuel cs = .error (.invalidEscape k) → Refuses width k .or cs
  orRest {start cs : Text} {left : Expression} : Grammar.Derives .or start left cs →
    readOrRest width fuel left cs = .error (.invalidEscape k) → Refuses width k .or start
  and {cs : Text} : readAnd width fuel cs = .error (.invalidEscape k) → Refuses width k .and cs
  andRest {start cs : Text} {left : Expression} : Grammar.Derives .and start left cs →
    readAndRest width fuel left cs = .error (.invalidEscape k) → Refuses width k .and start
  unary {cs : Text} : readUnary width fuel cs = .error (.invalidEscape k) → Refuses width k .unary cs

theorem refusesOpened (width k : ℕ) : ∀ fuel, RefusesOpened width k fuel := by
  intro fuel
  induction fuel with
  | zero =>
    have hne (cs : Text) : Except.error (SyntaxError.atRest width cs)
        ≠ (.error (.invalidEscape k) : Except SyntaxError (Expression × Text)) :=
      fun h => SyntaxError.atRest_ne_invalidEscape width cs k (Except.error.inj h)
    exact ⟨fun h => absurd h (hne _), fun _ h => absurd h (hne _), fun h => absurd h (hne _),
      fun _ h => absurd h (hne _), fun h => absurd h (hne _)⟩
  | succ fuel ih =>
    -- an operand that is read is derived, so the literal is opened in the operand or behind it
    have hd := Grammar.readsDerived width fuel
    refine ⟨fun {cs} h => ?_, fun {start cs left} hleft h => ?_, fun {cs} h => ?_,
      fun {start cs left} hleft h => ?_, fun {cs} h => ?_⟩
    · rw [readOr] at h
      rcases Except.bind_eq_error_iff.mp h with h | ⟨⟨a, after⟩, ha, h⟩
      · exact (ih.and h).imp fun _ => .orFirst
      · exact ih.orRest (.orOne (hd.and ha)) h
    · rw [readOrRest] at h
      split at h
      · next after hmark =>
        have hmark : Grammar.Mark ['|'] cs after := Grammar.mark_of_trimStart_eq hmark
        rcases Except.bind_eq_error_iff.mp h with h | ⟨⟨b, next⟩, hb, h⟩
        · exact (ih.and h).imp fun _ => .orNext hleft hmark
        · exact ih.orRest (.orMore hleft hmark (hd.and hb)) h
      · cases h
    · rw [readAnd] at h
      rcases Except.bind_eq_error_iff.mp h with h | ⟨⟨a, after⟩, ha, h⟩
      · exact (ih.unary h).imp fun _ => .andFirst
      · exact ih.andRest (.andOne (hd.unary ha)) h
    · rw [readAndRest] at h
      split at h
      · next after hmark =>
        have hmark : Grammar.Mark ['&'] cs after := Grammar.mark_of_trimStart_eq hmark
        rcases Except.bind_eq_error_iff.mp h with h | ⟨⟨b, next⟩, hb, h⟩
        · exact (ih.unary h).imp fun _ => .andNext hleft hmark
        · exact ih.andRest (.andMore hleft hmark (hd.unary hb)) h
      · cases h
    · rw [readUnary] at h
      split at h
      · next after hmark =>
        have hmark : Grammar.Mark ['!'] cs after := Grammar.mark_of_trimStart_eq hmark
        exact (ih.unary (Except.eq_error_of_bind h fun _ h => by cases h)).imp fun _ => .negation hmark
      · next after hmark =>
        have hmark : Grammar.Mark ['('] cs after := Grammar.mark_of_trimStart_eq hmark
        rcases Except.bind_eq_error_iff.mp h with h | ⟨_, -, h⟩
        · exact (ih.or h).imp fun _ => .parentheses hmark
        · exact absurd (Except.eq_error_of_bind h fun _ h => by cases h) expect_ne_invalidEscape
      · exact (refuses_of_readPredicate h).imp fun _ => .test

theorem refuses_of_readExpression {width k : ℕ} {cs : Text}
    (h : readExpression width cs = .error (.invalidEscape k)) : Refuses width k .or cs :=
  (refusesOpened width k _).or h

/-! ### Whole lines -/

/-- A line leads to a text by blanks, a specifier or none, and blanks. -/
def Leads (line cs : Text) : Prop :=
  ∃ start rest specifier, Grammar.AfterBlanks line start ∧ readSpecifier start = .ok (specifier, rest)
    ∧ Grammar.AfterBlanks rest cs

/-- A line goes up to the quote of a literal in its expression or in the guard behind its match pattern, and
`inner` follows the quote. -/
inductive OpensLiteral : Text → Text → Prop
  | body {line cs inner : Text} (hlead : Leads line cs) (h : Grammar.Opens .or cs inner) : OpensLiteral line inner
  | guard {line word after behind cs inner : Text} {p : MatchPattern} (hlead : Leads line (word ++ after))
      (hword : ∀ c ∈ word, isBlank c = false) (hafter : ∀ c ∈ after.head?, isBlank c = true)
      (hpattern : MatchPattern.ofText word = .ok p) (hif : Grammar.Mark "@if".toList after behind)
      (hopen : Grammar.Mark ['('] behind cs) (h : Grammar.Opens .or cs inner) : OpensLiteral line inner

theorem suffix_of_readSpecifier {cs rest : Text} {specifier : Option Specifier}
    (h : readSpecifier cs = .ok (specifier, rest)) : rest <:+ cs := by
  cases readSpecifier_eq_ok_iff.mp h with
  | negate | highlight => exact (List.dropWhile_suffix _).trans (List.suffix_cons '@' _)
  | absent => exact List.suffix_rfl

theorem Leads.suffix {line cs : Text} (h : Leads line cs) : cs <:+ line := by
  obtain ⟨start, rest, specifier, hstart, hread, hrest⟩ := h
  exact hrest.suffix.trans ((suffix_of_readSpecifier hread).trans hstart.suffix)

theorem OpensLiteral.suffix {line inner : Text} (h : OpensLiteral line inner) : '"' :: inner <:+ line := by
  cases h with
  | body hlead h => exact h.suffix.trans hlead.suffix
  | guard hlead _ _ _ hif hopen h =>
    exact h.suffix.trans (hopen.suffix.trans (hif.suffix.trans ((List.suffix_append _ _).trans hlead.suffix)))

theorem refuses_of_readGuard {width k : ℕ} {cs : Text} (h : readGuard width cs = .error (.invalidEscape k)) :
    ∃ rest, Grammar.Mark ['('] cs rest ∧ Refuses width k .or rest := by
  rcases Except.bind_eq_error_iff.mp h with h | ⟨rest, hopen, h⟩
  · exact absurd h expect_ne_invalidEscape
  rcases Except.bind_eq_error_iff.mp h with h | ⟨_, -, h⟩
  · exact ⟨rest, Grammar.mark_of_trimStart_eq (eq_cons_of_expect hopen), refuses_of_readExpression h⟩
  · exact absurd (Except.eq_error_of_bind h fun _ => nofun) expect_ne_invalidEscape

/-- Of the bodies only expressions have literals. -/
theorem refuses_of_readBody {width k : ℕ} {cs : Text} (h : readBody width cs = .error (.invalidEscape k)) :
    Refuses width k .or cs := by
  unfold readBody at h
  dsimp only at h
  split at h
  · split at h
    · exact nomatch h
    · exact nomatch h
  · split at h
    · exact absurd (Except.eq_error_of_bind h fun _ => nofun) readRegex_ne_invalidEscape
    · exact refuses_of_readExpression (Except.eq_error_of_bind h fun _ => nofun)

/-- A match pattern is the word that a text begins with. -/
theorem word_of_readBody {width : ℕ} {cs after : Text} {p : MatchPattern} {guard : Option Expression}
    (h : readBody width cs = .ok (.pattern p guard, after)) :
    MatchPattern.ofText (cs.takeWhile (!isBlank ·)) = .ok p ∧ after = cs.dropWhile (!isBlank ·) := by
  cases readBody_eq_ok_iff.mp h with
  | pattern _ hpattern => exact ⟨hpattern, rfl⟩

/-- What follows the body has a literal only in the guard of a match pattern. -/
theorem refuses_of_readEnd {width k : ℕ} {cs : Text} {specifier : Option Specifier} {body : RuleBody}
    (h : readEnd width specifier body cs = .error (.invalidEscape k)) :
    ∃ p old behind rest, body = .pattern p old ∧ Grammar.Mark "@if".toList cs behind
      ∧ Grammar.Mark ['('] behind rest ∧ Refuses width k .or rest := by
  unfold readEnd at h
  split at h
  · exact absurd (Except.eq_error_of_bind h fun _ => nofun) finish_ne_invalidEscape
  · next behind hmark =>
    have hif : Grammar.Mark "@if".toList cs behind :=
      Grammar.mark_of_trimStart_eq (List.append_eq_of_isPrefixOf?_eq_some hmark).symm
    split at h
    · next p old =>
      rcases Except.bind_eq_error_iff.mp h with h | ⟨_, -, h⟩
      · obtain ⟨rest, hopen, hrefuses⟩ := refuses_of_readGuard h
        exact ⟨p, old, behind, rest, rfl, hif, hopen, hrefuses⟩
      · exact absurd (Except.eq_error_of_bind h fun _ => nofun) finish_ne_invalidEscape
    · exact nomatch h

/-- An escape is refused in a literal that the line has opened. -/
theorem opensLiteral_of_ofLine {line : Text} {k : ℕ} (h : ofLine line = .error (.invalidEscape k)) :
    ∃ inner, OpensLiteral line inner
      ∧ Literal.readString line.length ('"' :: inner) = .error (.invalidEscape k) := by
  have hstart := Grammar.afterBlanks_trimStart line
  cases htrim : trimStart line with
  | nil =>
    rw [ofLine, htrim] at h
    cases h
  | cons c cs =>
    by_cases hc : c = '#'
    · subst hc
      rw [ofLine, htrim] at h
      cases h
    rw [htrim] at hstart
    rw [ofLine_eq_of_ne htrim hc] at h
    rcases Except.bind_eq_error_iff.mp h with h | ⟨⟨specifier, rest⟩, hspecifier, h⟩
    · exact absurd h readSpecifier_ne_invalidEscape
    have hlead : Leads line (trimStart rest) :=
      ⟨_, rest, specifier, hstart, hspecifier, Grammar.afterBlanks_trimStart rest⟩
    -- the escape is refused in the body, or in the guard behind a match pattern
    rcases Except.bind_eq_error_iff.mp h with h | ⟨⟨body, after⟩, hbody, h⟩
    · obtain ⟨inner, hopens, hread⟩ := refuses_of_readBody h
      exact ⟨inner, .body hlead hopens, hread⟩
    · obtain ⟨p, old, behind, last, rfl, hif, hopen, inner, hopens, hread⟩ := refuses_of_readEnd h
      obtain ⟨hpattern, rfl⟩ := word_of_readBody hbody
      refine ⟨inner, .guard ?_ (fun c hc => ?_) (fun c hc => ?_) hpattern hif hopen hopens, hread⟩
      · rwa [List.takeWhile_append_dropWhile]
      · simpa using List.all_eq_true.mp List.all_takeWhile c hc
      · have hnot := List.head?_dropWhile_not (!isBlank ·) (trimStart rest)
        rw [Option.mem_def.mp hc] at hnot
        simpa using hnot

/-- At a column of a line stands a backslash in a literal that is opened before it and not closed: no quote stands
between them that is not escaped, and neither is the backslash escaped. It begins no escape. -/
def EscapeAt (line : Text) (column : ℕ) : Prop :=
  ∃ front text bad, line = front ++ '"' :: (text ++ '\\' :: bad) ∧ column = front.length + 1 + text.length + 1
    ∧ OpensLiteral line (text ++ '\\' :: bad)
    ∧ (∀ i, text[i]? = some '"' → isEscaped text i = true) ∧ isEscaped text text.length = false
    ∧ Literal.Defect bad

theorem EscapeAt.getElem? {line : Text} {column : ℕ} (h : EscapeAt line column) :
    1 ≤ column ∧ (line)[column - 1]? = some '\\' := by
  obtain ⟨front, text, bad, rfl, rfl, -⟩ := h
  refine ⟨Nat.le_add_left _ _, ?_⟩
  rw [Nat.add_sub_cancel, Nat.add_assoc, List.getElem?_append_right (Nat.le_add_right _ _), Nat.add_sub_cancel_left,
    Nat.add_comm, List.getElem?_cons_succ, List.getElem?_append_right (Nat.le_refl _), Nat.sub_self]
  rfl

theorem escapeAt_of_ofLine {line : Text} {k : ℕ} (h : ofLine line = .error (.invalidEscape k)) : EscapeAt line k := by
  obtain ⟨inner, hopens, hread⟩ := opensLiteral_of_ofLine h
  obtain ⟨value, text, bad, rfl, hspells, hbad, hcolumn⟩ := Literal.readString_eq_invalidEscape_iff.mp hread
  obtain ⟨front, hline⟩ := hopens.suffix
  refine ⟨front, text, bad, hline.symm, ?_, hopens, hspells.isWhole.quotes, hspells.isWhole.complete, hbad⟩
  rw [hcolumn, SyntaxError.column, ← hline]
  simp only [List.length_append, List.length_cons]
  omega

/-- A fault names the character at its column. -/
theorem getElem?_of_pointsAt {line stop : Text} (hstop : stop <:+ line) {c : Char} {k : ℕ}
    (h : (SyntaxError.unexpected c k).PointsAt line stop) : 1 ≤ k ∧ (line)[k - 1]? = some c := by
  obtain ⟨front, rfl⟩ := hstop
  obtain ⟨hhead, rfl⟩ := h
  obtain ⟨rest, rfl⟩ := List.head?_eq_some_iff.mp hhead
  refine ⟨Nat.le_add_left _ _, ?_⟩
  rw [SyntaxError.column, Nat.add_sub_cancel, List.length_append, Nat.add_sub_cancel,
    List.getElem?_append_right (Nat.le_refl _), Nat.sub_self]
  rfl

/-- A line is read by a cursor that never leaves the places where its characters begin: all that it cuts out of
the line stands between two of them, and it comes to what the line is read as. A character that is refused is the
one at the column of the fault; an escape is refused at a backslash that is not escaped, in a literal that has
been opened and not closed; and a line ends too early only when the cursor has reached its end. -/
theorem ofLine_faults (line : Text) :
    ∃ cursor : Cursor, Scanner.ofLine.runFrom ⟨line, 0⟩ = some (ofLine line, cursor)
      ∧ (∀ c k, ofLine line = .error (.unexpected c k) → 1 ≤ k ∧ (line)[k - 1]? = some c)
      ∧ (∀ k, ofLine line = .error (.invalidEscape k) → 1 ≤ k ∧ (line)[k - 1]? = some '\\' ∧ EscapeAt line k)
      ∧ (ofLine line = .error .unexpectedEnd → cursor.pos = byteLength line) := by
  obtain ⟨stop, hstop, hrun, hpoints⟩ := (Scanner.ends_ofLine line).exists_stop
  rw [Cursor.atRest_self] at hrun
  refine ⟨Cursor.atRest line stop, hrun, fun c k h => ?_, fun k h => ?_, fun h => ?_⟩
  · exact getElem?_of_pointsAt hstop (hpoints _ h)
  · have hescape := escapeAt_of_ofLine h
    exact ⟨hescape.getElem?.1, hescape.getElem?.2, hescape⟩
  · obtain rfl : stop = [] := hpoints _ h
    exact Cursor.atRest_nil line

/-- The escape `\q` is refused at its backslash, the eleventh character behind a quote that is the ninth. -/
theorem ofLine_faults_example :
    ofLine "title = \"é\\q\"".toList = .error (.invalidEscape 11) ∧ EscapeAt "title = \"é\\q\"".toList 11 := by
  have hline : ofLine "title = \"é\\q\"".toList = .error (.invalidEscape 11) := by decide +kernel
  obtain ⟨_, -, -, hescape, -⟩ := ofLine_faults "title = \"é\\q\"".toList
  exact ⟨hline, (hescape 11 hline).2.2⟩

end Rule

end ResultFilter
