import ResultFilter.Proofs.Pattern
import ResultFilter.Proofs.Rule.Grammar

/-!
# The front of a text

A reader takes the front of a text, and what it finds there depends on the front alone: any other text may
follow instead, as long as the last word of the front ends before it. For a body to be read up to the same
place, the text must not go on with an expression either.

## Main definitions

* `Grammar.EndsWord` — no character of a name comes next.
* `Rule.Parts` — a blank comes next, and nothing that goes on with an expression.

## Main results

* `Grammar.Derives.exists_front` — phrases before another text.
* `Rule.exists_front_of_readBody` — the bodies of rules before another text.
* `Rule.isDigit_of_readBody` — no body goes on with the number of a colour.
-/

namespace ResultFilter

open ResultFilter.Text

namespace Grammar

/-! ### Tokens -/

/-- No character of a name comes next, so that a word before the text ends there. -/
def EndsWord (rest : Text) : Prop :=
  ∀ c ∈ rest.head?, Rule.isIdentChar c = false

section Token

variable {cs rest : Text}

theorem endsWord_of_isBlank (h : ∀ c ∈ rest.head?, isBlank c = true) : EndsWord rest :=
  fun c hc => (isIdentChar_of_isBlank (h c hc)).1

/-- A word ends before the blanks that stand before a mark, and before the mark itself. -/
theorem Mark.endsWord {c : Char} {mark : Text} (h : Mark (c :: mark) cs rest) (hc : Rule.isIdentChar c = false) :
    EndsWord cs := by
  obtain ⟨blanks, hblanks, rfl⟩ := h
  intro d hd
  cases blanks with
  | nil =>
    obtain rfl : c = d := Option.some.inj hd
    exact hc
  | cons b blanks =>
    obtain rfl : b = d := Option.some.inj hd
    exact (isIdentChar_of_isBlank (hblanks b List.mem_cons_self)).1

/-- Whether a word ends before a text depends on its first character alone. -/
theorem EndsWord.of_append {front : Text} (h : EndsWord (front ++ rest)) (hne : front ≠ []) (rest' : Text) :
    EndsWord (front ++ rest') := by
  obtain ⟨c, front, rfl⟩ := List.exists_cons_of_ne_nil hne
  exact h

theorem AfterBlanks.exists_front {text : Text} (h : AfterBlanks cs (text ++ rest)) :
    ∃ front, cs = front ++ rest ∧ ∀ rest', AfterBlanks (front ++ rest') (text ++ rest') := by
  obtain ⟨blanks, hblanks, rfl⟩ := h
  refine ⟨blanks ++ text, (List.append_assoc ..).symm, fun rest' => ⟨blanks, hblanks, ?_⟩⟩
  rw [List.append_assoc]

theorem Mark.exists_front {mark : Text} (h : Mark mark cs rest) :
    ∃ front, cs = front ++ rest ∧ ∀ rest', Mark mark (front ++ rest') rest' :=
  AfterBlanks.exists_front h

theorem ne_nil_of_spelling {op : StringOp} {front : Text} (h : Mark op.spelling (front ++ rest) rest) : front ≠ [] := by
  rintro rfl
  have hle := h.length_le
  have hpos : 0 < op.spelling.length := by cases op <;> decide
  rw [List.nil_append] at hle
  omega

theorem Name.exists_front {name : Text} (h : Name name cs rest) :
    ∃ front, cs = front ++ rest ∧ ∀ rest', EndsWord rest' → Name name (front ++ rest') rest' := by
  obtain ⟨front, rfl, hfront⟩ := h.eq.exists_front
  exact ⟨front, rfl, fun rest' hrest' => ⟨hfront rest', h.start, h.chars, hrest'⟩⟩

/-- A literal ends at its quote, so any text may follow it. -/
theorem StringToken.exists_front {value : Text} (h : StringToken value cs rest) :
    ∃ front, cs = front ++ rest ∧ ∀ rest', StringToken value (front ++ rest') rest' := by
  obtain ⟨text, width, hblanks, hread⟩ := h
  unfold Literal.readString at hread
  split at hread
  · next tail =>
    obtain ⟨spelling, rfl, hspells⟩ := Literal.readString_eq_ok_iff.mp hread
    have hquoted : '"' :: (spelling ++ '"' :: rest) = ('"' :: (spelling ++ ['"'])) ++ rest := by simp
    rw [hquoted] at hblanks
    obtain ⟨front, rfl, hfront⟩ := hblanks.exists_front
    refine ⟨front, rfl, fun rest' => ⟨_, width, hfront rest', ?_⟩⟩
    exact Literal.readString_eq_ok_iff.mpr ⟨spelling, by simp, hspells⟩
  · exact nomatch hread

end Token

end Grammar

namespace Rule

theorem isDigit_of_isAlpha {c : Char} (h : c.isAlpha = true) : c.isDigit = false := by
  have hascii : c.toNat < 128 := Host.toNat_lt_of_isAlphanum (by rw [Char.isAlphanum, h]; rfl)
  have := Host.forall_ascii (p := fun c => !c.isAlpha || !c.isDigit) (by decide) hascii
  simpa [h] using this

theorem isDigit_of_isIdentStart {c : Char} (h : isIdentStart c = true) : c.isDigit = false := by
  simp only [isIdentStart, Bool.or_eq_true, beq_iff_eq] at h
  rcases h with (h | rfl) | rfl
  · exact isDigit_of_isAlpha h
  · decide
  · decide

/-- The source of a regular expression ends at its slash, so any text may follow it. -/
theorem exists_front_of_readSource? {inClass : Bool} {cs source rest : Text}
    (h : readSource? inClass cs = some (source, rest)) :
    ∃ front, cs = front ++ rest ∧ ∀ rest', readSource? inClass (front ++ rest') = some (source, rest') := by
  fun_induction readSource? inClass cs generalizing source rest with
  | case1 => exact absurd h (by simp)
  | case2 => exact absurd h (by simp)
  | case3 inClass c cs ih =>
    obtain ⟨⟨source', rest'⟩, hread, heq⟩ := Option.map_eq_some_iff.mp h
    obtain ⟨rfl, rfl⟩ := Prod.mk.inj heq
    obtain ⟨front, rfl, hfront⟩ := ih hread
    refine ⟨'\\' :: c :: front, rfl, fun rest' => ?_⟩
    rw [List.cons_append, List.cons_append, readSource?, hfront]
    rfl
  | case4 inClass c cs hback hslash =>
    obtain ⟨rfl, rfl⟩ := Prod.mk.inj (Option.some.inj h)
    refine ⟨[c], rfl, fun rest' => ?_⟩
    rw [List.singleton_append, readSource?, if_pos hslash]
    exact hback
  | case5 inClass c cs hback hslash ih =>
    obtain ⟨⟨source', rest'⟩, hread, heq⟩ := Option.map_eq_some_iff.mp h
    obtain ⟨rfl, rfl⟩ := Prod.mk.inj heq
    obtain ⟨front, rfl, hfront⟩ := ih hread
    refine ⟨c :: front, rfl, fun rest' => ?_⟩
    rw [List.cons_append, readSource?, if_neg hslash, hfront]
    · rfl
    · exact hback

/-- The letters behind a regular expression end before a text that begins with no letter. -/
theorem exists_front_of_readRegex {width : Nat} {cs rest : Text} {regex : Regex}
    (h : readRegex width cs = .ok (regex, rest)) :
    ∃ front, cs = front ++ rest
      ∧ ∀ width' rest', Grammar.EndsWord rest' → readRegex width' (front ++ rest') = .ok (regex, rest') := by
  obtain ⟨after, hexpect, hread⟩ := Except.bind_eq_ok_iff.mp h
  obtain rfl := eq_cons_of_expect hexpect
  split at hread
  · exact absurd hread (by simp)
  next source tail hsource =>
  split at hread
  · exact absurd hread (by simp)
  next hne =>
  split at hread
  · exact absurd hread (by simp)
  next flags hflags =>
  split at hread
  · next regex' hregex =>
    obtain ⟨rfl, rfl⟩ := Prod.mk.inj (Except.ok.inj hread)
    obtain ⟨front, rfl, hfront⟩ := exists_front_of_readSource? hsource
    refine ⟨'/' :: (front ++ tail.takeWhile Char.isAlpha), ?_, fun width' rest' hrest' => ?_⟩
    · rw [List.cons_append, List.append_assoc, List.takeWhile_append_dropWhile]
    · have hletter : ∀ c ∈ rest'.head?, c.isAlpha = false := by
        intro c hc
        have hword := hrest' c hc
        simp only [isIdentChar, Char.isAlphanum, Bool.or_eq_false_iff] at hword
        exact hword.1.1.1
      obtain ⟨htake, hdrop⟩ := List.span_append_of_stop
        (fun c hc => List.all_eq_true.mp (List.all_takeWhile (l := tail)) c hc) hletter
      have hslash : expect width' '/' ('/' :: (front ++ (tail.takeWhile Char.isAlpha ++ rest')))
          = .ok (front ++ (tail.takeWhile Char.isAlpha ++ rest')) := rfl
      rw [List.cons_append, List.append_assoc]
      refine Except.bind_eq_ok_iff.mpr ⟨_, hslash, ?_⟩
      rw [hfront]
      dsimp only
      rw [if_neg hne, htake, hflags, hdrop]
      dsimp only
      rw [hregex]
  · exact absurd hread (by simp)

end Rule

namespace Grammar

theorem RegexToken.exists_front {regex : Regex} {cs rest : Text} (h : RegexToken regex cs rest) :
    ∃ front, cs = front ++ rest ∧ ∀ rest', EndsWord rest' → RegexToken regex (front ++ rest') rest' := by
  obtain ⟨text, width, hblanks, hread⟩ := h
  obtain ⟨front, rfl, hfront⟩ := Rule.exists_front_of_readRegex hread
  obtain ⟨front', rfl, hfront'⟩ := hblanks.exists_front
  exact ⟨front', rfl, fun rest' hrest' => ⟨_, width, hfront' rest', hfront width rest' hrest'⟩⟩

theorem CaseFlag.exists_front {ignoreCase : Bool} {cs rest : Text} (h : CaseFlag ignoreCase cs rest) :
    ∃ front, cs = front ++ rest ∧ ∀ rest', EndsWord rest' → CaseFlag ignoreCase (front ++ rest') rest' := by
  cases ignoreCase with
  | false =>
    obtain rfl : cs = rest := h
    exact ⟨[], rfl, fun rest' _ => rfl⟩
  | true =>
    obtain ⟨front, rfl, hfront⟩ := h.1.exists_front
    exact ⟨front, rfl, fun rest' hrest' => ⟨hfront rest', hrest'⟩⟩

/-! ### Phrases -/

/-- A phrase is derived before any text that does not go on with its last word. The induction is on the
derivation: a part ends where it ended, because what stands behind it begins as it did. -/
theorem Derives.exists_front {phrase : Phrase} {cs rest : Text} {e : Expression} (h : Derives phrase cs e rest) :
    ∃ front, cs = front ++ rest ∧ ∀ rest', EndsWord rest' → Derives phrase (front ++ rest') e rest' := by
  induction h with
  | orOne _ ih =>
    obtain ⟨front, rfl, hfront⟩ := ih
    exact ⟨front, rfl, fun rest' hrest' => .orOne (hfront rest' hrest')⟩
  | orMore _ hmark _ iha ihb =>
    obtain ⟨left, rfl, hleft⟩ := iha
    obtain ⟨bar, rfl, hbar⟩ := hmark.exists_front
    obtain ⟨right, rfl, hright⟩ := ihb
    refine ⟨left ++ (bar ++ right), by simp only [List.append_assoc], fun rest' hrest' => ?_⟩
    simp only [List.append_assoc]
    have hends : EndsWord (bar ++ (right ++ rest')) := (hbar _).endsWord (by decide)
    exact .orMore (hleft _ hends) (hbar _) (hright rest' hrest')
  | andOne _ ih =>
    obtain ⟨front, rfl, hfront⟩ := ih
    exact ⟨front, rfl, fun rest' hrest' => .andOne (hfront rest' hrest')⟩
  | andMore _ hmark _ iha ihb =>
    obtain ⟨left, rfl, hleft⟩ := iha
    obtain ⟨ampersand, rfl, hampersand⟩ := hmark.exists_front
    obtain ⟨right, rfl, hright⟩ := ihb
    refine ⟨left ++ (ampersand ++ right), by simp only [List.append_assoc], fun rest' hrest' => ?_⟩
    simp only [List.append_assoc]
    have hends : EndsWord (ampersand ++ (right ++ rest')) := (hampersand _).endsWord (by decide)
    exact .andMore (hleft _ hends) (hampersand _) (hright rest' hrest')
  | negation hmark _ ih =>
    obtain ⟨bang, rfl, hbang⟩ := hmark.exists_front
    obtain ⟨front, rfl, hfront⟩ := ih
    refine ⟨bang ++ front, by simp only [List.append_assoc], fun rest' hrest' => ?_⟩
    rw [List.append_assoc]
    exact .negation (hbang _) (hfront rest' hrest')
  | parentheses hopen _ hclose ih =>
    obtain ⟨first, rfl, hfirst⟩ := hopen.exists_front
    obtain ⟨inner, rfl, hinner⟩ := ih
    obtain ⟨last, rfl, hlast⟩ := hclose.exists_front
    refine ⟨first ++ (inner ++ last), by simp only [List.append_assoc], fun rest' _ => ?_⟩
    simp only [List.append_assoc]
    have hends : EndsWord (last ++ rest') := (hlast _).endsWord (by decide)
    exact .parentheses (hfirst _) (hinner _ hends) (hlast _)
  | test _ ih =>
    obtain ⟨front, rfl, hfront⟩ := ih
    exact ⟨front, rfl, fun rest' hrest' => .test (hfront rest' hrest')⟩
  | comparison hname hop hvalue hcase =>
    obtain ⟨name, rfl, hname'⟩ := hname.exists_front
    obtain ⟨sign, rfl, hsign⟩ := hop.exists_front
    obtain ⟨literal, rfl, hliteral⟩ := hvalue.exists_front
    obtain ⟨flag, rfl, hflag⟩ := hcase.exists_front
    refine ⟨name ++ (sign ++ (literal ++ flag)), by simp only [List.append_assoc], fun rest' hrest' => ?_⟩
    simp only [List.append_assoc]
    -- the sign may begin with a character of names, but then a blank stands before it
    have hends : EndsWord (sign ++ (literal ++ (flag ++ rest'))) :=
      EndsWord.of_append hname.longest (ne_nil_of_spelling hop) _
    exact .comparison (hname' _ hends) (hsign _) (hliteral _) (hflag rest' hrest')
  | search hname hop hregex =>
    obtain ⟨name, rfl, hname'⟩ := hname.exists_front
    obtain ⟨sign, rfl, hsign⟩ := hop.exists_front
    obtain ⟨regex, rfl, hregex'⟩ := hregex.exists_front
    refine ⟨name ++ (sign ++ regex), by simp only [List.append_assoc], fun rest' hrest' => ?_⟩
    simp only [List.append_assoc]
    have hends : EndsWord (sign ++ (regex ++ rest')) := (hsign _).endsWord (by decide)
    exact .search (hname' _ hends) (hsign _) (hregex' rest' hrest')

theorem Name.isDigit {name cs rest : Text} (h : Name name cs rest) :
    ∃ c tail, trimStart cs = c :: tail ∧ c.isDigit = false := by
  have htrim := h.trimStart_eq
  obtain ⟨c, tail, rfl, hstart⟩ := h.start
  exact ⟨c, _, htrim, Rule.isDigit_of_isIdentStart hstart⟩

/-- A phrase begins with a mark or a name, and so with no digit. -/
theorem isDigit_of_derives {phrase : Phrase} {cs rest : Text} {e : Expression} (h : Derives phrase cs e rest) :
    ∃ c tail, trimStart cs = c :: tail ∧ c.isDigit = false := by
  induction h with
  | orOne _ ih => exact ih
  | orMore _ _ _ ih _ => exact ih
  | andOne _ ih => exact ih
  | andMore _ _ _ ih _ => exact ih
  | negation hmark _ _ => exact ⟨'!', _, AfterBlanks.trimStart_eq hmark (by decide), by decide⟩
  | parentheses hopen _ _ _ => exact ⟨'(', _, AfterBlanks.trimStart_eq hopen (by decide), by decide⟩
  | test _ ih => exact ih
  | comparison hname _ _ _ => exact hname.isDigit
  | search hname _ _ => exact hname.isDigit

end Grammar

/-! ### Bodies -/

namespace Rule

/-- A text ends the body of a rule: a blank comes next, if anything, and no expression goes on behind it. -/
structure Parts (rest : Text) : Prop where
  isBlank : ∀ c ∈ rest.head?, isBlank c = true
  closes : Grammar.Closes rest

/-- Whether a text closes an expression is told by the character behind its blanks. -/
theorem closes_of_trimStart {rest : Text} (h : ∀ c ∈ (trimStart rest).head?, c ≠ 'i' ∧ c ≠ '&' ∧ c ≠ '|') :
    Grammar.Closes rest := by
  have hnot {c : Char} {after : Text} (hc : isBlank c = false) (hmark : Grammar.Mark [c] rest after) :
      c ≠ 'i' ∧ c ≠ '&' ∧ c ≠ '|' := by
    rw [Grammar.AfterBlanks.trimStart_eq hmark hc] at h
    exact h c rfl
  exact {
    unflagged := fun _ hflag => (hnot (by decide) hflag.1).1 rfl
    noAnd := fun _ hmark => (hnot (by decide) hmark).2.1 rfl
    noOr := fun _ hmark => (hnot (by decide) hmark).2.2 rfl }

theorem Parts.endsWord {rest : Text} (h : Parts rest) : Grammar.EndsWord rest :=
  Grammar.endsWord_of_isBlank h.isBlank

/-- A regular expression begins with its slash, or with the name of its target before that. -/
theorem parts_of_regexStart? {cs tail : Text} {target : RegexTarget} (h : regexStart? cs = some (target, tail)) :
    ∃ name ∈ [[], "url".toList, "title".toList], cs = name ++ tail ∧ tail.head? = some '/' := by
  unfold regexStart? at h
  split at h
  · obtain ⟨-, rfl⟩ := Prod.mk.inj (Option.some.inj h)
    exact ⟨[], by simp, rfl, rfl⟩
  · split at h
    · next hurl =>
      obtain ⟨-, rfl⟩ := Prod.mk.inj (Option.some.inj h)
      rw [List.isPrefixOf?_eq_some_iff_append_eq] at hurl
      exact ⟨"url".toList, by simp, hurl.symm, rfl⟩
    · split at h
      · next htitle =>
        obtain ⟨-, rfl⟩ := Prod.mk.inj (Option.some.inj h)
        rw [List.isPrefixOf?_eq_some_iff_append_eq] at htitle
        exact ⟨"title".toList, by simp, htitle.symm, rfl⟩
      · exact nomatch h

/-- A word that is a pattern looks like one. -/
theorem looksLikePattern_of_ofText {word : Text} {p : MatchPattern} (h : MatchPattern.ofText word = .ok p) :
    looksLikePattern word = true := by
  rw [looksLikePattern, Bool.or_eq_true, beq_iff_eq]
  rcases MatchPattern.parts_of_ofText h with ⟨rfl, -⟩ | ⟨scheme, host, path, -, rfl, hscheme, -⟩
  · exact Or.inl rfl
  · have hcut : cutAt? "://".toList (scheme ++ "://".toList ++ (host ++ path)) = some (scheme, host ++ path) :=
      cutAt?_append (host ++ path) (not_mem_of_isSchemePattern hscheme).1
    rw [List.append_assoc, hcut]
    exact Or.inr hscheme

/-- A word that is a pattern is read as a body, up to the blank behind it. -/
theorem readBody_of_ofText {word rest : Text} {p : MatchPattern} (hword : ∀ c ∈ word, isBlank c = false)
    (h : MatchPattern.ofText word = .ok p) (hrest : ∀ c ∈ rest.head?, isBlank c = true) (width : Nat) :
    readBody width (word ++ rest) = .ok (.pattern p none, rest) := by
  have hin : ∀ c ∈ word, (!isBlank c) = true := fun c hc => by rw [hword c hc]; rfl
  have hstop : ∀ c ∈ rest.head?, (!isBlank c) = false := fun c hc => by rw [hrest c hc]; rfl
  obtain ⟨htake, hdrop⟩ := List.span_append_of_stop hin hstop
  rw [readBody, htake, hdrop, if_pos (looksLikePattern_of_ofText h), h]

/-- A word ends before a blank, so a text has the same first word whatever stands behind the blank. -/
theorem takeWhile_word {front rest : Text} (hrest : ∀ c ∈ rest.head?, isBlank c = true) :
    (front ++ rest).takeWhile (!isBlank ·) = front.takeWhile (!isBlank ·) := by
  refine List.takeWhile_append_of_stop (fun c hc => ?_) front
  rw [hrest c hc]
  rfl

/-- A body is read before any text that parts it from the rest of a line, as it is read before one. The kind
of a body is told by its first word, and by the mark of a regular expression; neither reaches into the rest. -/
theorem exists_front_of_readBody {width : Nat} {cs rest : Text} {body : RuleBody}
    (h : readBody width cs = .ok (body, rest)) (hrest : ∀ c ∈ rest.head?, isBlank c = true) :
    ∃ front, cs = front ++ rest
      ∧ ∀ width' rest', Parts rest' → readBody width' (front ++ rest') = .ok (body, rest') := by
  cases readBody_eq_ok_iff.mp h with
  | pattern _ hpattern =>
    refine ⟨cs.takeWhile (!isBlank ·), List.takeWhile_append_dropWhile.symm, fun width' rest' hrest' => ?_⟩
    have hword : ∀ c ∈ cs.takeWhile (!isBlank ·), isBlank c = false := by
      intro c hc
      have hin := List.all_eq_true.mp List.all_takeWhile c hc
      simpa using hin
    exact readBody_of_ofText hword hpattern hrest'.isBlank width'
  | regex hlooks hstart hread =>
    -- where the line ends decides neither the word nor the target
    obtain ⟨source, rfl, hsource⟩ := exists_front_of_readRegex hread
    obtain ⟨name, -, rfl, -⟩ := parts_of_regexStart? hstart
    rw [← List.append_assoc] at hlooks hstart ⊢
    rw [takeWhile_word hrest] at hlooks
    rw [regexStart?_append hrest] at hstart
    obtain ⟨⟨target', source'⟩, hfront, heq⟩ := Option.map_eq_some_iff.mp hstart
    obtain ⟨rfl, hsame⟩ := Prod.mk.inj heq
    obtain rfl := List.append_cancel_right hsame
    refine ⟨name ++ source', rfl, fun width' rest' hrest' => readBody_eq_ok_iff.mpr ?_⟩
    refine .regex ?_ ?_ (hsource width' rest' hrest'.endsWord)
    · rwa [takeWhile_word hrest'.isBlank]
    · rw [regexStart?_append hrest'.isBlank, hfront, Option.map_some]
  | expression hlooks hstart hread =>
    -- its derivation is one before any rest that ends a word
    obtain ⟨front, rfl, hfront⟩ := (Grammar.derives_of_readOr hread).exists_front
    rw [takeWhile_word hrest] at hlooks
    rw [regexStart?_append hrest, Option.map_eq_none_iff] at hstart
    refine ⟨front, rfl, fun width' rest' hrest' => readBody_eq_ok_iff.mpr ?_⟩
    refine .expression ?_ ?_ (Grammar.readExpression_of_closes (hfront rest' hrest'.endsWord) hrest'.closes width')
    · rwa [takeWhile_word hrest'.isBlank]
    · rw [regexStart?_append hrest'.isBlank, hstart, Option.map_none]

/-- No body begins with a digit. -/
theorem isDigit_of_readBody {width : Nat} {c : Char} {cs : Text} {x : RuleBody × Text}
    (h : readBody width (c :: cs) = .ok x) (hblank : isBlank c = false) : c.isDigit = false := by
  obtain ⟨body, after⟩ := x
  cases readBody_eq_ok_iff.mp h with
  | pattern _ hpattern =>
    obtain ⟨d, rest, hword, hd⟩ := MatchPattern.exists_cons_of_ofText hpattern
    rw [List.takeWhile_cons_of_pos (by rw [hblank]; rfl)] at hword
    obtain rfl := (List.cons.inj hword).1
    rcases hd with hd | rfl | rfl
    · exact isDigit_of_isAlpha hd
    · decide
    · decide
  | regex _ hstart _ =>
    obtain ⟨name, hname, hcs, hslash⟩ := parts_of_regexStart? hstart
    obtain ⟨source, rfl⟩ := List.head?_eq_some_iff.mp hslash
    simp only [List.mem_cons, List.not_mem_nil, or_false] at hname
    rcases hname with rfl | rfl | rfl
    · exact (List.cons.inj hcs).1 ▸ rfl
    · exact (List.cons.inj hcs).1 ▸ rfl
    · exact (List.cons.inj hcs).1 ▸ rfl
  | expression _ _ hread =>
    obtain ⟨d, tail, htrim, hd⟩ := Grammar.isDigit_of_derives (Grammar.derives_of_readOr hread)
    rw [trimStart, List.dropWhile_cons_of_neg (by rw [hblank]; decide)] at htrim
    rwa [(List.cons.inj htrim).1]

end Rule

end ResultFilter
