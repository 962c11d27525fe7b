import ResultFilter.Proofs.Rule.Stored
import ResultFilter.Proofs.Text

/-!
# Regular expressions between slashes

A regular expression goes from a slash to the next one that closes it, with letters for flags behind that. A
backslash escapes the character after it, unless it is escaped itself; brackets are opened by the first of a
pair that is not escaped, and closed by the next second one that is not. A slash closes the expression if it is
neither escaped nor in brackets. What is kept is the text between the slashes without the backslashes that
escape a slash.

All of this is told by the places of a text. The readers pass over a text once and carry only whether they are
in brackets; they stop behind an escaped character, so no place where they stand is escaped.

## Main definitions

* `RegexLiteral.isEscaped` — whether a place of a text is escaped.
* `RegexLiteral.InBrackets` — a place is in brackets.
* `RegexLiteral.Closes` — a slash closes the expression before it.
* `RegexLiteral.IsSource` — a text that can stand between the slashes, up to its end.
* `RegexLiteral.withBareSlashes` — a text without the backslashes that escape a slash.
* `RegexFlags.ofLetters` — the flags that some letters stand for.

## Main results

* `RegexLiteral.readSource?_spec` — the source ends at the first slash that closes it.
* `RegexLiteral.unescapeSlashes_eq` — the backslashes that escape a slash are taken off, and no others.
* `RegexFlags.ofText_eq_ofLetters` — letters are read as the flags that they stand for.
* `Rule.readRegex_exact` — where reading stops, and what is read.
-/

namespace ResultFilter

open ResultFilter.Text

namespace RegexLiteral

/-! ### Places of a text -/

/-- Whether a place of a text is escaped: a backslash stands before it that is not escaped itself. -/
def isEscaped (text : Text) : ℕ → Bool
  | 0 => false
  | i + 1 => text[i]? == some '\\' && !isEscaped text i

/-- A place of a text is in brackets: an opening one stands before it that is not escaped, and every closing one
between the two is. -/
def InBrackets (text : Text) (i : ℕ) : Prop :=
  ∃ j < i, text[j]? = some '[' ∧ isEscaped text j = false
    ∧ ∀ k < i, j < k → text[k]? = some ']' → isEscaped text k = true

instance (text : Text) (i : ℕ) : Decidable (InBrackets text i) :=
  inferInstanceAs (Decidable (∃ j < i, _))

/-- A slash closes the expression before it: it is neither escaped nor in brackets. -/
def Closes (text : Text) (i : ℕ) : Prop :=
  text[i]? = some '/' ∧ isEscaped text i = false ∧ ¬ InBrackets text i

/-- A text can stand between two slashes, of which the second one closes it. -/
structure IsSource (text : Text) : Prop where
  /-- There is something to be searched for. -/
  ne_nil : text ≠ []
  /-- It does not end in a backslash that escapes what follows. -/
  complete : isEscaped text text.length = false
  /-- Its brackets are closed. -/
  outside : ¬ InBrackets text text.length
  /-- A slash in it is escaped or stands in brackets. -/
  slashes : ∀ i < text.length, text[i]? = some '/' → isEscaped text i = true ∨ InBrackets text i

/-- Whether a place of a text holds a backslash that escapes a slash. -/
def escapesSlash (text : Text) (i : ℕ) : Bool :=
  isEscaped text (i + 1) && text[i + 1]? == some '/'

/-- A text without the backslashes that escape a slash. -/
def withBareSlashes (text : Text) : Text :=
  text.zipIdx.filterMap fun (c, i) => if escapesSlash text i then none else some c

section Places

variable {text : Text} {n : ℕ} {c : Char} {rest : Text}

theorem getElem?_of_drop (h : text.drop n = c :: rest) : text[n]? = some c := by
  rw [← List.head?_drop, h, List.head?_cons]

theorem drop_succ_of_drop (h : text.drop n = c :: rest) : text.drop (n + 1) = rest := by
  rw [← List.tail_drop, h, List.tail_cons]

theorem isEscaped_succ_iff : isEscaped text (n + 1) = true ↔ text[n]? = some '\\' ∧ isEscaped text n = false := by
  rw [isEscaped, Bool.and_eq_true, beq_iff_eq, Bool.not_eq_true']

theorem isEscaped_succ_of_ne (h : text[n]? ≠ some '\\') : isEscaped text (n + 1) = false :=
  eq_false_of_ne_true fun hn => h (isEscaped_succ_iff.mp hn).1

theorem isEscaped_succ_of_isEscaped (h : isEscaped text n = true) : isEscaped text (n + 1) = false := by
  rw [isEscaped, h, Bool.not_true, Bool.and_false]

theorem not_inBrackets_zero : ¬ InBrackets text 0 := fun ⟨_, hj, _⟩ => absurd hj (Nat.not_lt_zero _)

/-- One place further on the brackets are open if they are opened here, and closed if they are closed here. -/
theorem inBrackets_succ_iff : InBrackets text (n + 1) ↔ (text[n]? = some '[' ∧ isEscaped text n = false)
    ∨ (InBrackets text n ∧ (text[n]? = some ']' → isEscaped text n = true)) := by
  constructor
  · rintro ⟨j, hj, hopen, hescaped, hclosed⟩
    rcases Nat.lt_succ_iff_lt_or_eq.mp hj with hlt | rfl
    · exact Or.inr ⟨⟨j, hlt, hopen, hescaped, fun k hk => hclosed k (Nat.lt_succ_of_lt hk)⟩,
        hclosed n (Nat.lt_succ_self n) hlt⟩
    · exact Or.inl ⟨hopen, hescaped⟩
  · rintro (⟨hopen, hescaped⟩ | ⟨⟨j, hj, hopen, hescaped, hclosed⟩, hlast⟩)
    · exact ⟨n, Nat.lt_succ_self n, hopen, hescaped, fun k hk hnk => absurd hnk (by omega)⟩
    · refine ⟨j, Nat.lt_succ_of_lt hj, hopen, hescaped, fun k hk hjk => ?_⟩
      rcases Nat.lt_succ_iff_lt_or_eq.mp hk with hlt | rfl
      · exact hclosed k hlt hjk
      · exact hlast

/-- An escaped character, or one that is no bracket, leaves the brackets as they are. -/
theorem inBrackets_succ_of_ne (h : isEscaped text n = true ∨ text[n]? ≠ some '[' ∧ text[n]? ≠ some ']') :
    InBrackets text (n + 1) ↔ InBrackets text n := by
  rw [inBrackets_succ_iff]
  rcases h with h | ⟨hopen, hclosed⟩
  · simp [h]
  · simp [hopen, hclosed]

/-- The places up to some end of a text are as they are without what follows it. -/
theorem isEscaped_append (front back : Text) : ∀ {i : ℕ}, i ≤ front.length →
    isEscaped (front ++ back) i = isEscaped front i := by
  intro i
  induction i with
  | zero => intro _; rfl
  | succ i ih =>
    intro hi
    rw [isEscaped, isEscaped, ih (Nat.le_of_succ_le hi), List.getElem?_append_left hi]

theorem inBrackets_append (front back : Text) {i : ℕ} (hi : i ≤ front.length) :
    InBrackets (front ++ back) i ↔ InBrackets front i := by
  have hsame {j : ℕ} (hj : j < i) : (front ++ back)[j]? = front[j]?
      ∧ isEscaped (front ++ back) j = isEscaped front j :=
    ⟨List.getElem?_append_left (by omega), isEscaped_append front back (by omega)⟩
  refine exists_congr fun j => and_congr_right fun hj => ?_
  rw [(hsame hj).1, (hsame hj).2]
  refine and_congr_right fun _ => and_congr_right fun _ => forall_congr' fun k => ?_
  refine forall_congr' fun hk => forall_congr' fun _ => ?_
  rw [(hsame hk).1, (hsame hk).2]

end Places

/-! ### The end of a source -/

/-- A text is parted from a place on at the first slash that closes an expression, or nothing closes one. -/
def PartsAt (text : Text) (n : ℕ) : Option (Text × Text) → Prop
  | some (source, rest) => text.drop n = source ++ '/' :: rest ∧ Closes text (n + source.length)
      ∧ ∀ i, n ≤ i → i < n + source.length → ¬ Closes text i
  | none => ∀ i, n ≤ i → ¬ Closes text i

theorem partsAt_of_drop_eq_nil {text : Text} {n : ℕ} (h : text.drop n = []) : PartsAt text n none := by
  rintro i hi ⟨hslash, -⟩
  obtain ⟨hlt, -⟩ := List.getElem?_eq_some_iff.mp hslash
  have hle := List.drop_eq_nil_iff.mp h
  omega

/-- A character that closes nothing belongs to the source before the slash. -/
theorem PartsAt.cons {text rest : Text} {n : ℕ} {c : Char} {parts : Option (Text × Text)}
    (hdrop : text.drop n = c :: rest) (hclose : ¬ Closes text n) (h : PartsAt text (n + 1) parts) :
    PartsAt text n (parts.map fun (source, rest) => (c :: source, rest)) := by
  have hfirst {m : ℕ} (hrest : ∀ i, n + 1 ≤ i → i < m → ¬ Closes text i) :
      ∀ i, n ≤ i → i < m → ¬ Closes text i := by
    intro i hi hm
    rcases Nat.eq_or_lt_of_le hi with rfl | hlt
    · exact hclose
    · exact hrest i hlt hm
  cases parts with
  | none => exact fun i hi => hfirst (fun j hj _ => h j hj) i hi (Nat.lt_succ_self i)
  | some parts =>
    obtain ⟨source, rest'⟩ := parts
    obtain ⟨heq, hend, hrest⟩ := h
    have hlength : n + (c :: source).length = n + 1 + source.length := by
      rw [List.length_cons]
      omega
    refine ⟨?_, hlength ▸ hend, hlength ▸ hfirst hrest⟩
    rw [hdrop, List.cons_append, ← heq, drop_succ_of_drop hdrop]

/-- A source ends at the first slash that closes it, and there is none if nothing does. The reader stands at a
place of the text that is not escaped, and knows whether it is in brackets. -/
theorem readSource?_spec {text cs : Text} {inClass : Bool} {n : ℕ} (hdrop : text.drop n = cs)
    (hescaped : isEscaped text n = false) (hclass : inClass = true ↔ InBrackets text n) :
    PartsAt text n (Rule.readSource? inClass cs) := by
  fun_induction Rule.readSource? inClass cs generalizing n with
  | case1 => exact partsAt_of_drop_eq_nil hdrop
  | case2 inClass =>
    have hslash : ¬ Closes text n := fun h => by
      rw [Closes, getElem?_of_drop hdrop] at h
      exact absurd h.1 (by simp)
    exact (partsAt_of_drop_eq_nil (drop_succ_of_drop hdrop)).cons hdrop hslash
  | case3 inClass c rest ih =>
    -- the character behind the backslash is escaped, whatever it is, and the one after it is not
    have hback := getElem?_of_drop hdrop
    have hnext := drop_succ_of_drop hdrop
    have hbehind : isEscaped text (n + 1) = true := isEscaped_succ_iff.mpr ⟨hback, hescaped⟩
    have hclass' : inClass = true ↔ InBrackets text (n + 1 + 1) := by
      rw [hclass, inBrackets_succ_of_ne (Or.inl hbehind), inBrackets_succ_of_ne (Or.inr (by simp [hback]))]
    have hparts := ih (drop_succ_of_drop hnext) (isEscaped_succ_of_isEscaped hbehind) hclass'
    have hlast : ¬ Closes text (n + 1) := fun h => absurd (h.2.1.symm.trans hbehind) (by simp)
    have hfirst : ¬ Closes text n := fun h => absurd (h.1.symm.trans hback) (by simp)
    have := (hparts.cons hnext hlast).cons hdrop hfirst
    rwa [Option.map_map] at this
  | case4 inClass c rest hback hclose =>
    obtain ⟨rfl, houtside⟩ := hclose
    refine ⟨hdrop, ⟨getElem?_of_drop hdrop, hescaped, fun h => ?_⟩, fun i hi hlt => ?_⟩
    · rw [hclass.mpr h] at houtside
      exact absurd houtside (by decide)
    · exact absurd hlt (Nat.not_lt_of_le hi)
  | case5 inClass c rest hback hopen ih =>
    have hc := getElem?_of_drop hdrop
    have hnot : ¬ Closes text n := by
      rintro ⟨hslash, -, houtside⟩
      obtain rfl := Option.some.inj (hc.symm.trans hslash)
      rw [← hclass, Bool.not_eq_true] at houtside
      exact hopen ⟨rfl, by rw [houtside]; rfl⟩
    have hnext : isEscaped text (n + 1) = false :=
      isEscaped_succ_of_ne fun h => hback (Option.some.inj (hc.symm.trans h))
    refine (ih (drop_succ_of_drop hdrop) hnext ?_).cons hdrop hnot
    rw [inBrackets_succ_iff, hc, hescaped]
    by_cases hbracket : c = '['
    · simp [hbracket]
    · by_cases hclosed : c = ']'
      · simp [hclosed]
      · simp [hbracket, hclosed, hclass]

theorem readSource?_eq (cs : Text) : PartsAt cs 0 (Rule.readSource? false cs) :=
  readSource?_spec (List.drop_zero) rfl (iff_of_false Bool.false_ne_true not_inBrackets_zero)

/-- A source is read up to the slash behind it. -/
theorem IsSource.readSource? {source : Text} (h : IsSource source) (rest : Text) :
    Rule.readSource? false (source ++ '/' :: rest) = some (source, rest) := by
  have hclose : Closes (source ++ '/' :: rest) source.length := by
    refine ⟨?_, ?_, fun hin => ?_⟩
    · rw [List.getElem?_append_right (Nat.le_refl _), Nat.sub_self]
      rfl
    · rw [isEscaped_append source _ (Nat.le_refl _)]
      exact h.complete
    · exact h.outside ((inBrackets_append source _ (Nat.le_refl _)).mp hin)
  have hinner : ∀ i < source.length, ¬ Closes (source ++ '/' :: rest) i := by
    rintro i hi ⟨hslash, hescaped, houtside⟩
    rw [List.getElem?_append_left hi] at hslash
    rw [isEscaped_append source _ (Nat.le_of_lt hi)] at hescaped
    rw [inBrackets_append source _ (Nat.le_of_lt hi)] at houtside
    rcases h.slashes i hi hslash with hback | hin
    · exact absurd (hescaped.symm.trans hback) (by simp)
    · exact houtside hin
  have hparts := readSource?_eq (source ++ '/' :: rest)
  cases hread : Rule.readSource? false (source ++ '/' :: rest) with
  | none =>
    rw [hread] at hparts
    exact absurd hclose (hparts _ (Nat.zero_le _))
  | some parts =>
    obtain ⟨front, back⟩ := parts
    rw [hread] at hparts
    obtain ⟨heq, hend, hbefore⟩ := hparts
    rw [Nat.zero_add] at hend hbefore
    rw [List.drop_zero] at heq
    -- neither of the two slashes stands before the other
    have hlength : source.length = front.length := by
      rcases Nat.lt_trichotomy source.length front.length with hlt | hsame | hlt
      · exact absurd hclose (hbefore _ (Nat.zero_le _) hlt)
      · exact hsame
      · exact absurd hend (hinner _ hlt)
    obtain ⟨rfl, htail⟩ := List.append_inj heq hlength
    obtain ⟨-, rfl⟩ := List.cons.inj htail
    rfl

/-- There is no source just if no slash closes one. -/
theorem readSource?_eq_none_iff (cs : Text) :
    Rule.readSource? false cs = none ↔ ∀ i, ¬ Closes cs i := by
  have hparts := readSource?_eq cs
  cases hread : Rule.readSource? false cs with
  | none =>
    rw [hread] at hparts
    exact iff_of_true rfl fun i => hparts i (Nat.zero_le i)
  | some parts =>
    rw [hread] at hparts
    exact iff_of_false (by simp) fun h => h _ hparts.2.1

/-- What is read stands there: the source, the slash that closes it, and the rest. -/
theorem eq_of_readSource? {cs source rest : Text} (h : Rule.readSource? false cs = some (source, rest)) :
    cs = source ++ '/' :: rest := by
  have hparts := readSource?_eq cs
  rw [h] at hparts
  exact hparts.1

/-! ### Escapes of slashes -/

/-- From a place on that is not escaped, the backslashes that escape a slash are taken off. -/
theorem unescapeSlashes_drop {text cs : Text} {n : ℕ} (hdrop : text.drop n = cs)
    (hescaped : isEscaped text n = false) : unescapeSlashes cs
      = (cs.zipIdx n).filterMap fun (c, i) => if escapesSlash text i then none else some c := by
  fun_induction unescapeSlashes cs generalizing n with
  | case1 rest ih =>
    have hnext := drop_succ_of_drop hdrop
    have hslash := getElem?_of_drop hnext
    have hbehind : isEscaped text (n + 1) = true := isEscaped_succ_iff.mpr ⟨getElem?_of_drop hdrop, hescaped⟩
    have hpast := isEscaped_succ_of_isEscaped hbehind
    rw [ih (drop_succ_of_drop hnext) hpast, List.zipIdx_cons, List.zipIdx_cons]
    simp [escapesSlash, hbehind, hslash, hpast]
  | case2 c rest hc ih =>
    have hnext := drop_succ_of_drop hdrop
    have hletter := getElem?_of_drop hnext
    have hbehind : isEscaped text (n + 1) = true := isEscaped_succ_iff.mpr ⟨getElem?_of_drop hdrop, hescaped⟩
    have hpast := isEscaped_succ_of_isEscaped hbehind
    rw [ih (drop_succ_of_drop hnext) hpast, List.zipIdx_cons, List.zipIdx_cons]
    simp [escapesSlash, hletter, hpast, hc]
  | case3 c rest h ih =>
    have hnext := drop_succ_of_drop hdrop
    rw [List.zipIdx_cons]
    by_cases hc : c = '\\'
    · -- a backslash at the end of the text escapes nothing
      have hnil : rest = [] := by
        cases rest with
        | nil => rfl
        | cons d rest => exact (h d rest hc rfl).elim
      subst hnil
      have hend : text[n + 1]? = none := List.getElem?_eq_none (List.drop_eq_nil_iff.mp hnext)
      simp [escapesSlash, hend, unescapeSlashes]
    · have hpast : isEscaped text (n + 1) = false :=
        isEscaped_succ_of_ne fun heq => hc (Option.some.inj ((getElem?_of_drop hdrop).symm.trans heq))
      rw [ih hnext hpast]
      simp [escapesSlash, hpast]
  | case4 => rfl

/-- The backslashes that escape a slash are taken off, and no others. -/
theorem unescapeSlashes_eq (text : Text) : unescapeSlashes text = withBareSlashes text :=
  unescapeSlashes_drop List.drop_zero rfl

end RegexLiteral

/-! ### Flags -/

/-- The letters that stand for flags. -/
def flagLetters : Text := "imsugy".toList

/-- The flags that some letters stand for. -/
def RegexFlags.ofLetters (letters : Text) : RegexFlags where
  ignoreCase := letters.contains 'i'
  multiLine := letters.contains 'm'
  dotAll := letters.contains 's'
  unicode := letters.contains 'u'
  global := letters.contains 'g'
  sticky := letters.contains 'y'

/-- The flags in either of two. -/
def RegexFlags.union (a b : RegexFlags) : RegexFlags where
  ignoreCase := a.ignoreCase || b.ignoreCase
  multiLine := a.multiLine || b.multiLine
  dotAll := a.dotAll || b.dotAll
  unicode := a.unicode || b.unicode
  global := a.global || b.global
  sticky := a.sticky || b.sticky

/-- A letter adds the flag that it stands for. -/
theorem RegexFlags.add?_of_mem {c : Char} (hc : c ∈ flagLetters) (flags : RegexFlags) :
    flags.add? c = some (flags.union (ofLetters [c])) := by
  have hletters : c = 'i' ∨ c = 'm' ∨ c = 's' ∨ c = 'u' ∨ c = 'g' ∨ c = 'y' := by
    simpa [flagLetters] using hc
  rcases hletters with rfl | rfl | rfl | rfl | rfl | rfl <;> simp [add?, union, ofLetters]

theorem RegexFlags.union_ofLetters_cons (flags : RegexFlags) (c : Char) (letters : Text) :
    (flags.union (ofLetters [c])).union (ofLetters letters) = flags.union (ofLetters (c :: letters)) := by
  simp [union, ofLetters, Bool.or_assoc]

theorem RegexFlags.addAll_eq {letters : Text} (h : ∀ c ∈ letters, c ∈ flagLetters) (flags : RegexFlags) :
    flags.addAll letters = .ok (flags.union (ofLetters letters)) := by
  induction letters generalizing flags with
  | nil => simp [addAll, union, ofLetters]
  | cons c letters ih =>
    obtain ⟨hc, hletters⟩ := List.forall_mem_cons.mp h
    rw [addAll, add?_of_mem hc]
    exact (ih hletters _).trans (congrArg Except.ok (union_ofLetters_cons flags c letters))

/-- Letters are read as the flags that they stand for, however often and in whatever order they come. -/
theorem RegexFlags.ofText_eq_ofLetters {letters : Text} (h : ∀ c ∈ letters, c ∈ flagLetters) :
    ofText letters = .ok (ofLetters letters) := by
  rw [ofText, addAll_eq h]
  simp [union, ofLetters]

theorem isAlpha_of_mem_flagLetters {c : Char} (hc : c ∈ flagLetters) : c.isAlpha = true := by
  have hall : flagLetters.all Char.isAlpha = true := by decide
  exact List.all_eq_true.mp hall c hc

/-! ### Whole expressions -/

section OfText

variable {source : Text} {flags : RegexFlags}

theorem Regex.ofText_of_readPattern?_eq_none
    (h : Regex.readPattern? (RegexLiteral.withBareSlashes source) flags = none) :
    Regex.ofText source flags = none := by
  rw [← RegexLiteral.unescapeSlashes_eq] at h
  rw [Regex.ofText]
  split
  · next pattern hpattern => exact nomatch hpattern.symm.trans h
  · rfl

theorem Regex.ofText_of_readPattern?_eq_some {pattern : Regex.Pattern CodeSet Regex.Look}
    (h : Regex.readPattern? (RegexLiteral.withBareSlashes source) flags = some pattern) :
    ∃ regex, Regex.ofText source flags = some regex ∧ regex.source = RegexLiteral.withBareSlashes source
      ∧ regex.flags = flags := by
  rw [← RegexLiteral.unescapeSlashes_eq] at h ⊢
  rw [Regex.ofText]
  split
  · exact ⟨_, rfl, rfl, rfl⟩
  · next hpattern => exact nomatch hpattern.symm.trans h

end OfText

namespace Rule

/-- Without a slash that closes it an expression is cut off, and otherwise not. -/
theorem readRegex_eq_unterminated_iff (width : ℕ) (cs : Text) :
    readRegex width ('/' :: cs) = .error .unterminatedRegex ↔ ∀ i, ¬ RegexLiteral.Closes cs i := by
  rw [← RegexLiteral.readSource?_eq_none_iff]
  have hslash : expect width '/' ('/' :: cs) = .ok cs := rfl
  rw [readRegex, hslash]
  dsimp only [bind, Except.bind]
  cases readSource? false cs with
  | none => exact iff_of_true rfl rfl
  | some parts =>
    -- there are other faults behind the slash, but not this one
    refine iff_of_false (fun h => ?_) (by simp)
    dsimp only at h
    split at h
    · cases h
    · split at h
      · cases h
      · split at h
        · cases h
        · cases h

/-- An expression goes to the slash that closes it, and its flags to the last letter behind that. If the source
without the backslashes before its slashes can be read under the flags, the expression is that, and what
follows the flags is left; otherwise it is refused. -/
theorem readRegex_of_isSource (width : ℕ) {source letters rest : Text}
    (hsource : RegexLiteral.IsSource source) (hletters : ∀ c ∈ letters, c ∈ flagLetters)
    (hrest : ∀ c ∈ rest.head?, c.isAlpha = false) :
    readRegex width ('/' :: (source ++ '/' :: (letters ++ rest)))
      = (Regex.ofText source (RegexFlags.ofLetters letters)).elim (.error .invalidRegex)
        fun regex => .ok (regex, rest) := by
  have hslash (cs : Text) : expect width '/' ('/' :: cs) = .ok cs := rfl
  have hread := hsource.readSource? (letters ++ rest)
  obtain ⟨htake, hdrop⟩ := List.span_append_of_stop
    (fun c hc => isAlpha_of_mem_flagLetters (hletters c hc)) hrest
  have hne : source.isEmpty = false := by simpa using hsource.ne_nil
  rw [readRegex, hslash]
  dsimp only [bind, Except.bind]
  rw [hread]
  dsimp only
  simp only [hne, Bool.false_eq_true, if_false, htake, hdrop, RegexFlags.ofText_eq_ofLetters hletters]
  cases Regex.ofText source (RegexFlags.ofLetters letters) <;> rfl

/-- An expression in slashes is a source, the slash that closes it, and flags, which go to the last letter that
follows. If the source without the backslashes that escape a slash can be read under the flags, the expression
has that as its source, and the flags that the letters stand for; otherwise it is invalid. It is cut off just
if no slash closes it. -/
theorem readRegex_exact (width : ℕ) :
    (∀ source letters rest : Text, RegexLiteral.IsSource source → (∀ c ∈ letters, c ∈ flagLetters) →
      (∀ c ∈ rest.head?, c.isAlpha = false) →
      (∀ pattern, Regex.readPattern? (RegexLiteral.withBareSlashes source) (RegexFlags.ofLetters letters)
          = some pattern →
        ∃ regex : Regex, readRegex width ('/' :: (source ++ '/' :: (letters ++ rest))) = .ok (regex, rest)
          ∧ regex.source = RegexLiteral.withBareSlashes source ∧ regex.flags = RegexFlags.ofLetters letters)
      ∧ (Regex.readPattern? (RegexLiteral.withBareSlashes source) (RegexFlags.ofLetters letters) = none →
        readRegex width ('/' :: (source ++ '/' :: (letters ++ rest))) = .error .invalidRegex))
    ∧ ∀ cs : Text, readRegex width ('/' :: cs) = .error .unterminatedRegex ↔ ∀ i, ¬ RegexLiteral.Closes cs i := by
  refine ⟨fun source letters rest hsource hletters hrest => ?_, readRegex_eq_unterminated_iff width⟩
  rw [readRegex_of_isSource width hsource hletters hrest]
  refine ⟨fun pattern hpattern => ?_, fun hnone => ?_⟩
  · obtain ⟨regex, hread, hregex⟩ := Regex.ofText_of_readPattern?_eq_some hpattern
    exact ⟨regex, by rw [hread, Option.elim_some], hregex⟩
  · rw [Regex.ofText_of_readPattern?_eq_none hnone, Option.elim_none]

/-- The source `a\/[/\]]\\` ends behind its two backslashes; only its first backslash escapes a slash. -/
theorem readRegex_exact_example :
    RegexLiteral.IsSource "a\\/[/\\]]\\\\".toList ∧ (∀ c ∈ "gs".toList, c ∈ flagLetters)
    ∧ (∀ c ∈ " # x".toList.head?, c.isAlpha = false)
    ∧ (Regex.readPattern? "a/[/\\]]\\\\".toList { dotAll := true, global := true }).isSome = true
    ∧ ∃ regex : Regex, readRegex 18 "/a\\/[/\\]]\\\\/gs # x".toList = .ok (regex, " # x".toList)
      ∧ regex.source = "a/[/\\]]\\\\".toList ∧ regex.flags = { dotAll := true, global := true } := by
  have hsource : RegexLiteral.IsSource "a\\/[/\\]]\\\\".toList :=
    ⟨by decide, by decide, by decide, by decide +kernel⟩
  have hletters : ∀ c ∈ "gs".toList, c ∈ flagLetters := by simp [flagLetters]
  have hrest : ∀ c ∈ " # x".toList.head?, c.isAlpha = false := by simp
  have hbare : RegexLiteral.withBareSlashes "a\\/[/\\]]\\\\".toList = "a/[/\\]]\\\\".toList := by decide
  have hflags : RegexFlags.ofLetters "gs".toList = { dotAll := true, global := true } := by decide
  have hline : '/' :: ("a\\/[/\\]]\\\\".toList ++ '/' :: ("gs".toList ++ " # x".toList))
      = "/a\\/[/\\]]\\\\/gs # x".toList := by decide
  have hsome : (Regex.readPattern? "a/[/\\]]\\\\".toList { dotAll := true, global := true }).isSome = true := by
    decide +kernel
  obtain ⟨pattern, hpattern⟩ := Option.isSome_iff_exists.mp hsome
  have hread := ((readRegex_exact 18).1 _ _ _ hsource hletters hrest).1
  rw [hbare, hflags, hline] at hread
  exact ⟨hsource, hletters, hrest, hsome, hread pattern hpattern⟩

end Rule

end ResultFilter
