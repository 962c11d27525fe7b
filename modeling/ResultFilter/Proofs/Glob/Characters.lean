import ResultFilter.Proofs.Glob.Scan

/-!
# Path patterns over characters

Patterns are tested on bytes, and a star may take any run of them. On texts in UTF-8 that comes to the same as a
star that takes whole characters: the first byte of a character is the first byte of no other one and stands
nowhere within a character, so the literal part of a pattern is found only where characters begin, and what the
stars before it have taken ends there.

## Main results

* `Text.exists_suffix_of_utf8` — a character is found in the bytes of a text only where it stands in the text.
* `Glob.expands_utf8_iff` — a pattern stands for the same texts over bytes and over characters.
* `Glob.isMatch_utf8_exact` — the test on bytes finds just the texts that come from the pattern by putting
  characters in the place of each star.
-/

namespace ResultFilter

/-! ### Characters and their bytes -/

namespace Text

/-- The bytes of a text tell its first character and the bytes of the others. -/
theorem utf8EncodeChar_append_inj {c d : Char} {bytes bytes' : List UInt8}
    (h : String.utf8EncodeChar c ++ bytes = String.utf8EncodeChar d ++ bytes') : c = d ∧ bytes = bytes' := by
  have hchar : c = d := by
    have hdecode := congrArg (fun l : List UInt8 => l.toByteArray.utf8DecodeChar? 0) h
    simpa [List.toByteArray_append, ByteArray.utf8DecodeChar?_utf8EncodeChar_append] using hdecode
  subst hchar
  exact ⟨rfl, List.append_cancel_left h⟩

theorem utf8_eq_nil_iff {t : Text} : utf8 t = [] ↔ t = [] := by
  cases t with
  | nil => simp
  | cons c t => simp [String.utf8EncodeChar_ne_nil]

/-- A character begins where a first byte stands: no later end of its bytes goes on with the bytes of one. -/
theorem not_append_eq_utf8EncodeChar_append {c d : Char} {front back bytes bytes' : List UInt8}
    (hfront : front ≠ []) (hback : back ≠ []) (h : front ++ back = String.utf8EncodeChar d) :
    String.utf8EncodeChar c ++ bytes ≠ back ++ bytes' := by
  intro heq
  obtain ⟨b, back, rfl⟩ := List.exists_cons_of_ne_nil hback
  have hlater : (String.utf8EncodeChar d)[front.length]? = some b := by
    rw [← h, List.getElem?_append_right (Nat.le_refl _), Nat.sub_self]
    rfl
  have hfirst : (String.utf8EncodeChar c)[0]? = some b := by
    rw [← List.head?_eq_getElem?, ← List.head?_append_of_ne_nil _ String.utf8EncodeChar_ne_nil, heq]
    rfl
  obtain ⟨_, hlater⟩ := List.getElem?_eq_some_iff.mp hlater
  obtain ⟨_, hfirst⟩ := List.getElem?_eq_some_iff.mp hfirst
  have hbyte : b.IsUTF8FirstByte := hfirst ▸ UInt8.isUTF8FirstByte_getElem_zero_utf8EncodeChar
  rw [← hlater, UInt8.isUTF8FirstByte_getElem_utf8EncodeChar] at hbyte
  exact hfront (List.length_eq_zero_iff.mp hbyte)

/-- A character is found in the bytes of a text only where it stands in the text. -/
theorem exists_suffix_of_utf8 {c : Char} {bytes : List UInt8} {t : Text}
    (h : String.utf8EncodeChar c ++ bytes <:+ utf8 t) : ∃ u, c :: u <:+ t ∧ utf8 u = bytes := by
  induction t with
  | nil =>
    have hnil := List.suffix_nil.mp h
    exact absurd (List.append_eq_nil_iff.mp hnil).1 String.utf8EncodeChar_ne_nil
  | cons d t ih =>
    have hlater (hsuffix : String.utf8EncodeChar c ++ bytes <:+ utf8 t) :
        ∃ u, c :: u <:+ d :: t ∧ utf8 u = bytes := by
      obtain ⟨u, hu, hbytes⟩ := ih hsuffix
      exact ⟨u, hu.trans (List.suffix_cons d t), hbytes⟩
    obtain ⟨front, hfront⟩ := h
    rw [utf8_cons] at hfront
    rcases List.append_eq_append_iff.mp hfront with ⟨back, hd, heq⟩ | ⟨front', -, heq⟩
    · -- the bytes begin within those of the first character, or behind them
      rcases eq_or_ne front [] with rfl | hfrontne
      · rw [List.nil_append] at hd
        subst hd
        obtain ⟨rfl, rfl⟩ := utf8EncodeChar_append_inj heq
        exact ⟨t, List.suffix_rfl, rfl⟩
      rcases eq_or_ne back [] with rfl | hbackne
      · exact hlater (heq ▸ List.suffix_rfl)
      · exact absurd heq (not_append_eq_utf8EncodeChar_append hfrontne hbackne hd.symm)
    · exact hlater ⟨front', heq.symm⟩

end Text

open ResultFilter.Text

/-- The byte of the star stands in no other character. -/
theorem starByte_not_mem_utf8EncodeChar {c : Char} (hc : c ≠ '*') : starByte ∉ String.utf8EncodeChar c := by
  have hcode : c.val.toNat ≠ 42 := fun h => hc (Char.ext (UInt32.toNat_inj.mp h))
  have hne {n : ℕ} (hn : n % 256 ≠ 42) : starByte ≠ UInt8.ofNat n := fun h =>
    hn (by rw [← UInt8.toNat_ofNat', ← h]; rfl)
  rw [String.utf8EncodeChar]
  -- each byte of a longer form is at least 128
  split
  · rw [List.mem_singleton]
    exact hne (by omega)
  · split
    · simp only [List.mem_cons, List.not_mem_nil, or_false, not_or]
      exact ⟨hne (by omega), hne (by omega)⟩
    · split
      · simp only [List.mem_cons, List.not_mem_nil, or_false, not_or]
        exact ⟨hne (by omega), hne (by omega), hne (by omega)⟩
      · simp only [List.mem_cons, List.not_mem_nil, or_false, not_or]
        exact ⟨hne (by omega), hne (by omega), hne (by omega), hne (by omega)⟩

namespace Glob

/-! ### Patterns over characters and over bytes -/

/-- A literal character of a pattern stands for its own bytes. -/
theorem expands_utf8_literal_iff {c : Char} {p : Text} {bytes : List UInt8} (hc : c ≠ '*') :
    Expands starByte (utf8 (c :: p)) bytes
      ↔ ∃ rest, String.utf8EncodeChar c ++ rest = bytes ∧ Expands starByte (utf8 p) rest := by
  rw [utf8_cons]
  exact Scan.expands_run_iff (starByte_not_mem_utf8EncodeChar hc)

theorem utf8_star_cons (p : Text) : utf8 ('*' :: p) = starByte :: utf8 p := rfl

/-- What a pattern stands for as characters, it stands for as bytes. -/
theorem Expands.utf8 {p t : Text} (h : Expands '*' p t) :
    Expands starByte (Text.utf8 p) (Text.utf8 t) := by
  induction h with
  | nil => exact .nil
  | literal hc _ ih => exact (expands_utf8_literal_iff hc).mpr ⟨_, rfl, ih⟩
  | star run _ ih =>
    rw [utf8_append, utf8_star_cons]
    exact .star (Text.utf8 run) ih

/-- What the bytes of a pattern stand for among those of a text: the whole text, if they stand for all of its
bytes, and otherwise, at an end of the bytes, some end of the text. The second half is for the pattern behind a
star, whose run of bytes may have ended within a character. The induction is on the pattern. -/
theorem expands_of_utf8 (p : Text) : ∀ t : Text,
    (Expands starByte (Text.utf8 p) (Text.utf8 t) → Expands '*' p t)
      ∧ ∀ bytes, bytes <:+ Text.utf8 t → Expands starByte (Text.utf8 p) bytes → ∃ u, u <:+ t ∧ Expands '*' p u := by
  induction p with
  | nil =>
    intro t
    refine ⟨fun h => ?_, fun bytes _ _ => ⟨[], List.nil_suffix, .nil⟩⟩
    rw [utf8_nil, expands_nil_iff, utf8_eq_nil_iff] at h
    exact expands_nil_iff.mpr h
  | cons c p ih =>
    intro t
    by_cases hc : c = '*'
    · subst hc
      -- the star ends where some end of the text begins
      have hstar : ∀ bytes, bytes <:+ Text.utf8 t → Expands starByte (Text.utf8 ('*' :: p)) bytes →
          Expands '*' ('*' :: p) t := by
        intro bytes hbytes h
        rw [utf8_star_cons, expands_star_iff] at h
        obtain ⟨rest, hrest, h⟩ := h
        exact expands_star_iff.mpr ((ih t).2 rest (hrest.trans hbytes) h)
      exact ⟨hstar _ List.suffix_rfl, fun bytes hbytes h => ⟨t, List.suffix_rfl, hstar bytes hbytes h⟩⟩
    · have hliteral : ∀ bytes, bytes <:+ Text.utf8 t → Expands starByte (Text.utf8 (c :: p)) bytes →
          ∃ u, c :: u <:+ t ∧ Text.utf8 (c :: u) = bytes ∧ Expands '*' (c :: p) (c :: u) := by
        intro bytes hbytes h
        obtain ⟨rest, rfl, hrest⟩ := (expands_utf8_literal_iff hc).mp h
        obtain ⟨u, hu, rfl⟩ := exists_suffix_of_utf8 hbytes
        exact ⟨u, hu, rfl, .literal hc ((ih u).1 hrest)⟩
      refine ⟨fun h => ?_, fun bytes hbytes h => ?_⟩
      · obtain ⟨u, ⟨front, rfl⟩, hsame, hu⟩ := hliteral _ List.suffix_rfl h
        -- the end of the text has all of its bytes, so nothing stands before it
        rw [utf8_append, List.self_eq_append_left, utf8_eq_nil_iff] at hsame
        rwa [hsame]
      · obtain ⟨u, hu, -, h⟩ := hliteral bytes hbytes h
        exact ⟨_, hu, h⟩

/-- A pattern stands for the same texts over bytes and over characters. -/
theorem expands_utf8_iff (p t : Text) :
    Expands starByte (Text.utf8 p) (Text.utf8 t) ↔ Expands '*' p t :=
  ⟨(expands_of_utf8 p t).1, Expands.utf8⟩

/-- The test of a pattern on the bytes of two texts finds just the texts that come from the pattern by putting
some run of characters in the place of each star: no star has to take a part of a character. The scan of the
bytes comes to the same answer, and so does the test on characters. -/
theorem isMatch_utf8_exact (p t : Text) :
    (isMatch starByte (Text.utf8 p) (Text.utf8 t) = true ↔ Expands '*' p t)
      ∧ Scan.Ends starByte (Text.utf8 p) (Text.utf8 t) Scan.start (isMatch starByte (Text.utf8 p) (Text.utf8 t))
      ∧ isMatch starByte (Text.utf8 p) (Text.utf8 t) = isMatch '*' p t := by
  have hbytes : isMatch starByte (Text.utf8 p) (Text.utf8 t) = true ↔ Expands '*' p t :=
    isMatch_eq_true_iff.trans (expands_utf8_iff p t)
  refine ⟨hbytes, Scan.ends_isMatch _ _ _, ?_⟩
  rw [Bool.eq_iff_iff, hbytes, isMatch_eq_true_iff]

end Glob

end ResultFilter
