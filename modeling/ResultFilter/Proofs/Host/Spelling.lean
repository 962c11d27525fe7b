import Mathlib.Data.List.TakeDrop
import ResultFilter.Proofs.Text
import ResultFilter.Url

/-!
# The characters of a host

A host comes out in characters that can be seen, belong to ASCII and end no host: whatever was written, in
whatever script and however encoded. So a host can be put into a line of rules as it is.

## Main definitions

* `Host.isSpelling` — the characters that hosts are written in.
* `Host.isNameChar` — those that names are written in.
* `Url.IsHostUnder` — what can be the host of an address, by the kind of its scheme.

## Main results

* `Host.Punycode.mem_encodeLabel` — the written form of a label adds only letters, numerals and a dash.
* `Host.isNameChar_of_mem_nameToAscii?` — the ASCII form of a name has no characters but those of names.
* `Host.isSpelling_of_mem_render` — a host of the web is written in these characters.
* `Url.isSpelling_of_mem_host` — so is the host of any address.
-/

namespace ResultFilter

open ResultFilter.Text

namespace Host

/-- Whether hosts may be written with a character: one of ASCII that can be seen and that neither ends a
host nor has another part in an address. -/
def isSpelling (c : Char) : Bool :=
  Url.isPlain c && !(['#', '/', '<', '>', '?', '@', '\\', '^', '|'].contains c)

/-- What holds of the characters of ASCII can be found by trying them. -/
theorem forall_ascii {p : Char → Bool} (h : ∀ n < 128, p (Char.ofNat n) = true) {c : Char}
    (hc : c.toNat < 128) : p c = true := by
  have := h c.toNat hc
  rwa [Char.ofNat_toNat] at this

/-- Whether names are written with a character: one of ASCII that is not forbidden. -/
def isNameChar (c : Char) : Bool :=
  decide (c.toNat < 128) && !isForbidden c

theorem isNameChar_iff {c : Char} : isNameChar c = true ↔ c.toNat < 128 ∧ isForbidden c = false := by
  rw [isNameChar, Bool.and_eq_true, decide_eq_true_eq, Bool.not_eq_true']

theorem isSpelling_of_isNameChar {c : Char} (h : isNameChar c = true) : isSpelling c = true := by
  obtain ⟨hc, h⟩ := isNameChar_iff.mp h
  have := forall_ascii (p := fun c => isForbidden c || isSpelling c) (by decide) hc
  rwa [h, Bool.false_or] at this

theorem toNat_lt_of_isSpelling {c : Char} (h : isSpelling c = true) : c.toNat < 128 := by
  simp only [isSpelling, Url.isPlain, Bool.and_eq_true, decide_eq_true_eq, Char.le_def,
    UInt32.le_iff_toNat_le] at h
  exact Nat.lt_of_le_of_lt h.1.2 (by decide)

theorem toNat_lt_of_isAlphanum {c : Char} (h : c.isAlphanum = true) : c.toNat < 128 := by
  delta Char.isAlphanum Char.isAlpha Char.isUpper Char.isLower Char.isDigit at h
  simp only [Bool.or_eq_true, Bool.and_eq_true, decide_eq_true_eq, ge_iff_le, UInt32.le_iff_toNat_le] at h
  rcases h with (⟨-, h⟩ | ⟨-, h⟩) | ⟨-, h⟩
  all_goals exact Nat.lt_of_le_of_lt h (by decide)

theorem toNat_ofNat {n : Nat} (h : n.isValidChar) : (Char.ofNat n).toNat = n := by
  rw [Char.ofNat, dif_pos h]
  rfl

theorem isNameChar_of_isAlphanum {c : Char} (h : c.isAlphanum = true) : isNameChar c = true := by
  have := forall_ascii (p := fun c => !c.isAlphanum || isNameChar c) (by decide)
    (toNat_lt_of_isAlphanum h)
  rwa [h, Bool.not_true, Bool.false_or] at this

end Host

namespace Host.Punycode

theorem isAlphanum_digit {n : Nat} (h : n < 36) : (digit n).isAlphanum = true := by
  have : ∀ n < 36, (digit n).isAlphanum = true := by decide
  exact this n h

theorem threshold_pos (k bias : Nat) : 1 ≤ threshold k bias := by
  unfold threshold
  split
  · exact Nat.le_refl 1
  · split <;> omega

theorem threshold_le (k bias : Nat) : threshold k bias ≤ 26 := by
  unfold threshold
  split
  · omega
  · split <;> omega

theorem isAlphanum_of_mem_numberDigits : ∀ {fuel q k bias : Nat} {c : Char}, q < fuel + 26 →
    c ∈ numberDigits fuel q k bias → c.isAlphanum = true := by
  intro fuel
  induction fuel with
  | zero =>
    intro q k bias c hq hc
    obtain rfl := List.mem_singleton.mp hc
    exact isAlphanum_digit (by omega)
  | succ fuel ih =>
    intro q k bias c hq hc
    have hpos := threshold_pos k bias
    have hle := threshold_le k bias
    simp only [numberDigits] at hc
    split at hc
    · obtain rfl := List.mem_singleton.mp hc
      exact isAlphanum_digit (by omega)
    · -- a digit is at least the threshold and less than the base, and what is left to write gets smaller
      rcases List.mem_cons.mp hc with rfl | hc
      · have hmod := Nat.mod_lt (q - threshold k bias) (show 0 < base - threshold k bias by
          unfold base; omega)
        exact isAlphanum_digit (by unfold base at hmod ⊢; omega)
      · refine ih ?_ hc
        have hdiv := Nat.div_le_self (q - threshold k bias) (base - threshold k bias)
        omega

/-- Every number is written in letters and numerals. -/
theorem isAlphanum_of_mem_encodeStep {m : Nat} {s : EncodeState} (hs : ∀ c ∈ s.digits, c.isAlphanum = true)
    (d : Char) : ∀ c ∈ (encodeStep m s d).digits, c.isAlphanum = true := by
  unfold encodeStep
  split
  · exact hs
  · split
    · intro c hc
      rcases List.mem_append.mp hc with hc | hc
      · exact hs c hc
      · exact isAlphanum_of_mem_numberDigits (by omega) hc
    · exact hs

theorem isAlphanum_of_mem_foldl_encodeStep {m : Nat} : ∀ {label : List Char} {s : EncodeState},
    (∀ c ∈ s.digits, c.isAlphanum = true) →
    ∀ c ∈ (label.foldl (encodeStep m) s).digits, c.isAlphanum = true := by
  intro label
  induction label with
  | nil => intro s hs; exact hs
  | cons d label ih => intro s hs; exact ih (isAlphanum_of_mem_encodeStep hs d)

theorem isAlphanum_of_mem_encodeFrom {label : List Char} : ∀ {ms : List Nat} {s : EncodeState} {n : Nat},
    (∀ c ∈ s.digits, c.isAlphanum = true) → ∀ c ∈ encodeFrom label s n ms, c.isAlphanum = true := by
  intro ms
  induction ms with
  | nil => intro s n hs; exact hs
  | cons m ms ih =>
    intro s n hs
    rw [encodeFrom]
    exact ih (isAlphanum_of_mem_foldl_encodeStep hs)

/-- The written form of a label adds only letters, numerals and a dash to the ASCII characters of the
label. -/
theorem mem_encodeLabel {label : List Char} {c : Char} (hc : c ∈ encodeLabel label) :
    (c ∈ label ∧ c.toNat < 128) ∨ c = '-' ∨ c.isAlphanum = true := by
  simp only [encodeLabel, List.mem_append] at hc
  rcases hc with (hc | hc) | hc
  · rw [List.mem_filter, decide_eq_true_eq] at hc
    exact Or.inl hc
  · split at hc
    · exact absurd hc List.not_mem_nil
    · exact Or.inr (Or.inl (List.mem_singleton.mp hc))
  · exact Or.inr (Or.inr (isAlphanum_of_mem_encodeFrom (by simp) c hc))

/-! ### Reading -/

theorem mem_insertAt {cs : List Char} {i : Nat} {c d : Char} (h : c ∈ insertAt cs i d) :
    c ∈ cs ∨ c = d := by
  rcases List.mem_append.mp h with h | h
  · exact Or.inl (List.mem_of_mem_take h)
  · rcases List.mem_cons.mp h with rfl | h
    · exact Or.inr rfl
    · exact Or.inl (List.mem_of_mem_drop h)

/-- Reading inserts no characters of ASCII. -/
theorem mem_decodeFrom : ∀ {cs label : List Char} {n i bias start weight k : Nat} {inside : Bool}
    {out : List Char}, 128 ≤ n → decodeFrom label n i bias start weight k inside cs = some out →
    ∀ c ∈ out, c ∈ label ∨ 128 ≤ c.toNat := by
  intro cs
  induction cs with
  | nil =>
    intro label n i bias start weight k inside out hn h c hc
    rw [decodeFrom] at h
    split at h
    · exact absurd h (by simp)
    · obtain rfl := Option.some.inj h
      exact Or.inl hc
  | cons d rest ih =>
    intro label n i bias start weight k inside out hn h c hc
    simp only [decodeFrom, Option.bind_eq_bind, Option.bind_eq_some_iff] at h
    obtain ⟨value, -, h⟩ := h
    split at h
    · exact absurd h (by simp)
    · split at h
      · split at h
        · next hvalid =>
          -- code points only grow from one insertion to the next
          rcases ih (Nat.le_add_right_of_le hn) h c hc with hmem | hge
          · rcases mem_insertAt hmem with hmem | rfl
            · exact Or.inl hmem
            · rw [toNat_ofNat hvalid]
              exact Or.inr (Nat.le_add_right_of_le hn)
          · exact Or.inr hge
        · exact absurd h (by simp)
      · exact ih hn h c hc

/-- What a written form stands for has no characters of ASCII but those of the form. -/
theorem mem_decodeLabel? {cs out : List Char} (h : decodeLabel? cs = some out) {c : Char} (hc : c ∈ out) :
    c ∈ cs ∨ 128 ≤ c.toNat := by
  unfold decodeLabel? at h
  split at h
  · exact absurd h (by simp)
  · next plain digits _ hsplit =>
    refine (mem_decodeFrom (Nat.le_refl 128) h c hc).imp_left fun hmem => ?_
    rw [splitLastDash, List.span_eq_takeWhile_dropWhile] at hsplit
    split at hsplit
    · next mark before heq =>
      obtain ⟨rfl, -⟩ : before.reverse = plain ∧ _ := by simpa using hsplit
      have hdrop : mark :: before = cs.reverse.dropWhile (· != '-') := (Prod.ext_iff.mp heq).2.symm
      refine List.mem_reverse.mp ((List.dropWhile_sublist (· != '-')).mem ?_)
      rw [← hdrop]
      exact List.mem_cons_of_mem _ (List.mem_reverse.mp hmem)
    · exact absurd hsplit (by simp)
  · exact (mem_decodeFrom (Nat.le_refl 128) h c hc).imp_left fun hmem => absurd hmem List.not_mem_nil

end Host.Punycode

namespace Host

/-! ### Names -/

theorem mem_labelToAscii {label : Text} {c : Char} (hc : c ∈ labelToAscii label) :
    (c ∈ label ∧ c.toNat < 128) ∨ isNameChar c = true := by
  unfold labelToAscii at hc
  split at hc
  · next hascii =>
    exact Or.inl ⟨hc, of_decide_eq_true (List.all_eq_true.mp hascii c hc)⟩
  · rcases List.mem_append.mp hc with hc | hc
    · have hmark : punycodeMark.all isNameChar = true := rfl
      exact Or.inr (List.all_eq_true.mp hmark c hc)
    · rcases Punycode.mem_encodeLabel hc with h | rfl | h
      · exact Or.inl h
      · exact Or.inr rfl
      · exact Or.inr (isNameChar_of_isAlphanum h)

/-- The characters of ASCII that a label stands for are on it. -/
theorem mem_of_mem_labelOf? {label out : Text} (h : labelOf? label = some out) {c : Char} (hc : c ∈ out)
    (hascii : c.toNat < 128) : c ∈ label := by
  unfold labelOf? at h
  split at h
  · simp only [Option.bind_eq_bind] at h
    split at h
    · exact absurd h (by simp)
    · obtain ⟨decoded, hdecoded, h⟩ := Option.bind_eq_some_iff.mp h
      split at h
      · exact absurd h (by simp)
      · obtain rfl := Option.some.inj h
        rcases Punycode.mem_decodeLabel? hdecoded hc with hmem | hge
        · exact List.mem_of_mem_drop hmem
        · omega
  · obtain rfl := Option.some.inj h
    exact hc

/-- The ASCII form of a name has no characters but those of names. -/
theorem isNameChar_of_mem_nameToAscii? {name out : Text} (h : nameToAscii? name = some out) {c : Char}
    (hc : c ∈ out) : isNameChar c = true := by
  simp only [nameToAscii?, asciiForm?, Option.bind_eq_bind, Option.bind_eq_some_iff] at h
  obtain ⟨mapped, -, h⟩ := h
  split at h
  · exact absurd h (by simp)
  next hforbidden =>
  obtain ⟨labels, hlabels, h⟩ := Option.bind_eq_some_iff.mp h
  split at h
  · exact absurd h (by simp)
  split at h
  · obtain rfl := Option.some.inj h
    rcases Text.mem_join hc with hdot | ⟨spelled, hspelled, hc⟩
    · obtain rfl := List.mem_singleton.mp hdot
      rfl
    · -- an ASCII character of a label was in the name after its mapping, and none there is forbidden
      obtain ⟨out, hout, rfl⟩ := List.mem_map.mp hspelled
      obtain ⟨label, hlabel, hlabelOf⟩ := List.exists_mem_of_mapM_eq_some hlabels hout
      rcases mem_labelToAscii hc with ⟨hmem, hascii⟩ | hname
      · have htext := Text.mem_of_mem_splitOn hlabel (mem_of_mem_labelOf? hlabelOf hmem hascii)
        refine isNameChar_iff.mpr ⟨hascii, Bool.eq_false_iff.mpr fun hbad => hforbidden ?_⟩
        exact List.any_eq_true.mpr ⟨c, htext, hbad⟩
      · exact hname
  · exact absurd h (by simp)

/-! ### Addresses -/

theorem mem_ipv4 {a : Ipv4} {c : Char} (hc : c ∈ Ipv4.render a) : c = '.' ∨ c.isDigit = true := by
  rcases Text.mem_join hc with hdot | ⟨digits, hdigits, hc⟩
  · exact Or.inl (List.mem_singleton.mp hdot)
  · obtain ⟨n, -, rfl⟩ := List.mem_map.mp hdigits
    exact Or.inr (Nat.isDigit_of_mem_toDigits (by decide) (by decide) hc)

theorem isNameChar_of_mem_ipv4 {a : Ipv4} {c : Char} (hc : c ∈ Ipv4.render a) : isNameChar c = true := by
  rcases mem_ipv4 hc with rfl | hdigit
  · rfl
  · exact isNameChar_of_isAlphanum (show (c.isAlpha || c.isDigit) = true by rw [hdigit, Bool.or_true])

theorem mem_toDigitsCore {base : Nat} (hbase : 0 < base) : ∀ {fuel n : Nat} {cs : List Char} {c : Char},
    c ∈ Nat.toDigitsCore base fuel n cs → c ∈ cs ∨ ∃ d < base, c = d.digitChar := by
  intro fuel
  induction fuel with
  | zero => intro n cs c hc; exact Or.inl hc
  | succ fuel ih =>
    intro n cs c hc
    have hcons (h : c ∈ (n % base).digitChar :: cs) : c ∈ cs ∨ ∃ d < base, c = d.digitChar := by
      rcases List.mem_cons.mp h with rfl | h
      · exact Or.inr ⟨n % base, Nat.mod_lt n hbase, rfl⟩
      · exact Or.inl h
    rw [Nat.toDigitsCore] at hc
    split at hc
    · exact hcons hc
    · rcases ih hc with h | h
      · exact hcons h
      · exact Or.inr h

theorem mem_hexDigits {n : Nat} {c : Char} (hc : c ∈ hexDigits n) : ∃ d < 16, c = d.digitChar :=
  (mem_toDigitsCore (by decide) hc).resolve_left List.not_mem_nil

theorem mem_joinColons : ∀ {pieces : List Nat} {c : Char}, c ∈ Ipv6.joinColons pieces →
    c = ':' ∨ ∃ d < 16, c = d.digitChar := by
  intro pieces
  induction pieces with
  | nil => intro c hc; exact absurd hc List.not_mem_nil
  | cons p rest ih =>
    intro c hc
    cases rest with
    | nil => exact Or.inr (mem_hexDigits hc)
    | cons q rest =>
      rw [Ipv6.joinColons, List.mem_append, List.mem_cons] at hc
      · rcases hc with hc | rfl | hc
        · exact Or.inr (mem_hexDigits hc)
        · exact Or.inl rfl
        · exact ih hc
      · exact List.cons_ne_nil _ _

theorem mem_ipv6 {a : Ipv6} {c : Char} (hc : c ∈ Ipv6.render a) : c = ':' ∨ ∃ d < 16, c = d.digitChar := by
  simp only [Ipv6.render] at hc
  split at hc
  · exact mem_joinColons hc
  · rcases List.mem_append.mp hc with hc | hc
    · rcases List.mem_append.mp hc with hc | hc
      · exact mem_joinColons hc
      · exact Or.inl (by simpa using hc)
    · exact mem_joinColons hc

/-- What stands in brackets is colons and hexadecimal digits. -/
theorem mem_brackets {a : Ipv6} {c : Char} (hc : c ∈ render (.ipv6 a)) :
    c = '[' ∨ c = ']' ∨ c = ':' ∨ ∃ d < 16, c = d.digitChar := by
  rw [render, List.cons_append, List.mem_cons, List.mem_append, List.mem_singleton] at hc
  rcases hc with hc | hc | hc
  · exact Or.inl hc
  · exact Or.inr (Or.inr (mem_ipv6 hc))
  · exact Or.inr (Or.inl hc)

/-! ### Hosts -/

theorem isSpelling_of_mem_brackets {a : Ipv6} {c : Char} (hc : c ∈ render (.ipv6 a)) :
    isSpelling c = true := by
  rcases mem_brackets hc with rfl | rfl | rfl | ⟨d, hd, rfl⟩
  · rfl
  · rfl
  · rfl
  · have : ∀ d < 16, isSpelling d.digitChar = true := by decide
    exact this d hd

/-- A name that is read as a host is not empty and no number at its end. -/
theorem name_of_ofText? {cs name : Text} (h : ofText? cs = some (.domain name)) :
    (∀ c ∈ name, isNameChar c = true) ∧ name ≠ [] ∧ endsInNumber name = false := by
  unfold ofText? at h
  simp only [Option.bind_eq_bind] at h
  split at h
  · obtain ⟨inner, -, h⟩ := Option.bind_eq_some_iff.mp h
    obtain ⟨address, -, h⟩ := Option.bind_eq_some_iff.mp h
    exact absurd h (by simp)
  · obtain ⟨decoded, -, h⟩ := Option.bind_eq_some_iff.mp h
    obtain ⟨ascii, hascii, h⟩ := Option.bind_eq_some_iff.mp h
    split at h
    · exact absurd h (by simp)
    next hempty =>
    split at h
    · exact absurd h (by simp)
    next hnumber =>
    obtain rfl : ascii = name := by simpa using h
    rw [List.isEmpty_iff] at hempty
    exact ⟨fun c => isNameChar_of_mem_nameToAscii? hascii, hempty, Bool.eq_false_iff.mpr hnumber⟩

/-- A host of the web is written in characters of ASCII that can be seen and end no host. -/
theorem isSpelling_of_mem_render {cs : Text} {host : Host} (h : ofText? cs = some host) {c : Char}
    (hc : c ∈ host.render) : isSpelling c = true := by
  cases host with
  | domain name => exact isSpelling_of_isNameChar ((name_of_ofText? h).1 c hc)
  | ipv4 a => exact isSpelling_of_isNameChar (isNameChar_of_mem_ipv4 hc)
  | ipv6 a => exact isSpelling_of_mem_brackets hc

theorem isSpelling_of_mem_percentByte (b : UInt8) {c : Char} (hc : c ∈ percentByte b) :
    isSpelling c = true := by
  have hdigit : ∀ n < 16, isSpelling (upperHexDigit n) = true := by decide
  have hb := b.toNat_lt
  simp only [percentByte, List.mem_cons, List.not_mem_nil, or_false] at hc
  rcases hc with rfl | rfl | rfl
  · rfl
  · exact hdigit _ (by omega)
  · exact hdigit _ (by omega)

theorem isSpelling_of_mem_opaqueHost? {cs out : Text} (h : opaqueHost? cs = some out) {c : Char}
    (hc : c ∈ out) : isSpelling c = true := by
  unfold opaqueHost? at h
  split at h
  · simp only [Option.bind_eq_bind] at h
    obtain ⟨inner, -, h⟩ := Option.bind_eq_some_iff.mp h
    obtain ⟨address, -, h⟩ := Option.bind_eq_some_iff.mp h
    obtain rfl := Option.some.inj h
    exact isSpelling_of_mem_brackets hc
  · split at h
    · exact absurd h (by simp)
    · next hforbidden =>
      obtain rfl := Option.some.inj h
      obtain ⟨d, hd, hc⟩ := List.mem_flatMap.mp hc
      split at hc
      · next hsafe =>
        obtain rfl := List.mem_singleton.mp hc
        rw [Bool.and_eq_true, decide_eq_true_eq] at hsafe
        have hall := forall_ascii
          (p := fun c => !(decide (' ' ≤ c) && decide (c ≤ '~')) || isForbiddenAnywhere c || isSpelling c)
          (by decide) hsafe.1
        have hallowed : isForbiddenAnywhere c = false := by
          by_contra hbad
          exact hforbidden (List.any_eq_true.mpr ⟨c, hd, Bool.not_eq_false _ ▸ hbad⟩)
        rwa [show (decide (' ' ≤ c) && decide (c ≤ '~')) = true from hsafe.2, hallowed, Bool.not_true,
          Bool.false_or, Bool.false_or] at hall
      · obtain ⟨b, -, hc⟩ := List.mem_flatMap.mp hc
        exact isSpelling_of_mem_percentByte b hc

end Host

namespace Url

/-- Whether a text can be the host of an address whose scheme is of some kind: it was read in the form of
hosts, or as it stands under a scheme that gives its hosts no form. -/
def IsHostUnder : SchemeKind → Text → Prop
  | .other, host => ∃ text, Host.opaqueHost? text = some host
  | _, host => ∃ text read, Host.ofText? text = some read ∧ host = read.render

theorem isHostUnder_of_authority {scheme cs : Text} {kind : SchemeKind} {url : Url}
    (h : ofAuthority? scheme kind cs = some url) : url.scheme = scheme ∧ IsHostUnder kind url.host := by
  simp only [ofAuthority?, Option.bind_eq_bind] at h
  split at h
  · exact absurd h (by simp)
  · split at h
    all_goals
      rename_i hkind
      obtain ⟨host, hhost, h⟩ := Option.bind_eq_some_iff.mp h
      obtain ⟨rest, -, h⟩ := Option.bind_eq_some_iff.mp h
      obtain ⟨path, -, h⟩ := Option.bind_eq_some_iff.mp h
      obtain rfl := Option.some.inj h
      refine ⟨rfl, ?_⟩
    · obtain rfl := eq_of_beq hkind
      exact ⟨_, hhost⟩
    · obtain ⟨read, hread, rfl⟩ := Option.map_eq_some_iff.mp hhost
      cases kind with
      | other => exact absurd rfl hkind
      | special | file => exact ⟨_, read, hread, rfl⟩

theorem isHostUnder_of_file {scheme cs : Text} {url : Url} (h : ofFile? scheme cs = some url) :
    url.scheme = scheme ∧ IsHostUnder .file url.host := by
  simp only [ofFile?, Option.bind_eq_bind] at h
  split at h
  · exact absurd h (by simp)
  · obtain ⟨host, hhost, h⟩ := Option.bind_eq_some_iff.mp h
    split at h
    · exact absurd h (by simp)
    · obtain ⟨path, -, h⟩ := Option.bind_eq_some_iff.mp h
      obtain rfl := Option.some.inj h
      obtain ⟨read, hread, rfl⟩ := Option.map_eq_some_iff.mp hhost
      exact ⟨rfl, _, read, hread, rfl⟩

/-- The host of an address was read in the way of its scheme. -/
theorem isHostUnder_of_ofText? {cs : Text} {url : Url} (h : ofText? cs = some url) :
    IsHostUnder (SchemeKind.of url.scheme) url.host := by
  simp only [ofText?, Option.bind_eq_bind] at h
  obtain ⟨⟨scheme, rest⟩, -, h⟩ := Option.bind_eq_some_iff.mp h
  dsimp only at h
  split at h
  · next hkind =>
    obtain ⟨rfl, hhost⟩ := isHostUnder_of_authority h
    rwa [hkind]
  · next hkind =>
    split at h
    · obtain ⟨rfl, hhost⟩ := isHostUnder_of_file h
      rwa [hkind]
    · exact absurd h (by simp)
  · next hkind =>
    obtain ⟨rfl, hhost⟩ := isHostUnder_of_authority h
    rwa [hkind]
  · exact absurd h (by simp)

/-- The host of an address is written in characters of ASCII that can be seen and end no host. -/
theorem isSpelling_of_mem_host {cs : Text} {url : Url} (h : ofText? cs = some url) {c : Char}
    (hc : c ∈ url.host) : Host.isSpelling c = true := by
  have hhost := isHostUnder_of_ofText? h
  cases hkind : SchemeKind.of url.scheme with
  | other =>
    rw [hkind] at hhost
    obtain ⟨_, hhost⟩ := hhost
    exact Host.isSpelling_of_mem_opaqueHost? hhost hc
  | special | file =>
    rw [hkind] at hhost
    obtain ⟨_, read, hread, heq⟩ := hhost
    exact Host.isSpelling_of_mem_render hread (heq ▸ hc)

end Url

end ResultFilter
