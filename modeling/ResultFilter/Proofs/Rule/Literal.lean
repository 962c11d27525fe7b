import Mathlib.Algebra.Group.Nat.Defs
import ResultFilter.Proofs.Host.Address
import ResultFilter.Proofs.Rule.Steps

/-!
# Spellings of a string

A text can be spelled in many ways between two quotes: each character as it is, or as an escape behind a
backslash. The spellings are a relation that knows of no reader. Reading takes each of them back to the text,
whatever follows the closing quote, and what is no spelling is refused for its first defect.

## Main definitions

* `Literal.Digits` — a number and the one that it becomes by further digits.
* `Literal.OctalCode`, `Literal.HexCode` — the codes of characters, and how they are written.
* `Literal.Escape` — what stands behind a backslash for a character.
* `Literal.Spells` — a text, and what may stand for it between quotes.
* `Literal.Defect` — what stands behind a backslash and is no escape.

## Main results

* `Literal.readRest_append` — reading goes through a spelling to what follows it.
* `Literal.parts_of_rest` — what a literal may be: a spelling and its quote, or a spelling and a defect.
* `Literal.readString_eq_ok_iff` — a literal is read as a text just if it spells the text.
* `Literal.readString_exact` — reading in full: what is read, what is refused and why.
-/

namespace ResultFilter

open ResultFilter.Text

namespace Literal

/-! ### Spellings -/

/-- The escapes of one character: its letter, and what the letter stands for. -/
def namedEscapes : List (Char × Char) :=
  [('n', '\n'), ('r', '\r'), ('t', '\t'), ('b', '\x08'), ('f', '\x0c'), ('v', '\x0b'), ('\\', '\\'),
    ('"', '"'), ('\'', '\''), ('/', '/')]

/-- A number that becomes another one by the digits that are written behind it. -/
inductive Digits (digit? : Char → Option Nat) (base : Nat) : Nat → Text → Nat → Prop where
  | nil {n : Nat} : Digits digit? base n [] n
  | cons {n d m : Nat} {c : Char} {text : Text} (hc : digit? c = some d)
      (h : Digits digit? base (n * base + d) text m) : Digits digit? base n (c :: text) m

/-- A code in octal digits: at most three, and not more than a byte. -/
structure OctalCode (digits : Text) (n : Nat) : Prop where
  ne_nil : digits ≠ []
  length_le : digits.length ≤ 3
  value : Digits octalValue? 8 0 digits n
  le : n ≤ 0o377

/-- A code in hexadecimal digits: two behind an `x`, four behind a `u`, or one to six in braces behind a `u`. -/
inductive HexCode : Text → Nat → Prop where
  | two {digits : Text} {n : Nat} (hlength : digits.length = 2) (h : Digits hexValue? 16 0 digits n) :
      HexCode ('x' :: digits) n
  | four {digits : Text} {n : Nat} (hlength : digits.length = 4) (h : Digits hexValue? 16 0 digits n) :
      HexCode ('u' :: digits) n
  | braces {digits : Text} {n : Nat} (hne : digits ≠ []) (hlength : digits.length ≤ 6)
      (h : Digits hexValue? 16 0 digits n) : HexCode ('u' :: '\x7b' :: (digits ++ ['\x7d'])) n

/-- What stands behind a backslash for a character, and what follows it. Octal digits are taken as long as they
make a code. -/
inductive Escape : Char → Text → Text → Prop where
  | named {name c : Char} {after : Text} (h : (name, c) ∈ namedEscapes) : Escape c [name] after
  | octal {digits after : Text} {n : Nat} (h : OctalCode digits n)
      (hlast : ∀ d m, after.head? = some d → ¬ OctalCode (digits ++ [d]) m) :
      Escape (Char.ofNat n) digits after
  | hex {text after : Text} {n : Nat} (h : HexCode text n) (hn : n.isValidChar) :
      Escape (Char.ofNat n) text after

/-- A text, and what may stand for it between two quotes. -/
inductive Spells : Text → Text → Prop where
  | nil : Spells [] []
  | raw {c : Char} {value text : Text} (hquote : c ≠ '"') (hback : c ≠ '\\') (h : Spells value text) :
      Spells (c :: value) (c :: text)
  | escape {c : Char} {spelling value text : Text} (hc : Escape c spelling text) (h : Spells value text) :
      Spells (c :: value) ('\\' :: (spelling ++ text))

/-! ### Defects -/

/-- A text begins with so many hexadecimal digits. -/
def HexFront (count : Nat) (cs : Text) : Prop :=
  ∃ digits after n, cs = digits ++ after ∧ digits.length = count ∧ Digits hexValue? 16 0 digits n

/-- A text begins with one to six hexadecimal digits and a closing brace. -/
def BracesFront (cs : Text) : Prop :=
  ∃ digits after n, cs = digits ++ '\x7d' :: after ∧ digits ≠ [] ∧ digits.length ≤ 6
    ∧ Digits hexValue? 16 0 digits n

/-- What stands behind a backslash and is no escape. -/
inductive Defect : Text → Prop where
  /-- No escape begins with the letter. -/
  | letter {c : Char} {rest : Text} (hnamed : ∀ d, (c, d) ∉ namedEscapes) (hoctal : octalValue? c = none)
      (hx : c ≠ 'x') (hu : c ≠ 'u') : Defect (c :: rest)
  /-- One of two digits is missing or wrong. -/
  | two {rest : Text} (h : ¬ HexFront 2 rest) : Defect ('x' :: rest)
  /-- One of four digits is missing or wrong. -/
  | four {rest : Text} (hbrace : rest.head? ≠ some '\x7b') (h : ¬ HexFront 4 rest) : Defect ('u' :: rest)
  /-- In braces a digit is missing, wrong or one too many, or the closing brace is missing. -/
  | braces {rest : Text} (h : ¬ BracesFront rest) : Defect ('u' :: '\x7b' :: rest)
  /-- The code is that of no character. -/
  | code {text after : Text} {n : Nat} (h : HexCode text n) (hn : ¬ n.isValidChar) : Defect (text ++ after)

/-! ### Numbers in digits -/

section Digits

variable {digit? : Char → Option Nat} {base n m : Nat} {text : Text}

theorem Digits.le (h : Digits digit? base n text m) (hbase : 0 < base) : n ≤ m := by
  induction h with
  | nil => exact Nat.le_refl _
  | cons _ _ ih => exact Nat.le_trans (Nat.le_trans (Nat.le_mul_of_pos_right _ hbase) (Nat.le_add_right _ _)) ih

theorem Digits.concat {c : Char} {d : Nat} (h : Digits digit? base n text m) (hc : digit? c = some d) :
    Digits digit? base n (text ++ [c]) (m * base + d) := by
  induction h with
  | nil => exact .cons hc .nil
  | cons hc' _ ih => exact .cons hc' ih

theorem Digits.of_concat {c : Char} {k : Nat} (h : Digits digit? base n text m)
    (h' : Digits digit? base n (text ++ [c]) k) : ∃ d, digit? c = some d ∧ k = m * base + d := by
  induction h with
  | nil =>
    obtain _ | ⟨hc, h'⟩ := h'
    obtain _ | _ := h'
    exact ⟨_, hc, rfl⟩
  | cons hc _ ih =>
    obtain _ | ⟨hc', h'⟩ := h'
    obtain rfl := Option.some.inj (hc.symm.trans hc')
    exact ih h'

end Digits

theorem Digits.lt_pow {n m : Nat} {text : Text} (h : Digits hexValue? 16 n text m) :
    m < (n + 1) * 16 ^ text.length := by
  induction h with
  | nil => simp
  | @cons n d m c text hc _ ih =>
    have hd := Host.lt_of_hexValue? hc
    calc m < (n * 16 + d + 1) * 16 ^ text.length := ih
      _ ≤ ((n + 1) * 16) * 16 ^ text.length := Nat.mul_le_mul_right _ (by omega)
      _ = (n + 1) * 16 ^ (text.length + 1) := by rw [Nat.pow_succ', Nat.mul_assoc]

/-- A code has six digits at most, so it fits in thirty-two bits. -/
theorem HexCode.lt_two_pow {text : Text} {n : Nat} (h : HexCode text n) : n < 2 ^ 32 := by
  have hsmall {digits : Text} (h : Digits hexValue? 16 0 digits n) (hlength : digits.length ≤ 6) :
      n < 2 ^ 32 := by
    have hpow : 16 ^ digits.length ≤ 16 ^ 6 := Nat.pow_le_pow_right (by decide) hlength
    have hlt := h.lt_pow
    omega
  cases h with
  | two hlength h => exact hsmall h (by omega)
  | four hlength h => exact hsmall h (by omega)
  | braces _ hlength h => exact hsmall h hlength

/-! ### Readers of escapes -/

theorem namedEscape?_eq_some_iff {name c : Char} : namedEscape? name = some c ↔ (name, c) ∈ namedEscapes := by
  constructor
  · intro h
    unfold namedEscape? at h
    split at h
    case h_11 => exact nomatch h
    all_goals
      obtain rfl := Option.some.inj h
      decide
  · intro h
    have hall : ∀ x ∈ namedEscapes, namedEscape? x.1 = some x.2 := by decide
    exact hall _ h

theorem namedEscape?_of_octal {c : Char} {d : Nat} (h : octalValue? c = some d) : namedEscape? c = none := by
  have hall : ∀ x ∈ namedEscapes, octalValue? x.1 = none := by decide
  refine Option.eq_none_iff_forall_ne_some.mpr fun e he => ?_
  have hnone := hall _ (namedEscape?_eq_some_iff.mp he)
  rw [h] at hnone
  exact absurd hnone (by simp)

theorem le_seven_of_octalValue? {c : Char} {d : Nat} (h : octalValue? c = some d) : d ≤ 7 := by
  unfold octalValue? at h
  split at h
  · next hc =>
    obtain rfl := Option.some.inj h
    have hle : c.toNat ≤ 55 := Char.le_def.mp hc.2
    omega
  · exact absurd h (by simp)

/-- No further octal digit can be taken: there is none, or the code would be too large. -/
def OctalStops (count m : Nat) (after : Text) : Prop :=
  ∀ d v, after.head? = some d → octalValue? d = some v → 0 < count → 0o377 < m * 8 + v

theorem readOctal_append {n m : Nat} {digits after : Text} (h : Digits octalValue? 8 n digits m) :
    ∀ {count : Nat}, digits.length ≤ count → m ≤ 0o377 → OctalStops (count - digits.length) m after →
      readOctal count n (digits ++ after) = (m, after) := by
  induction h with
  | nil =>
    intro count _ _ hstops
    cases count with
    | zero => rfl
    | succ count =>
      cases after with
      | nil => rfl
      | cons d after =>
        rw [List.nil_append, readOctal]
        cases hd : octalValue? d with
        | none => rfl
        | some v =>
          have hlarge := hstops d v rfl hd (Nat.succ_pos _)
          exact if_neg (Nat.not_le_of_lt hlarge)
  | @cons n d m c text hc h ih =>
    intro count hlength hm hstops
    rw [List.length_cons] at hlength hstops
    obtain ⟨count, rfl⟩ := Nat.exists_eq_add_one.mpr (Nat.zero_lt_of_lt hlength)
    have hle : n * 8 + d ≤ largestOctal := Nat.le_trans (h.le (by decide)) hm
    rw [List.cons_append, readOctal, hc]
    dsimp only
    rw [if_pos hle]
    refine ih (Nat.le_of_succ_le_succ hlength) hm ?_
    rwa [Nat.add_sub_add_right] at hstops

/-- Octal digits are read as far as they go. -/
theorem exists_readOctal (count : Nat) : ∀ {n : Nat} (cs : Text), n ≤ 0o377 →
    ∃ digits after m, cs = digits ++ after ∧ digits.length ≤ count ∧ Digits octalValue? 8 n digits m ∧ m ≤ 0o377
      ∧ OctalStops (count - digits.length) m after := by
  induction count with
  | zero =>
    intro n cs hn
    exact ⟨[], cs, n, rfl, Nat.le_refl _, .nil, hn, fun _ _ _ _ hpos => absurd hpos (Nat.lt_irrefl 0)⟩
  | succ count ih =>
    intro n cs hn
    by_cases hmore : ∃ c rest d, cs = c :: rest ∧ octalValue? c = some d ∧ n * 8 + d ≤ 0o377
    · obtain ⟨c, rest, d, rfl, hc, hle⟩ := hmore
      obtain ⟨digits, after, m, rfl, hlength, hdigits, hm, hstops⟩ := ih rest hle
      refine ⟨c :: digits, after, m, rfl, Nat.succ_le_succ hlength, .cons hc hdigits, hm, ?_⟩
      rwa [List.length_cons, Nat.add_sub_add_right]
    · refine ⟨[], cs, n, rfl, Nat.zero_le _, .nil, hn, fun d v hd hv _ => ?_⟩
      obtain ⟨rest, rfl⟩ := List.head?_eq_some_iff.mp hd
      exact Nat.lt_of_not_le fun hle => hmore ⟨d, rest, v, rfl, hv, hle⟩

theorem hexValue?_brace : hexValue? '\x7b' = none ∧ hexValue? '\x7d' = none := ⟨rfl, rfl⟩

theorem readHex?_eq_some_iff : ∀ {count n m : Nat} {cs after : Text}, readHex? count n cs = some (m, after)
    ↔ ∃ digits, cs = digits ++ after ∧ digits.length = count ∧ Digits hexValue? 16 n digits m := by
  intro count
  induction count with
  | zero =>
    intro n m cs after
    rw [readHex?]
    constructor
    · intro h
      obtain ⟨rfl, rfl⟩ := Prod.mk.inj (Option.some.inj h)
      exact ⟨[], rfl, rfl, .nil⟩
    · rintro ⟨digits, rfl, hlength, h⟩
      obtain rfl := List.length_eq_zero_iff.mp hlength
      obtain _ | _ := h
      rfl
  | succ count ih =>
    intro n m cs after
    cases cs with
    | nil =>
      refine iff_of_false (by simp [readHex?]) ?_
      rintro ⟨digits, heq, hlength, -⟩
      rw [(List.append_eq_nil_iff.mp heq.symm).1] at hlength
      exact absurd hlength (by simp)
    | cons c rest =>
      rw [readHex?, Option.bind_eq_some_iff]
      simp only [ih]
      constructor
      · rintro ⟨d, hd, digits, rfl, hlength, h⟩
        exact ⟨c :: digits, rfl, by rw [List.length_cons, hlength], .cons hd h⟩
      · rintro ⟨digits, heq, hlength, h⟩
        obtain _ | ⟨hd, h⟩ := h
        · exact absurd hlength (by simp)
        · obtain ⟨rfl, rfl⟩ := List.cons.inj heq
          exact ⟨_, hd, _, rfl, Nat.succ.inj hlength, h⟩

theorem readBraces?_eq_some_iff : ∀ {cs after : Text} {count n m : Nat},
    readBraces? count n cs = some (m, after) ↔ ∃ digits, cs = digits ++ '\x7d' :: after
      ∧ 0 < count + digits.length ∧ (digits ≠ [] → count + digits.length ≤ 6)
      ∧ Digits hexValue? 16 n digits m := by
  intro cs
  induction cs with
  | nil =>
    intro after count n m
    refine iff_of_false (by simp [readBraces?]) ?_
    rintro ⟨digits, heq, -⟩
    exact absurd heq (by simp)
  | cons c rest ih =>
    intro after count n m
    rw [readBraces?]
    by_cases hclose : c = '\x7d' ∧ count > 0
    · obtain ⟨rfl, hcount⟩ := hclose
      rw [if_pos ⟨rfl, hcount⟩]
      constructor
      · intro h
        obtain ⟨rfl, rfl⟩ := Prod.mk.inj (Option.some.inj h)
        exact ⟨[], rfl, hcount, fun hne => absurd rfl hne, .nil⟩
      · rintro ⟨digits, heq, -, -, h⟩
        obtain _ | ⟨hd, h⟩ := h
        · obtain ⟨-, rfl⟩ := List.cons.inj heq
          rfl
        · obtain ⟨rfl, -⟩ := List.cons.inj heq
          exact absurd (hexValue?_brace.2.symm.trans hd) (by simp)
    · rw [if_neg hclose]
      constructor
      · intro h
        split at h
        · next hcount =>
          obtain ⟨d, hd, h⟩ := Option.bind_eq_some_iff.mp h
          obtain ⟨digits, rfl, -, hle, h⟩ := ih.mp h
          refine ⟨c :: digits, rfl, Nat.add_pos_right _ (Nat.succ_pos _), fun _ => ?_, .cons hd h⟩
          rw [List.length_cons]
          by_cases hnil : digits = []
          · rw [hnil, List.length_nil]
            omega
          · have hsix := hle hnil
            omega
        · exact absurd h (by simp)
      · rintro ⟨digits, heq, hpos, hle, h⟩
        cases h with
        | nil =>
          obtain ⟨rfl, -⟩ := List.cons.inj heq
          exact absurd ⟨rfl, hpos⟩ hclose
        | cons hd h =>
          obtain ⟨rfl, rfl⟩ := List.cons.inj heq
          have hsix := hle (List.cons_ne_nil _ _)
          rw [List.length_cons] at hsix
          rw [if_pos (by omega), Option.bind_eq_some_iff]
          exact ⟨_, hd, ih.mpr ⟨_, rfl, by omega, fun _ => by omega, h⟩⟩

/-! ### Escapes are read -/

theorem readCode?_octal {c : Char} {d : Nat} (h : octalValue? c = some d) (cs : Text) :
    readCode? c cs = some (readOctal 2 d cs) := by
  unfold readCode?
  rw [h]

theorem readCode?_two (cs : Text) : readCode? 'x' cs = readHex? 2 0 cs := rfl

theorem readCode?_braces (cs : Text) : readCode? 'u' ('\x7b' :: cs) = readBraces? 0 0 cs := rfl

theorem readCode?_four {cs : Text} (h : cs.head? ≠ some '\x7b') : readCode? 'u' cs = readHex? 4 0 cs := by
  cases cs with
  | nil => rfl
  | cons c cs =>
    have hc : c ≠ '\x7b' := fun heq => h (congrArg some heq)
    have hoctal : octalValue? 'u' = none := rfl
    rw [readCode?, hoctal]
    simp [hc]

theorem readCode?_of_hexCode {c : Char} {text after : Text} {n : Nat} (h : HexCode (c :: text) n) :
    readCode? c (text ++ after) = some (n, after) := by
  cases h with
  | two hlength h =>
    rw [readCode?_two, readHex?_eq_some_iff]
    exact ⟨text, rfl, hlength, h⟩
  | four hlength h =>
    rw [readCode?_four, readHex?_eq_some_iff]
    · exact ⟨text, rfl, hlength, h⟩
    · cases h with
      | nil => exact absurd hlength (by simp)
      | cons hd h =>
        intro heq
        rw [Option.some.inj heq, hexValue?_brace.1] at hd
        exact absurd hd (by simp)
  | @braces digits _ hne hlength h =>
    rw [List.cons_append, readCode?_braces, readBraces?_eq_some_iff]
    refine ⟨digits, by simp, ?_, fun _ => by rwa [Nat.zero_add], h⟩
    rw [Nat.zero_add]
    exact List.length_pos_of_ne_nil hne

theorem readEscape_of_readCode? {c : Char} {cs rest : Text} {n : Nat} (hnamed : namedEscape? c = none)
    (h : readCode? c cs = some (n, rest)) (column : Nat) : readEscape column (c :: cs)
      = if n.isValidChar then .ok (Char.ofNat n, rest) else .error (.invalidEscape column) := by
  rw [readEscape, hnamed]
  dsimp only
  rw [h]

theorem isValidChar_of_le {n : Nat} (h : n ≤ 0o377) : n.isValidChar :=
  Or.inl (Nat.lt_of_le_of_lt h (by decide))

/-- The letters of codes in hexadecimal digits name no escape. -/
theorem exists_cons_of_hexCode {text : Text} {n : Nat} (h : HexCode text n) :
    ∃ c rest, text = c :: rest ∧ namedEscape? c = none := by
  cases h with
  | two => exact ⟨'x', _, rfl, rfl⟩
  | four => exact ⟨'u', _, rfl, rfl⟩
  | braces => exact ⟨'u', _, rfl, rfl⟩

/-- An escape is read as its character. -/
theorem readEscape_of_escape {c : Char} {spelling after : Text} (h : Escape c spelling after) (column : Nat) :
    readEscape column (spelling ++ after) = .ok (c, after) := by
  cases h with
  | named h =>
    rw [List.singleton_append, readEscape, namedEscape?_eq_some_iff.mpr h]
  | @octal digits _ n h hlast =>
    obtain ⟨hne, hlength, hvalue, hle⟩ := h
    cases hvalue with
    | nil => exact absurd rfl hne
    | @cons _ d _ c text hc hvalue =>
      rw [Nat.zero_mul, Nat.zero_add] at hvalue
      have hread : readOctal 2 d (text ++ after) = (n, after) := by
        refine readOctal_append hvalue (Nat.le_of_succ_le_succ hlength) hle fun e v he hv hpos => ?_
        by_contra hsmall
        -- the digit would make a longer code
        refine hlast e (n * 8 + v) he ⟨by simp, ?_, ?_, Nat.le_of_not_lt hsmall⟩
        · rw [List.length_append, List.length_cons, List.length_singleton]
          omega
        · exact Digits.concat (.cons hc (by rwa [Nat.zero_mul, Nat.zero_add])) hv
      rw [List.cons_append, readEscape_of_readCode? (namedEscape?_of_octal hc)
        ((readCode?_octal hc _).trans (congrArg some hread)), if_pos (isValidChar_of_le hle)]
  | hex h hn =>
    obtain ⟨c, rest, rfl, hnamed⟩ := exists_cons_of_hexCode h
    rw [List.cons_append, readEscape_of_readCode? hnamed (readCode?_of_hexCode h), if_pos hn]

/-- A defect is refused. -/
theorem readEscape_of_defect {cs : Text} (h : Defect cs) (column : Nat) :
    readEscape column cs = .error (.invalidEscape column) := by
  have hnone {c : Char} {rest : Text} (hnamed : namedEscape? c = none) (hcode : readCode? c rest = none) :
      readEscape column (c :: rest) = .error (.invalidEscape column) := by
    rw [readEscape, hnamed]
    dsimp only
    rw [hcode]
  cases h with
  | @letter c rest hname hoctal hx hu =>
    refine hnone (Option.eq_none_iff_forall_ne_some.mpr fun d hd => ?_) ?_
    · exact hname d (namedEscape?_eq_some_iff.mp hd)
    · unfold readCode?
      rw [hoctal]
      simp [hu]
  | two h =>
    refine hnone rfl (Option.eq_none_iff_forall_ne_some.mpr fun x hx => h ?_)
    obtain ⟨digits, rfl, hlength, hdigits⟩ := readHex?_eq_some_iff.mp hx
    exact ⟨digits, x.2, x.1, rfl, hlength, hdigits⟩
  | four hbrace h =>
    refine hnone rfl (Option.eq_none_iff_forall_ne_some.mpr fun x hx => h ?_)
    rw [readCode?_four hbrace] at hx
    obtain ⟨digits, rfl, hlength, hdigits⟩ := readHex?_eq_some_iff.mp hx
    exact ⟨digits, x.2, x.1, rfl, hlength, hdigits⟩
  | braces h =>
    refine hnone rfl (Option.eq_none_iff_forall_ne_some.mpr fun x hx => h ?_)
    obtain ⟨digits, rfl, hpos, hle, hdigits⟩ := readBraces?_eq_some_iff.mp hx
    rw [Nat.zero_add] at hpos hle
    have hne := List.ne_nil_of_length_pos hpos
    exact ⟨digits, x.2, x.1, rfl, hne, hle hne, hdigits⟩
  | code h hn =>
    obtain ⟨c, rest, rfl, hnamed⟩ := exists_cons_of_hexCode h
    rw [List.cons_append, readEscape_of_readCode? hnamed (readCode?_of_hexCode h), if_neg hn]

/-- An octal digit begins an escape: it is spelled by as many digits as the limits allow. -/
theorem exists_escape_of_octalValue? {c : Char} {d : Nat} (h : octalValue? c = some d) (rest : Text) :
    ∃ e spelling after, c :: rest = spelling ++ after ∧ Escape e spelling after := by
  have hd : 0 * 8 + d ≤ 0o377 := by
    have hseven := le_seven_of_octalValue? h
    omega
  obtain ⟨digits, after, n, rfl, hlength, hdigits, hn, hstops⟩ := exists_readOctal 2 rest hd
  refine ⟨Char.ofNat n, c :: digits, after, rfl, .octal ⟨by simp, ?_, .cons h hdigits, hn⟩ ?_⟩
  · exact Nat.succ_le_succ hlength
  · -- one digit more is one too many, or spells a number past the largest
    intro e m he hmore
    obtain ⟨v, hv, rfl⟩ := Digits.of_concat (.cons h hdigits) hmore.value
    have hlonger := hmore.length_le
    rw [List.length_append, List.length_cons, List.length_singleton] at hlonger
    have hlarge := hstops e v he hv (by omega)
    have hsmall := hmore.le
    omega

/-- What stands behind a backslash is an escape or a defect. -/
theorem escape_or_defect {cs : Text} (hne : cs ≠ []) :
    (∃ c spelling after, cs = spelling ++ after ∧ Escape c spelling after) ∨ Defect cs := by
  have hhex {text after : Text} {n : Nat} (h : HexCode text n) :
      (∃ c spelling rest, text ++ after = spelling ++ rest ∧ Escape c spelling rest) ∨ Defect (text ++ after) := by
    by_cases hn : n.isValidChar
    · exact Or.inl ⟨_, text, after, rfl, .hex h hn⟩
    · exact Or.inr (.code h hn)
  obtain ⟨c, rest, rfl⟩ := List.exists_cons_of_ne_nil hne
  by_cases hnamed : ∃ d, (c, d) ∈ namedEscapes
  · obtain ⟨d, hd⟩ := hnamed
    exact Or.inl ⟨d, [c], rest, rfl, .named hd⟩
  cases hoctal : octalValue? c with
  | some d => exact Or.inl (exists_escape_of_octalValue? hoctal rest)
  | none =>
    by_cases hx : c = 'x'
    · subst hx
      by_cases hfront : HexFront 2 rest
      · obtain ⟨digits, after, n, rfl, hlength, hdigits⟩ := hfront
        exact hhex (.two hlength hdigits)
      · exact Or.inr (.two hfront)
    by_cases hu : c = 'u'
    · subst hu
      by_cases hbrace : rest.head? = some '\x7b'
      · obtain ⟨rest, rfl⟩ := List.head?_eq_some_iff.mp hbrace
        by_cases hfront : BracesFront rest
        · obtain ⟨digits, after, n, rfl, hne, hlength, hdigits⟩ := hfront
          have hcode : HexCode ('u' :: '\x7b' :: (digits ++ ['\x7d'])) n := .braces hne hlength hdigits
          simpa using @hhex _ after _ hcode
        · exact Or.inr (.braces hfront)
      · by_cases hfront : HexFront 4 rest
        · obtain ⟨digits, after, n, rfl, hlength, hdigits⟩ := hfront
          exact hhex (.four hlength hdigits)
        · exact Or.inr (.four hbrace hfront)
    · exact Or.inr (.letter (fun d hd => hnamed ⟨d, hd⟩) hoctal hx hu)

/-! ### What follows an escape -/

/-- Only the first character behind an escape matters to it. -/
theorem Escape.of_head? {c : Char} {spelling after after' : Text} (h : Escape c spelling after)
    (hhead : ∀ d v, after'.head? = some d → octalValue? d = some v → after.head? = some d) :
    Escape c spelling after' := by
  cases h with
  | named h => exact .named h
  | hex h hn => exact .hex h hn
  | @octal digits _ n h hlast =>
    refine .octal h fun d m hd hmore => ?_
    obtain ⟨v, hv, -⟩ := Digits.of_concat h.value hmore.value
    exact hlast d m (hhead d v hd hv) hmore

/-- What ends a spelling goes on with no escape of it. -/
def Stops (after : Text) : Prop :=
  ∀ c ∈ after.head?, octalValue? c = none

theorem stops_nil : Stops [] := fun _ h => nomatch h

theorem stops_quote (rest : Text) : Stops ('"' :: rest) := fun _ h => Option.some.inj h ▸ rfl

theorem stops_backslash (rest : Text) : Stops ('\\' :: rest) := fun _ h => Option.some.inj h ▸ rfl

theorem Escape.append {c : Char} {spelling text after : Text} (h : Escape c spelling text) (hafter : Stops after) :
    Escape c spelling (text ++ after) := by
  refine h.of_head? fun d v hd hv => ?_
  cases text with
  | nil =>
    rw [hafter d hd] at hv
    exact absurd hv (by simp)
  | cons e text => exact hd

theorem Escape.of_append {c : Char} {spelling text after : Text} (h : Escape c spelling (text ++ after)) :
    Escape c spelling text := by
  refine h.of_head? fun d v hd _ => ?_
  obtain ⟨rest, rfl⟩ := List.head?_eq_some_iff.mp hd
  rfl

/-! ### The rest of a literal -/

/-- Reads the rest of a literal up to its quote, with the steps that it needs. -/
def readRest (width : Nat) (cs : Text) : Except SyntaxError (Text × Text) :=
  readBody width (cs.length + 1) cs

/-- Steps beyond one for each character make no difference. -/
theorem readBody_congr (width : Nat) : ∀ {fuel fuel' : Nat} {cs : Text}, cs.length < fuel → cs.length < fuel' →
    readBody width fuel cs = readBody width fuel' cs := by
  intro fuel
  induction fuel with
  | zero =>
    intro fuel' cs h _
    exact absurd h (Nat.not_lt_zero _)
  | succ fuel ih =>
    intro fuel' cs h h'
    obtain ⟨fuel', rfl⟩ := Nat.exists_eq_add_one.mpr (Nat.zero_lt_of_lt h')
    cases cs with
    | nil => rfl
    | cons c cs =>
      rw [List.length_cons] at h h'
      rw [readBody, readBody]
      split
      · rfl
      · split
        · split
          · next d rest hread =>
            have hle := length_le_of_readEscape hread
            rw [ih (Nat.lt_of_le_of_lt hle (Nat.lt_of_succ_lt_succ h))
              (Nat.lt_of_le_of_lt hle (Nat.lt_of_succ_lt_succ h'))]
          · rfl
        · rw [ih (Nat.lt_of_succ_lt_succ h) (Nat.lt_of_succ_lt_succ h')]

/-- What is read, with a text before it. -/
def withFront (value : Text) (x : Except SyntaxError (Text × Text)) : Except SyntaxError (Text × Text) :=
  x.map fun y => (value ++ y.1, y.2)

section Rest

variable (width : Nat) {cs rest : Text} {c : Char}

@[simp] theorem readRest_nil : readRest width [] = .error .unterminatedString := rfl

@[simp] theorem readRest_quote (rest : Text) : readRest width ('"' :: rest) = .ok ([], rest) := rfl

theorem readRest_raw (hquote : c ≠ '"') (hback : c ≠ '\\') (rest : Text) :
    readRest width (c :: rest) = withFront [c] (readRest width rest) := by
  rw [readRest, List.length_cons, readBody, if_neg hquote, if_neg hback]
  show _ = withFront [c] (readBody width (rest.length + 1) rest)
  cases readBody width (rest.length + 1) rest <;> rfl

theorem readRest_escape (h : ∀ column, readEscape column cs = .ok (c, rest)) :
    readRest width ('\\' :: cs) = withFront [c] (readRest width rest) := by
  have hle : rest.length ≤ cs.length := length_le_of_readEscape (h 0)
  have hfuel : readBody width (cs.length + 1) rest = readRest width rest :=
    readBody_congr width (Nat.lt_succ_of_le hle) (Nat.lt_succ_self _)
  rw [readRest, List.length_cons, readBody, if_neg (by decide), if_pos rfl, h]
  dsimp only
  rw [hfuel]
  cases readRest width rest <;> rfl

theorem readRest_of_error {e : SyntaxError}
    (h : readEscape (SyntaxError.column width ('\\' :: cs)) cs = .error e) :
    readRest width ('\\' :: cs) = .error e := by
  rw [readRest, List.length_cons, readBody, if_neg (by decide), if_pos rfl, h]

end Rest

/-- Reading goes through a spelling to what follows it. -/
theorem readRest_append {value text after : Text} (h : Spells value text) (hafter : Stops after) (width : Nat) :
    readRest width (text ++ after) = withFront value (readRest width after) := by
  have hfront (c : Char) (value : Text) (x : Except SyntaxError (Text × Text)) :
      withFront [c] (withFront value x) = withFront (c :: value) x := by
    cases x <;> rfl
  induction h with
  | nil =>
    rw [List.nil_append]
    cases readRest width after <;> rfl
  | raw hquote hback _ ih => rw [List.cons_append, readRest_raw width hquote hback, ih, hfront]
  | @escape c spelling value text hc _ ih =>
    have hread := fun column => readEscape_of_escape (hc.append hafter) column
    rw [List.cons_append, List.append_assoc, readRest_escape width hread, ih, hfront]

/-! ### Every text -/

/-- What a text may be that should close a literal: a spelling and its quote; a spelling that is cut off, maybe
behind a backslash; or a spelling and a defect. -/
theorem parts_of_rest (cs : Text) :
    (∃ value text rest, cs = text ++ '"' :: rest ∧ Spells value text)
      ∨ (∃ value text, (cs = text ∨ cs = text ++ ['\\']) ∧ Spells value text)
      ∨ ∃ value text bad, cs = text ++ '\\' :: bad ∧ Spells value text ∧ Defect bad := by
  induction hlength : cs.length using Nat.strongRecOn generalizing cs with
  | ind n ih =>
    cases cs with
    | nil => exact Or.inr (Or.inl ⟨[], [], Or.inl rfl, .nil⟩)
    | cons c cs =>
      rw [List.length_cons] at hlength
      by_cases hquote : c = '"'
      · subst hquote
        exact Or.inl ⟨[], [], cs, rfl, .nil⟩
      by_cases hback : c = '\\'
      · subst hback
        rcases eq_or_ne cs [] with rfl | hne
        · exact Or.inr (Or.inl ⟨[], [], Or.inr rfl, .nil⟩)
        rcases escape_or_defect hne with ⟨d, spelling, after, rfl, hescape⟩ | hbad
        · -- the escape ends where it ends, whatever comes of the text behind it
          rw [List.length_append] at hlength
          rcases ih after.length (by omega) after rfl with ⟨value, text, rest, rfl, h⟩ | ⟨value, text, htext, h⟩
            | ⟨value, text, bad, rfl, h, hbad⟩
          · refine Or.inl ⟨d :: value, '\\' :: (spelling ++ text), rest, ?_, .escape hescape.of_append h⟩
            simp
          · refine Or.inr (Or.inl ⟨d :: value, '\\' :: (spelling ++ text), ?_, ?_⟩)
            · rcases htext with rfl | rfl
              · exact Or.inl rfl
              · exact Or.inr (by simp)
            · rcases htext with rfl | rfl
              · exact .escape hescape h
              · exact .escape hescape.of_append h
          · refine Or.inr (Or.inr ⟨d :: value, '\\' :: (spelling ++ text), bad, ?_, ?_, hbad⟩)
            · simp
            · exact .escape hescape.of_append h
        · exact Or.inr (Or.inr ⟨[], [], cs, rfl, .nil, hbad⟩)
      · rcases ih cs.length (by omega) cs rfl with ⟨value, text, rest, rfl, h⟩ | ⟨value, text, htext, h⟩
          | ⟨value, text, bad, rfl, h, hbad⟩
        · exact Or.inl ⟨c :: value, c :: text, rest, rfl, .raw hquote hback h⟩
        · refine Or.inr (Or.inl ⟨c :: value, c :: text, ?_, .raw hquote hback h⟩)
          rcases htext with rfl | rfl
          · exact Or.inl rfl
          · exact Or.inr rfl
        · exact Or.inr (Or.inr ⟨c :: value, c :: text, bad, rfl, .raw hquote hback h, hbad⟩)

section Outcomes

variable {value text : Text} (h : Spells value text) (width : Nat)
include h

theorem readRest_closed (rest : Text) : readRest width (text ++ '"' :: rest) = .ok (value, rest) := by
  rw [readRest_append h (stops_quote rest), readRest_quote]
  exact congrArg (fun v => Except.ok (v, rest)) (List.append_nil value)

theorem readRest_cut {cs : Text} (hcs : cs = text ∨ cs = text ++ ['\\']) :
    readRest width cs = .error .unterminatedString := by
  rcases hcs with rfl | rfl
  · have hread := readRest_append h stops_nil width
    rwa [List.append_nil] at hread
  · rw [readRest_append h (stops_backslash [])]
    rfl

theorem readRest_broken {bad : Text} (hbad : Defect bad) : readRest width (text ++ '\\' :: bad)
    = .error (.invalidEscape (SyntaxError.column width ('\\' :: bad))) := by
  rw [readRest_append h (stops_backslash bad), readRest_of_error width (readEscape_of_defect hbad _)]
  rfl

end Outcomes

theorem readString_quote (width : Nat) (cs : Text) : readString width ('"' :: cs) = readRest width cs := rfl

/-- A literal is read as a text just if it spells the text. -/
theorem readString_eq_ok_iff {width : Nat} {cs value rest : Text} :
    readString width ('"' :: cs) = .ok (value, rest) ↔ ∃ text, cs = text ++ '"' :: rest ∧ Spells value text := by
  rw [readString_quote]
  constructor
  · intro hread
    rcases parts_of_rest cs with ⟨v, text, rest', rfl, h⟩ | ⟨v, text, hcs, h⟩ | ⟨v, text, bad, rfl, h, hbad⟩
    · rw [readRest_closed h] at hread
      obtain ⟨rfl, rfl⟩ := Prod.mk.inj (Except.ok.inj hread)
      exact ⟨text, rfl, h⟩
    · rw [readRest_cut h width hcs] at hread
      exact nomatch hread
    · rw [readRest_broken h width hbad] at hread
      exact nomatch hread
  · rintro ⟨text, rfl, h⟩
    exact readRest_closed h width rest

/-- A literal is cut off just if it is a spelling to the end of the line, or to a backslash at its end. -/
theorem readString_eq_unterminated_iff {width : Nat} {cs : Text} :
    readString width ('"' :: cs) = .error .unterminatedString
      ↔ ∃ value text, (cs = text ∨ cs = text ++ ['\\']) ∧ Spells value text := by
  rw [readString_quote]
  constructor
  · intro hread
    rcases parts_of_rest cs with ⟨v, text, rest', rfl, h⟩ | ⟨v, text, hcs, h⟩ | ⟨v, text, bad, rfl, h, hbad⟩
    · rw [readRest_closed h] at hread
      exact nomatch hread
    · exact ⟨v, text, hcs, h⟩
    · rw [readRest_broken h width hbad] at hread
      exact nomatch hread
  · rintro ⟨value, text, hcs, h⟩
    exact readRest_cut h width hcs

/-- An escape is refused just if it is the first defect of the literal; its column is told. -/
theorem readString_eq_invalidEscape_iff {width column : Nat} {cs : Text} :
    readString width ('"' :: cs) = .error (.invalidEscape column)
      ↔ ∃ value text bad, cs = text ++ '\\' :: bad ∧ Spells value text ∧ Defect bad
        ∧ column = SyntaxError.column width ('\\' :: bad) := by
  rw [readString_quote]
  constructor
  · intro hread
    rcases parts_of_rest cs with ⟨v, text, rest', rfl, h⟩ | ⟨v, text, hcs, h⟩ | ⟨v, text, bad, rfl, h, hbad⟩
    · rw [readRest_closed h] at hread
      exact nomatch hread
    · rw [readRest_cut h width hcs] at hread
      exact nomatch hread
    · rw [readRest_broken h width hbad] at hread
      obtain rfl := SyntaxError.invalidEscape.inj (Except.error.inj hread)
      exact ⟨v, text, bad, rfl, h, hbad, rfl⟩
  · rintro ⟨value, text, bad, rfl, h, hbad, rfl⟩
    exact readRest_broken h width hbad

/-- A literal is read as a text just if it spells the text up to a closing quote, and reading stops behind
that quote. What spells nothing is refused: as cut off if the line ends in a spelling or right behind a
backslash, and otherwise for the first escape that is none, at its backslash. -/
theorem readString_exact (width : Nat) (cs : Text) :
    (∀ value rest, readString width ('"' :: cs) = .ok (value, rest)
        ↔ ∃ text, cs = text ++ '"' :: rest ∧ Spells value text)
      ∧ (readString width ('"' :: cs) = .error .unterminatedString
        ↔ ∃ value text, (cs = text ∨ cs = text ++ ['\\']) ∧ Spells value text)
      ∧ (∀ column, readString width ('"' :: cs) = .error (.invalidEscape column)
        ↔ ∃ value text bad, cs = text ++ '\\' :: bad ∧ Spells value text ∧ Defect bad
          ∧ column = SyntaxError.column width ('\\' :: bad))
      ∧ ((∃ value rest, readString width ('"' :: cs) = .ok (value, rest))
        ∨ readString width ('"' :: cs) = .error .unterminatedString
        ∨ ∃ column, readString width ('"' :: cs) = .error (.invalidEscape column)) := by
  refine ⟨fun _ _ => readString_eq_ok_iff, readString_eq_unterminated_iff,
    fun _ => readString_eq_invalidEscape_iff, ?_⟩
  rcases parts_of_rest cs with ⟨v, text, rest, rfl, h⟩ | ⟨v, text, hcs, h⟩ | ⟨v, text, bad, rfl, h, hbad⟩
  · exact Or.inl ⟨v, rest, readRest_closed h width rest⟩
  · exact Or.inr (Or.inl (readRest_cut h width hcs))
  · exact Or.inr (Or.inr ⟨_, readRest_broken h width hbad⟩)

end Literal

end ResultFilter
