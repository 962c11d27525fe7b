import ResultFilter.Json.Tree
import ResultFilter.Proofs.Text

/-!
# Numbers written and read again

A number is written as digits, maybe with a point, and maybe with an exponent. Read again it has the digits
that were written.

## Main definitions

* `digitValues` — the values of the digits of a text.
* `JsonTree.IsWhole`, `JsonTree.IsFraction` — the digits before and behind the point of a number.
* `Numeral.fractionText`, `Numeral.exponentText` — what follows the whole part of a number.
* `Numeral.ofInt`, `Binary64.numeral` — the numbers that values are written as.

## Main results

* `JsonTree.readNumeral?_spelled` — digits with a point and an exponent are read as what they spell.
* `JsonTree.readNumeral?_decimalDigits`, `JsonTree.readNumeral?_renderDecimal` — so are the numbers that
  values are written as.
* `Numeral.value?_ofInt` — a whole number of at most sixty-four bits has the value that was written.
-/

namespace ResultFilter

open ResultFilter.Text

/-! ### Digits -/

/-- The values of the digits of a text. -/
def digitValues (cs : Text) : List Nat :=
  cs.filterMap decimalValue?

theorem decimalValue?_of_isDigit {c : Char} (h : c.isDigit = true) :
    decimalValue? c = some (c.toNat - '0'.toNat) := by
  refine if_pos ?_
  simpa [Char.isDigit, Char.le_def] using h

theorem zero_le_of_isDigit {c : Char} (h : c.isDigit = true) : '0'.toNat ≤ c.toNat := by
  simp only [Char.isDigit, Bool.and_eq_true, decide_eq_true_eq, ge_iff_le, UInt32.le_iff_toNat_le] at h
  exact h.1

theorem digitValues_eq_map {cs : Text} (h : ∀ c ∈ cs, c.isDigit = true) :
    digitValues cs = cs.map fun c => c.toNat - '0'.toNat := by
  rw [← List.filterMap_eq_map]
  exact List.filterMap_congr fun c hc => decimalValue?_of_isDigit (h c hc)

theorem length_digitValues {cs : Text} (h : ∀ c ∈ cs, c.isDigit = true) :
    (digitValues cs).length = cs.length := by
  rw [digitValues_eq_map h, List.length_map]

theorem digitValues_take {cs : Text} (h : ∀ c ∈ cs, c.isDigit = true) (n : Nat) :
    digitValues (cs.take n) = (digitValues cs).take n := by
  rw [digitValues_eq_map h, ← List.map_take]
  exact digitValues_eq_map fun c hc => h c (List.mem_of_mem_take hc)

theorem digitValues_drop {cs : Text} (h : ∀ c ∈ cs, c.isDigit = true) (n : Nat) :
    digitValues (cs.drop n) = (digitValues cs).drop n := by
  rw [digitValues_eq_map h, ← List.map_drop]
  exact digitValues_eq_map fun c hc => h c (List.mem_of_mem_drop hc)

theorem digitValues_append (cs ds : Text) : digitValues (cs ++ ds) = digitValues cs ++ digitValues ds :=
  List.filterMap_append

theorem digitValues_replicate_zero (n : Nat) : digitValues (List.replicate n '0') = List.replicate n 0 :=
  List.filterMap_replicate_of_some rfl

/-- Digits gathered to a number. -/
theorem foldl_digitValues {cs : Text} (h : ∀ c ∈ cs, c.isDigit = true) (n : Nat) :
    (digitValues cs).foldl (fun n d => n * 10 + d) n = Nat.ofDigitChars 10 cs n := by
  rw [digitValues_eq_map h, List.foldl_map]
  induction cs generalizing n with
  | nil => rfl
  | cons c cs ih =>
    rw [List.foldl_cons, ih fun d hd => h d (List.mem_cons_of_mem _ hd), Nat.ofDigitChars_cons,
      Nat.mul_comm]

theorem isDigit_of_mem_decimalDigits {n : Nat} {c : Char} (h : c ∈ decimalDigits n) : c.isDigit = true :=
  Nat.isDigit_of_mem_toDigits (by decide) (Nat.le_refl 10) h

theorem decimalDigits_ne_nil (n : Nat) : decimalDigits n ≠ [] :=
  Nat.toDigits_ne_nil

theorem ofDigits_decimalDigits (n : Nat) : ofDigits 10 (digitValues (decimalDigits n)) = n := by
  rw [ofDigits, foldl_digitValues fun c => isDigit_of_mem_decimalDigits]
  exact Nat.ofDigitChars_toDigits (by decide) (Nat.le_refl 10)

/-- No number but zero begins with a zero. -/
theorem head?_decimalDigits {n : Nat} (h : n ≠ 0) : (decimalDigits n).head? ≠ some '0' := by
  induction n using Nat.strongRecOn with
  | ind n ih =>
    rw [decimalDigits, Nat.toDigits_eq_if (by decide)]
    split
    · next hlt =>
      have hall : ∀ d < 10, d ≠ 0 → [d.digitChar].head? ≠ some '0' := by decide
      exact hall n hlt h
    · next hge =>
      rw [List.head?_append_of_ne_nil _ Nat.toDigits_ne_nil]
      exact ih (n / 10) (by omega) (by omega)

/-! ### Reading digits, a point and an exponent -/

/-- Whether a character may go on a number. -/
def isNumeric (c : Char) : Bool :=
  c.isDigit || c == '.' || c == 'e' || c == 'E'

/-- A text does not go on a number. -/
def EndsNumeral (rest : Text) : Prop :=
  ∀ c, rest.head? = some c → isNumeric c = false

/-- What is written of the digits after the point. -/
def Numeral.fractionText : Option Text → Text
  | none => []
  | some ds => '.' :: ds

/-- What is written of the exponent. -/
def Numeral.exponentText : Option Int → Text
  | none => []
  | some p => Json.numberStyle.renderExponent p

namespace JsonTree

theorem readDigits_append {ds rest : Text} (hds : ∀ c ∈ ds, c.isDigit = true)
    (hrest : ∀ c, rest.head? = some c → c.isDigit = false) :
    readDigits (ds ++ rest) = (digitValues ds, rest) := by
  obtain ⟨htake, hdrop⟩ := List.span_append_of_stop hds hrest
  rw [readDigits, htake, hdrop]
  rfl

theorem readExponent?_sign (p : Int) (cs : Text) :
    readExponent? ((if p < 0 then ['-'] else ['+']) ++ cs) = match readDigits cs with
      | ([], _) => none
      | (ds, rest) => some ((if p < 0 then -1 else 1) * ofDigits 10 ds, rest) := by
  split <;> rfl

theorem readExponent?_spelled {p : Int} {rest : Text} (hrest : EndsNumeral rest) :
    readExponent? (((if p < 0 then ['-'] else ['+']) ++ decimalDigits p.natAbs) ++ rest) = some (p, rest) := by
  have hread : readDigits (decimalDigits p.natAbs ++ rest) = _ :=
    readDigits_append (fun c => isDigit_of_mem_decimalDigits (n := p.natAbs)) fun c hc => by
      have := hrest c hc
      simp only [isNumeric, Bool.or_eq_false_iff] at this
      exact this.1.1.1
  have hne : digitValues (decimalDigits p.natAbs) ≠ [] := by
    rw [digitValues_eq_map fun c => isDigit_of_mem_decimalDigits]
    exact mt List.map_eq_nil_iff.mp (decimalDigits_ne_nil _)
  rw [List.append_assoc, readExponent?_sign, hread]
  split
  · next h => exact absurd (Prod.mk.inj h).1 hne
  · next h =>
    obtain ⟨rfl, rfl⟩ := Prod.mk.inj h
    rw [ofDigits_decimalDigits]
    congr 2
    split <;> omega

theorem EndsNumeral.not_isDigit {rest : Text} (h : EndsNumeral rest) {c : Char}
    (hc : rest.head? = some c) : c.isDigit = false := by
  have := h c hc
  simp only [isNumeric, Bool.or_eq_false_iff] at this
  exact this.1.1.1

/-- What is left to read of a number once its digits are read. -/
theorem readNumeral?_end (negative : Bool) (whole : List Nat) (f : Option (List Nat)) (exponent : Option Int)
    {rest : Text} (hrest : EndsNumeral rest) :
    (match Numeral.exponentText exponent ++ rest with
      | 'e' :: rest => do
        let x ← (readExponent? rest).map fun (e, rest) => (some e, rest)
        return ((⟨negative, whole, f, x.1⟩ : Numeral), x.2)
      | 'E' :: rest => do
        let x ← (readExponent? rest).map fun (e, rest) => (some e, rest)
        return (⟨negative, whole, f, x.1⟩, x.2)
      | rest => do
        let x ← some ((none : Option Int), rest)
        return (⟨negative, whole, f, x.1⟩, x.2))
      = some (⟨negative, whole, f, exponent⟩, rest) := by
  cases exponent with
  | none =>
    rw [Numeral.exponentText, List.nil_append]
    split
    · exact absurd (hrest _ rfl) (by decide)
    · exact absurd (hrest _ rfl) (by decide)
    · rfl
  | some p =>
    show ((readExponent? (((if p < 0 then ['-'] else ['+']) ++ decimalDigits p.natAbs) ++ rest)).map _).bind _ = _
    rw [readExponent?_spelled hrest]
    rfl

/-- The whole part of a number: digits, with no zero before others. -/
structure IsWhole (cs : Text) : Prop where
  /-- There are only digits. -/
  isDigit : ∀ c ∈ cs, c.isDigit = true
  /-- There is one. -/
  ne_nil : cs ≠ []
  /-- A zero stands alone. -/
  zero : cs.head? = some '0' → cs.length = 1

/-- What follows the point of a number if there is one: digits. -/
def IsFraction (fraction : Option Text) : Prop :=
  ∀ ds, fraction = some ds → ds ≠ [] ∧ ∀ c ∈ ds, c.isDigit = true

theorem isFraction_none : IsFraction none :=
  fun ds h => absurd h (Option.some_ne_none ds).symm

theorem isFraction_some {ds : Text} (hne : ds ≠ []) (hdigits : ∀ c ∈ ds, c.isDigit = true) :
    IsFraction (some ds) := by
  rintro ds ⟨rfl⟩
  exact ⟨hne, hdigits⟩

theorem IsWhole.take {cs : Text} (h : IsWhole cs) {n : Nat} (hn : n ≠ 0) : IsWhole (cs.take n) where
  isDigit := fun c hc => h.isDigit c (List.mem_of_mem_take hc)
  ne_nil := by
    have hpos := List.length_pos_of_ne_nil h.ne_nil
    rw [← List.length_pos_iff, List.length_take]
    omega
  zero := by
    intro hhead
    rw [List.head?_take, if_neg hn] at hhead
    have hone := h.zero hhead
    rw [List.length_take]
    omega

/-- The whole part of a number is one for the reader too. -/
theorem IsWhole.isAllowed {whole : Text} (h : IsWhole whole) :
    ((digitValues whole).isEmpty
      || ((digitValues whole).head? == some 0 && decide ((digitValues whole).length > 1))) = false := by
  rw [digitValues_eq_map h.isDigit]
  cases whole with
  | nil => exact absurd rfl h.ne_nil
  | cons c whole =>
    by_cases hc : c = '0'
    · have hone : (c :: whole).length = 1 := h.zero (by rw [hc]; rfl)
      rw [List.length_map, hone, Bool.or_eq_false_iff]
      exact ⟨rfl, Bool.and_false _⟩
    · have hpos : c.toNat - '0'.toNat ≠ 0 := by
        have hle := zero_le_of_isDigit (h.isDigit c List.mem_cons_self)
        have hval : c.toNat ≠ '0'.toNat := fun h => hc (Char.toNat_inj.mp h)
        omega
      rw [Bool.or_eq_false_iff]
      exact ⟨rfl, by simpa using fun h => absurd h hpos⟩

/-- Digits with a point and an exponent are read as what they spell. -/
theorem readNumeral?_spelled (negative : Bool) {whole : Text} {fraction : Option Text}
    {exponent : Option Int} {rest : Text} (hwhole : IsWhole whole) (hfraction : IsFraction fraction)
    (hrest : EndsNumeral rest) :
    readNumeral? negative
        (whole ++ (Numeral.fractionText fraction ++ Numeral.exponentText exponent) ++ rest)
      = some (⟨negative, digitValues whole, fraction.map digitValues, exponent⟩, rest) := by
  rw [List.append_assoc, List.append_assoc]
  -- neither digits nor a point follow the exponent, and no digits follow the whole part
  have hexponent : ∀ c, (Numeral.exponentText exponent ++ rest).head? = some c → c.isDigit = false ∧ c ≠ '.' := by
    intro c hc
    cases exponent with
    | none => exact ⟨EndsNumeral.not_isDigit hrest hc, by rintro rfl; exact absurd (hrest _ hc) (by decide)⟩
    | some p =>
      obtain rfl : 'e' = c := by simpa [Numeral.exponentText, DecimalStyle.renderExponent, Json.numberStyle] using hc
      exact ⟨by decide, by decide⟩
  have hafter : ∀ c, (Numeral.fractionText fraction ++ (Numeral.exponentText exponent ++ rest)).head? = some c →
      c.isDigit = false := by
    intro c hc
    cases fraction with
    | none => exact (hexponent c hc).1
    | some ds =>
      obtain rfl : '.' = c := by simpa [Numeral.fractionText] using hc
      decide
  unfold readNumeral?
  rw [readDigits_append hwhole.isDigit hafter]
  simp only [hwhole.isAllowed, Bool.false_eq_true, if_false]
  cases fraction with
  | none =>
    rw [Numeral.fractionText, List.nil_append]
    split
    · next hdot => exact absurd rfl (hexponent '.' (by rw [hdot]; rfl)).2
    · exact readNumeral?_end negative (digitValues whole) none exponent hrest
  | some ds =>
    obtain ⟨hds, hdigits⟩ := hfraction ds rfl
    have hvalues : digitValues ds ≠ [] := by
      rw [digitValues_eq_map hdigits]
      exact mt List.map_eq_nil_iff.mp hds
    rw [Numeral.fractionText, List.cons_append]
    simp only [readDigits_append hdigits fun c hc => (hexponent c hc).1]
    exact readNumeral?_end negative (digitValues whole) (some (digitValues ds)) exponent hrest

end JsonTree

/-! ### The numbers that values are written as -/

/-- The number that a whole number is written as. -/
def Numeral.ofInt (n : Int) : Numeral :=
  ⟨decide (n < 0), digitValues (decimalDigits n.natAbs), none, none⟩

/-- The number that the decimal `c · 10 ^ k` is written as. -/
def Numeral.ofDecimal (negative : Bool) (c : Nat) (k : Int) : Numeral :=
  let ds := digitValues (decimalDigits c)
  let power := k + ds.length - 1
  if -5 ≤ power ∧ power ≤ 15 then
    if k ≥ 0 then ⟨negative, ds ++ List.replicate k.toNat 0, some [0], none⟩
    else if power ≥ 0 then
      ⟨negative, ds.take (power.toNat + 1), some (ds.drop (power.toNat + 1)), none⟩
    else ⟨negative, [0], some (List.replicate (-power - 1).toNat 0 ++ ds), none⟩
  else ⟨negative, ds.take 1, if ds.length = 1 then none else some (ds.drop 1), some power⟩

/-- The number that a number of the double format is written as. -/
def Binary64.numeral (x : Binary64) : Numeral :=
  .ofDecimal x.negative x.shortest.1 x.shortest.2

namespace JsonTree

theorem isWhole_decimalDigits (n : Nat) : IsWhole (decimalDigits n) where
  isDigit := fun _ => isDigit_of_mem_decimalDigits
  ne_nil := decimalDigits_ne_nil n
  zero := by
    intro hhead
    by_cases hn : n = 0
    · rw [hn]
      rfl
    · exact absurd hhead (head?_decimalDigits hn)

theorem readNumeral?_decimalDigits (negative : Bool) (n : Nat) {rest : Text} (hrest : EndsNumeral rest) :
    readNumeral? negative (decimalDigits n ++ rest)
      = some (⟨negative, digitValues (decimalDigits n), none, none⟩, rest) := by
  have hread : readNumeral? negative
      (decimalDigits n ++ (Numeral.fractionText none ++ Numeral.exponentText none) ++ rest) = _ :=
    readNumeral?_spelled negative (isWhole_decimalDigits n) isFraction_none hrest
  rwa [Numeral.fractionText, Numeral.exponentText, List.append_nil, List.append_nil] at hread

/-- A decimal is written as a whole part, and as much of a fraction and an exponent as it takes. -/
theorem renderDecimal_eq (c : Nat) (k : Int) :
    Json.numberStyle.renderDecimal c k =
      let ds := decimalDigits c
      let power := k + ds.length - 1
      if -5 ≤ power ∧ power ≤ 15 then
        if k ≥ 0 then
          ds ++ List.replicate k.toNat '0' ++ (Numeral.fractionText (some ['0']) ++ Numeral.exponentText none)
        else if power ≥ 0 then
          ds.take (power.toNat + 1) ++ (Numeral.fractionText (some (ds.drop (power.toNat + 1)))
            ++ Numeral.exponentText none)
        else ['0'] ++ (Numeral.fractionText (some (List.replicate (-power - 1).toNat '0' ++ ds))
          ++ Numeral.exponentText none)
      else
        ds.take 1 ++ (Numeral.fractionText (if ds.length = 1 then none else some (ds.drop 1))
          ++ Numeral.exponentText (some power)) := by
  unfold DecimalStyle.renderDecimal
  refine ite_congr rfl (fun _ => ite_congr rfl (fun _ => rfl) fun _ => ite_congr rfl (fun _ => ?_) fun _ => ?_)
    fun _ => ?_
  · rw [Numeral.exponentText, List.append_nil]
    rfl
  · rw [Numeral.exponentText, List.append_nil, List.append_assoc]
    rfl
  · match h : decimalDigits c with
    | [] => exact absurd h (decimalDigits_ne_nil c)
    | [d] => rfl
    | d :: e :: ds => rfl

theorem isDigit_of_mem_zeros {n : Nat} {c : Char} (hc : c ∈ List.replicate n '0') : c.isDigit = true := by
  rw [List.eq_of_mem_replicate hc]
  rfl

/-- Zeros may be put behind a number, unless it is zero itself. -/
theorem isWhole_append_zeros {c n : Nat} (h : c ≠ 0 ∨ n = 0) :
    IsWhole (decimalDigits c ++ List.replicate n '0') where
  isDigit := fun _ hd => (List.mem_append.mp hd).elim isDigit_of_mem_decimalDigits isDigit_of_mem_zeros
  ne_nil := List.append_ne_nil_of_left_ne_nil (decimalDigits_ne_nil c) _
  zero := by
    intro hhead
    rw [List.head?_append_of_ne_nil _ (decimalDigits_ne_nil c)] at hhead
    have hn : n = 0 := h.resolve_left fun hc => head?_decimalDigits hc hhead
    rw [hn, List.replicate_zero, List.append_nil]
    exact (isWhole_decimalDigits c).zero hhead

theorem isFraction_drop {c n : Nat} (hn : n < (decimalDigits c).length) :
    IsFraction (some ((decimalDigits c).drop n)) := by
  refine isFraction_some ?_ fun d hd => isDigit_of_mem_decimalDigits (List.mem_of_mem_drop hd)
  rw [← List.length_pos_iff, List.length_drop]
  omega

/-- A decimal is read as what it is written as; a zero has no power of ten. -/
theorem readNumeral?_renderDecimal (negative : Bool) {c : Nat} {k : Int} (hc : c ≠ 0 ∨ k = 0) {rest : Text}
    (hrest : EndsNumeral rest) :
    readNumeral? negative (Json.numberStyle.renderDecimal c k ++ rest)
      = some (Numeral.ofDecimal negative c k, rest) := by
  have hdigits : ∀ d ∈ decimalDigits c, d.isDigit = true := fun d => isDigit_of_mem_decimalDigits
  have hwhole := isWhole_decimalDigits c
  have hpos := List.length_pos_of_ne_nil hwhole.ne_nil
  rw [renderDecimal_eq, Numeral.ofDecimal]
  simp only [length_digitValues hdigits]
  generalize hp : k + ((decimalDigits c).length : Int) - 1 = power
  split_ifs with hrange hk hpower hone
  · -- a zero has no power of ten, so nothing is put behind it
    have hzeros : c ≠ 0 ∨ k.toNat = 0 := hc.imp_right fun hk0 => by rw [hk0]; rfl
    rw [readNumeral?_spelled negative (isWhole_append_zeros hzeros) (isFraction_some (by simp) (by simp)) hrest,
      digitValues_append, digitValues_replicate_zero]
    rfl
  · rw [readNumeral?_spelled negative (hwhole.take (Nat.succ_ne_zero _)) (isFraction_drop (by omega)) hrest,
      Option.map_some, digitValues_take hdigits, digitValues_drop hdigits]
  · have hfraction : IsFraction (some (List.replicate (-power - 1).toNat '0' ++ decimalDigits c)) :=
      isFraction_some (List.append_ne_nil_of_right_ne_nil _ hwhole.ne_nil) fun d hd =>
        (List.mem_append.mp hd).elim isDigit_of_mem_zeros (hdigits d)
    have hzero : IsWhole ['0'] := isWhole_decimalDigits 0
    rw [readNumeral?_spelled negative hzero hfraction hrest, Option.map_some,
      digitValues_append, digitValues_replicate_zero]
    rfl
  · rw [readNumeral?_spelled negative (hwhole.take Nat.one_ne_zero) isFraction_none hrest,
      digitValues_take hdigits]
    rfl
  · rw [readNumeral?_spelled negative (hwhole.take Nat.one_ne_zero) (isFraction_drop (by omega)) hrest,
      digitValues_take hdigits, Option.map_some, digitValues_drop hdigits]

end JsonTree

/-! ### Whole numbers -/

namespace Numeral

theorem le_foldl_digits (ds : List Nat) (n : Nat) : n ≤ ds.foldl (fun n d => n * 10 + d) n := by
  induction ds generalizing n with
  | nil => exact Nat.le_refl n
  | cons d ds ih =>
    rw [List.foldl_cons]
    exact Nat.le_trans (by omega) (ih (n * 10 + d))

/-- Digits are gathered one after another as long as the number stays in range. -/
theorem gather_eq {ds : List Nat} {n : Nat} (h : ds.foldl (fun n d => n * 10 + d) n ≤ largest) :
    gather n ds = (ds.foldl (fun n d => n * 10 + d) n, 0) := by
  induction ds generalizing n with
  | nil => rfl
  | cons d ds ih =>
    rw [List.foldl_cons] at h
    have hle := le_foldl_digits ds (n * 10 + d)
    rw [gather, if_neg (by omega), ih h, List.foldl_cons]

theorem gather_decimalDigits {n : Nat} (h : n ≤ largest) : gather 0 (digitValues (decimalDigits n)) = (n, 0) := by
  have hvalue : (digitValues (decimalDigits n)).foldl (fun n d => n * 10 + d) 0 = n :=
    ofDigits_decimalDigits n
  rw [gather_eq (by rw [hvalue]; exact h), hvalue]

/-- A whole number of at most sixty-four bits has the value that was written. -/
theorem value?_ofInt {n : Int} (hleast : -0x8000000000000000 ≤ n) (hlargest : n ≤ 0xFFFFFFFFFFFFFFFF) :
    (ofInt n).value? = some (.int n) := by
  have hgather := gather_decimalDigits (n := n.natAbs) (by rw [largest]; omega)
  by_cases hn : n < 0
  · have hrange : ¬ (n.natAbs = 0 ∨ n.natAbs > 0x8000000000000000) := by omega
    have hvalue : -(n.natAbs : Int) = n := by omega
    simp only [value?, ofInt, hgather, hn, decide_true, Bool.not_true, Bool.false_eq_true, if_false,
      if_neg hrange, hvalue]
  · have hvalue : (n.natAbs : Int) = n := by omega
    simp only [value?, ofInt, hgather, hn, decide_false, Bool.not_false, if_true, hvalue]

end Numeral

end ResultFilter
