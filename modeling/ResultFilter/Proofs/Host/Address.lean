import ResultFilter.Proofs.Host.Spelling

/-!
# Addresses that are read again

An address has one spelling, and what is written is read as the same address. Of an address of the fourth
version this is four decimal numbers, none of which can be taken for one in another base. Of one of the
sixth version it is its pieces, with a double colon for the first longest run of zeros.

## Main definitions

* `Host.Ipv6.IsProper` — eight pieces of sixteen bits.

## Main results

* `Host.Ipv4.ofName?_render`, `Host.endsInNumber_render` — a written address of the fourth version is one.
* `Host.Ipv6.isProper_of_ofText?` — what is read as an address of the sixth version has eight pieces.
* `Host.Ipv6.ofText?_render` — the spelling of such an address is read as it.
* `Host.isAddress_ipv4`, `Host.isAddress_ipv6` — written addresses are told from names.
-/

namespace ResultFilter.Host

open ResultFilter.Text

/-! ### Four numbers -/

theorem number?_decimalDigits {n : Nat} (h : n < 256) : number? (decimalDigits n) = some n := by
  -- only zero is written with a leading zero, so no number is taken for one in base eight
  have : ∀ n < 256, number? (decimalDigits n) = some n := by decide +kernel
  exact this n h

theorem dropFinalEmpty_of_forall_ne_nil {labels : List Text} (h : ∀ label ∈ labels, label ≠ []) :
    dropFinalEmpty labels = labels := by
  refine if_neg fun hlast => ?_
  exact h [] (List.mem_of_getLast? (eq_of_beq hlast)) rfl

theorem splitDots_joinDots {labels : List Text} (hne : labels ≠ []) (h : ∀ label ∈ labels, '.' ∉ label) :
    splitDots (joinDots labels) = labels :=
  Text.splitOn_join hne h

namespace Ipv4

theorem lt_of_mem_bytes {a : Ipv4} {n : Nat} (h : n ∈ bytes a) : n < 256 := by
  have ha : a.toNat < 4294967296 := a.toNat_lt
  simp only [bytes, List.mem_cons, List.not_mem_nil, or_false] at h
  omega

/-- A reader of numbers up to 255 reads all bytes. -/
theorem mapM_bytes {read? : Text → Option Nat} (h : ∀ n < 256, read? (decimalDigits n) = some n) {a : Ipv4} :
    ((bytes a).map decimalDigits).mapM read? = some (bytes a) := by
  have h := List.mapM_eq_some_map (f := read? ∘ decimalDigits) (g := id) (l := bytes a) fun n hn =>
    h n (lt_of_mem_bytes hn)
  rwa [List.map_id, ← List.mapM_map] at h

/-- The labels of a written address are its bytes. -/
theorem splitDots_render (a : Ipv4) : splitDots (render a) = (bytes a).map decimalDigits := by
  refine splitDots_joinDots (List.cons_ne_nil _ _) fun label hlabel hdot => ?_
  obtain ⟨n, -, rfl⟩ := List.mem_map.mp hlabel
  exact absurd (Nat.isDigit_of_mem_toDigits (by decide) (by decide) hdot) (by decide)

theorem dropFinalEmpty_splitDots_render (a : Ipv4) :
    dropFinalEmpty (splitDots (render a)) = (bytes a).map decimalDigits := by
  rw [splitDots_render]
  refine dropFinalEmpty_of_forall_ne_nil fun label hlabel => ?_
  obtain ⟨n, -, rfl⟩ := List.mem_map.mp hlabel
  exact Nat.toDigits_ne_nil

theorem ofParts?_bytes (a : Ipv4) : ofParts? (bytes a) = some a := by
  have ha : a.toNat < 4294967296 := a.toNat_lt
  have hsum : ofDigits 256 [a.toNat / 0x1000000, a.toNat / 0x10000 % 256, a.toNat / 0x100 % 256] * Nat.pow 256 1
      + a.toNat % 256 = a.toNat := by
    simp only [ofDigits, List.foldl_cons, List.foldl_nil, Nat.pow_eq]
    omega
  have hread : ofParts? (bytes a) = some (UInt32.ofNat
      (ofDigits 256 [a.toNat / 0x1000000, a.toNat / 0x10000 % 256, a.toNat / 0x100 % 256] * Nat.pow 256 1
        + a.toNat % 256)) := by
    refine if_neg ?_
    simp only [Bool.or_eq_true, List.any_cons, List.any_nil, List.length_cons, List.length_nil,
      decide_eq_true_eq, Nat.pow_eq, Bool.false_eq_true, or_false]
    omega
  rw [hread, hsum, UInt32.ofNat_toNat]

/-- A written address is read as it is. -/
theorem ofName?_render (a : Ipv4) : ofName? (render a) = some a := by
  have hnumbers : ((bytes a).map decimalDigits).mapM number? = some (bytes a) :=
    mapM_bytes fun n => number?_decimalDigits
  rw [ofName?, dropFinalEmpty_splitDots_render, hnumbers, Option.bind_eq_bind, Option.bind_some,
    ofParts?_bytes]

end Ipv4

/-- A written address can be nothing but one. -/
theorem endsInNumber_render (a : Ipv4) : endsInNumber (Ipv4.render a) = true := by
  have hlast : ((Ipv4.bytes a).map decimalDigits).getLast? = some (decimalDigits (a.toNat % 256)) := rfl
  unfold endsInNumber
  rw [Ipv4.dropFinalEmpty_splitDots_render, hlast]
  rw [Bool.or_eq_true]
  right
  rw [number?_decimalDigits (Nat.mod_lt _ (by decide))]
  rfl

/-! ### Hexadecimal digits -/

theorem ofDigits_append_singleton (base : Nat) (ds : List Nat) (d : Nat) :
    ofDigits base (ds ++ [d]) = ofDigits base ds * base + d := by
  rw [ofDigits, List.foldl_append]
  rfl

theorem hexValue?_digitChar {d : Nat} (h : d < 16) : hexValue? d.digitChar = some d := by
  have : ∀ d < 16, hexValue? d.digitChar = some d := by decide
  exact this d h

theorem lt_of_hexValue? {c : Char} {d : Nat} (h : hexValue? c = some d) : d < 16 := by
  unfold hexValue? at h
  simp only [Char.le_def, UInt32.le_iff_toNat_le] at h
  have hnat : c.val.toNat = c.toNat := rfl
  have h9 : '9'.val.toNat = 57 := rfl
  have hf : 'f'.val.toNat = 102 := rfl
  have hF : 'F'.val.toNat = 70 := rfl
  rw [hnat, h9, hf, hF] at h
  split at h
  · obtain rfl := Option.some.inj h
    omega
  · split at h
    · obtain rfl := Option.some.inj h
      omega
    · split at h
      · obtain rfl := Option.some.inj h
        omega
      · exact absurd h (by simp)

/-- The digits of a number spell it. -/
theorem exists_digits_of_hexDigits (n : Nat) :
    ∃ ds, (hexDigits n).mapM hexValue? = some ds ∧ ofDigits 16 ds = n := by
  induction n using Nat.strongRecOn with
  | ind n ih =>
    rw [hexDigits, Nat.toDigits_eq_if (by decide)]
    split
    · next hlt =>
      refine ⟨[n], ?_, by simp [ofDigits]⟩
      rw [List.mapM_cons, hexValue?_digitChar hlt]
      rfl
    · next hge =>
      obtain ⟨ds, hds, hn⟩ := ih (n / 16) (by omega)
      have hmod := Nat.mod_lt n (show 16 > 0 by decide)
      refine ⟨ds ++ [n % 16], ?_, ?_⟩
      · rw [hexDigits] at hds
        rw [List.mapM_append, hds, List.mapM_cons, hexValue?_digitChar hmod]
        rfl
      · rw [ofDigits_append_singleton, hn]
        omega

namespace Ipv6

/-! ### Reading a piece -/

theorem readPieces_digit {c : Char} {d : Nat} (hc : hexValue? c = some d) {digits : List Nat}
    (hlen : digits.length < 4) (begun rest : Text) :
    readPieces begun digits (c :: rest) = readPieces begun (d :: digits) rest := by
  have hdot : c ≠ '.' := by
    rintro rfl
    exact Option.some_ne_none d hc.symm
  have hcolon : c ≠ ':' := by
    rintro rfl
    exact Option.some_ne_none d hc.symm
  rw [readPieces, hc]
  · exact if_pos hlen
  · exact hdot
  · exact fun h _ => hcolon h
  · exact fun h _ => hcolon h
  · exact fun _ h _ => hcolon h
  · exact hcolon

theorem readPieces_digits : ∀ {cs : Text} {ds digits : List Nat}, cs.mapM hexValue? = some ds →
    digits.length + cs.length ≤ 4 → ∀ begun rest,
    readPieces begun digits (cs ++ rest) = readPieces begun (ds.reverse ++ digits) rest := by
  intro cs
  induction cs with
  | nil =>
    intro ds digits hds _ begun rest
    obtain rfl : [] = ds := Option.some.inj hds
    rfl
  | cons c cs ih =>
    intro ds digits hds hlen begun rest
    simp only [List.mapM_cons, Option.bind_eq_bind, Option.bind_eq_some_iff, Option.pure_def,
      Option.some.injEq] at hds
    obtain ⟨d, hd, ds, hds, rfl⟩ := hds
    rw [List.length_cons] at hlen
    rw [List.cons_append, readPieces_digit hd (by omega),
      ih hds (by rw [List.length_cons]; omega), List.reverse_cons, List.append_assoc, List.singleton_append]

/-- The digits of a piece are read up to its end. -/
theorem exists_readPieces_hexDigits {p : Nat} (hp : p < 65536) :
    ∃ digits, digits.isEmpty = false ∧ ofDigits 16 digits.reverse = p
      ∧ ∀ begun rest, readPieces begun [] (hexDigits p ++ rest) = readPieces begun digits rest := by
  obtain ⟨ds, hds, hp'⟩ := exists_digits_of_hexDigits p
  have hlen : (hexDigits p).length ≤ 4 :=
    (Nat.length_toDigits_le_iff (by decide) (by decide)).mpr hp
  refine ⟨ds.reverse, ?_, ?_, fun begun rest => ?_⟩
  · have hpos : 0 < (hexDigits p).length := Nat.length_toDigits_pos
    rw [List.isEmpty_eq_false_iff, ← List.length_pos_iff, List.length_reverse,
      List.length_of_mapM_eq_some hds]
    exact hpos
  · rw [List.reverse_reverse, hp']
  · rw [readPieces_digits hds (by simpa using hlen), List.append_nil]

/-! ### Reading all pieces -/

variable {p : Nat}

/-- The last piece. -/
theorem readPieces_last (hp : p < 65536) (begun : Text) :
    readPieces begun [] (hexDigits p) = some ([p], none) := by
  obtain ⟨digits, hne, hdigits, hread⟩ := exists_readPieces_hexDigits hp
  have h := hread begun []
  rw [List.append_nil] at h
  rw [h, ← hdigits]
  exact if_neg (hne.trans_ne Bool.false_ne_true)

/-- A piece that a colon ends. -/
theorem readPieces_colon (hp : p < 65536) (begun : Text) {c : Char} (hc : c ≠ ':') (rest : Text) :
    readPieces begun [] (hexDigits p ++ ':' :: c :: rest)
      = (readPieces (c :: rest) [] (c :: rest)).map fun (pieces, gap) =>
          (p :: pieces, gap.map (· + 1)) := by
  obtain ⟨digits, hne, hdigits, hread⟩ := exists_readPieces_hexDigits hp
  rw [hread, readPieces, hne, hdigits]
  · rfl
  · exact fun h => absurd (List.cons.inj h).1 hc
  · exact List.cons_ne_nil _ _
  · exact fun rest h => hc (List.cons.inj h).1

/-- A piece before a double colon at the end. -/
theorem readPieces_gap (hp : p < 65536) (begun : Text) :
    readPieces begun [] (hexDigits p ++ [':', ':']) = some ([p], some 1) := by
  obtain ⟨digits, hne, hdigits, hread⟩ := exists_readPieces_hexDigits hp
  rw [hread, ← hdigits]
  exact if_neg (hne.trans_ne Bool.false_ne_true)

/-- A piece before a double colon, and the pieces after it. -/
theorem readPieces_gap_cons (hp : p < 65536) (begun : Text) {rest : Text} (hrest : rest ≠ [])
    {pieces : List Nat} (hpieces : readPieces rest [] rest = some (pieces, none)) :
    readPieces begun [] (hexDigits p ++ ':' :: ':' :: rest) = some (p :: pieces, some 1) := by
  obtain ⟨digits, hne, hdigits, hread⟩ := exists_readPieces_hexDigits hp
  obtain ⟨c, cs, rfl⟩ := List.exists_cons_of_ne_nil hrest
  rw [hread, ← hdigits]
  refine (if_neg (hne.trans_ne Bool.false_ne_true)).trans ?_
  rw [hpieces]

theorem head?_hexDigits (p : Nat) (rest : Text) :
    ∃ c, c ≠ ':' ∧ ∃ cs, hexDigits p ++ rest = c :: cs := by
  obtain ⟨c, cs, hcs⟩ := List.exists_cons_of_ne_nil (Nat.toDigits_ne_nil (n := p) (b := 16))
  refine ⟨c, ?_, cs ++ rest, by rw [hexDigits, hcs, List.cons_append]⟩
  have hmem : c ∈ hexDigits p := by
    rw [hexDigits, hcs]
    exact List.mem_cons_self
  obtain ⟨d, hd, rfl⟩ := mem_hexDigits hmem
  have : ∀ d < 16, d.digitChar ≠ ':' := by decide
  exact this d hd

theorem joinColons_cons_cons (p q : Nat) (rest : List Nat) :
    joinColons (p :: q :: rest) = hexDigits p ++ ':' :: joinColons (q :: rest) := rfl

/-- Written pieces begin with no colon. -/
theorem head?_joinColons {pieces : List Nat} (hne : pieces ≠ []) (rest : Text) :
    ∃ c, c ≠ ':' ∧ ∃ cs, joinColons pieces ++ rest = c :: cs := by
  obtain ⟨p, pieces, rfl⟩ := List.exists_cons_of_ne_nil hne
  cases pieces with
  | nil => exact head?_hexDigits p rest
  | cons q pieces =>
    rw [joinColons_cons_cons, List.append_assoc]
    exact head?_hexDigits p _

/-- Written pieces are read as they are. -/
theorem readPieces_joinColons : ∀ {pieces : List Nat}, pieces ≠ [] → (∀ p ∈ pieces, p < 65536) →
    ∀ begun, readPieces begun [] (joinColons pieces) = some (pieces, none) := by
  intro pieces
  induction pieces with
  | nil => intro h; exact absurd rfl h
  | cons p pieces ih =>
    intro _ hpieces begun
    obtain ⟨hp, hpieces⟩ := List.forall_mem_cons.mp hpieces
    cases pieces with
    | nil => exact readPieces_last hp begun
    | cons q pieces =>
      have hne : q :: pieces ≠ [] := List.cons_ne_nil _ _
      obtain ⟨c, hc, cs, hcs⟩ := head?_joinColons hne []
      rw [List.append_nil] at hcs
      -- the next piece begins with a digit, so the colon before it is a single one
      have hrest := ih hne hpieces (c :: cs)
      rw [hcs] at hrest
      rw [joinColons_cons_cons, hcs, readPieces_colon hp begun hc, hrest]
      rfl

/-- Pieces written around a double colon are read with its place. -/
theorem readPieces_joinColons_gap {after : List Nat} (hafter : ∀ p ∈ after, p < 65536) :
    ∀ {before : List Nat}, before ≠ [] → (∀ p ∈ before, p < 65536) → ∀ begun,
    readPieces begun [] (joinColons before ++ ':' :: ':' :: joinColons after)
      = some (before ++ after, some before.length) := by
  intro before
  induction before with
  | nil => intro h; exact absurd rfl h
  | cons p before ih =>
    intro _ hbefore begun
    obtain ⟨hp, hbefore⟩ := List.forall_mem_cons.mp hbefore
    cases before with
    | nil =>
      rcases eq_or_ne after [] with rfl | hne
      · exact readPieces_gap hp begun
      · obtain ⟨c, hc, cs, hcs⟩ := head?_joinColons hne []
        rw [List.append_nil] at hcs
        refine readPieces_gap_cons hp begun ?_ (readPieces_joinColons hne hafter _)
        rw [hcs]
        exact List.cons_ne_nil _ _
    | cons q before =>
      have hne : q :: before ≠ [] := List.cons_ne_nil _ _
      obtain ⟨c, hc, cs, hcs⟩ := head?_joinColons hne (':' :: ':' :: joinColons after)
      have hrest := ih hne hbefore (c :: cs)
      rw [hcs] at hrest
      rw [joinColons_cons_cons, List.append_assoc, List.cons_append, hcs, readPieces_colon hp begun hc, hrest]
      rfl

/-! ### The spelling of an address -/

/-- Eight pieces of sixteen bits. -/
structure IsProper (a : Ipv6) : Prop where
  /-- There are eight. -/
  length : a.pieces.length = 8
  /-- Each has sixteen bits. -/
  lt : ∀ p ∈ a.pieces, p < 65536

theorem ofDigits_reverse_lt {digits : List Nat} (h : ∀ d ∈ digits, d < 16) :
    ofDigits 16 digits.reverse < Nat.pow 16 digits.length := by
  induction digits with
  | nil => decide
  | cons d digits ih =>
    obtain ⟨hd, h⟩ := List.forall_mem_cons.mp h
    have hrest := ih h
    have hpow : Nat.pow 16 (digits.length + 1) = Nat.pow 16 digits.length * 16 := rfl
    rw [List.reverse_cons, ofDigits_append_singleton, List.length_cons, hpow]
    omega

/-- A piece of four digits at most has sixteen bits. -/
theorem lt_of_piece {digits rest : List Nat} (h : ∀ d ∈ digits, d < 16) (hlen : digits.length ≤ 4)
    (hrest : ∀ p ∈ rest, p < 65536) : ∀ p ∈ ofDigits 16 digits.reverse :: rest, p < 65536 :=
  List.forall_mem_cons.mpr
    ⟨Nat.lt_of_lt_of_le (ofDigits_reverse_lt h) (Nat.pow_le_pow_right (by decide) hlen), hrest⟩

theorem le_of_byte? {cs : Text} {n : Nat} (h : byte? cs = some n) : n ≤ 255 := by
  unfold byte? at h
  split at h
  · obtain rfl := Option.some.inj h
    decide
  · exact absurd h (by simp)
  · exact absurd h (by simp)
  · obtain ⟨m, -, h⟩ := Option.bind_eq_some_iff.mp h
    split at h
    · next hm =>
      obtain rfl := Option.some.inj h
      exact hm
    · exact absurd h (by simp)

theorem lt_of_embedded? {cs : Text} {pieces : List Nat} (h : embedded? cs = some pieces) :
    ∀ p ∈ pieces, p < 65536 := by
  unfold embedded? at h
  split at h
  · next a b c d hbytes =>
    obtain rfl := Option.some.inj h
    have hle : ∀ n ∈ [a, b, c, d], n ≤ 255 := fun n hn => by
      obtain ⟨text, -, htext⟩ := List.exists_mem_of_mapM_eq_some hbytes hn
      exact le_of_byte? htext
    simp only [List.mem_cons, List.not_mem_nil, or_false, forall_eq_or_imp, forall_eq] at hle ⊢
    omega
  · exact absurd h (by simp)

/-- Every piece that is read has sixteen bits. -/
theorem lt_of_readPieces {begun cs : Text} {digits pieces : List Nat} {gap : Option Nat}
    (h : readPieces begun digits cs = some (pieces, gap)) (hdigits : ∀ d ∈ digits, d < 16)
    (hlen : digits.length ≤ 4) : ∀ p ∈ pieces, p < 65536 := by
  have hnone : ∀ d ∈ ([] : List Nat), d < 16 := by simp
  -- the digits of a piece are few whenever one is added, and there are none after a colon
  fun_induction readPieces begun digits cs generalizing pieces gap with
  | case1 | case3 | case5 | case7 | case8 | case10 | case11 | case14 | case15 => exact absurd h (by simp)
  | case2 begun digits | case6 begun digits =>
    obtain ⟨rfl, -⟩ := Prod.mk.inj (Option.some.inj h)
    exact lt_of_piece hdigits hlen (by simp)
  | case4 begun digits =>
    obtain ⟨read, hread, heq⟩ := Option.map_eq_some_iff.mp h
    obtain ⟨rfl, -⟩ := Prod.mk.inj heq
    exact lt_of_embedded? hread
  | case9 begun digits rest _ _ read hread ih =>
    obtain ⟨rfl, -⟩ := Prod.mk.inj (Option.some.inj h)
    exact lt_of_piece hdigits hlen (ih hread hnone (by decide))
  | case12 begun digits rest _ _ _ _ ih =>
    obtain ⟨⟨read, gap'⟩, hread, heq⟩ := Option.map_eq_some_iff.mp h
    obtain ⟨rfl, -⟩ := Prod.mk.inj heq
    exact lt_of_piece hdigits hlen (ih hread hnone (by decide))
  | case13 begun digits c rest _ _ _ _ _ d hd hroom ih =>
    exact ih h (List.forall_mem_cons.mpr ⟨lt_of_hexValue? hd, hdigits⟩) hroom

theorem isProper_of_fillGap? {pieces : List Nat} {gap : Option Nat} {a : Ipv6}
    (h : fillGap? pieces gap = some a) (hpieces : ∀ p ∈ pieces, p < 65536) : a.IsProper := by
  unfold fillGap? at h
  split at h
  · split at h
    · next hlength =>
      obtain rfl := Option.some.inj h
      exact ⟨hlength, hpieces⟩
    · exact absurd h (by simp)
  · split at h
    · next i hlength =>
      obtain rfl := Option.some.inj h
      refine ⟨?_, fun p hp => ?_⟩
      · simp only [List.length_append, List.length_take, List.length_replicate, List.length_drop]
        omega
      · rcases List.mem_append.mp hp with hp | hp
        · rcases List.mem_append.mp hp with hp | hp
          · exact hpieces p (List.mem_of_mem_take hp)
          · rw [List.eq_of_mem_replicate hp]
            decide
        · exact hpieces p (List.mem_of_mem_drop hp)
    · exact absurd h (by simp)

/-- What is read as an address has eight pieces of sixteen bits. -/
theorem isProper_of_ofText? {cs : Text} {a : Ipv6} (h : ofText? cs = some a) : a.IsProper := by
  have hread {cs : Text} {pieces : List Nat} {gap : Option Nat}
      (h : readPieces cs [] cs = some (pieces, gap)) : ∀ p ∈ pieces, p < 65536 :=
    lt_of_readPieces h (by simp) (by decide)
  unfold ofText? at h
  split at h
  · exact isProper_of_fillGap? h (by simp)
  · split at h
    · next hpieces => exact isProper_of_fillGap? h (hread hpieces)
    · exact absurd h (by simp)
  · exact absurd h (by simp)
  · obtain ⟨⟨pieces, gap⟩, hpieces, h⟩ := Option.bind_eq_some_iff.mp h
    exact isProper_of_fillGap? h (hread hpieces)

theorem zeroRun_spec (pieces : List Nat) :
    ∃ after, pieces = List.replicate (zeroRun pieces) 0 ++ after := by
  refine ⟨pieces.dropWhile (· == 0), ?_⟩
  have hzeros : pieces.takeWhile (· == 0) = List.replicate (zeroRun pieces) 0 := by
    refine List.eq_replicate_iff.mpr ⟨rfl, fun p hp => ?_⟩
    exact eq_of_beq (List.all_eq_true.mp List.all_takeWhile p hp)
  rw [← hzeros, List.takeWhile_append_dropWhile]

/-- The longest run is a run of zeros. -/
theorem longestRun_spec : ∀ (pieces : List Nat) (i : Nat), ∃ before n after,
    pieces = before ++ List.replicate n 0 ++ after ∧ longestRun i pieces = (i + before.length, n) := by
  intro pieces
  induction pieces with
  | nil => intro i; exact ⟨[], 0, [], rfl, rfl⟩
  | cons p pieces ih =>
    intro i
    rw [longestRun]
    split
    · -- the run at the start is no shorter than those later on
      obtain ⟨after, hafter⟩ := zeroRun_spec (p :: pieces)
      exact ⟨[], _, after, hafter, rfl⟩
    · obtain ⟨before, n, after, hpieces, hrun⟩ := ih (i + 1)
      refine ⟨p :: before, n, after, by rw [hpieces]; rfl, ?_⟩
      rw [hrun, List.length_cons]
      congr 1
      omega

/-- A text that begins with no colon is read from its first piece on. -/
theorem ofText?_of_ne_colon {c : Char} (hc : c ≠ ':') (cs : Text) :
    ofText? (c :: cs) = (readPieces (c :: cs) [] (c :: cs)).bind fun (pieces, gap) => fillGap? pieces gap := by
  rw [ofText?]
  · exact fun h => absurd (List.cons.inj h).1 hc
  · exact fun rest h => hc (List.cons.inj h).1
  · exact fun rest h => hc (List.cons.inj h).1

theorem ofText?_joinColons {pieces : List Nat} (hne : pieces ≠ []) (hpieces : ∀ p ∈ pieces, p < 65536) :
    ofText? (joinColons pieces) = fillGap? pieces none := by
  obtain ⟨c, hc, cs, hcs⟩ := head?_joinColons hne []
  rw [List.append_nil] at hcs
  rw [hcs, ofText?_of_ne_colon hc, ← hcs, readPieces_joinColons hne hpieces]
  rfl

theorem ofText?_joinColons_gap {before after : List Nat} (hbefore : ∀ p ∈ before, p < 65536)
    (hafter : ∀ p ∈ after, p < 65536) :
    ofText? (joinColons before ++ ':' :: ':' :: joinColons after)
      = fillGap? (before ++ after) (some before.length) := by
  rcases eq_or_ne before [] with rfl | hne
  · rcases eq_or_ne after [] with rfl | hafterne
    · rfl
    · obtain ⟨c, -, cs, hcs⟩ := head?_joinColons hafterne []
      rw [List.append_nil] at hcs
      have hread := readPieces_joinColons hafterne hafter (joinColons after)
      rw [hcs] at hread
      rw [joinColons, List.nil_append, hcs, ofText?, hread]
      · rfl
      · exact List.cons_ne_nil _ _
  · obtain ⟨c, hc, cs, hcs⟩ := head?_joinColons hne (':' :: ':' :: joinColons after)
    rw [hcs, ofText?_of_ne_colon hc, ← hcs, readPieces_joinColons_gap hafter hne hbefore]
    rfl

/-- The spelling of an address is read as it. -/
theorem ofText?_render {a : Ipv6} (h : a.IsProper) : ofText? (render a) = some a := by
  obtain ⟨before, n, after, hpieces, hrun⟩ := longestRun_spec a.pieces 0
  obtain ⟨hlength, hlt⟩ := h
  rw [Nat.zero_add] at hrun
  unfold render
  rw [hrun]
  dsimp only
  split
  · have hne : a.pieces ≠ [] := by
      intro hnil
      rw [hnil] at hlength
      exact absurd hlength (by decide)
    rw [ofText?_joinColons hne hlt]
    exact if_pos hlength
  · have htake : a.pieces.take before.length = before := by
      rw [hpieces, List.append_assoc, List.take_left]
    have hdrop : a.pieces.drop (before.length + n) = after := by
      rw [hpieces]
      exact List.drop_left' (by simp)
    have hbefore : ∀ p ∈ before, p < 65536 := fun p hp => hlt p (by rw [hpieces]; simp [hp])
    have hafter : ∀ p ∈ after, p < 65536 := fun p hp => hlt p (by rw [hpieces]; simp [hp])
    have hsum : before.length + n + after.length = 8 := by
      rw [← hlength, hpieces]
      simp [Nat.add_assoc]
    rw [htake, hdrop, List.append_assoc]
    have hread := ofText?_joinColons_gap hbefore hafter
    -- the zeros that were left out are as many as the pieces that are missing
    rw [fillGap?, if_pos (by rw [List.length_append]; omega), List.take_left, List.drop_left,
      List.length_append, show 8 - (before.length + after.length) = n by omega, ← hpieces] at hread
    exact hread

end Ipv6

/-! ### Telling addresses -/

theorem dropWhile_beq_of_not_mem {c : Char} {cs : Text} (h : c ∉ cs) : cs.dropWhile (· == c) = cs :=
  List.dropWhile_beq_eq_self_of_head?_ne fun hhead => h (List.mem_of_head? hhead)

theorem isAddress_of_not_mem {cs : Text} (hopen : '[' ∉ cs) (hclose : ']' ∉ cs) :
    isAddress cs = ((Ipv6.embedded? cs).isSome || (Ipv6.ofText? cs).isSome) := by
  unfold isAddress
  rw [dropWhile_beq_of_not_mem hopen, dropWhile_beq_of_not_mem (fun h => hclose (List.mem_reverse.mp h)),
    List.reverse_reverse]

theorem isAddress_brackets {cs : Text} (hopen : '[' ∉ cs) (hclose : ']' ∉ cs) :
    isAddress ('[' :: cs ++ [']']) = isAddress cs := by
  have hstart : ('[' :: cs ++ [']']).dropWhile (· == '[') = cs ++ [']'] := by
    rw [List.cons_append, List.dropWhile_cons_of_pos rfl]
    exact dropWhile_beq_of_not_mem (by simpa using hopen)
  have hinner : ((('[' :: cs ++ [']']).dropWhile (· == '[')).reverse.dropWhile (· == ']')).reverse = cs := by
    rw [hstart, List.reverse_concat, List.dropWhile_cons_of_pos rfl,
      dropWhile_beq_of_not_mem (fun h => hclose (List.mem_reverse.mp h)), List.reverse_reverse]
  rw [isAddress_of_not_mem hopen hclose]
  unfold isAddress
  rw [hinner]

/-- A written address of the fourth version is told to be one. -/
theorem isAddress_ipv4 (a : Ipv4) : isAddress (Ipv4.render a) = true := by
  have hbytes : (splitDots (Ipv4.render a)).mapM Ipv6.byte? = some (Ipv4.bytes a) := by
    rw [Ipv4.splitDots_render]
    exact Ipv4.mapM_bytes (by decide +kernel)
  have hnot {c : Char} (hne : c ≠ '.') (hdigit : c.isDigit = false) : c ∉ Ipv4.render a := fun hc => by
    rcases mem_ipv4 hc with h | h
    · exact hne h
    · rw [hdigit] at h
      exact Bool.false_ne_true h
  rw [isAddress_of_not_mem (hnot (by decide) (by decide)) (hnot (by decide) (by decide)), Ipv6.embedded?, hbytes]
  rfl

/-- What stands in brackets is told to be an address. -/
theorem isAddress_ipv6 {a : Ipv6} (h : a.IsProper) : isAddress ('[' :: Ipv6.render a ++ [']']) = true := by
  have hnot {c : Char} (hne : c ≠ ':') (hdigit : ∀ d < 16, c ≠ d.digitChar) : c ∉ Ipv6.render a := fun hc => by
    rcases mem_ipv6 hc with h | ⟨d, hd, h⟩
    · exact hne h
    · exact hdigit d hd h
  have hopen : '[' ∉ Ipv6.render a := hnot (by decide) (by decide)
  have hclose : ']' ∉ Ipv6.render a := hnot (by decide) (by decide)
  rw [isAddress_brackets hopen hclose, isAddress_of_not_mem hopen hclose, Ipv6.ofText?_render h, Option.isSome_some,
    Bool.or_true]

end ResultFilter.Host
