import ResultFilter.Proofs.Decimal.Shortest
import ResultFilter.Proofs.Json.Numeral

/-!
# Values written and read again

The structure of a text that a value was written as is that of the value, at any depth.

## Main definitions

* `Json.tree` — the structure that a value is written with.

## Main results

* `JsonTree.ofText?_render` — the structure of a text is that of the value written.
-/

namespace ResultFilter

open ResultFilter.Text

namespace Json

mutual

/-- The structure that a value is written with. -/
def tree : Json → JsonTree
  | .null => .null
  | .bool b => .bool b
  | .int n => .number (.ofInt n)
  | .float x => .number x.numeral
  | .string s => .string (some s)
  | .array items => .array (treeItems items)
  | .object fields => .object (treeFields fields)

/-- The structures of items. -/
def treeItems : List Json → List JsonTree
  | [] => []
  | v :: rest => tree v :: treeItems rest

/-- The structures of fields. -/
def treeFields : List (Text × Json) → List (Option Text × JsonTree)
  | [] => []
  | (k, v) :: rest => (some k, tree v) :: treeFields rest

end

end Json

/-- A number is written as digits: only a zero has none but a zero, and it has no power of ten. -/
theorem Binary64.shortest_spelled (x : Binary64) : x.shortest.1 ≠ 0 ∨ x.shortest.2 = 0 := by
  by_cases hx : x.mantissa = 0
  · right
    rw [shortest, if_pos (by simpa [isZero] using hx)]
  · exact Or.inl (shortest_ne_zero hx)

namespace JsonTree

/-! ### Strings -/

theorem unit?_hexDigit {n : Nat} (h : n < 32) :
    unit? '0' '0' (hexDigit (n / 16)) (hexDigit (n % 16)) = some n := by
  have hall : ∀ n < 32, unit? '0' '0' (hexDigit (n / 16)) (hexDigit (n % 16)) = some n := by decide
  exact hall n h

/-- A character of a string is read as its code, whether or not it is escaped. -/
theorem readUnits_escapeChar (c : Char) (rest : Text) :
    readUnits (Json.escapeChar c ++ rest)
      = (readUnits rest).bind fun (us, rest) => some (c.toNat :: us, rest) := by
  unfold Json.escapeChar
  split_ifs with hquote hslash hb ht hn hf hr hcontrol
  · subst hquote; simp [readUnits]
  · subst hslash; simp [readUnits]
  · subst hb; simp [readUnits]
  · subst ht; simp [readUnits]
  · subst hn; simp [readUnits]
  · subst hf; simp [readUnits]
  · subst hr; simp [readUnits]
  · have hunit := unit?_hexDigit (n := c.toNat) (by exact hcontrol)
    simp only [List.cons_append, List.nil_append, readUnits, hunit]
    rfl
  · rw [List.singleton_append, readUnits.eq_def]
    split
    · next h => exact absurd h (List.cons_ne_nil _ _)
    · next h => exact absurd (List.cons.inj h).1 hquote
    · next h => exact absurd (List.cons.inj h).1 hslash
    · next h => exact absurd (List.cons.inj h).1 hslash
    · next h =>
      obtain ⟨rfl, rfl⟩ := List.cons.inj h
      rw [if_neg (not_or.mpr ⟨hcontrol, hslash⟩)]
      rfl

theorem readUnits_flatMap (s rest : Text) :
    readUnits (s.flatMap Json.escapeChar ++ '"' :: rest) = some (s.map Char.toNat, rest) := by
  induction s with
  | nil => rfl
  | cons c s ih =>
    rw [List.flatMap_cons, List.append_assoc, readUnits_escapeChar, ih]
    rfl

/-- The codes of the characters of a text spell it. -/
theorem ofUnits?_map_toNat (s : Text) : ofUnits? (s.map Char.toNat) = some s := by
  induction s with
  | nil => rfl
  | cons c s ih =>
    have hvalid : c.toNat < 0xD800 ∨ 0xDFFF < c.toNat := c.valid.imp id fun h => h.1
    rw [List.map_cons, ofUnits?.eq_def]
    simp only
    rw [if_neg (by omega), if_neg (by omega), ih, Option.map_some, Char.ofNat_toNat]

/-! ### Values -/

theorem isDigit_ne {c d : Char} (hc : c.isDigit = true) (hd : d.isDigit = false) : c ≠ d := by
  rintro rfl
  rw [hc] at hd
  exact Bool.noConfusion hd

theorem isSpace_of_isDigit {c : Char} (h : c.isDigit = true) : isSpace c = false := by
  simp only [isSpace, Bool.or_eq_false_iff, beq_eq_false_iff_ne]
  exact ⟨⟨⟨isDigit_ne h rfl, isDigit_ne h rfl⟩, isDigit_ne h rfl⟩, isDigit_ne h rfl⟩

theorem dropWhile_isSpace {c : Char} (h : isSpace c = false) (cs : Text) :
    (c :: cs).dropWhile isSpace = c :: cs :=
  List.dropWhile_cons_of_neg (by rw [h]; decide)

/-- A value that begins with a digit is a number. -/
theorem readValue_of_isDigit {c : Char} (hc : c.isDigit = true) (fuel : Nat) (cs : Text) :
    readValue (fuel + 1) (c :: cs)
      = (readNumeral? false (c :: cs)).map fun (s, rest) => (.number s, rest) := by
  rw [readValue, dropWhile_isSpace (isSpace_of_isDigit hc)]
  split
  all_goals first
    | rfl
    | next h => exact absurd (List.cons.inj h).1 (isDigit_ne hc rfl)

theorem exists_renderDecimal_eq_cons (c : Nat) (k : Int) :
    ∃ d cs, d.isDigit = true ∧ Json.numberStyle.renderDecimal c k = d :: cs := by
  obtain ⟨d, ds, hds⟩ := List.exists_cons_of_ne_nil (decimalDigits_ne_nil c)
  have hd : d.isDigit = true := isDigit_of_mem_decimalDigits (n := c) (by rw [hds]; exact List.mem_cons_self)
  rw [renderDecimal_eq]
  simp only [hds]
  split_ifs
  · exact ⟨d, _, hd, rfl⟩
  · exact ⟨d, _, hd, rfl⟩
  · exact ⟨'0', _, rfl, rfl⟩
  · exact ⟨d, _, hd, rfl⟩
  · exact ⟨d, _, hd, rfl⟩

/-- A value begins with a character that is neither blank nor the end of an array. -/
theorem exists_render_eq_cons (v : Json) :
    ∃ c cs, v.render = c :: cs ∧ isSpace c = false ∧ c ≠ ']' := by
  have hdigit : ∀ {c : Char}, c.isDigit = true → isSpace c = false ∧ c ≠ ']' :=
    fun h => ⟨isSpace_of_isDigit h, isDigit_ne h rfl⟩
  cases v with
  | null => exact ⟨'n', _, rfl, rfl, by decide⟩
  | bool b => cases b <;> exact ⟨_, _, rfl, rfl, by decide⟩
  | int n =>
    rw [Json.render, Json.renderInt]
    split
    · exact ⟨'-', _, rfl, rfl, by decide⟩
    · obtain ⟨d, ds, hds⟩ := List.exists_cons_of_ne_nil (decimalDigits_ne_nil n.natAbs)
      refine ⟨d, ds, hds, hdigit ?_⟩
      exact isDigit_of_mem_decimalDigits (n := n.natAbs) (by rw [hds]; exact List.mem_cons_self)
  | float x =>
    rw [Json.render, Binary64.render]
    cases x.negative with
    | true => exact ⟨'-', _, rfl, rfl, by decide⟩
    | false =>
      obtain ⟨d, ds, hd, hds⟩ := exists_renderDecimal_eq_cons x.shortest.1 x.shortest.2
      exact ⟨d, ds, hds, hdigit hd⟩
  | string s => exact ⟨'"', _, rfl, rfl, by decide⟩
  | array items => exact ⟨'[', _, rfl, rfl, by decide⟩
  | object fields => exact ⟨'\x7b', _, rfl, rfl, by decide⟩

theorem readValue_int (n : Int) {rest : Text} (hrest : EndsNumeral rest) (fuel : Nat) :
    readValue (fuel + 1) ((Json.int n).render ++ rest) = some ((Json.int n).tree, rest) := by
  have hread := fun negative => readNumeral?_decimalDigits negative n.natAbs hrest
  rw [Json.render, Json.renderInt, Json.tree, Numeral.ofInt]
  by_cases hn : n < 0
  · rw [if_pos hn, List.append_assoc, List.singleton_append, readValue, dropWhile_isSpace rfl]
    show (readNumeral? true _).map _ = _
    rw [hread, decide_eq_true hn]
    rfl
  · obtain ⟨d, ds, hds⟩ := List.exists_cons_of_ne_nil (decimalDigits_ne_nil n.natAbs)
    have hd : d.isDigit = true :=
      isDigit_of_mem_decimalDigits (n := n.natAbs) (by rw [hds]; exact List.mem_cons_self)
    specialize hread false
    rw [if_neg hn, List.nil_append, decide_eq_false hn]
    rw [hds, List.cons_append] at hread ⊢
    rw [readValue_of_isDigit hd, hread]
    rfl

theorem readValue_float (x : Binary64) {rest : Text} (hrest : EndsNumeral rest)
    (fuel : Nat) : readValue (fuel + 1) ((Json.float x).render ++ rest) = some ((Json.float x).tree, rest) := by
  have hread := fun negative => readNumeral?_renderDecimal negative x.shortest_spelled hrest
  rw [Json.render, Binary64.render, Json.tree, Binary64.numeral]
  cases x.negative with
  | true =>
    show readValue (fuel + 1) ('-' :: (Json.numberStyle.renderDecimal x.shortest.1 x.shortest.2 ++ rest)) = _
    rw [readValue, dropWhile_isSpace rfl]
    show (readNumeral? true _).map _ = _
    rw [hread]
    rfl
  | false =>
    obtain ⟨d, ds, hd, hds⟩ := exists_renderDecimal_eq_cons x.shortest.1 x.shortest.2
    specialize hread false
    show readValue (fuel + 1) (Json.numberStyle.renderDecimal x.shortest.1 x.shortest.2 ++ rest) = _
    rw [hds, List.cons_append] at hread ⊢
    rw [readValue_of_isDigit hd, hread]
    rfl

theorem readValue_string (s rest : Text) (fuel : Nat) :
    readValue (fuel + 1) ((Json.string s).render ++ rest) = some ((Json.string s).tree, rest) := by
  rw [Json.render, Json.renderString, List.append_assoc, List.cons_append, List.singleton_append, readValue,
    dropWhile_isSpace rfl]
  show (readUnits (s.flatMap Json.escapeChar ++ '"' :: rest)).map _ = _
  rw [readUnits_flatMap]
  show some (JsonTree.string (ofUnits? (s.map Char.toNat)), rest) = _
  rw [ofUnits?_map_toNat]
  rfl

theorem endsNumeral_cons {c : Char} (h : isNumeric c = false) (rest : Text) : EndsNumeral (c :: rest) := by
  intro d hd
  obtain rfl := Option.some.inj hd
  exact h

theorem readValue_bracket (fuel : Nat) (cs : Text) :
    readValue (fuel + 1) ('[' :: cs) = match cs.dropWhile isSpace with
      | ']' :: rest => some (.array [], rest)
      | rest => (readItems fuel rest).map fun (items, rest) => (.array items, rest) := by
  rw [readValue, dropWhile_isSpace rfl]
  rfl

theorem readValue_array {c : Char} (hc : isSpace c = false) (hclose : c ≠ ']') (fuel : Nat) (cs : Text) :
    readValue (fuel + 1) ('[' :: c :: cs)
      = (readItems fuel (c :: cs)).map fun (items, rest) => (.array items, rest) := by
  rw [readValue_bracket, dropWhile_isSpace hc]
  split
  · next h => exact absurd (List.cons.inj h).1 hclose
  · rfl

theorem exists_renderItems_eq_cons (v : Json) (items : List Json) :
    ∃ c cs, Json.renderItems (v :: items) = c :: cs ∧ isSpace c = false ∧ c ≠ ']' := by
  obtain ⟨c, cs, hrender, hc⟩ := exists_render_eq_cons v
  cases items with
  | nil => exact ⟨c, cs, hrender, hc⟩
  | cons w items => exact ⟨c, _, by rw [Json.renderItems, hrender, List.cons_append], hc⟩

theorem exists_renderFields_eq_cons (k : Text) (v : Json) (fields : List (Text × Json)) :
    ∃ cs, Json.renderFields ((k, v) :: fields) = '"' :: cs := by
  cases fields with
  | nil => exact ⟨_, rfl⟩
  | cons f fields => exact ⟨_, rfl⟩

/-- A key with its colon, before a value. -/
theorem readFields_key (k : Text) (fuel : Nat) (rest : Text) :
    readFields (fuel + 1) (Json.renderString k ++ ':' :: rest)
      = (readValue fuel rest).bind fun (value, rest) =>
        match rest.dropWhile isSpace with
        | ',' :: rest => (readFields fuel rest).bind fun (fields, rest) => some ((some k, value) :: fields, rest)
        | '\x7d' :: rest => some ([(some k, value)], rest)
        | _ => none := by
  rw [Json.renderString, List.append_assoc, List.cons_append, List.singleton_append, readFields,
    dropWhile_isSpace rfl]
  show (readUnits (k.flatMap Json.escapeChar ++ '"' :: ':' :: rest)).bind _ = _
  rw [readUnits_flatMap, Option.bind_some, ← ofUnits?_map_toNat k]
  rfl

theorem length_render_pos (v : Json) : 0 < v.render.length := by
  obtain ⟨c, cs, hrender, -, -⟩ := exists_render_eq_cons v
  rw [hrender]
  exact Nat.succ_pos _

mutual

/-- A value is read as it was written, whatever follows it. Each of its characters allows two steps. -/
theorem readValue_render : ∀ (v : Json) (fuel : Nat) (rest : Text), EndsNumeral rest →
    2 * v.render.length < fuel → readValue fuel (v.render ++ rest) = some (v.tree, rest)
  | v, 0, _, _, hfuel => absurd hfuel (Nat.not_lt_zero _)
  | .null, fuel + 1, rest, _, _ => rfl
  | .bool true, fuel + 1, rest, _, _ => rfl
  | .bool false, fuel + 1, rest, _, _ => rfl
  | .int n, fuel + 1, rest, hrest, _ => readValue_int n hrest fuel
  | .float x, fuel + 1, rest, hrest, _ => readValue_float x hrest fuel
  | .string s, fuel + 1, rest, _, _ => readValue_string s rest fuel
  | .array [], fuel + 1, rest, _, _ => rfl
  | .array (v :: items), fuel + 1, rest, _, hfuel => by
    rw [Json.render, List.length_append, List.length_cons, List.length_singleton] at hfuel
    have hread := readItems_render v items fuel rest (by omega)
    obtain ⟨c, cs, hcs, hc, hclose⟩ := exists_renderItems_eq_cons v items
    rw [Json.render, List.append_assoc, List.cons_append, List.singleton_append]
    rw [hcs, List.cons_append] at hread ⊢
    rw [readValue_array hc hclose, hread]
    rfl
  | .object [], fuel + 1, rest, _, _ => rfl
  | .object ((k, v) :: fields), fuel + 1, rest, _, hfuel => by
    rw [Json.render, List.length_append, List.length_cons, List.length_singleton] at hfuel
    have hread := readFields_render k v fields fuel rest (by omega)
    obtain ⟨cs, hcs⟩ := exists_renderFields_eq_cons k v fields
    rw [Json.render, List.append_assoc, List.cons_append, List.singleton_append]
    rw [hcs, List.cons_append] at hread ⊢
    show (readFields fuel ('"' :: (cs ++ '\x7d' :: rest))).map _ = _
    rw [hread]
    rfl

/-- Items are read as they were written. -/
theorem readItems_render : ∀ (v : Json) (items : List Json) (fuel : Nat) (rest : Text),
    2 * (Json.renderItems (v :: items)).length + 1 < fuel →
    readItems fuel (Json.renderItems (v :: items) ++ ']' :: rest) = some (Json.treeItems (v :: items), rest)
  | _, _, 0, _, hfuel => absurd hfuel (Nat.not_lt_zero _)
  | v, [], fuel + 1, rest, hfuel => by
    rw [Json.renderItems] at hfuel ⊢
    rw [readItems, readValue_render v fuel _ (endsNumeral_cons rfl rest) (by omega)]
    rfl
  | v, w :: items, fuel + 1, rest, hfuel => by
    rw [Json.renderItems, List.length_append, List.length_cons] at hfuel
    have hmore := readItems_render w items fuel rest (by have := length_render_pos v; omega)
    rw [Json.renderItems, List.append_assoc, List.cons_append, readItems,
      readValue_render v fuel _ (endsNumeral_cons rfl _) (by omega)]
    show (readItems fuel (Json.renderItems (w :: items) ++ ']' :: rest)).bind _ = _
    rw [hmore]
    rfl

/-- Fields are read as they were written. -/
theorem readFields_render : ∀ (k : Text) (v : Json) (fields : List (Text × Json)) (fuel : Nat)
    (rest : Text),
    2 * (Json.renderFields ((k, v) :: fields)).length + 1 < fuel →
    readFields fuel (Json.renderFields ((k, v) :: fields) ++ '\x7d' :: rest)
      = some (Json.treeFields ((k, v) :: fields), rest)
  | _, _, _, 0, _, hfuel => absurd hfuel (Nat.not_lt_zero _)
  | k, v, [], fuel + 1, rest, hfuel => by
    rw [Json.renderFields, List.length_append, List.length_cons] at hfuel
    rw [Json.renderFields, List.append_assoc, List.cons_append, readFields_key,
      readValue_render v fuel _ (endsNumeral_cons rfl rest) (by omega)]
    rfl
  | k, v, (l, w) :: fields, fuel + 1, rest, hfuel => by
    rw [Json.renderFields, List.length_append, List.length_cons, List.length_append, List.length_cons] at hfuel
    have hmore := readFields_render l w fields fuel rest
      (by have := length_render_pos v; omega)
    rw [Json.renderFields, List.append_assoc, List.cons_append, List.append_assoc, List.cons_append,
      readFields_key, readValue_render v fuel _ (endsNumeral_cons rfl _) (by omega)]
    show (readFields fuel (Json.renderFields ((l, w) :: fields) ++ '\x7d' :: rest)).bind _ = _
    rw [hmore]
    rfl

end

/-- The structure of a text is that of the value that was written. -/
theorem ofText?_render (v : Json) : ofText? v.render = some v.tree := by
  have hread := readValue_render v (2 * v.render.length + 2) []
    (fun c hc => absurd hc (by simp)) (by omega)
  rw [List.append_nil] at hread
  rw [ofText?, hread]
  rfl

end JsonTree

end ResultFilter
