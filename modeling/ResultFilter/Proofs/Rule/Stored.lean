import ResultFilter.Proofs.Json.Decode
import ResultFilter.Rule.Basic
import ResultFilter.Rule.Stored

/-!
# Rules read from their stored form

Specifiers, regular expressions and conditions that were read from a line are stored and read again as
what they were. A regular expression is checked a second time: its slashes have no escapes left, and the
letters of its flags are those of the same flags.

## Main definitions

* `Specifier.IsProper`, `Regex.IsProper`, `Expression.IsProper` — what can be read from a line.

## Main results

* `Specifier.reads_toJson`, `Regex.reads_toJson`, `Expression.reads_toJson` — what is stored is read.
-/

namespace ResultFilter

open ResultFilter.Text

/-! ### Specifiers -/

/-- A specifier that a line can have. -/
def Specifier.IsProper : Specifier → Prop
  | .negate => True
  | .highlight color => 1 ≤ color ∧ color ≤ 0xFFFFFFFF

theorem Specifier.reads_toJson {s : Specifier} (hs : s.IsProper) : Specifier.decode.Reads s.toJson s := by
  have hcode : s.code ≤ 0xFFFFFFFF := by
    cases s with
    | negate => exact Nat.zero_le _
    | highlight color => exact hs.2
  have hof : Specifier.ofCode s.code = s := by
    cases s with
    | negate => rfl
    | highlight color => exact if_neg (Nat.ne_of_gt hs.1)
  have hreads := (Decoder.reads_word32 hcode).map Specifier.ofCode
  rwa [hof] at hreads

/-! ### Regular expressions -/

/-- The letters of some flags are read as these. -/
theorem RegexFlags.ofText_render (flags : RegexFlags) : ofText flags.render = .ok flags := by
  obtain ⟨i, m, s, u, g, y⟩ := flags
  cases i <;> cases m <;> cases s <;> cases u <;> cases g <;> cases y <;> rfl

theorem unescapeSlashes_cons_of_ne {c : Char} (hc : c ≠ '\\') (rest : Text) :
    unescapeSlashes (c :: rest) = c :: unescapeSlashes rest := by
  rw [unescapeSlashes]
  exact fun _ _ h => absurd h hc

/-- No escape of a slash is left after they have been taken off. -/
theorem unescapeSlashes_idem (text : Text) : unescapeSlashes (unescapeSlashes text) = unescapeSlashes text := by
  fun_induction unescapeSlashes text with
  | case1 rest ih => rw [unescapeSlashes_cons_of_ne (by decide), ih]
  | case2 c rest hc ih => rw [unescapeSlashes, if_neg hc, ih]
  | case3 c rest h ih =>
    by_cases hc : c = '\\'
    · -- a backslash at the end stands alone
      cases rest with
      | nil => rw [hc]; rfl
      | cons d rest => exact absurd rfl (h d rest hc)
    · rw [unescapeSlashes_cons_of_ne hc, ih]
  | case4 => rfl

/-- The escapes of the slashes have been taken off. -/
def Regex.IsProper (r : Regex) : Prop :=
  unescapeSlashes r.source = r.source

theorem Regex.source_of_ofText {text : Text} {flags : RegexFlags} {r : Regex}
    (h : Regex.ofText text flags = some r) : r.source = unescapeSlashes text ∧ r.flags = flags := by
  unfold Regex.ofText at h
  simp only at h
  split at h
  · obtain rfl := Option.some.inj h
    exact ⟨rfl, rfl⟩
  · exact absurd h (by simp)

theorem Regex.isProper_of_ofText {text : Text} {flags : RegexFlags} {r : Regex}
    (h : Regex.ofText text flags = some r) : r.IsProper := by
  rw [Regex.IsProper, (Regex.source_of_ofText h).1, unescapeSlashes_idem]

/-- A regular expression is read from its source and its flags. -/
theorem Regex.ofText_source {r : Regex} (hr : r.IsProper) : Regex.ofText r.source r.flags = some r := by
  unfold Regex.ofText
  simp only
  split
  · exact congrArg some (Regex.ext_source hr rfl)
  · next h => 
    rw [hr, r.readPattern] at h
    exact absurd h (by simp)

theorem Regex.depth_toJson (r : Regex) : r.toJson.depth = 1 := by
  unfold Regex.toJson
  dsimp only
  split <;> rfl

theorem Regex.reads_toJson {r : Regex} (hr : r.IsProper) : Decoder.Reads Regex.decode r.toJson r := by
  have hflags : (RegexFlags.ofText r.flags.render).toOption = some r.flags := by
    rw [RegexFlags.ofText_render]
    rfl
  have hfinal := Regex.ofText_source hr
  unfold Regex.toJson
  generalize r.flags.render = letters at hflags
  cases letters with
  | nil =>
    refine ⟨fun {limit} _ => ?_⟩
    refine Record.ofTree?_bind ["source".toList] rfl (by decide) (by decide) fun {inner} hinner => ?_
    rw [Record.required_eq rfl (Decoder.reads_text r.source) hinner, Record.withDefault_of_find?_eq_none rfl]
    simp only [Option.bind_eq_bind, Option.bind_some, Option.ite_some_bind, hflags, hfinal]
    rfl
  | cons c letters =>
    refine ⟨fun {limit} _ => ?_⟩
    refine Record.ofTree?_bind ["source".toList, "flags".toList] rfl (by decide) (by decide)
      fun {inner} hinner => ?_
    rw [Record.required_eq rfl (Decoder.reads_text r.source) hinner,
      Record.withDefault_eq rfl (Decoder.reads_text (c :: letters)) hinner]
    simp only [Option.bind_eq_bind, Option.bind_some, Option.ite_some_bind, hflags, hfinal, ← ite_and]
    exact if_congr (by simp [Json.depthFields, Json.optionalField, Json.field]) rfl rfl

/-! ### Conditions -/

theorem StringOp.reads_name (op : StringOp) : Decoder.Reads StringOp.decode (.word op.name) op where
  decode := fun {limit} hlimit => by
    show _ = if 0 < limit then some op else none
    rw [if_pos hlimit]
    cases op <;> rfl

namespace Expression

/-- The regular expressions of a condition have been read. -/
def IsProper : Expression → Prop
  | .not e => e.IsProper
  | .and a b => a.IsProper ∧ b.IsProper
  | .or a b => a.IsProper ∧ b.IsProper
  | .compare _ _ _ _ => True
  | .search _ r => r.IsProper

/-- What is stored of a comparison, besides that it is one. -/
def comparisonJson (prop : Text) (op : StringOp) (value : Text) (ignoreCase : Bool) : Json :=
  .object ([Json.field "prop" (.string prop), Json.field "op" (.word op.name), Json.field "value" (.string value)]
    ++ Json.optionalField "ignore_case" (if ignoreCase then some (.bool true) else none))

/-- What is stored of a search, besides that it is one. -/
def searchJson (prop : Text) (regex : Regex) : Json :=
  .object [Json.field "prop" (.string prop), Json.field "regex" regex.toJson]

theorem reads_comparisonJson (prop : Text) (op : StringOp) (value : Text) (ignoreCase : Bool) :
    Decoder.Reads decodeComparison (comparisonJson prop op value ignoreCase) (.compare prop op value ignoreCase) := by
  cases ignoreCase with
  | false =>
    refine ⟨fun {limit} _ => ?_⟩
    refine Record.ofTree?_bind ["prop".toList, "op".toList, "value".toList] rfl (by decide) (by decide)
      fun {inner} hinner => ?_
    rw [Record.required_eq rfl (Decoder.reads_text prop) hinner,
      Record.required_eq rfl (StringOp.reads_name op) hinner,
      Record.required_eq rfl (Decoder.reads_text value) hinner,
      Record.withDefault_of_find?_eq_none rfl]
    simp only [Option.bind_eq_bind, Option.bind_some, Option.ite_some_bind, Option.pure_def, ← ite_and]
    exact if_congr (by simp [Json.depthFields, Json.optionalField, Json.field, Json.word, Json.depth]) rfl rfl
  | true =>
    refine ⟨fun {limit} _ => ?_⟩
    refine Record.ofTree?_bind ["prop".toList, "op".toList, "value".toList, "ignore_case".toList] rfl
      (by decide) (by decide) fun {inner} hinner => ?_
    rw [Record.required_eq rfl (Decoder.reads_text prop) hinner,
      Record.required_eq rfl (StringOp.reads_name op) hinner,
      Record.required_eq rfl (Decoder.reads_text value) hinner,
      Record.withDefault_eq rfl (Decoder.reads_bool true) hinner]
    simp only [Option.bind_eq_bind, Option.ite_some_bind, Option.pure_def, ← ite_and]
    exact if_congr (by simp [Json.depthFields, Json.optionalField, Json.field, Json.word, Json.depth]) rfl rfl

theorem reads_searchJson (prop : Text) {regex : Regex} (hr : regex.IsProper) :
    Decoder.Reads decodeSearch (searchJson prop regex) (.search prop regex) where
  decode := fun {limit} _ => by
    refine Record.ofTree?_bind ["prop".toList, "regex".toList] rfl (by decide) (by decide)
      fun {inner} hinner => ?_
    rw [Record.required_eq rfl (Decoder.reads_text prop) hinner,
      Record.required_eq rfl (Regex.reads_toJson hr) hinner]
    simp only [Option.bind_eq_bind, Option.ite_some_bind, Option.pure_def, ← ite_and]
    exact if_congr (by simp [Json.depthFields, Json.field, Json.depth, hinner]) rfl rfl

/-- A condition is stored as an object. -/
theorem exists_toJson_eq_object (e : Expression) : ∃ fields, e.toJson = .object fields := by
  cases e <;> exact ⟨_, rfl⟩

/-- What is stored with a kind other than `and` and `or`. -/
theorem decode_object (limit : Nat) (kind : Text) (fields : List (Text × Json)) :
    decode limit (Json.object [(kind, .object fields)]).tree
      = (JsonTree.enter? limit).bind fun inner =>
        if kind == "not".toList then (decode inner (Json.object fields).tree).map .not
        else decodeKind kind inner (Json.object fields).tree := by
  rfl

/-- What is stored as a pair with its kind. -/
theorem decode_pair (limit : Nat) (kind : Text) (a b : Json) :
    decode limit (Json.object [(kind, .array [a, b])]).tree
      = (JsonTree.enter? limit).bind fun inner =>
        if kind == "and".toList ∨ kind == "or".toList then
          (JsonTree.enter? inner).bind fun items =>
            (decode items a.tree).bind fun left => (decode items b.tree).bind fun right =>
              some (if kind == "and".toList then .and left right else .or left right)
        else decodeKind kind inner (Json.array [a, b]).tree := by
  rfl

theorem reads_not {e : Expression} (he : Decoder.Reads decode e.toJson e) :
    Decoder.Reads decode (Expression.not e).toJson (.not e) where
  decode := fun {limit} _ => by
    obtain ⟨fields, hfields⟩ := exists_toJson_eq_object e
    rw [toJson, Json.field]
    rw [hfields] at he ⊢
    rw [decode_object]
    refine Decoder.enter?_bind (Json.object fields).depth (congrArg (· + 1) (Nat.max_zero _)) fun {inner} hinner => ?_
    rw [if_pos (by decide), he.decode hinner, apply_ite (Option.map Expression.not)]
    rfl

/-- Two conditions in an array under their kind. -/
theorem decode_toJson_pair {a b : Expression} (ha : Decoder.Reads decode a.toJson a)
    (hb : Decoder.Reads decode b.toJson b) {kind : Text} (hkind : (kind == "and".toList ∨ kind == "or".toList))
    (limit : Nat) :
    decode limit (Json.object [(kind, .array [a.toJson, b.toJson])]).tree
      = if (Json.object [(kind, .array [a.toJson, b.toJson])]).depth < limit then
          some (if kind == "and".toList then .and a b else .or a b) else none := by
  rw [decode_pair]
  have houter : (Json.object [(kind, .array [a.toJson, b.toJson])]).depth
      = (Json.array [a.toJson, b.toJson]).depth + 1 := by
    simp [Json.depth, Json.depthFields]
  have hinside : (Json.array [a.toJson, b.toJson]).depth = max a.toJson.depth b.toJson.depth + 1 := by
    simp [Json.depth, Json.depthItems]
  refine Decoder.enter?_bind _ houter fun {inner} hinner => ?_
  rw [if_pos hkind]
  refine Decoder.enter?_bind _ hinside fun {items} hitems => ?_
  rw [ha.decode hitems, hb.decode hitems, Option.ite_some_bind, Option.ite_some_bind, ← ite_and]
  exact if_congr Nat.max_lt.symm rfl rfl

/-- What is stored under the kind of a comparison or a search. -/
theorem reads_kind {e : Expression} {kind : Text} {v : Json} (hv : ∃ fields, v = .object fields)
    (hkind : (kind == "not".toList) = false)
    (h : Decoder.Reads (decodeKind kind) v e) :
    Decoder.Reads decode (.object [(kind, v)]) e where
  decode := fun {limit} _ => by
    obtain ⟨fields, rfl⟩ := hv
    rw [decode_object]
    refine Decoder.enter?_bind (Json.object fields).depth (congrArg (· + 1) (Nat.max_zero _)) fun {inner} hinner => ?_
    rw [hkind]
    exact h.decode hinner

/-- A condition is read as what it was. -/
theorem reads_toJson {e : Expression} (he : e.IsProper) : Decoder.Reads decode e.toJson e := by
  induction e with
  | not e ih => exact reads_not (ih he)
  | and a b iha ihb => exact ⟨fun _ => decode_toJson_pair (iha he.1) (ihb he.2) (by decide) _⟩
  | or a b iha ihb => exact ⟨fun _ => decode_toJson_pair (iha he.1) (ihb he.2) (by decide) _⟩
  | compare prop op value ignoreCase =>
    exact reads_kind ⟨_, rfl⟩ (by decide) (reads_comparisonJson prop op value ignoreCase)
  | search prop regex =>
    exact reads_kind ⟨_, rfl⟩ (by decide) (reads_searchJson prop he)

end Expression

end ResultFilter
