import ResultFilter.Json.Decode
import ResultFilter.Proofs.Dict
import ResultFilter.Proofs.Json.Tree

/-!
# What is written is read as what it was

A decoder reads what an encoder wrote: it gives back the value if the JSON is nested less deep than the
limit, and nothing otherwise. The decoders of composite types do so if those of the parts do.

## Main definitions

* `Json.again?` — what a value is when it has been written and is asked for as a whole.
* `Decoder.Reads` — a decoder reads a JSON value as some value within every limit that it fits in.
* `Record.ofFields` — the record that an object has.

## Main results

* `Decoder.reads_text`, `Decoder.reads_word32`, `Decoder.reads_list`, … — the common decoders.
* `Record.ofTree?_object`, `Record.required_eq` — the fields of a record.
-/

namespace Option

/-- A step after one that gives a value under a condition. -/
theorem ite_some_bind {α β : Type*} (p : Prop) [Decidable p] (a : α) (f : α → Option β) :
    (if p then some a else none).bind f = if p then f a else none := by
  split <;> rfl

/-- Two steps that need room for what they look at, one after the other. -/
theorem bind_ite_max {α β γ : Type*} {m n limit : ℕ} (a : Option α) (b : Option β) (f : α → β → Option γ) :
    ((if m < limit then a else none).bind fun x => (if n < limit then b else none).bind (f x))
      = if max m n < limit then a.bind fun x => b.bind (f x) else none := by
  by_cases hm : m < limit
  · rw [if_pos hm]
    by_cases hn : n < limit
    · rw [if_pos hn, if_pos (Nat.max_lt.mpr ⟨hm, hn⟩)]
    · rw [if_neg hn, if_neg fun h => hn (Nat.max_lt.mp h).2]
      cases a <;> rfl
  · rw [if_neg hm, if_neg fun h => hm (Nat.max_lt.mp h).1]
    rfl

end Option

namespace ResultFilter

open ResultFilter.Text

/-! ### Any value -/

namespace Json

mutual

/-- What a value is when it has been written and is asked for as a whole: a number may be another one then, or
none in range, and of equal keys of an object the last counts. -/
def again? : Json → Option Json
  | .int n => (Numeral.ofInt n).value?
  | .float x => x.numeral.value?
  | .array items => (againItems? items).map .array
  | .object fields => (againFields? fields).map fun fields => .object (Dict.ofList fields)
  | .null => some .null
  | .bool b => some (.bool b)
  | .string s => some (.string s)

/-- What items are then. -/
def againItems? : List Json → Option (List Json)
  | [] => some []
  | v :: rest => (again? v).bind fun v => (againItems? rest).bind fun rest => some (v :: rest)

/-- What fields are then. -/
def againFields? : List (Text × Json) → Option (List (Text × Json))
  | [] => some []
  | (k, v) :: rest => (again? v).bind fun v => (againFields? rest).bind fun rest => some ((k, v) :: rest)

end

end Json

namespace JsonTree

theorem enter?_eq (limit : Nat) : enter? limit = if 1 < limit then some (limit - 1) else none := by
  unfold enter?
  split_ifs <;> first | rfl | omega

mutual

/-- A value that was written and is asked for as a whole is there if it is nested less deep than the limit. -/
theorem toJson?_tree : ∀ (v : Json) {limit : Nat}, 0 < limit →
    v.tree.toJson? limit = if v.depth < limit then v.again? else none
  | .null, _, hlimit => (if_pos hlimit).symm
  | .bool _, _, hlimit => (if_pos hlimit).symm
  | .string _, _, hlimit => (if_pos hlimit).symm
  | .int _, _, hlimit => (if_pos hlimit).symm
  | .float _, _, hlimit => (if_pos hlimit).symm
  | .array items, limit, hlimit => by
    rw [Json.tree, toJson?, enter?_eq, Json.depth, Json.again?]
    by_cases hinside : 1 < limit
    · simp only [if_pos hinside]
      rw [toItems?_tree items (by omega), apply_ite (Option.map Json.array)]
      exact if_congr (by omega) rfl rfl
    · rw [if_neg hinside, if_neg (by omega)]
  | .object fields, limit, hlimit => by
    rw [Json.tree, toJson?, enter?_eq, Json.depth, Json.again?]
    by_cases hinside : 1 < limit
    · simp only [if_pos hinside]
      rw [toFields?_tree fields (by omega), apply_ite (Option.map _)]
      exact if_congr (by omega) rfl rfl
    · rw [if_neg hinside, if_neg (by omega)]

theorem toItems?_tree : ∀ (items : List Json) {limit : Nat}, 0 < limit →
    toItems? limit (Json.treeItems items)
      = if Json.depthItems items < limit then Json.againItems? items else none
  | [], _, hlimit => (if_pos hlimit).symm
  | v :: items, limit, hlimit => by
    rw [Json.treeItems, toItems?, toJson?_tree v hlimit, toItems?_tree items hlimit]
    exact Option.bind_ite_max _ _ _

theorem toFields?_tree : ∀ (fields : List (Text × Json)) {limit : Nat}, 0 < limit →
    toFields? limit (Json.treeFields fields)
      = if Json.depthFields fields < limit then Json.againFields? fields else none
  | [], _, hlimit => (if_pos hlimit).symm
  | (k, v) :: fields, limit, hlimit => by
    rw [Json.treeFields, toFields?, toJson?_tree v hlimit, toFields?_tree fields hlimit]
    exact Option.bind_ite_max _ _ _

end

end JsonTree

/-- A text that was written is the value as it is then, if that is nested less deep than the limit. -/
theorem Json.ofText?_render (v : Json) :
    Json.ofText? v.render = if v.depth < JsonTree.depthLimit then v.again? else none := by
  rw [Json.ofText?, JsonTree.ofText?_render]
  exact JsonTree.toJson?_tree v (by decide)

/-! ### Common types -/

/-- A decoder reads a value as something, as long as the value is nested less deep than the limit. -/
structure Decoder.Reads {α : Type} (d : Decoder α) (v : Json) (x : α) : Prop where
  /-- What is read within a limit. -/
  decode {limit : Nat} : 0 < limit → d limit v.tree = if v.depth < limit then some x else none

namespace Decoder

variable {α β : Type}

theorem reads_text (s : Text) : text.Reads (.string s) s where
  decode := fun hlimit => (if_pos hlimit).symm

theorem reads_bool (b : Bool) : bool.Reads (.bool b) b where
  decode := fun hlimit => (if_pos hlimit).symm

theorem reads_word32 {n : Nat} (h : n ≤ 0xFFFFFFFF) : word32.Reads (.ofNat n) n where
  decode := fun {limit} hlimit => by
    show word32 limit (.number (Numeral.ofInt n)) = if 0 < limit then some n else none
    rw [if_pos hlimit]
    unfold word32
    dsimp only
    rw [Numeral.value?_ofInt (by omega) (by omega)]
    exact if_pos ⟨Int.natCast_nonneg n, Int.ofNat_le.mpr h⟩

/-- The items of a list that is read are read by the reader of items. -/
theorem forall_of_list {item : Decoder α} {P : α → Prop}
    (h : ∀ {limit tree x}, item limit tree = some x → P x) {limit : Nat} {tree : JsonTree} {l : List α}
    (hl : list item limit tree = some l) : ∀ x ∈ l, P x := by
  obtain ⟨⟨inner, items⟩, -, hitems⟩ := Option.bind_eq_some_iff.mp hl
  replace hitems : items.mapM (item inner) = some l := hitems
  clear hl
  induction items generalizing l with
  | nil =>
    obtain rfl : [] = l := Option.some.inj hitems
    simp
  | cons t items ih =>
    rw [List.mapM_cons] at hitems
    obtain ⟨x, hx, hrest⟩ := Option.bind_eq_some_iff.mp hitems
    obtain ⟨xs, hxs, heq⟩ := Option.bind_eq_some_iff.mp hrest
    obtain rfl : x :: xs = l := Option.some.inj heq
    exact List.forall_mem_cons.mpr ⟨h hx, ih hxs⟩

theorem Reads.map {d : Decoder α} {v : Json} {x : α} (h : d.Reads v x) (f : α → β) :
    Reads (fun limit tree => (d limit tree).map f) v (f x) where
  decode := fun hlimit => by
    rw [h.decode hlimit, apply_ite (Option.map f)]
    rfl

/-- Items that are read one by one. -/
theorem mapM_item {item : Decoder β} {f : α → Json} {g : α → β} {l : List α}
    (h : ∀ a ∈ l, item.Reads (f a) (g a)) {limit : Nat} (hlimit : 0 < limit) :
    (Json.treeItems (l.map f)).mapM (item limit)
      = if Json.depthItems (l.map f) < limit then some (l.map g) else none := by
  induction l with
  | nil => exact (if_pos hlimit).symm
  | cons a l ih =>
    rw [List.map_cons, List.map_cons, Json.treeItems, List.mapM_cons,
      (h a List.mem_cons_self).decode hlimit, ih fun b hb => h b (List.mem_cons_of_mem _ hb)]
    show Option.bind _ (fun v => Option.bind _ fun vs => some (v :: vs)) = _
    rw [Option.ite_some_bind, Option.ite_some_bind, ← ite_and]
    exact if_congr Nat.max_lt.symm rfl rfl

/-- What lies inside an array or object is read within one less than the limit. -/
theorem enter?_bind {v : Json} (depth : Nat) (hdepth : v.depth = depth + 1) {limit : Nat}
    {f : Nat → Option β} {x? : Option β}
    (hf : ∀ {inner}, 0 < inner → f inner = if depth < inner then x? else none) :
    (JsonTree.enter? limit).bind f = if v.depth < limit then x? else none := by
  rw [JsonTree.enter?_eq, Option.ite_some_bind]
  by_cases hinside : 1 < limit
  · rw [if_pos hinside, hf (by omega)]
    exact if_congr (by omega) rfl rfl
  · rw [if_neg hinside, if_neg (by omega)]

theorem items?_bind {limit : Nat} {items : List Json} {f : Nat × List JsonTree → Option β} {x : β}
    (hf : ∀ {inner}, 0 < inner →
      f (inner, Json.treeItems items) = if Json.depthItems items < inner then some x else none) :
    (items? limit (Json.array items).tree).bind f = if (Json.array items).depth < limit then some x else none := by
  show ((JsonTree.enter? limit).map (·, Json.treeItems items)).bind f = _
  rw [Option.bind_map]
  exact enter?_bind _ rfl hf

theorem reads_list {item : Decoder β} {f : α → Json} {g : α → β} {l : List α}
    (h : ∀ a ∈ l, item.Reads (f a) (g a)) : (list item).Reads (.array (l.map f)) (l.map g) where
  decode := fun _ => items?_bind fun hinner => mapM_item h hinner

/-- Items that are read as what they were. -/
theorem reads_list_self {item : Decoder α} {f : α → Json} {l : List α}
    (h : ∀ a ∈ l, item.Reads (f a) a) : (list item).Reads (.array (l.map f)) l := by
  have hlist := reads_list (g := id) h
  rwa [List.map_id] at hlist

theorem reads_optional {d : Decoder α} {v : Json} {x : α} (h : d.Reads v x) (hv : v ≠ .null) :
    (optional d).Reads v (some x) where
  decode := fun {limit} hlimit => by
    have htree : v.tree ≠ .null := by
      cases v <;> first | exact absurd rfl hv | exact JsonTree.noConfusion
    have hoptional : optional d limit v.tree = (d limit v.tree).map some := by
      cases ht : v.tree <;> first | exact absurd ht htree | rfl
    rw [hoptional, h.decode hlimit, apply_ite (Option.map some)]
    rfl

theorem reads_optional_null (d : Decoder α) : (optional d).Reads .null none where
  decode := fun hlimit => (if_pos hlimit).symm

/-- Fields that are asked for as a whole, one by one. -/
theorem mapM_json : ∀ (fields : List (Text × Json)) {limit : Nat}, 0 < limit →
    (Json.treeFields fields).mapM (fun (key, tree) => do
        let k ← key
        let v ← json limit tree
        return (k, v))
      = if Json.depthFields fields < limit then Json.againFields? fields else none
  | [], _, hlimit => (if_pos hlimit).symm
  | (k, v) :: fields, limit, hlimit => by
    rw [Json.treeFields, List.mapM_cons, mapM_json fields hlimit]
    show ((v.tree.toJson? limit).bind fun v => some (k, v)).bind
      (fun p => Option.bind _ fun ps => some (p :: ps)) = _
    rw [JsonTree.toJson?_tree v hlimit, Option.bind_assoc]
    exact Option.bind_ite_max _ _ _

/-- An object of any values. -/
theorem dict_json_tree (fields : List (Text × Json)) {limit : Nat} :
    dict json limit (Json.object fields).tree
      = if (Json.object fields).depth < limit then (Json.againFields? fields).map Dict.ofList else none := by
  show ((JsonTree.enter? limit).map (·, Json.treeFields fields)).bind _ = _
  rw [Option.bind_map]
  refine enter?_bind _ rfl fun {inner} hinner => ?_
  show Option.bind ((Json.treeFields fields).mapM _) (fun pairs => some (Dict.ofList pairs)) = _
  rw [mapM_json fields hinner]
  split
  · exact Option.map_eq_bind.symm
  · rfl

end Decoder

/-! ### Records -/

namespace Record

variable {α β : Type}

/-- The record that an object with some fields has. -/
def ofFields (limit : Nat) (fields : List (Text × Json)) : Record :=
  ⟨limit, false, fields.map fun f => (f.1, f.2.tree)⟩

theorem find?_ofFields (limit : Nat) (fields : List (Text × Json)) (name : Text) :
    (ofFields limit fields).find? name = (Dict.find? name fields).map Json.tree := by
  unfold find? ofFields
  induction fields with
  | nil => rfl
  | cons f fields ih =>
    obtain ⟨k, v⟩ := f
    rw [List.map_cons, List.find?_cons, Dict.find?]
    by_cases hk : k = name
    · simp [hk]
    · rw [if_neg hk, ← ih, beq_eq_false_iff_ne.mpr hk]

theorem eraseDups_of_nodup {l : List Text} (h : l.Nodup) : l.eraseDups = l := by
  induction l with
  | nil => rfl
  | cons a l ih =>
    obtain ⟨ha, h⟩ := List.nodup_cons.mp h
    rw [List.eraseDups_cons, List.filter_eq_self.mpr, ih h]
    intro b hb
    simp only [Bool.not_eq_true', beq_eq_false_iff_ne]
    rintro rfl
    exact ha hb

/-- An object is the record of its fields if these are known and differ. -/
theorem ofTree?_bind {names : List Text} {fields : List (Text × Json)} {limit : Nat} {f : Record → Option β}
    {x? : Option β} (keys : List Text) (hkeys : Dict.keys fields = keys) (hnames : ∀ k ∈ keys, k ∈ names)
    (hnodup : keys.Nodup) (hf : ∀ {inner}, 0 < inner →
      f (ofFields inner fields) = if Json.depthFields fields < inner then x? else none) :
    (ofTree? names limit (Json.object fields).tree).bind f
      = if (Json.object fields).depth < limit then x? else none := by
  have hnamed : (Json.treeFields fields).mapM (fun f => f.1.map (·, f.2))
      = some (fields.map fun f => (f.1, f.2.tree)) := by
    clear hkeys hf
    induction fields with
    | nil => rfl
    | cons f fields ih =>
      rw [Json.treeFields, List.mapM_cons, ih]
      rfl
  have hknown : (fields.map fun f => (f.1, f.2.tree)).filter (fun f => names.contains f.1)
      = fields.map fun f => (f.1, f.2.tree) := by
    refine List.filter_eq_self.mpr fun g hg => ?_
    obtain ⟨f, hf, rfl⟩ := List.mem_map.mp hg
    exact List.contains_iff_mem.mpr (hnames f.1 (hkeys ▸ List.mem_map_of_mem hf))
  have hmap : (fields.map fun f => (f.1, f.2.tree)).map (·.1) = keys := by
    rw [List.map_map, ← hkeys]
    rfl
  have hrecord : ofTree? names limit (Json.object fields).tree
      = (JsonTree.enter? limit).bind fun inner => some (ofFields inner fields) := by
    rw [Json.tree, ofTree?]
    refine congrArg _ (funext fun inner => ?_)
    show Option.bind ((Json.treeFields fields).mapM _) _ = _
    rw [hnamed, Option.bind_some, hknown]
    show (if _ = _ then _ else _) = _
    rw [hmap, eraseDups_of_nodup hnodup, ← hkeys, Dict.keys, List.length_map, List.length_map, if_pos rfl]
    rfl
  rw [hrecord, Option.bind_assoc]
  exact Decoder.enter?_bind _ rfl hf

section Field

variable {fields : List (Text × Json)} {name : Text} {d : Decoder α} {limit : Nat}

theorem required_eq {v : Json} {x : α} (hfind : Dict.find? name fields = some v) (h : d.Reads v x)
    (hlimit : 0 < limit) :
    (ofFields limit fields).required name d = if v.depth < limit then some x else none := by
  rw [required, find?_ofFields, hfind, Option.map_some, Option.bind_some]
  exact h.decode hlimit

theorem withDefault_of_find?_eq_some {v : Json} (hfind : Dict.find? name fields = some v) (default : α) :
    (ofFields limit fields).withDefault name d default = d limit v.tree := by
  rw [withDefault, find?_ofFields, hfind]
  rfl

theorem withDefault_eq {v : Json} {x : α} (hfind : Dict.find? name fields = some v) (h : d.Reads v x)
    (hlimit : 0 < limit) (default : α) :
    (ofFields limit fields).withDefault name d default = if v.depth < limit then some x else none :=
  (withDefault_of_find?_eq_some hfind default).trans (h.decode hlimit)

theorem withDefault_of_find?_eq_none (hfind : Dict.find? name fields = none) (default : α) :
    (ofFields limit fields).withDefault name d default = some default := by
  rw [withDefault, find?_ofFields, hfind]
  rfl

end Field

end Record

end ResultFilter
