import ResultFilter.Json.Tree

/-!
# Asking a JSON text for a type

Readers of the stored types, put together from readers of their parts. A record is stored as an object,
whose other fields are passed over, or as the array of its fields in order; a value of one of several
kinds is stored as the name of its kind, or as an object with the kind as its only field.

## Main definitions

* `Decoder` — reads a type from a tree, within a limit of nesting.
* `Decoder.text`, `Decoder.bool`, `Decoder.word32`, `Decoder.list`, `Decoder.dict`, `Decoder.optional`
  — readers of common types.
* `Record` — the fields of a record, with `Record.required`, `Record.optional` and `Record.withDefault`.
* `Variant` — the kind of a value and what is stored with it.
-/

namespace ResultFilter

/-- Reads a type from a tree; the number is the limit of nesting. -/
abbrev Decoder (α : Type) := Nat → JsonTree → Option α

namespace Decoder

variable {α : Type}

/-- A string. -/
def text : Decoder Text
  | _, .string s => s
  | _, _ => none

/-- A truth value. -/
def bool : Decoder Bool
  | _, .bool b => some b
  | _, _ => none

/-- A whole number of thirty-two bits. -/
def word32 : Decoder Nat
  | _, .number s =>
    match s.value? with
    | some (.int n) => if 0 ≤ n ∧ n ≤ 0xFFFFFFFF then some n.toNat else none
    | _ => none
  | _, _ => none

/-- Any value. -/
def json : Decoder Json := fun limit tree => tree.toJson? limit

/-- The items of an array with the limit inside it. -/
def items? (limit : Nat) : JsonTree → Option (Nat × List JsonTree)
  | .array items => (JsonTree.enter? limit).map (·, items)
  | _ => none

/-- The fields of an object with the limit inside it. -/
def fields? (limit : Nat) : JsonTree → Option (Nat × List (Option Text × JsonTree))
  | .object fields => (JsonTree.enter? limit).map (·, fields)
  | _ => none

/-- An array of items of one type. -/
def list (item : Decoder α) : Decoder (List α) := fun limit tree => do
  let (limit, items) ← items? limit tree
  items.mapM (item limit)

/-- An object of values of one type; of equal keys the last counts. -/
def dict (value : Decoder α) : Decoder (Dict α) := fun limit tree => do
  let (limit, fields) ← fields? limit tree
  let pairs ← fields.mapM fun (key, tree) => do
    let k ← key
    let v ← value limit tree
    return (k, v)
  return Dict.ofList pairs

/-- A value or `null`. -/
def optional (value : Decoder α) : Decoder (Option α)
  | _, .null => some none
  | limit, tree => (value limit tree).map some

end Decoder

/-- The fields that a record has in a text. -/
structure Record where
  /-- The limit of nesting inside the record. -/
  limit : Nat
  /-- Whether the record is stored as an array. -/
  positional : Bool
  /-- The fields that are there, by name. -/
  fields : List (Text × JsonTree)

namespace Record

variable {α : Type}

/-- The record with fields of the given names: no other field in an array, and no field twice. -/
def ofTree? (names : List Text) (limit : Nat) : JsonTree → Option Record
  | .array items => do
    let limit ← JsonTree.enter? limit
    if items.length > names.length then none else some ⟨limit, true, names.zip items⟩
  | .object fields => do
    let limit ← JsonTree.enter? limit
    let named ← fields.mapM fun (key, tree) => key.map (·, tree)
    let known := named.filter fun (key, _) => names.contains key
    if (known.map (·.1)).eraseDups.length = known.length then some ⟨limit, false, known⟩ else none
  | _ => none

/-- The tree of a field. -/
def find? (r : Record) (name : Text) : Option JsonTree :=
  (r.fields.find? fun field => field.1 == name).map (·.2)

/-- A field that has to be there. -/
def required (r : Record) (name : Text) (value : Decoder α) : Option α :=
  (r.find? name).bind (value r.limit)

/-- A field with a value of its own where it is missing. -/
def withDefault (r : Record) (name : Text) (value : Decoder α) (default : α) : Option α :=
  match r.find? name with
  | some tree => value r.limit tree
  | none => some default

/-- A field that may be missing from an object, but not from an array. -/
def optional (r : Record) (name : Text) (value : Decoder α) : Option (Option α) :=
  match r.find? name with
  | some tree => Decoder.optional value r.limit tree
  | none => if r.positional then none else some none

end Record

/-- The kind of a value, and what is stored with it. -/
structure Variant where
  /-- The name of the kind. -/
  kind : Text
  /-- The limit of nesting inside the value. -/
  limit : Nat
  /-- What is stored with the kind. -/
  content : Option JsonTree

namespace Variant

/-- The kind of a value, from its name or from an object with one field. -/
def ofTree? (limit : Nat) : JsonTree → Option Variant
  | .string s => s.map fun kind => ⟨kind, limit, none⟩
  | .object [(key, tree)] => do
    let limit ← JsonTree.enter? limit
    let kind ← key
    return ⟨kind, limit, some tree⟩
  | _ => none

/-- Whether nothing is stored with the kind. -/
def isPlain (v : Variant) : Bool :=
  match v.content with
  | none => true
  | some .null => true
  | some _ => false

end Variant

end ResultFilter
