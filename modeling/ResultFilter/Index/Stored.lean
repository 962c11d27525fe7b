import ResultFilter.Index.Snapshot
import ResultFilter.Json.Decode

/-!
# The stored form of an index

An index is stored as `[all, wildcard, children]`, a node as `[exact, wildcard, children]`, and an entry
as `[payload, scheme, path]`; children are left out where there are none, and so are a scheme and a path
that cover everything, from the end.

## Main definitions

* `Snapshot.toJson`, `Snapshot.decode` — the contents of an index, written and read.
* `Index.toJson`, `Index.decode` — an index, written and read.
-/

namespace ResultFilter

variable {α : Type}

/-- An entry as it is stored. -/
def Entry.toJson (payload : α → Json) (e : Entry α) : Json :=
  .array <|
    if e.path != anyPath then [payload e.value, .string e.scheme, .string e.path]
    else if e.scheme != anyScheme then [payload e.value, .string e.scheme]
    else [payload e.value]

/-- Reads an entry. -/
def Entry.decode (payload : Decoder α) : Decoder (Entry α) := fun limit tree => do
  let (limit, items) ← Decoder.items? limit tree
  match items with
  | [value] => return ⟨← payload limit value, anyScheme, anyPath⟩
  | [value, scheme] => return ⟨← payload limit value, ← Decoder.text limit scheme, anyPath⟩
  | [value, scheme, path] =>
    return ⟨← payload limit value, ← Decoder.text limit scheme, ← Decoder.text limit path⟩
  | _ => none

/-- The items of a node as it is stored. -/
def nodeJson (first : Json) (wildcard : Json) (children : List (Text × Json)) : Json :=
  .array ([first, wildcard] ++ if children.isEmpty then [] else [.object children])

mutual

/-- A branch as it is stored. -/
def Branch.toJson (payload : α → Json) : Branch α → Json
  | .node exact wildcard children =>
    nodeJson (.array (exact.map (Entry.toJson payload))) (.array (wildcard.map (Entry.toJson payload)))
      (Branch.childrenJson payload children)

/-- The branches below a node as they are stored. -/
def Branch.childrenJson (payload : α → Json) : List (Text × Branch α) → List (Text × Json)
  | [] => []
  | (label, branch) :: rest =>
    (label, Branch.toJson payload branch) :: Branch.childrenJson payload rest

end

/-- The contents of an index as they are stored. -/
def Snapshot.toJson (payload : α → Json) (s : Snapshot α) : Json :=
  nodeJson (.array (s.allUrls.map payload)) (.array (s.wildcard.map (Entry.toJson payload)))
    (Branch.childrenJson payload s.children)

mutual

/-- Reads a branch. -/
def Branch.decode (payload : Decoder α) (limit : Nat) : JsonTree → Option (Branch α)
  | .array [exact, wildcard] => do
    let limit ← JsonTree.enter? limit
    let exact ← Decoder.list (Entry.decode payload) limit exact
    let wildcard ← Decoder.list (Entry.decode payload) limit wildcard
    return .node exact wildcard []
  | .array [exact, wildcard, children] => do
    let limit ← JsonTree.enter? limit
    let exact ← Decoder.list (Entry.decode payload) limit exact
    let wildcard ← Decoder.list (Entry.decode payload) limit wildcard
    let children ← Branch.decodeChildren payload limit children
    return .node exact wildcard children
  | _ => none

/-- Reads the branches below a node; of equal labels the last counts. -/
def Branch.decodeChildren (payload : Decoder α) (limit : Nat) :
    JsonTree → Option (List (Text × Branch α))
  | .object fields => do
    let limit ← JsonTree.enter? limit
    let pairs ← Branch.decodeFields payload limit fields
    return Dict.ofList pairs
  | _ => none

/-- Reads the fields of an object as branches. -/
def Branch.decodeFields (payload : Decoder α) (limit : Nat) :
    List (Option Text × JsonTree) → Option (List (Text × Branch α))
  | [] => some []
  | (key, tree) :: rest => do
    let label ← key
    let branch ← Branch.decode payload limit tree
    let branches ← Branch.decodeFields payload limit rest
    return (label, branch) :: branches

end

/-- Reads the contents of an index. -/
def Snapshot.decode (payload : Decoder α) : Decoder (Snapshot α) := fun limit tree => do
  let (limit, items) ← Decoder.items? limit tree
  let (first, wildcard, children) ← match items with
    | [first, wildcard] => some (first, wildcard, none)
    | [first, wildcard, children] => some (first, wildcard, some children)
    | _ => none
  let allUrls ← Decoder.list payload limit first
  let wildcard ← Decoder.list (Entry.decode payload) limit wildcard
  let children ← match children with
    | none => some []
    | some children => Branch.decodeChildren payload limit children
  return ⟨allUrls, wildcard, children⟩

namespace Index

/-- An index as it is stored. -/
def toJson (payload : α → Json) (index : Index α) : Json :=
  index.toSnapshot.toJson payload

/-- Reads an index. -/
def decode (payload : Decoder α) : Decoder (Index α) := fun limit tree =>
  (Snapshot.decode payload limit tree).map ofSnapshot

end Index

end ResultFilter
