import ResultFilter.Yaml.Anchor
import ResultFilter.Yaml.Schema

/-!
# YAML texts as values

A text is read as one mapping with texts for keys. Keys count as they are written, whatever they look
like. Nodes may be nested only so deep, and aliases followed only so often, since a short text may stand
for an endless value.

## Main definitions

* `depthLimit`, `jumpsPerNode` — the bounds.
* `valueOf` — the value of a node.
* `mappingOf?` — the mapping that a text spells.
-/

namespace ResultFilter.Yaml

/-- How deep sequences and mappings may be nested. -/
def depthLimit : Nat := 128

/-- How often aliases may be followed, for each start, end and scalar of the document. -/
def jumpsPerNode : Nat := 100

/-- The node that an alias points to, or the node itself; a jump is taken from those that are left. -/
def follow? (as : Anchors) (jumps : Nat) (node : Node Nat) : Option (Node Nat × Nat) :=
  match node with
  | .alias n =>
    match jumps, as.node? n with
    | jumps + 1, some node => some (node, jumps)
    | _, _ => none
  | node => some (node, jumps)

/-- The text of a key, which has to be a scalar. -/
def keyOf (as : Anchors) (node : Node Nat) : StateT Nat Option Text := fun jumps => do
  let (node, jumps) ← follow? as jumps node
  match node with
  | .scalar _ _ text _ => some (text, jumps)
  | _ => none

/-- The value of a node that may be nested less deep than the limit. -/
def valueOf (as : Anchors) : Nat → Node Nat → StateT Nat Option Json
  | 0, _ => fun _ => none
  | limit + 1, node => do
    let node ← (fun jumps => follow? as jumps node : StateT Nat Option (Node Nat))
    match node with
    | .alias _ => fun _ => none
    | .scalar _ tag text isPlain => StateT.lift (scalarValue? tag text isPlain)
    | .sequence _ tag items =>
      if isLocalTag tag || limit == 0 then fun _ => none
      else do
        let values ← items.mapM (valueOf as limit)
        return .array values
    | .mapping _ tag pairs =>
      if isLocalTag tag || limit == 0 then fun _ => none
      else do
        let fields ← pairs.mapM fun (k, v) => do
          let key ← keyOf as k
          let value ← valueOf as limit v
          return (key, value)
        return .object (Dict.ofList fields)

/-- The mapping that a text spells; of equal keys the last counts. -/
def mappingOf? (text : Text) : Option (Dict Json) := do
  let tokens ← Token.ofText? text
  let node ← Node.ofTokens? tokens
  let (node, as) ← node.link? {}
  match node with
  | .mapping _ _ pairs =>
    match ← (valueOf as (depthLimit + 1) (.mapping none none pairs)) (node.size * jumpsPerNode) with
    | (.object fields, _) => some fields
    | _ => none
  | _ => none

end ResultFilter.Yaml
