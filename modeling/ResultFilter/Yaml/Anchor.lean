import ResultFilter.Dict
import ResultFilter.Yaml.Node

/-!
# Anchors and aliases

An alias stands for the node with its anchor. Anchors are numbered in the order of the text, by how many
names are known before them; of anchors with one number the last counts. So an alias points by number to
a node of the whole document, which may be one that it lies in.

## Main definitions

* `Anchors` — the anchors passed so far.
* `Node.link?` — lets the aliases of a node point by number.
* `Node.size` — the number of starts, ends and scalars of a node.
-/

namespace ResultFilter.Yaml

/-- The anchors passed so far. -/
structure Anchors where
  /-- The numbers that names stand for now. -/
  names : Dict Nat := []
  /-- The number of nodes passed. -/
  passed : Nat := 0
  /-- The place of the last anchor with each number, the latest first. -/
  places : List (Nat × Nat) := []
  /-- The nodes with anchors, by place. -/
  nodes : List (Nat × Node Nat) := []

namespace Anchors

/-- Passes a node, with its anchor if it has one; gives its place. -/
def pass (as : Anchors) (anchor : Option Text) : Nat × Anchors :=
  let as' := { as with passed := as.passed + 1 }
  match anchor with
  | none => (as.passed, as')
  | some name =>
    let n := as.names.length
    (as.passed, { as' with
      names := as.names.insert name n, places := (n, as.passed) :: as.places })

/-- Keeps a node that has an anchor. -/
def keep (as : Anchors) (anchor : Option Text) (place : Nat) (node : Node Nat) : Anchors :=
  if anchor.isSome then { as with nodes := (place, node) :: as.nodes } else as

/-- The node that a number points to. -/
def node? (as : Anchors) (n : Nat) : Option (Node Nat) := do
  let place ← as.places.lookup n
  as.nodes.lookup place

end Anchors

namespace Node

mutual

/-- Lets the aliases of a node point by number; one without an anchor before it is refused. -/
def link? (as : Anchors) : Node Text → Option (Node Nat × Anchors)
  | .alias name => do
    let n ← as.names.find? name
    return (.alias n, (as.pass none).2)
  | .scalar anchor tag text isPlain =>
    let (place, as) := as.pass anchor
    let node := .scalar anchor tag text isPlain
    some (node, as.keep anchor place node)
  | .sequence anchor tag items => do
    let (place, as) := as.pass anchor
    let (items, as) ← linkItems? as items
    let node := .sequence anchor tag items
    return (node, as.keep anchor place node)
  | .mapping anchor tag pairs => do
    let (place, as) := as.pass anchor
    let (pairs, as) ← linkPairs? as pairs
    let node := .mapping anchor tag pairs
    return (node, as.keep anchor place node)

/-- Lets the aliases of some nodes point by number. -/
def linkItems? (as : Anchors) : List (Node Text) → Option (List (Node Nat) × Anchors)
  | [] => some ([], as)
  | item :: items => do
    let (item, as) ← link? as item
    let (items, as) ← linkItems? as items
    return (item :: items, as)

/-- Lets the aliases of some pairs point by number. -/
def linkPairs? (as : Anchors) :
    List (Node Text × Node Text) → Option (List (Node Nat × Node Nat) × Anchors)
  | [] => some ([], as)
  | (k, v) :: pairs => do
    let (k, as) ← link? as k
    let (v, as) ← link? as v
    let (pairs, as) ← linkPairs? as pairs
    return ((k, v) :: pairs, as)

end

mutual

/-- The number of starts, ends and scalars of a node. -/
def size {ρ : Type} : Node ρ → Nat
  | .alias _ => 1
  | .scalar _ _ _ _ => 1
  | .sequence _ _ items => sizeItems items + 2
  | .mapping _ _ pairs => sizePairs pairs + 2

/-- The number of starts, ends and scalars of some nodes. -/
def sizeItems {ρ : Type} : List (Node ρ) → Nat
  | [] => 0
  | item :: items => size item + sizeItems items

/-- The number of starts, ends and scalars of some pairs. -/
def sizePairs {ρ : Type} : List (Node ρ × Node ρ) → Nat
  | [] => 0
  | (k, v) :: pairs => size k + size v + sizePairs pairs

end

end Node

end ResultFilter.Yaml
