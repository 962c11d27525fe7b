import ResultFilter.Index.Basic

/-!
# The index as a tree

What an index holds, without the places in its table: the entries of every node in order, and its
children by label. A snapshot is what is stored, and an index is made from it again. The entries for the
root's host alone have no place in it, since no host has an empty name.

## Main definitions

* `Branch` — a node with all below it.
* `Snapshot` — the whole index.
* `Index.toSnapshot`, `Index.ofSnapshot` — from the table to the tree and back.
-/

namespace ResultFilter

/-- A node of the index with all below it. -/
inductive Branch (α : Type) where
  | node (exact wildcard : List (Entry α)) (children : List (Text × Branch α))
deriving Repr

/-- The contents of an index. -/
structure Snapshot (α : Type) where
  /-- The payloads of the pattern of every address. -/
  allUrls : List α
  /-- The entries for every host. -/
  wildcard : List (Entry α)
  /-- The nodes below the root. -/
  children : List (Text × Branch α)
deriving Repr

namespace Index

variable {α : Type}

/-- The node at a place with all below it; as many steps down as `fuel` allows. -/
def branch (index : Index α) : Nat → Nat → Branch α
  | 0, _ => .node [] [] []
  | fuel + 1, i =>
    let n := index.node i
    .node n.exact.live n.wildcard.live
      (n.children.map fun (label, child) => (label, index.branch fuel child))

/-- The contents of an index. A node lies after its parent in the table, so that no way down is longer
than the table. -/
def toSnapshot (index : Index α) : Snapshot α :=
  let n := index.node root
  { allUrls := index.allUrls.live.map (·.value)
    wildcard := n.wildcard.live
    children := n.children.map fun (label, child) => (label, index.branch index.nodes.size child) }

/-- A bucket of the given entries. -/
def bucketOf (entries : List (Entry α)) : Bucket α :=
  (entries.map some).toArray

/-- Puts entries into a node in place of what it has. -/
def setEntries (index : Index α) (i : Nat) (exact wildcard : List (Entry α)) : Index α :=
  { index.modifyNode i fun n => { n with exact := bucketOf exact, wildcard := bucketOf wildcard } with
    size := index.size + exact.length + wildcard.length }

mutual

/-- Adds a branch below a node under a label. -/
def graft (index : Index α) (i : Nat) (label : Text) : Branch α → Index α
  | .node exact wildcard children =>
    let (index, child) := index.childOrInsert i label
    (index.setEntries child exact wildcard).graftAll child children

/-- Adds branches below a node, one after another. -/
def graftAll (index : Index α) (i : Nat) : List (Text × Branch α) → Index α
  | [] => index
  | (label, branch) :: rest => (index.graft i label branch).graftAll i rest

end

/-- The index with given contents. -/
def ofSnapshot (s : Snapshot α) : Index α :=
  let start : Index α :=
    { empty with allUrls := bucketOf (s.allUrls.map Entry.bare), size := s.allUrls.length }
  (start.setEntries root [] s.wildcard).graftAll root s.children

end Index

end ResultFilter
