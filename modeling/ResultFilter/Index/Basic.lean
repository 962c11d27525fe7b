import ResultFilter.Pattern
import ResultFilter.Dict

/-!
# The index of match patterns

Payloads are filed under match patterns so that those of an address are found by walking the labels of
its host from the outermost inwards, whatever the number of patterns. The nodes of the walk lie in a
table and refer to each other by their places in it; an entry keeps its place in its bucket for ever, so
that a handle to it stays good while others come and go.

## Main definitions

* `Index` — the index, with `Index.empty`.
* `Index.insertPattern`, `Index.insert` — file a payload.
* `Index.get?`, `Index.remove` — the payload behind a handle, and its removal.
* `Index.entries` — all live payloads with their handles.
* `Index.lookup` — the payloads whose pattern covers an address.
-/

namespace ResultFilter

/-- A payload with the parts of its pattern that the walk does not decide. -/
structure Entry (α : Type) where
  /-- The payload. -/
  value : α
  /-- The scheme of the pattern. -/
  scheme : Text
  /-- The path of the pattern. -/
  path : Text
deriving DecidableEq, Repr

namespace Entry

variable {α : Type}

/-- An entry for every scheme of the web and every path. -/
def bare (value : α) : Entry α := ⟨value, anyScheme, anyPath⟩

/-- Whether the scheme and the path cover those of an address. -/
def covers (e : Entry α) (url : Url) : Bool :=
  schemeMatches e.scheme url.scheme && pathMatches e.path url.pathAndQuery

end Entry

/-- The entries of one place, in the order of their insertion; a removed entry leaves a hole. -/
abbrev Bucket (α : Type) := Array (Option (Entry α))

namespace Bucket

variable {α : Type}

/-- The live entries of a bucket. -/
def live (b : Bucket α) : List (Entry α) :=
  b.toList.filterMap id

/-- The live entries of a bucket with their places. -/
def slots (b : Bucket α) : List (Nat × Entry α) :=
  b.toList.zipIdx.filterMap fun (entry, slot) => entry.map (slot, ·)

/-- The entry at a place. -/
def at? (b : Bucket α) (slot : Nat) : Option (Entry α) :=
  (b[slot]?).join

end Bucket

/-- A place of the walk: the labels from the root to it spell a domain. -/
structure Node (α : Type) where
  /-- The entries for this host alone. -/
  exact : Bucket α
  /-- The entries for this domain and all below it. -/
  wildcard : Bucket α
  /-- The nodes one label further in. -/
  children : Dict Nat
deriving Repr

namespace Node

variable {α : Type}

/-- A node without entries. -/
def empty : Node α := ⟨#[], #[], []⟩

end Node

/-- Where a bucket lies. -/
inductive BucketPlace where
  /-- The bucket of the pattern of every address. -/
  | allUrls
  /-- The bucket of a node of the table for its host alone. -/
  | exact (node : Nat)
  /-- The bucket of a node of the table for its domain. -/
  | wildcard (node : Nat)
deriving DecidableEq, Repr

/-- Where an entry lies. -/
structure Handle where
  /-- Its bucket. -/
  bucket : BucketPlace
  /-- Its place in the bucket. -/
  slot : Nat
deriving DecidableEq, Repr

/-- An index from match patterns to payloads. -/
structure Index (α : Type) where
  /-- The entries of the pattern of every address. -/
  allUrls : Bucket α
  /-- The table of nodes; the root comes first. -/
  nodes : Array (Node α)
  /-- The number of live entries. -/
  size : Nat
deriving Repr

namespace Index

variable {α : Type}

/-- The place of the root. -/
def root : Nat := 0

/-- The index without entries. -/
def empty : Index α := ⟨#[], #[Node.empty], 0⟩

/-- Whether an index has no live entry. -/
def isEmpty (index : Index α) : Bool :=
  index.size == 0

/-- The node at a place. -/
def node (index : Index α) (i : Nat) : Node α :=
  index.nodes[i]?.getD Node.empty

/-- Changes the node at a place. -/
def modifyNode (index : Index α) (i : Nat) (f : Node α → Node α) : Index α :=
  { index with nodes := index.nodes.modify i f }

/-- The child of a node under a label, made if it is missing. -/
def childOrInsert (index : Index α) (i : Nat) (label : Text) : Index α × Nat :=
  match (index.node i).children.find? label with
  | some child => (index, child)
  | none =>
    let child := index.nodes.size
    let index := { index with nodes := index.nodes.push Node.empty }
    (index.modifyNode i fun n => { n with children := n.children.insert label child }, child)

/-- The node that labels lead to from a node, made if it is missing. -/
def descend (index : Index α) (i : Nat) : List Text → Index α × Nat
  | [] => (index, i)
  | label :: labels =>
    let (index, child) := index.childOrInsert i label
    index.descend child labels

/-- The bucket at a place. -/
def bucket (index : Index α) : BucketPlace → Bucket α
  | .allUrls => index.allUrls
  | .exact i => (index.node i).exact
  | .wildcard i => (index.node i).wildcard

/-- Changes the bucket at a place. -/
def modifyBucket (index : Index α) (f : Bucket α → Bucket α) : BucketPlace → Index α
  | .allUrls => { index with allUrls := f index.allUrls }
  | .exact i => index.modifyNode i fun n => { n with exact := f n.exact }
  | .wildcard i => index.modifyNode i fun n => { n with wildcard := f n.wildcard }

/-- Puts an entry at the end of a bucket. -/
def pushEntry (index : Index α) (place : BucketPlace) (entry : Entry α) : Index α × Handle :=
  ({ index.modifyBucket (·.push (some entry)) place with size := index.size + 1 },
    ⟨place, (index.bucket place).size⟩)

/-- Files a payload under a pattern, which has to be one for the web. -/
def insertPattern (index : Index α) (pattern : MatchPattern) (value : α) :
    Except PatternError (Index α × Handle) :=
  match pattern with
  | .allUrls => .ok (index.pushEntry .allUrls (Entry.bare value))
  | .url scheme host path =>
    if scheme != anyScheme && !isWebScheme scheme then .error (.unsupportedScheme scheme)
    else
      let (index, i) := index.descend root (Host.reversedLabels host.domain)
      .ok (index.pushEntry (if host.isWildcard then .wildcard i else .exact i) ⟨value, scheme, path⟩)

/-- Reads a pattern and files a payload under it. -/
def insert (index : Index α) (pattern : Text) (value : α) :
    Except PatternError (Index α × Handle) := do
  let pattern ← MatchPattern.ofText pattern
  index.insertPattern pattern value

/-- The entry behind a handle, unless it has been removed. -/
def entryAt? (index : Index α) (h : Handle) : Option (Entry α) :=
  (index.bucket h.bucket).at? h.slot

/-- The payload behind a handle, unless it has been removed. -/
def get? (index : Index α) (h : Handle) : Option α :=
  (index.entryAt? h).map (·.value)

/-- Leaves a hole in the place that a handle points to. -/
def clear (index : Index α) (h : Handle) : Index α :=
  index.modifyBucket (·.setIfInBounds h.slot none) h.bucket

/-- Removes an entry; gives its payload, or nothing if it was gone already. -/
def remove (index : Index α) (h : Handle) : Option α × Index α :=
  match index.get? h with
  | none => (none, index)
  | some value => (some value, { index.clear h with size := index.size - 1 })

/-- The live entries of a node with their handles, those for the host first. -/
def nodeEntries (i : Nat) (n : Node α) : List (Handle × Entry α) :=
  n.exact.slots.map (fun (slot, e) => (⟨.exact i, slot⟩, e))
    ++ n.wildcard.slots.map fun (slot, e) => (⟨.wildcard i, slot⟩, e)

/-- All live entries with their handles, in the order of the table. -/
def entries (index : Index α) : List (Handle × Entry α) :=
  index.allUrls.slots.map (fun (slot, e) => (⟨.allUrls, slot⟩, e))
    ++ index.nodes.toList.zipIdx.flatMap fun (n, i) => nodeEntries i n

/-- The payloads of a bucket whose entries cover an address. -/
def collect (b : Bucket α) (url : Url) : List α :=
  (b.live.filter (·.covers url)).map (·.value)

/-- The payloads found from a node on: those of each domain on the way, and at the end of the labels
those of the host. -/
def walk (index : Index α) (url : Url) (i : Nat) : List Text → List α
  | [] => collect (index.node i).wildcard url ++ collect (index.node i).exact url
  | label :: labels =>
    collect (index.node i).wildcard url ++
      match (index.node i).children.find? label with
      | some child => index.walk url child labels
      | none => []

/-- The payloads whose pattern covers an address. -/
def lookup (index : Index α) (url : Url) : List α :=
  if url.isWeb then
    index.allUrls.live.map (·.value) ++ index.walk url root (Host.reversedLabels url.host)
  else []

/-- The payloads whose pattern covers the address that a text spells. -/
def lookupText (index : Index α) (text : Text) : List α :=
  match Url.ofText? text with
  | some url => index.lookup url
  | none => []

end Index

end ResultFilter
