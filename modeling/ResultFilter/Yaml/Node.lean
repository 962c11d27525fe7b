import ResultFilter.Yaml.Layout

/-!
# The nodes of a YAML document

The tokens of a text are read as one document: a tree of scalars, sequences and mappings, in which an
alias points to a node with an anchor. Where a node may be left out an empty plain scalar takes its
place.

## Main definitions

* `Node` — a node; aliases may point by name or by number.
* `Node.read` and the readers around it — read a node from tokens.
* `Node.ofTokens?` — reads the only document of a text.
-/

namespace ResultFilter.Yaml

open ResultFilter.Text

/-- A node; `ρ` is what an alias points by. -/
inductive Node (ρ : Type) where
  | alias (target : ρ)
  | scalar (anchor tag : Option Text) (text : Text) (isPlain : Bool)
  | sequence (anchor tag : Option Text) (items : List (Node ρ))
  | mapping (anchor tag : Option Text) (pairs : List (Node ρ × Node ρ))
deriving Repr, Inhabited

namespace Node

/-- The node in a place that is left empty. -/
def blank : Node Text := .scalar none none [] true

/-- The handles of tags, with what they stand for. -/
abbrev Handles := List (Text × Text)

/-- The handles that are known without a directive. -/
def defaultHandles : Handles :=
  [(['!'], ['!']), (['!', '!'], "tag:yaml.org,2002:".toList)]

/-- The tag that a handle and the rest of it spell. -/
def tagOf? (handles : Handles) (handle suffix : Text) : Option Text :=
  if handle.isEmpty then some suffix
  else (handles.find? (·.1 == handle)).map fun (_, stands) => stands ++ suffix

/-- Reads the anchor and the tag before a node, in either order. -/
def readProperties? (handles : Handles) :
    List Token → Option (Option Text × Option Text × List Token)
  | .anchor a :: .tag h s :: rest => (tagOf? handles h s).map fun t => (some a, some t, rest)
  | .tag h s :: .anchor a :: rest => (tagOf? handles h s).map fun t => (some a, some t, rest)
  | .anchor a :: rest => some (some a, none, rest)
  | .tag h s :: rest => (tagOf? handles h s).map fun t => (none, some t, rest)
  | tokens => some (none, none, tokens)

mutual

/-- Reads a node. Blocks may begin only outside brackets, and items without a block of their own only
in a pair. -/
def read (handles : Handles) : Nat → Bool → Bool → List Token → Option (Node Text × List Token)
  | 0, _, _, _ => none
  | _, _, _, .alias name :: rest => some (.alias name, rest)
  | fuel + 1, inBlock, inPair, tokens => do
    let (anchor, tag, tokens) ← readProperties? handles tokens
    match tokens with
    | .scalar text isPlain :: rest => some (.scalar anchor tag text isPlain, rest)
    | .flowSequenceStart :: rest =>
      (readFlowItems handles fuel true rest).map fun (items, rest) =>
        (.sequence anchor tag items, rest)
    | .flowMappingStart :: rest =>
      (readFlowPairs handles fuel true rest).map fun (pairs, rest) =>
        (.mapping anchor tag pairs, rest)
    | .blockEntry :: rest =>
      if inPair then
        (readBareItems handles fuel (.blockEntry :: rest)).map fun (items, rest) =>
          (.sequence anchor tag items, rest)
      else orBlank anchor tag tokens
    | .blockSequenceStart :: rest =>
      if inBlock then
        (readItems handles fuel rest).map fun (items, rest) => (.sequence anchor tag items, rest)
      else orBlank anchor tag tokens
    | .blockMappingStart :: rest =>
      if inBlock then
        (readPairs handles fuel rest).map fun (pairs, rest) => (.mapping anchor tag pairs, rest)
      else orBlank anchor tag tokens
    | tokens => orBlank anchor tag tokens

/-- A node with properties only; without any of them there is no node. -/
def orBlank (anchor tag : Option Text) (tokens : List Token) : Option (Node Text × List Token) :=
  if anchor.isSome || tag.isSome then some (.scalar anchor tag [] true, tokens) else none

/-- Reads the items of a block sequence up to its end. -/
def readItems (handles : Handles) : Nat → List Token → Option (List (Node Text) × List Token)
  | 0, _ => none
  | fuel + 1, .blockEntry :: rest => do
    let (item, rest) ← match rest with
      | .blockEntry :: _ => some (blank, rest)
      | .blockEnd :: _ => some (blank, rest)
      | _ => read handles fuel true false rest
    let (items, rest) ← readItems handles fuel rest
    return (item :: items, rest)
  | _, .blockEnd :: rest => some ([], rest)
  | _, _ => none

/-- Reads items that stand in the column of the keys around them, up to the next token that is none. -/
def readBareItems (handles : Handles) : Nat → List Token → Option (List (Node Text) × List Token)
  | 0, _ => none
  | fuel + 1, .blockEntry :: rest => do
    let (item, rest) ← match rest with
      | .blockEntry :: _ => some (blank, rest)
      | .key :: _ => some (blank, rest)
      | .value :: _ => some (blank, rest)
      | .blockEnd :: _ => some (blank, rest)
      | _ => read handles fuel true false rest
    let (items, rest) ← readBareItems handles fuel rest
    return (item :: items, rest)
  | _, tokens => some ([], tokens)

/-- Reads a key or a value of a block mapping. -/
def readPairPart (handles : Handles) : Nat → List Token → Option (Node Text × List Token)
  | 0, _ => none
  | fuel + 1, tokens =>
    match tokens with
    | .key :: _ => some (blank, tokens)
    | .value :: _ => some (blank, tokens)
    | .blockEnd :: _ => some (blank, tokens)
    | _ => read handles fuel true true tokens

/-- Reads the pairs of a block mapping up to its end. -/
def readPairs (handles : Handles) :
    Nat → List Token → Option (List (Node Text × Node Text) × List Token)
  | 0, _ => none
  | fuel + 1, .key :: rest => do
    let (k, rest) ← readPairPart handles fuel rest
    let (v, rest) ← match rest with
      | .value :: rest => readPairPart handles fuel rest
      | rest => some (blank, rest)
    let (pairs, rest) ← readPairs handles fuel rest
    return ((k, v) :: pairs, rest)
  | _, .blockEnd :: rest => some ([], rest)
  | _, _ => none

/-- Reads the items of a sequence in brackets up to its end. A pair by itself is a mapping. -/
def readFlowItems (handles : Handles) :
    Nat → Bool → List Token → Option (List (Node Text) × List Token)
  | 0, _, _ => none
  | _, _, .flowSequenceEnd :: rest => some ([], rest)
  | fuel + 1, isFirst, tokens => do
    let tokens ← afterComma? isFirst tokens
    match tokens with
    | .flowSequenceEnd :: rest => some ([], rest)
    | .key :: rest => do
      let (k, rest) ← match rest with
        | .value :: rest => some (blank, rest)
        | .flowEntry :: rest => some (blank, rest)
        | .flowSequenceEnd :: rest => some (blank, rest)
        | _ => read handles fuel false false rest
      let (v, rest) ← match rest with
        | .value :: rest =>
          match rest with
          | .flowEntry :: _ => some (blank, rest)
          | .flowSequenceEnd :: _ => some (blank, rest)
          | _ => read handles fuel false false rest
        | rest => some (blank, rest)
      let (items, rest) ← readFlowItems handles fuel false rest
      return (.mapping none none [(k, v)] :: items, rest)
    | tokens => do
      let (item, rest) ← read handles fuel false false tokens
      let (items, rest) ← readFlowItems handles fuel false rest
      return (item :: items, rest)

/-- What follows the comma before an item that is not the first. -/
def afterComma? (isFirst : Bool) (tokens : List Token) : Option (List Token) :=
  if isFirst then some tokens
  else
    match tokens with
    | .flowEntry :: rest => some rest
    | _ => none

/-- Reads the pairs of a mapping in brackets up to its end. A key without a colon has an empty value. -/
def readFlowPairs (handles : Handles) :
    Nat → Bool → List Token → Option (List (Node Text × Node Text) × List Token)
  | 0, _, _ => none
  | _, _, .flowMappingEnd :: rest => some ([], rest)
  | fuel + 1, isFirst, tokens => do
    let tokens ← afterComma? isFirst tokens
    match tokens with
    | .flowMappingEnd :: rest => some ([], rest)
    | .key :: rest => do
      let (k, rest) ← match rest with
        | .value :: _ => some (blank, rest)
        | .flowEntry :: _ => some (blank, rest)
        | .flowMappingEnd :: _ => some (blank, rest)
        | _ => read handles fuel false false rest
      let (v, rest) ← match rest with
        | .value :: rest =>
          match rest with
          | .flowEntry :: _ => some (blank, rest)
          | .flowMappingEnd :: _ => some (blank, rest)
          | _ => read handles fuel false false rest
        | rest => some (blank, rest)
      let (pairs, rest) ← readFlowPairs handles fuel false rest
      return ((k, v) :: pairs, rest)
    | tokens => do
      let (k, rest) ← read handles fuel false false tokens
      let (pairs, rest) ← readFlowPairs handles fuel false rest
      return ((k, blank) :: pairs, rest)

end

/-- The versions of the format that are read. -/
def isKnownVersion (major minor : Nat) : Bool :=
  major == 1 && (minor == 1 || minor == 2)

/-- Reads the directives before a document: no handle twice, and at most one version. -/
def readDirectives? (handles : Handles) (hasVersion : Bool) :
    List Token → Option (Handles × List Token)
  | .version major minor :: rest =>
    if hasVersion || !isKnownVersion major minor then none else readDirectives? handles true rest
  | .tagHandle handle stands :: rest =>
    if handles.any (·.1 == handle) then none
    else readDirectives? (handles ++ [(handle, stands)]) hasVersion rest
  | tokens => some (handles ++ defaultHandles, tokens)

/-- Reads the content of a document after its marker. -/
def readContent? (handles : Handles) (tokens : List Token) : Option (Node Text × List Token) :=
  match tokens with
  | [] => some (blank, [])
  | .version _ _ :: _ => some (blank, tokens)
  | .tagHandle _ _ :: _ => some (blank, tokens)
  | .documentStart :: _ => some (blank, tokens)
  | .documentEnd :: _ => some (blank, tokens)
  | _ => read handles (2 * tokens.length + 2) true false tokens

/-- Reads a document. Its marker may be missing if no directive precedes it. -/
def readDocument? (tokens : List Token) : Option (Node Text × List Token) :=
  match tokens with
  | [] => none
  | .version _ _ :: _ => explicit
  | .tagHandle _ _ :: _ => explicit
  | .documentStart :: _ => explicit
  | _ => read defaultHandles (2 * tokens.length + 2) true false tokens
where
  /-- Reads a document with a marker. -/
  explicit : Option (Node Text × List Token) := do
    let (handles, rest) ← readDirectives? [] false tokens
    match rest with
    | .documentStart :: rest => readContent? handles rest
    | _ => none

/-- Reads the only document of a text. -/
def ofTokens? (tokens : List Token) : Option (Node Text) := do
  let (node, rest) ← readDocument? tokens
  if rest.all (· == .documentEnd) then some node else none

end Node

end ResultFilter.Yaml
