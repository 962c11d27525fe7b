import ResultFilter.Yaml.Token

/-!
# The layout of a YAML text

Blocks have no brackets; they are known by the columns they begin at. While a text is cut into tokens the
columns of the blocks around a place are kept, and tokens are put in where a block begins or ends. That a
scalar is a key shows only at the colon behind it, so that its place is kept until then, and the token
before it is put in late.

## Main definitions

* `PossibleKey` — the place of a key that a colon may still follow.
* `Layout` — a text cut into tokens so far.
* `Layout.fetch` — one token more.
* `Token.ofText?` — the tokens of a text.
-/

namespace ResultFilter.Yaml

/-- The place of a key that a colon may still follow. -/
structure PossibleKey where
  /-- Whether a colon has to follow, since a block of pairs goes on here. -/
  required : Bool
  /-- The number of tokens before it. -/
  token : Nat
  /-- Its line. -/
  line : Nat
  /-- Its column. -/
  column : Nat
  /-- The number of characters before it. -/
  index : Nat

/-- The longest key of a pair without the mark of a key, in characters. -/
def longestKey : Nat := 1024

/-- A text cut into tokens so far. -/
structure Layout where
  /-- The place reached. -/
  place : Place
  /-- The tokens. -/
  tokens : Array Token := #[]
  /-- The possible key of each pair of brackets that is open, from the inside out, and of what lies
  around them all. -/
  keys : List (Option PossibleKey) := [none]
  /-- The column of the innermost block, or `-1` outside all blocks. -/
  indent : Int := -1
  /-- The columns of the blocks around it. -/
  outer : List Int := []
  /-- Whether a key without a mark may begin here. -/
  keyAllowed : Bool := true

namespace Layout

/-- Whether the place lies within brackets. -/
def inFlow (s : Layout) : Bool :=
  s.keys.length > 1

/-- Adds a token. -/
def push (s : Layout) (token : Token) : Layout :=
  { s with tokens := s.tokens.push token }

/-- Goes on to a place. -/
def goTo (s : Layout) (p : Place) : Layout :=
  { s with place := p }

/-- The mark that may begin a text or a line. -/
def byteOrderMark : Char := '\uFEFF'

/-- Goes on over blanks, comments and line ends. A tab is passed over only where no key may begin. -/
def skipToToken (s : Layout) : Nat → Layout
  | 0 => s
  | fuel + 1 =>
    let p := if s.place.column == 0 && s.place.seesChar byteOrderMark then s.place.skip else s.place
    let p := p.skipWhile fun c => c == ' ' || ((s.inFlow || !s.keyAllowed) && c == '\t')
    let p := p.skipComment
    if p.sees isBreak then
      skipToToken { s with place := p.skipBreak, keyAllowed := s.keyAllowed || !s.inFlow } fuel
    else s.goTo p

/-- Whether a key is too far behind for a colon here. -/
def isStale (p : Place) (key : PossibleKey) : Bool :=
  key.line < p.line || key.index + longestKey < p.index

/-- Gives up the keys that are too far behind; one that has to have its colon is a fault. -/
def dropStaleKeys (s : Layout) : Option Layout :=
  if s.keys.any (·.any fun key => key.required && isStale s.place key) then none
  else some { s with keys := s.keys.map (·.filter fun key => !isStale s.place key) }

/-- Ends the blocks that begin to the right of a column. -/
def endBlocks (s : Layout) (column : Int) : Layout :=
  if s.inFlow then s
  else
    let ended := (s.indent :: s.outer).takeWhile (· > column)
    match (s.indent :: s.outer).drop ended.length with
    | indent :: outer =>
      { s with
        tokens := s.tokens ++ Array.replicate ended.length Token.blockEnd
        indent := indent
        outer := outer }
    | [] => s

/-- Begins a block at a column unless it begins there already; its token is put in before others, or
at the end. -/
def beginBlock (s : Layout) (column : Nat) (token : Token) (before : Nat) : Layout :=
  if s.inFlow || s.indent ≥ column then s
  else
    { s with
      tokens := s.tokens.insertIdxIfInBounds before token
      indent := column
      outer := s.indent :: s.outer }

/-- Notes that a key may begin here. -/
def noteKey (s : Layout) : Option Layout :=
  if s.keyAllowed then
    let p := s.place
    let required := !s.inFlow && s.indent == p.column
    match s.keys with
    | some key :: outer =>
      if key.required then none
      else some { s with keys := some ⟨required, s.tokens.size, p.line, p.column, p.index⟩ :: outer }
    | none :: outer =>
      some { s with keys := some ⟨required, s.tokens.size, p.line, p.column, p.index⟩ :: outer }
    | [] => none
  else some s

/-- Gives up the key noted last; one that has to have its colon is a fault. -/
def forgetKey (s : Layout) : Option Layout :=
  match s.keys with
  | some key :: outer => if key.required then none else some { s with keys := none :: outer }
  | _ => some s

/-- Adds a token for the next characters, of the given number, after which a key may begin or not. -/
def mark (s : Layout) (token : Token) (width : Nat) (keyAllowed : Bool) : Layout :=
  { s.push token with place := s.place.skipN width, keyAllowed := keyAllowed }

/-- A directive, or a marker between documents: all blocks end. -/
def betweenDocuments (s : Layout) : Option Layout :=
  ({ s.endBlocks (-1) with keyAllowed := false }).forgetKey

/-- An opening bracket. -/
def openBracket (s : Layout) (token : Token) : Option Layout := do
  let s ← s.noteKey
  return { s.mark token 1 true with keys := none :: s.keys }

/-- A closing bracket. -/
def closeBracket (s : Layout) (token : Token) : Option Layout := do
  let s ← s.forgetKey
  let keys := if s.inFlow then s.keys.drop 1 else s.keys
  return { s.mark token 1 false with keys := keys }

/-- The hyphen before an item. -/
def blockEntry (s : Layout) : Option Layout :=
  if !s.inFlow && !s.keyAllowed then none
  else do
    let s ← (s.beginBlock s.place.column .blockSequenceStart s.tokens.size).forgetKey
    return s.mark .blockEntry 1 true

/-- The mark before a key. -/
def explicitKey (s : Layout) : Option Layout :=
  if !s.inFlow && !s.keyAllowed then none
  else do
    let s ← (s.beginBlock s.place.column .blockMappingStart s.tokens.size).forgetKey
    return s.mark .key 1 (!s.inFlow)

/-- The colon before a value. If it follows a key that was noted, the token of the key is put in before
the key, and that of a block before both. -/
def colon (s : Layout) : Option Layout :=
  match s.keys with
  | some key :: outer =>
    let s := { s with tokens := s.tokens.insertIdxIfInBounds key.token .key, keys := none :: outer }
    some ((s.beginBlock key.column .blockMappingStart key.token).mark .value 1 false)
  | _ =>
    if !s.inFlow && !s.keyAllowed then none
    else
      some ((s.beginBlock s.place.column .blockMappingStart s.tokens.size).mark .value 1 (!s.inFlow))

/-- A property of a node: an alias, an anchor or a tag. -/
def property (s : Layout) (read : Place → Option (Token × Place)) : Option Layout := do
  let s ← s.noteKey
  let (token, p) ← read s.place
  return { s.push token with place := p, keyAllowed := false }

/-- A scalar in quotes. -/
def quoted (s : Layout) (quote : Char) : Option Layout :=
  s.property fun p => (readQuoted quote p).map fun (text, p) => (.scalar text false, p)

/-- A plain scalar. After one that ends with a line a key may begin. -/
def plain (s : Layout) : Option Layout := do
  let s ← s.noteKey
  let (text, p, broken) ← readPlain s.inFlow (s.indent + 1) s.place
  return { s.push (.scalar text true) with place := p, keyAllowed := broken }

/-- A block scalar. -/
def block (s : Layout) (literal : Bool) : Option Layout := do
  let s ← s.forgetKey
  let (text, p) ← readBlock literal s.indent s.place
  return { s.push (.scalar text false) with place := p, keyAllowed := true }

/-- The characters that no token begins with. -/
def beginsNothing (c : Char) : Bool :=
  c == '%' || c == '@' || c == '\x60' || isGapOrBreak c

/-- Adds the token that begins with a character, which has the text after it. -/
def fetchFrom (s : Layout) (c : Char) (rest : Text) : Option Layout :=
  let loose := rest.head?.all isGapOrBreak
  match c with
  | '[' => s.openBracket .flowSequenceStart
  | '\x7b' => s.openBracket .flowMappingStart
  | ']' => s.closeBracket .flowSequenceEnd
  | '\x7d' => s.closeBracket .flowMappingEnd
  | ',' => s.forgetKey.map (·.mark .flowEntry 1 true)
  | '-' => if loose then s.blockEntry else s.plain
  | '?' => if s.inFlow || loose then s.explicitKey else s.plain
  | ':' => if s.inFlow || loose then s.colon else s.plain
  | '*' => s.property fun p => (readName p.skip).map fun (name, p) => (.alias name, p)
  | '&' => s.property fun p => (readName p.skip).map fun (name, p) => (.anchor name, p)
  | '!' => s.property (readTag s.inFlow)
  | '|' => if s.inFlow then none else s.block true
  | '>' => if s.inFlow then none else s.block false
  | '\'' => s.quoted '\''
  | '"' => s.quoted '"'
  | c => if beginsNothing c then none else s.plain

/-- Adds a token, after those for the blocks that end here. -/
def fetch (s : Layout) : Option Layout := do
  let s ← (s.skipToToken (s.place.rest.length + 1)).dropStaleKeys
  let s := s.endBlocks s.place.column
  match s.place.rest with
  | [] => some s
  | c :: rest =>
    if s.place.column == 0 && c == '%' then do
      let s ← s.betweenDocuments
      let (token, p) ← readDirective s.place
      return { s.push token with place := p }
    else if s.place.atStartMarker then
      s.betweenDocuments.map (·.mark .documentStart 3 false)
    else if s.place.atEndMarker then
      s.betweenDocuments.map (·.mark .documentEnd 3 false)
    else s.fetchFrom c rest

/-- Adds tokens up to the end of the text, where all blocks end; every token takes a character. -/
def fetchAll : Nat → Layout → Option (Array Token)
  | 0, _ => none
  | fuel + 1, s => do
    let s ← s.fetch
    if s.place.atEnd then do
      let s ← s.skipToToken 1 |>.dropStaleKeys
      let s ← s.betweenDocuments
      return s.tokens
    else fetchAll fuel s

end Layout

/-- The tokens of a text. -/
def Token.ofText? (text : Text) : Option (List Token) :=
  if text.all isAllowed then
    let text := if text.head? == some Layout.byteOrderMark then text.drop 1 else text
    (Layout.fetchAll (text.length + 1) { place := .ofText text }).map Array.toList
  else none

end ResultFilter.Yaml
