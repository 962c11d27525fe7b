import ResultFilter.Dict
import ResultFilter.Host.Basic

/-!
# Registrable domains

Below a public suffix such as `com` or `co.uk` anyone may register a domain. The registrable domain of a
host is the public suffix it ends in with one label more. The suffixes are those of a list, if one is
loaded; a host that the list has no answer for is cut by a rule of thumb.

## Main definitions

* `SuffixTree`, `SuffixList` — the rules of a list, from the outermost label inwards.
* `SuffixList.ofText?` — reads a list.
* `SuffixList.suffixSize` — how many labels of a host are its public suffix.
* `SuffixList.registrable?` — the registrable domain by a list.
* `registrableDomain` — the registrable domain of a host.
-/

namespace ResultFilter

open ResultFilter.Text

/-- What a rule of the list says of the names it covers. -/
inductive SuffixRule where
  /-- They are public suffixes. -/
  | suffix
  /-- They are registrable, although a rule with a star covers them. -/
  | exception
deriving DecidableEq, Repr

/-- The rules of a list, by their labels from the outermost inwards. -/
inductive SuffixTree where
  | node (rule : Option SuffixRule) (children : List (Text × SuffixTree))

namespace SuffixTree

/-- No rules. -/
def empty : SuffixTree := .node none []

/-- The rule that ends at a node. -/
def rule? : SuffixTree → Option SuffixRule
  | .node rule _ => rule

/-- The nodes one label further in. -/
def children : SuffixTree → Dict SuffixTree
  | .node _ children => children

/-- The tree with a rule whose labels are given; it replaces one with the same labels. -/
def insert (tree : SuffixTree) (rule : SuffixRule) : List Text → SuffixTree
  | [] => .node (some rule) tree.children
  | label :: labels =>
    let child := (tree.children.find? label).getD empty
    .node tree.rule? (tree.children.insert label (child.insert rule labels))

/-- The label that stands for every label. -/
def star : Text := ['*']

/-- The node under a label, or else the one under the star. -/
def step? (tree : SuffixTree) (label : Text) : Option SuffixTree :=
  match tree.children.find? label with
  | some child => some child
  | none => tree.children.find? star

/-- The size of the suffix found on the way down: `passed` labels lie behind, and `found` is the size
found so far. -/
def descend (passed found : Nat) (tree : SuffixTree) : List Text → Nat
  | [] => found
  | label :: labels =>
    match tree.step? label with
    | none => found
    | some child =>
      match child.rule? with
      | some .exception => passed
      | some .suffix => descend (passed + 1) (passed + 1) child labels
      | none => descend (passed + 1) found child labels

end SuffixTree

/-- A list of public suffixes. -/
structure SuffixList where
  /-- Its rules. -/
  rules : SuffixTree

namespace SuffixList

/-- How many labels of a host, from the outermost inwards, are its public suffix. The outermost is one
by itself, whether the list has it or not. -/
def suffixSize (list : SuffixList) : List Text → Nat
  | [] => 0
  | label :: labels =>
    match list.rules.children.find? label with
    | none => 1
    | some child => child.descend 1 1 labels

/-- The registrable domain of a host; nothing if the host is itself a suffix. -/
def registrable? (list : SuffixList) (host : Text) : Option Text :=
  if host.isEmpty then none
  else
    let labels := (Host.splitDots host).reverse
    let size := list.suffixSize labels
    match labels.drop size with
    | [] => none
    | [[]] => none
    | _ => some (Host.joinDots (labels.take (size + 1)).reverse)

/-- The tree with the rule that a text spells: labels without an empty one, after a mark for an
exception, which has to have a dot. -/
def addRule? (tree : SuffixTree) (text : Text) : Option SuffixTree :=
  let (rule, name) : SuffixRule × Text :=
    match text with
    | '!' :: name => (.exception, name)
    | name => (.suffix, name)
  let labels := Host.splitDots name
  if (rule == .exception && !text.contains '.') || labels.any (·.isEmpty) then none
  else some (tree.insert rule labels.reverse)

/-- The tree with the rule of a line, as it is spelled and in ASCII. Only the first word of a line
counts. -/
def addLine? (tree : SuffixTree) (line : Text) : Option SuffixTree :=
  let word := (trimStart line).takeWhile (!isBlank ·)
  if word.isEmpty then some tree
  else do
    let tree ← addRule? tree word
    let ascii ← Host.asciiForm? (fun _ => false) word
    addRule? tree ascii

/-- Adds the rules of some lines. None counts before the line that begins a part of the list; a line
that begins with slashes is a comment. -/
def addLines? (begun : Bool) (tree : SuffixTree) : List Text → Option SuffixTree
  | [] => some tree
  | line :: lines =>
    if line.includes "BEGIN ICANN DOMAINS".toList || line.includes "BEGIN PRIVATE DOMAINS".toList then
      addLines? true tree lines
    else if line.startsWith "//".toList || !begun then addLines? begun tree lines
    else do
      let tree ← addLine? tree line
      addLines? begun tree lines

/-- Reads a list; one without a rule is refused. -/
def ofText? (text : Text) : Option SuffixList := do
  let tree ← addLines? false .empty (Text.splitOn '\n' text)
  if tree.children.isEmpty then none else some ⟨tree⟩

end SuffixList

/-- The suffixes of two labels that are known without a list. -/
def commonSuffixes : List Text :=
  ["co.uk", "co.jp", "co.nz", "co.za", "co.in", "co.kr", "com.au", "com.br", "com.cn", "com.mx",
    "com.tw", "com.hk", "net.au", "net.nz", "org.uk", "org.au", "gov.uk", "gov.au", "ac.uk", "ac.jp",
    "ne.jp", "or.jp"].map String.toList

/-- The rule of thumb: the last two labels, or three if the last two are a common suffix. -/
def guessRegistrable (host : Text) : Text :=
  let labels := Host.splitDots host
  let lastTwo := Host.joinDots (labels.drop (labels.length - 2))
  if commonSuffixes.contains lastTwo then Host.joinDots (labels.drop (labels.length - 3)) else lastTwo

/-- The registrable domain of a host in small letters, by a list if there is one; an address is its own. -/
def registrableDomain (list : Option SuffixList) (host : Text) : Text :=
  let host := lowerAscii (host.reverse.dropWhile (· == '.')).reverse
  if Host.isAddress host then host
  else ((list.bind (·.registrable? host)).getD (guessRegistrable host))

end ResultFilter
