import ResultFilter.Regex.ClassName
import ResultFilter.Text.CaseFold

/-!
# What a regular expression stands for

An expression stands for a pattern once the flags in force at each part are applied: classes become sets,
characters without regard to case the sets of their forms, and anchors conditions on places.

## Main definitions

* `Regex.Pattern` — a pattern over sets of characters and conditions on places.
* `Regex.Flags` — the flags in force.
* `Regex.setOf?` — the set of a class.
* `Regex.patternOf?` — the pattern of an expression, and the flags after it.
-/

namespace ResultFilter.Regex

open ResultFilter.Text

/-- A condition on a place between characters, with all flags applied. -/
inductive Look where
  | start
  | end
  | startLine
  | endLine
  | startLineCrlf
  | endLineCrlf
  | wordBoundary (unicode : Bool)
  | notWordBoundary (unicode : Bool)
  | wordStart (unicode : Bool)
  | wordEnd (unicode : Bool)
  | wordStartHalf (unicode : Bool)
  | wordEndHalf (unicode : Bool)
deriving DecidableEq, Repr

/-- A pattern: `σ` tells which characters match and `κ` which places do. -/
inductive Pattern (σ κ : Type) where
  | empty
  | one (s : σ)
  | look (l : κ)
  | seq (p q : Pattern σ κ)
  | alt (p q : Pattern σ κ)
  /-- At least `least` times, and at most `most` times unless there is no bound. -/
  | repeated (least : Nat) (most : Option Nat) (p : Pattern σ κ)
  /-- A group that is remembered, which does not change what matches. -/
  | capture (p : Pattern σ κ)
deriving Repr, Inhabited, DecidableEq

/-- The flags in force. -/
structure Flags where
  ignoreCase : Bool := false
  multiLine : Bool := false
  dotNewLine : Bool := false
  unicode : Bool := true
  crlf : Bool := false
deriving DecidableEq, Repr

namespace Flags

/-- The flags after a directive. -/
def apply (flags : Flags) (change : FlagChange) : Flags where
  ignoreCase := (change.state? .ignoreCase).getD flags.ignoreCase
  multiLine := (change.state? .multiLine).getD flags.multiLine
  dotNewLine := (change.state? .dotNewLine).getD flags.dotNewLine
  unicode := (change.state? .unicode).getD flags.unicode
  crlf := (change.state? .crlf).getD flags.crlf

end Flags

/-- The ASCII letters. -/
def asciiLetters : CodeSet := AsciiClass.alpha.members

/-- Adds to a set the other case of its ASCII letters. -/
def closeAsciiCase (s : CodeSet) : CodeSet :=
  s.union (.ofPairs ((s.inter asciiLetters).ranges.map fun (a, b) =>
    if a < 0x60 then (a + 32, b + 32) else (a - 32, b - 32)))

/-- Adds the other cases of the members of a set, if case is ignored. -/
def foldSet (flags : Flags) (s : CodeSet) : CodeSet :=
  if !flags.ignoreCase then s else if flags.unicode then s.closeFold else closeAsciiCase s

/-- The code of a character, which outside of Unicode has to be one that a byte spells in UTF-8 too. -/
def scalarOf? (flags : Flags) (l : Literal) : Option Nat :=
  if !flags.unicode && l.isByte && l.char.toNat > 0x7F then none else some l.char.toNat

/-- The code of a character in a class, where outside of Unicode only ASCII may stand. -/
def memberOf? (flags : Flags) (l : Literal) : Option Nat :=
  if !flags.unicode && l.char.toNat > 0x7F then none else some l.char.toNat

/-- The set of a class with case ignored and then negated. Outside of Unicode a negated class would hold
bytes that are no characters. -/
def foldAndNegate? (flags : Flags) (negated : Bool) (s : CodeSet) : Option CodeSet :=
  let s := foldSet flags s
  if !negated then some s else if flags.unicode then some s.compl else none

/-- The set of a Unicode class. -/
def unicodeSet? (flags : Flags) (negated : Bool) (name : ClassName) : Option CodeSet :=
  if flags.unicode then (classMembers? name).bind (foldAndNegate? flags negated) else none

/-- The set of a class with a short escape. -/
def shortSet? (flags : Flags) (negated : Bool) (c : ShortClass) : Option CodeSet :=
  let s := c.members flags.unicode
  if !negated then some s else if flags.unicode then some s.compl else none

mutual

/-- The set of a class. -/
def setOf? (flags : Flags) : ClassNode → Option CodeSet
  | .empty => some .empty
  | .literal l => (memberOf? flags l).map fun n => .range n n
  | .range a b => do
    let lo ← memberOf? flags a
    let hi ← memberOf? flags b
    return .range lo hi
  | .ascii negated c => foldAndNegate? flags negated c.members
  | .unicode negated name => unicodeSet? flags negated name
  | .short negated c => shortSet? flags negated c
  | .bracketed negated inner => (setOf? flags inner).bind (foldAndNegate? flags negated)
  | .union items => (setsOf? flags items).map .unions
  | .operation op left right => do
    let a := foldSet flags (← setOf? flags left)
    let b := foldSet flags (← setOf? flags right)
    return match op with
      | .intersection => a.inter b
      | .difference => a.diff b
      | .symmetricDifference => a.symmDiff b

/-- The sets of the items of a class. -/
def setsOf? (flags : Flags) : List ClassNode → Option (List CodeSet)
  | [] => some []
  | item :: rest => do
    let s ← setOf? flags item
    let ss ← setsOf? flags rest
    return s :: ss

end

/-- The characters that the dot stands for. -/
def dotSet (flags : Flags) : CodeSet :=
  if flags.dotNewLine then .range 0 CodeSet.last
  else if flags.crlf then .ofPairs [(0, 0x9), (0xB, 0xC), (0xE, CodeSet.last)]
  else .ofPairs [(0, 0x9), (0xB, CodeSet.last)]

/-- The condition that an anchor stands for. -/
def lookOf (flags : Flags) : Assertion → Look
  | .startLine => if !flags.multiLine then .start else if flags.crlf then .startLineCrlf else .startLine
  | .endLine => if !flags.multiLine then .end else if flags.crlf then .endLineCrlf else .endLine
  | .startText => .start
  | .endText => .end
  | .wordBoundary => .wordBoundary flags.unicode
  | .notWordBoundary => .notWordBoundary flags.unicode
  | .wordStart => .wordStart flags.unicode
  | .wordEnd => .wordEnd flags.unicode
  | .wordStartHalf => .wordStartHalf flags.unicode
  | .wordEndHalf => .wordEndHalf flags.unicode

/-- The set of a character, with its other cases if case is ignored. -/
def literalSet? (flags : Flags) (l : Literal) : Option CodeSet :=
  (scalarOf? flags l).map fun n =>
    if !flags.ignoreCase then .range n n
    else if flags.unicode then .ofPairs ((n :: foldMates n).map fun m => (m, m))
    else closeAsciiCase (.range n n)

mutual

/-- The pattern of an expression, and the flags in force after it. -/
def patternOf? (flags : Flags) : Ast → Option (Pattern CodeSet Look × Flags)
  | .empty => some (.empty, flags)
  | .flags change => some (.empty, flags.apply change)
  | .literal l => (literalSet? flags l).map fun s => (.one s, flags)
  | .dot => if flags.unicode then some (.one (dotSet flags), flags) else none
  | .assertion a => some (.look (lookOf flags a), flags)
  | .unicode negated name => (unicodeSet? flags negated name).map fun s => (.one s, flags)
  | .short negated c => (shortSet? flags negated c).map fun s => (.one s, flags)
  | .bracketed negated inner =>
    ((setOf? flags inner).bind (foldAndNegate? flags negated)).map fun s => (.one s, flags)
  | .repeated least most body => do
    let (p, flags) ← patternOf? flags body
    return (.repeated least most p, flags)
  | .group isCapture change body => do
    let (p, _) ← patternOf? (flags.apply change) body
    return (if isCapture then .capture p else p, flags)
  | .alternation branches => alternatives? flags branches
  | .concat parts => sequence? flags parts

/-- The pattern of branches; a directive in one holds for the next. -/
def alternatives? (flags : Flags) : List Ast → Option (Pattern CodeSet Look × Flags)
  | [] => some (.empty, flags)
  | [branch] => patternOf? flags branch
  | branch :: next :: rest => do
    let (p, flags) ← patternOf? flags branch
    let (q, flags) ← alternatives? flags (next :: rest)
    return (.alt p q, flags)

/-- The pattern of parts in a row. -/
def sequence? (flags : Flags) : List Ast → Option (Pattern CodeSet Look × Flags)
  | [] => some (.empty, flags)
  | [part] => patternOf? flags part
  | part :: next :: rest => do
    let (p, flags) ← patternOf? flags part
    let (q, flags) ← sequence? flags (next :: rest)
    return (.seq p q, flags)

end

end ResultFilter.Regex
