import ResultFilter.Text.Basic

/-!
# The form of a regular expression

A regular expression as it is spelled: classes by name, flags as directives, repetitions as written. What
it stands for depends on the flags in force and is decided elsewhere.

## Main definitions

* `Regex.Ast` — an expression.
* `Regex.ClassNode` — the inside of a bracketed class.
* `Regex.Ast.depth` — how deep an expression is nested.
-/

namespace ResultFilter.Regex

/-- What the letters in `(?...)` switch. -/
inductive Flag where
  | ignoreCase
  | multiLine
  | dotNewLine
  | swapGreed
  | unicode
  | crlf
  | verbose
deriving DecidableEq, Repr

/-- The flags that a directive switches, on or off. -/
abbrev FlagChange := List (Flag × Bool)

/-- What a directive does to a flag, if it names it. -/
def FlagChange.state? (change : FlagChange) (flag : Flag) : Option Bool :=
  (change.find? fun item => item.1 == flag).map (·.2)

/-- A condition on a place between characters. -/
inductive Assertion where
  | startLine
  | endLine
  | startText
  | endText
  | wordBoundary
  | notWordBoundary
  | wordStart
  | wordEnd
  | wordStartHalf
  | wordEndHalf
deriving DecidableEq, Repr

/-- A character as it is spelled. -/
structure Literal where
  /-- The character. -/
  char : Char
  /-- Whether it is spelled as a byte of two hexadecimal digits. -/
  isByte : Bool
deriving DecidableEq, Repr

/-- The classes with an escape of one letter. -/
inductive ShortClass where
  | digit
  | space
  | word
deriving DecidableEq, Repr

/-- A Unicode class as it is named. -/
inductive ClassName where
  /-- A property, a general category or a script. -/
  | name (name : Text)
  /-- A value of a property. -/
  | value (property value : Text)
deriving DecidableEq, Repr

/-- The classes of ASCII characters with a name in `[:...:]`. -/
inductive AsciiClass where
  | alnum
  | alpha
  | ascii
  | blank
  | cntrl
  | digit
  | graph
  | lower
  | print
  | punct
  | space
  | upper
  | word
  | xdigit
deriving DecidableEq, Repr

/-- How two parts of a bracketed class are combined. -/
inductive SetOperator where
  | intersection
  | difference
  | symmetricDifference
deriving DecidableEq, Repr

/-- The inside of a bracketed class. -/
inductive ClassNode where
  | empty
  | literal (l : Literal)
  | range (first last : Literal)
  | ascii (negated : Bool) (c : AsciiClass)
  | unicode (negated : Bool) (name : ClassName)
  | short (negated : Bool) (c : ShortClass)
  | bracketed (negated : Bool) (inner : ClassNode)
  | union (items : List ClassNode)
  | operation (op : SetOperator) (left right : ClassNode)
deriving Repr, Inhabited

/-- A regular expression as it is spelled. -/
inductive Ast where
  | empty
  | flags (change : FlagChange)
  | literal (l : Literal)
  | dot
  | assertion (a : Assertion)
  | unicode (negated : Bool) (name : ClassName)
  | short (negated : Bool) (c : ShortClass)
  | bracketed (negated : Bool) (inner : ClassNode)
  /-- At least `least` times, and at most `most` times unless there is no bound. -/
  | repeated (least : Nat) (most : Option Nat) (body : Ast)
  /-- A group; the flags are those switched for it alone. -/
  | group (isCapture : Bool) (change : FlagChange) (body : Ast)
  | alternation (branches : List Ast)
  | concat (parts : List Ast)
deriving Repr, Inhabited

namespace ClassNode

/-- The node of some items. -/
def ofItems : List ClassNode → ClassNode
  | [] => .empty
  | [item] => item
  | items => .union items

mutual

/-- How deep a class is nested. -/
def depth : ClassNode → Nat
  | .bracketed _ inner => depth inner + 1
  | .union items => depthItems items + 1
  | .operation _ left right => max (depth left) (depth right) + 1
  | _ => 0

/-- The depth of the deepest item. -/
def depthItems : List ClassNode → Nat
  | [] => 0
  | item :: rest => max (depth item) (depthItems rest)

end

end ClassNode

namespace Ast

/-- The expression of some parts in a row. -/
def ofParts : List Ast → Ast
  | [] => .empty
  | [part] => part
  | parts => .concat parts

/-- The expression of some branches. -/
def ofBranches : List Ast → Ast
  | [branch] => branch
  | branches => .alternation branches

mutual

/-- How deep an expression is nested. -/
def depth : Ast → Nat
  | .bracketed _ inner => inner.depth + 1
  | .repeated _ _ body => depth body + 1
  | .group _ _ body => depth body + 1
  | .alternation branches => depthParts branches + 1
  | .concat parts => depthParts parts + 1
  | _ => 0

/-- The depth of the deepest part. -/
def depthParts : List Ast → Nat
  | [] => 0
  | part :: rest => max (depth part) (depthParts rest)

end

/-- How deep an expression may be nested. -/
def depthLimit : Nat := 250

/-- Whether an operator can repeat an expression; a directive is none. -/
def isRepeatable : Ast → Bool
  | .empty => false
  | .flags _ => false
  | _ => true

end Ast

end ResultFilter.Regex
