import ResultFilter.Regex.Ast
import ResultFilter.Text.Category
import ResultFilter.Text.Property

/-!
# Reading regular expressions

The reader takes the expression apart from the front. It carries on whether blanks and comments count,
which directives switch within a group, and the names of the groups so far, each of which may be given
once. There are neither look-around conditions nor references to groups.

## Main definitions

* `Regex.Reader` — what is left to read.
* `Regex.readEscape?` — reads an escape.
* `Regex.readClass?` — reads a bracketed class.
* `Regex.readBranches` — reads the inside of a group.
* `Regex.Ast.ofText?` — reads an expression.
-/

namespace ResultFilter.Regex

open ResultFilter.Text

/-- The state of reading. -/
structure Reader where
  /-- What is left. -/
  rest : Text
  /-- Whether blanks and comments between tokens are passed over. -/
  verbose : Bool
  /-- The names of groups so far. -/
  names : List Text

/-- A text without the comment that it begins with, if it does, and the line end of it. -/
def dropComment (cs : Text) : Text :=
  (cs.dropWhile (· != '\n')).drop 1

/-- A text without leading blanks and comments. -/
def dropSpace : Nat → Text → Text
  | 0, cs => cs
  | fuel + 1, cs =>
    match cs.dropWhile isBlank with
    | '#' :: rest => dropSpace fuel (dropComment rest)
    | cs => cs

namespace Reader

/-- Passes over blanks and comments, if they do not count. -/
def skip (r : Reader) : Reader :=
  if r.verbose then { r with rest := dropSpace r.rest.length r.rest } else r

/-- Goes on with another rest. -/
def at_ (r : Reader) (rest : Text) : Reader := { r with rest := rest }

/-- Goes on with another rest, after blanks. -/
def skipAt (r : Reader) (rest : Text) : Reader := (r.at_ rest).skip

end Reader

/-- The characters with a meaning of their own, which an escape takes from them. -/
def isMeta (c : Char) : Bool :=
  "\\.+*?()|[]\x7b\x7d^$#&-~".toList.contains c

/-- Whether a backslash before a character leaves the character itself. -/
def isEscapable (c : Char) : Bool :=
  isMeta c || (c.toNat < 0x80 && !c.isAlphanum && c != '<' && c != '>')

/-- What an escape spells. -/
inductive Escape where
  | literal (l : Literal)
  | assertion (a : Assertion)
  | unicode (negated : Bool) (name : ClassName)
  | short (negated : Bool) (c : ShortClass)

/-- The character of a code, if there is one. -/
def charOf? (n : Nat) : Option Char :=
  if n.isValidChar then some (Char.ofNat n) else none

/-- Reads a number of hexadecimal digits, with blanks between them where those do not count. -/
def readHexDigits? : Nat → Nat → Reader → Option (Nat × Reader)
  | 0, n, r => some (n, r)
  | count + 1, n, r =>
    match r.rest with
    | c :: rest => do
      let d ← hexValue? c
      readHexDigits? count (n * 16 + d) (r.skipAt rest)
    | [] => none

/-- Reads hexadecimal digits up to a closing brace. -/
def readHexBrace? : Nat → List Nat → Reader → Option (List Nat × Reader)
  | 0, _, _ => none
  | fuel + 1, digits, r =>
    match r.rest with
    | '\x7d' :: rest => some (digits.reverse, r.skipAt rest)
    | c :: rest => do
      let d ← hexValue? c
      readHexBrace? fuel (d :: digits) (r.skipAt rest)
    | [] => none

/-- Reads a character spelled by its code: `count` digits, or any number of them in braces. -/
def readHex? (count : Nat) (r : Reader) : Option (Literal × Reader) :=
  match r.rest with
  | '\x7b' :: rest => do
    let r := r.skipAt rest
    let (digits, r) ← readHexBrace? (r.rest.length + 1) [] r
    if digits.isEmpty then none
    else
      let c ← charOf? (ofDigits 16 digits)
      return (⟨c, false⟩, r)
  | _ => do
    let (n, r) ← readHexDigits? count 0 r
    let c ← charOf? n
    return (⟨c, count == 2⟩, r)

/-- Reads what stands before a closing brace. -/
def readBraced? : Nat → Text → Reader → Option (Text × Reader)
  | 0, _, _ => none
  | fuel + 1, name, r =>
    match r.rest with
    | '\x7d' :: rest => some (name.reverse, r.at_ rest)
    | c :: rest => readBraced? fuel (c :: name) (r.skipAt rest)
    | [] => none

/-- The class that a name in braces spells, and whether the name negates it. -/
def classNameOf (name : Text) : Bool × ClassName :=
  match cutAt? "!=".toList name with
  | some (property, value) => (true, .value property value)
  | none =>
    match cutAt? [':'] name with
    | some (property, value) => (false, .value property value)
    | none =>
      match cutAt? ['='] name with
      | some (property, value) => (false, .value property value)
      | none => (false, .name name)

/-- Reads the name of a Unicode class. -/
def readUnicode? (negated : Bool) (r : Reader) : Option (Escape × Reader) :=
  match r.rest with
  | '\x7b' :: rest => do
    let r := r.skipAt rest
    let (name, r) ← readBraced? (r.rest.length + 1) [] r
    let (differs, name) := classNameOf name
    return (.unicode (negated != differs) name, r)
  | '\\' :: _ => none
  | c :: rest => some (.unicode negated (.name [c]), r.skipAt rest)
  | [] => none

/-- Whether a character may stand in the name of a boundary. -/
def isBoundaryChar (c : Char) : Bool :=
  c.isAlpha || c == '-'

/-- Reads the name of a boundary up to its brace. -/
def readBoundaryName? : Nat → Text → Reader → Option (Text × Reader)
  | 0, _, _ => none
  | fuel + 1, name, r =>
    match r.rest with
    | '\x7d' :: rest => some (name.reverse, r.at_ rest)
    | c :: rest =>
      if isBoundaryChar c then readBoundaryName? fuel (c :: name) (r.skipAt rest) else none
    | [] => none

/-- Reads the name in braces that may follow a word boundary. Braces that begin with anything else are a
repetition. -/
def readBoundary? (r : Reader) : Option (Assertion × Reader) :=
  match r.rest with
  | '\x7b' :: rest =>
    let inner := r.skipAt rest
    match inner.rest with
    | [] => none
    | c :: _ =>
      if isBoundaryChar c then do
        let (name, r) ← readBoundaryName? (inner.rest.length + 1) [] inner
        if name == "start".toList then some (.wordStart, r)
        else if name == "end".toList then some (.wordEnd, r)
        else if name == "start-half".toList then some (.wordStartHalf, r)
        else if name == "end-half".toList then some (.wordEndHalf, r)
        else none
      else some (.wordBoundary, r)
  | _ => some (.wordBoundary, r)

/-- Reads an escape after its backslash. -/
def readEscape? (r : Reader) : Option (Escape × Reader) :=
  match r.rest with
  | [] => none
  | c :: rest =>
    let after := r.at_ rest
    let literal (c : Char) : Option (Escape × Reader) := some (.literal ⟨c, false⟩, after)
    match c with
    | 'x' => (readHex? 2 after.skip).map fun (l, r) => (.literal l, r)
    | 'u' => (readHex? 4 after.skip).map fun (l, r) => (.literal l, r)
    | 'U' => (readHex? 8 after.skip).map fun (l, r) => (.literal l, r)
    | 'p' => readUnicode? false after.skip
    | 'P' => readUnicode? true after.skip
    | 'd' => some (.short false .digit, after)
    | 's' => some (.short false .space, after)
    | 'w' => some (.short false .word, after)
    | 'D' => some (.short true .digit, after)
    | 'S' => some (.short true .space, after)
    | 'W' => some (.short true .word, after)
    | 'a' => literal '\x07'
    | 'f' => literal '\x0c'
    | 't' => literal '\t'
    | 'n' => literal '\n'
    | 'r' => literal '\r'
    | 'v' => literal '\x0b'
    | 'A' => some (.assertion .startText, after)
    | 'z' => some (.assertion .endText, after)
    | 'b' => (readBoundary? after).map fun (a, r) => (.assertion a, r)
    | 'B' => some (.assertion .notWordBoundary, after)
    | '<' => some (.assertion .wordStart, after)
    | '>' => some (.assertion .wordEnd, after)
    | c => if isEscapable c then literal c else none

/-- The expression of an escape. -/
def Escape.toAst : Escape → Ast
  | .literal l => .literal l
  | .assertion a => .assertion a
  | .unicode negated name => .unicode negated name
  | .short negated c => .short negated c

/-- The class node of an escape; an assertion is none. -/
def Escape.toClassNode? : Escape → Option ClassNode
  | .literal l => some (.literal l)
  | .assertion _ => none
  | .unicode negated name => some (.unicode negated name)
  | .short negated c => some (.short negated c)

/-- The class with a name. -/
def asciiClassOf? (name : Text) : Option AsciiClass :=
  [("alnum", AsciiClass.alnum), ("alpha", .alpha), ("ascii", .ascii), ("blank", .blank),
    ("cntrl", .cntrl), ("digit", .digit), ("graph", .graph), ("lower", .lower), ("print", .print),
    ("punct", .punct), ("space", .space), ("upper", .upper), ("word", .word),
    ("xdigit", .xdigit)].find? (fun row => row.1.toList == name) |>.map (·.2)

/-- Reads `:name:]` after a bracket; anything else is no named class. -/
def readAsciiClass? (cs : Text) : Option (ClassNode × Text) :=
  match cs with
  | ':' :: rest =>
    let (negated, rest) := match rest with
      | '^' :: rest => (true, rest)
      | rest => (false, rest)
    match rest.dropWhile (· != ':') with
    | ':' :: ']' :: after =>
      (asciiClassOf? (rest.takeWhile (· != ':'))).map fun c => (.ascii negated c, after)
    | _ => none
  | _ => none

/-- Reads a character or an escape of a class. -/
def readClassItem? (r : Reader) : Option (Escape × Reader) :=
  match r.rest with
  | '\\' :: rest => readEscape? (r.at_ rest)
  | c :: rest => some (.literal ⟨c, false⟩, r.at_ rest)
  | [] => none

/-- The first character after any blanks. -/
def peek? (r : Reader) (cs : Text) : Option Char :=
  (r.skipAt cs).rest.head?

/-- Reads an item of a class, or a range of two. -/
def readClassRange? (r : Reader) : Option (ClassNode × Reader) := do
  let (first, r) ← readClassItem? r
  let r := r.skip
  match r.rest with
  | [] => none
  | '-' :: rest =>
    if peek? r rest == some ']' || peek? r rest == some '-' then
      return (← first.toClassNode?, r)
    else
      let r := r.skipAt rest
      let (last, r) ← readClassItem? r
      match first, last with
      | .literal a, .literal b => if a.char ≤ b.char then some (.range a b, r) else none
      | _, _ => none
  | _ => return (← first.toClassNode?, r)

/-- The dashes at the start of a class, which are themselves. -/
def readDashes : Nat → Reader → List ClassNode × Reader
  | 0, r => ([], r)
  | fuel + 1, r =>
    match r.rest with
    | '-' :: rest =>
      let (dashes, r) := readDashes fuel (r.skipAt rest)
      (.literal ⟨'-', false⟩ :: dashes, r)
    | _ => ([], r)

/-- Reads the start of a class after its bracket: whether it is negated, and the characters that are
themselves only here. -/
def readClassStart? (r : Reader) : Option (Bool × List ClassNode × Reader) :=
  let r := r.skip
  let (negated, r) := match r.rest with
    | '^' :: rest => (true, r.skipAt rest)
    | _ => (false, r)
  let (dashes, r) := readDashes r.rest.length r
  match dashes, r.rest with
  | _, [] => none
  | [], ']' :: rest =>
    let r := r.skipAt rest
    if r.rest.isEmpty then none else some (negated, [.literal ⟨']', false⟩], r)
  | dashes, _ => some (negated, dashes, r)

/-- The class that an operator makes of what precedes it and what follows it. -/
def combine (pending : Option (SetOperator × ClassNode)) (right : ClassNode) : ClassNode :=
  match pending with
  | some (op, left) => .operation op left right
  | none => right

mutual

/-- Reads a bracketed class after its bracket. -/
def readClass? : Nat → Reader → Option (ClassNode × Reader)
  | 0, _ => none
  | fuel + 1, r => do
    let (negated, start, r) ← readClassStart? r
    let (inner, r) ← readClassItems? fuel none start.reverse r
    return (.bracketed negated inner, r)

/-- Reads the items of a class up to its bracket; `items` are those since the last operator, in
reverse, and `pending` is that operator with what precedes it. -/
def readClassItems? (fuel : Nat) (pending : Option (SetOperator × ClassNode))
    (items : List ClassNode) (r : Reader) : Option (ClassNode × Reader) :=
  match fuel with
  | 0 => none
  | fuel + 1 =>
    let r := r.skip
    let soFar := combine pending (.ofItems items.reverse)
    match r.rest with
    | [] => none
    | '[' :: rest =>
      match readAsciiClass? rest with
      | some (node, rest) => readClassItems? fuel pending (node :: items) (r.at_ rest)
      | none => do
        let (node, r) ← readClass? fuel (r.at_ rest)
        readClassItems? fuel pending (node :: items) r
    | ']' :: rest => some (soFar, r.at_ rest)
    | '&' :: '&' :: rest => readClassItems? fuel (some (.intersection, soFar)) [] (r.at_ rest)
    | '-' :: '-' :: rest => readClassItems? fuel (some (.difference, soFar)) [] (r.at_ rest)
    | '~' :: '~' :: rest =>
      readClassItems? fuel (some (.symmetricDifference, soFar)) [] (r.at_ rest)
    | _ => do
      let (node, r) ← readClassRange? r
      readClassItems? fuel pending (node :: items) r

end

/-- Reads digits, with blanks between them where those do not count. -/
def readDigits : Nat → Reader → List Nat × Reader
  | 0, r => ([], r)
  | fuel + 1, r =>
    match r.rest with
    | c :: rest =>
      match decimalValue? c with
      | some d =>
        let (ds, r) := readDigits fuel (r.skipAt rest)
        (d :: ds, r)
      | none => ([], r)
    | [] => ([], r)

/-- Passes over blanks, which never count around a bound. -/
def skipBlanks (r : Reader) : Reader :=
  (r.at_ (r.rest.dropWhile isBlank)).skip

/-- Reads a bound, with blanks around it: no digits, or a number of thirty-two bits. -/
def readBound? (r : Reader) : Option (Option Nat × Reader) :=
  let r := r.at_ (r.rest.dropWhile isBlank)
  let (ds, r) := readDigits r.rest.length r
  let r := skipBlanks r
  if ds.isEmpty then some (none, r)
  else if ofDigits 10 ds ≤ 0xFFFFFFFF then some (some (ofDigits 10 ds), r)
  else none

/-- Reads the bounds of a repetition after its brace. -/
def readBounds? (r : Reader) : Option (Nat × Option Nat × Reader) := do
  let r := r.skip
  if r.rest.isEmpty then none
  else
    let (least, r) ← readBound? r
    let least ← least
    match r.rest with
    | '\x7d' :: rest => return (least, some least, r.at_ rest)
    | ',' :: rest =>
      let r := r.skipAt rest
      match r.rest with
      | '\x7d' :: rest => return (least, none, r.at_ rest)
      | _ => do
        let (most, r) ← readBound? r
        let most ← most
        match r.rest with
        | '\x7d' :: rest => if least ≤ most then some (least, some most, r.at_ rest) else none
        | _ => none
    | _ => none

/-- Passes over the question mark that makes an operator reluctant: it does not change what is
matched. -/
def dropReluctant (r : Reader) : Reader :=
  match r.rest with
  | '?' :: rest => r.at_ rest
  | _ => r

/-- The flag of a letter. -/
def flagOf? (c : Char) : Option Flag :=
  match c with
  | 'i' => some .ignoreCase
  | 'm' => some .multiLine
  | 's' => some .dotNewLine
  | 'U' => some .swapGreed
  | 'u' => some .unicode
  | 'R' => some .crlf
  | 'x' => some .verbose
  | _ => none

/-- Reads the letters of a directive up to its colon or parenthesis: no letter twice, and letters after
the dash if there is one. -/
def readFlags? (on : Bool) (letterLast : Bool) (change : FlagChange) : Text → Option (FlagChange × Text)
  | [] => none
  | c :: rest =>
    if c = ':' ∨ c = ')' then if on || letterLast then some (change.reverse, c :: rest) else none
    else if c = '-' then if on then readFlags? false false change rest else none
    else
      match flagOf? c with
      | some flag =>
        if (change.map (·.1)).contains flag then none
        else readFlags? on true ((flag, on) :: change) rest
      | none => none

/-- The characters of numbers. -/
def numberCodes : CodeSet :=
  .unions ([.decimalNumber, .letterNumber, .otherNumber].map Category.codes)

/-- The letters and the like. -/
def alphabeticCodes : CodeSet := alphabeticProperty.members

/-- Whether a character may stand in the name of a group. -/
def isNameChar (isFirst : Bool) (c : Char) : Bool :=
  if c.toNat < 0x80 then
    c == '_' || c.isAlpha || (!isFirst && (c == '.' || c == '[' || c == ']' || c.isDigit))
  else alphabeticCodes.has c || (!isFirst && numberCodes.has c)

/-- Reads the name of a group up to its angle bracket. -/
def readName? (r : Reader) : Option Reader :=
  let name := r.rest.takeWhile (· != '>')
  match r.rest.dropWhile (· != '>'), name with
  | _ :: rest, c :: cs =>
    if isNameChar true c && cs.all (isNameChar false) && !r.names.contains name then
      some { r with rest := rest, names := name :: r.names }
    else none
  | _, _ => none

/-- The start of a group. -/
inductive GroupStart where
  /-- A directive for the rest of the group around it. -/
  | directive (change : FlagChange)
  /-- A group, with the flags switched for it. -/
  | group (isCapture : Bool) (change : FlagChange)

/-- Reads the start of a group after its parenthesis. -/
def readGroupStart? (r : Reader) : Option (GroupStart × Reader) :=
  let r := r.skip
  match r.rest with
  | '?' :: '=' :: _ => none
  | '?' :: '!' :: _ => none
  | '?' :: '<' :: '=' :: _ => none
  | '?' :: '<' :: '!' :: _ => none
  | '?' :: 'P' :: '<' :: rest => (readName? (r.at_ rest)).map (.group true [], ·)
  | '?' :: '<' :: rest => (readName? (r.at_ rest)).map (.group true [], ·)
  | '?' :: rest =>
    match readFlags? true false [] rest with
    | some ([], ')' :: _) => none
    | some (change, ')' :: rest) => some (.directive change, r.at_ rest)
    | some (change, _ :: rest) => some (.group false change, r.at_ rest)
    | _ => none
  | _ => some (.group true [], r)

/-- Applies an operator to the last part. -/
def repeatLast? (least : Nat) (most : Option Nat) (parts : List Ast) : Option (List Ast) :=
  match parts with
  | part :: parts => if part.isRepeatable then some (.repeated least most part :: parts) else none
  | [] => none

/-- Reads an expression up to the parenthesis that ends its group, or to the end. `branches` are the
branches before and `parts` the parts of the present one, both in reverse. -/
def readBranches : Nat → List Ast → List Ast → Reader → Option (Ast × Reader)
  | 0, _, _, _ => none
  | fuel + 1, branches, parts, r =>
    let r := r.skip
    let soFar := Ast.ofBranches ((Ast.ofParts parts.reverse :: branches).reverse)
    match r.rest with
    | [] => some (soFar, r)
    | ')' :: _ => some (soFar, r)
    | '|' :: rest => readBranches fuel (.ofParts parts.reverse :: branches) [] (r.at_ rest)
    | '(' :: rest => do
      match ← readGroupStart? (r.at_ rest) with
      | (.directive change, after) =>
        let verbose := (change.state? .verbose).getD r.verbose
        readBranches fuel branches (.flags change :: parts) { after with verbose := verbose }
      | (.group isCapture change, after) =>
        let verbose := (change.state? .verbose).getD r.verbose
        let (body, inner) ← readBranches fuel [] [] { after with verbose := verbose }
        match inner.rest with
        | ')' :: rest =>
          readBranches fuel branches (.group isCapture change body :: parts)
            { inner with rest := rest, verbose := r.verbose }
        | _ => none
    | '[' :: rest => do
      match ← readClass? (2 * rest.length + 2) (r.at_ rest) with
      | (.bracketed negated inner, after) =>
        readBranches fuel branches (.bracketed negated inner :: parts) after
      | _ => none
    | '?' :: rest => do
      readBranches fuel branches (← repeatLast? 0 (some 1) parts) (dropReluctant (r.at_ rest))
    | '*' :: rest => do
      readBranches fuel branches (← repeatLast? 0 none parts) (dropReluctant (r.at_ rest))
    | '+' :: rest => do
      readBranches fuel branches (← repeatLast? 1 none parts) (dropReluctant (r.at_ rest))
    | '\x7b' :: rest => do
      let (least, most, after) ← readBounds? (r.at_ rest)
      readBranches fuel branches (← repeatLast? least most parts) (dropReluctant after.skip)
    | '\\' :: rest => do
      let (escape, after) ← readEscape? (r.at_ rest)
      readBranches fuel branches (escape.toAst :: parts) after
    | '.' :: rest => readBranches fuel branches (.dot :: parts) (r.at_ rest)
    | '^' :: rest => readBranches fuel branches (.assertion .startLine :: parts) (r.at_ rest)
    | '$' :: rest => readBranches fuel branches (.assertion .endLine :: parts) (r.at_ rest)
    | c :: rest => readBranches fuel branches (.literal ⟨c, false⟩ :: parts) (r.at_ rest)

/-- Reads an expression that is not nested too deep. -/
def Ast.ofText? (cs : Text) : Option Ast :=
  match readBranches (2 * cs.length + 2) [] [] ⟨cs, false, []⟩ with
  | some (ast, ⟨[], _, _⟩) => if ast.depth ≤ Ast.depthLimit then some ast else none
  | _ => none

end ResultFilter.Regex
