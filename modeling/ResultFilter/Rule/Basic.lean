import ResultFilter.Decision
import ResultFilter.Rule.Expression
import ResultFilter.Rule.Literal

/-!
# Rules

A line of rules is

```text
[@[N]] (match-pattern | regular-expression | expression) [@if(expression)] [# comment]
```

A word that looks like a match pattern is one; a regular expression stands between slashes, with `url` or
`title` before it where it may be told apart; all else is an expression. A guard may follow a match
pattern only.

## Main definitions

* `Rule`, `RuleBody` — a rule.
* `Rule.ofLine` — reads a line.
* `Rule.readOr`, `Rule.readAnd`, `Rule.readUnary`, `Rule.readPredicate` — read an expression.
* `Rule.readRegex` — reads a regular expression in slashes.
-/

namespace ResultFilter

open ResultFilter.Text

/-- The property that a regular expression is searched in. -/
inductive RegexTarget where
  | url
  | title
deriving DecidableEq, Repr

/-- The name of the property. -/
def RegexTarget.prop : RegexTarget → Text
  | .url => Props.urlName
  | .title => Props.titleName

/-- What a rule asks of a search result. -/
inductive RuleBody where
  /-- Its address is covered by a pattern, and the guard holds if there is one. -/
  | pattern (p : MatchPattern) (guard : Option Expression)
  /-- A regular expression occurs in a property. -/
  | regex (target : RegexTarget) (r : Regex)
  /-- A condition holds. -/
  | expression (e : Expression)
deriving DecidableEq

/-- A rule. -/
structure Rule where
  /-- What happens to the results that it fires on. -/
  specifier : Option Specifier
  /-- What it asks of them. -/
  body : RuleBody
deriving DecidableEq

namespace Rule

/-- What is left after a character that has to come next. -/
def expect (width : Nat) (c : Char) (cs : Text) : Except SyntaxError Text :=
  match cs with
  | d :: rest => if d = c then .ok rest else .error (.atRest width cs)
  | [] => .error (.atRest width cs)

/-- What is left of a regular expression from its first character on: its source and what follows the
closing slash. A slash in brackets or behind a backslash does not close. -/
def readSource? (inClass : Bool) : Text → Option (Text × Text)
  | [] => none
  | '\\' :: rest =>
    match rest with
    | [] => none
    | c :: rest => (readSource? inClass rest).map fun (source, rest) => ('\\' :: c :: source, rest)
  | c :: rest =>
    if c = '/' ∧ !inClass then some ([], rest)
    else
      (readSource? (if c = '[' then true else if c = ']' then false else inClass) rest).map
        fun (source, rest) => (c :: source, rest)

/-- Reads a regular expression from its slash on: the source, the letters behind it, and what they
stand for together. -/
def readRegex (width : Nat) (cs : Text) : Except SyntaxError (Regex × Text) := do
  let rest ← expect width '/' cs
  match readSource? false rest with
  | none => .error .unterminatedRegex
  | some (source, rest) =>
    if source.isEmpty then .error .emptyRegex
    else
      match RegexFlags.ofText (rest.takeWhile Char.isAlpha) with
      | .error c => .error (.invalidRegexFlag c)
      | .ok flags =>
        match Regex.ofText source flags with
        | some regex => .ok (regex, rest.dropWhile Char.isAlpha)
        | none => .error .invalidRegex

/-- Whether a character may begin the name of a property. -/
def isIdentStart (c : Char) : Bool :=
  c.isAlpha || c == '_' || c == '$'

/-- Whether a character may stand in the name of a property. -/
def isIdentChar (c : Char) : Bool :=
  c.isAlphanum || c == '_' || c == '$'

/-- Reads the name of a property. -/
def readIdent (width : Nat) (cs : Text) : Except SyntaxError (Text × Text) :=
  match cs with
  | c :: _ =>
    if isIdentStart c then .ok (cs.takeWhile isIdentChar, cs.dropWhile isIdentChar)
    else .error (.atRest width cs)
  | [] => .error (.atRest width cs)

/-- The comparison that a text begins with, and what follows it. -/
def readOp? (cs : Text) : Option (StringOp × Text) :=
  match cs with
  | '^' :: '=' :: rest => some (.startsWith, rest)
  | '$' :: '=' :: rest => some (.endsWith, rest)
  | '*' :: '=' :: rest => some (.contains, rest)
  | '=' :: rest => some (.equals, rest)
  | _ => none

/-- Reads the letter that takes case out of a comparison: an `i` by itself. Where there is none nothing
is passed over. -/
def readIgnoreCase (cs : Text) : Bool × Text :=
  match trimStart cs with
  | ['i'] => (true, [])
  | 'i' :: c :: rest => if isIdentChar c then (false, cs) else (true, c :: rest)
  | _ => (false, cs)

/-- Reads a test of a property. -/
def readPredicate (width : Nat) (cs : Text) : Except SyntaxError (Expression × Text) := do
  let (prop, rest) ← readIdent width cs
  match trimStart rest with
  | '=' :: '~' :: rest => do
    let (regex, rest) ← readRegex width (trimStart rest)
    return (.search prop regex, rest)
  | rest =>
    match readOp? rest with
    | none => .error (.atRest width rest)
    | some (op, rest) => do
      let (value, rest) ← Literal.readString width (trimStart rest)
      let (ignoreCase, rest) := readIgnoreCase rest
      return (.comparison prop op value ignoreCase, rest)

mutual

/-- Reads operands joined by `|`; the number bounds the steps. -/
def readOr (width : Nat) : Nat → Text → Except SyntaxError (Expression × Text)
  | 0, cs => .error (.atRest width cs)
  | fuel + 1, cs => do
    let (e, rest) ← readAnd width fuel cs
    readOrRest width fuel e rest

/-- Reads further operands joined by `|` to an expression. -/
def readOrRest (width : Nat) : Nat → Expression → Text → Except SyntaxError (Expression × Text)
  | 0, _, cs => .error (.atRest width cs)
  | fuel + 1, left, cs =>
    match trimStart cs with
    | '|' :: rest => do
      let (right, rest) ← readAnd width fuel rest
      readOrRest width fuel (.or left right) rest
    | _ => .ok (left, cs)

/-- Reads operands joined by `&`. -/
def readAnd (width : Nat) : Nat → Text → Except SyntaxError (Expression × Text)
  | 0, cs => .error (.atRest width cs)
  | fuel + 1, cs => do
    let (e, rest) ← readUnary width fuel cs
    readAndRest width fuel e rest

/-- Reads further operands joined by `&` to an expression. -/
def readAndRest (width : Nat) : Nat → Expression → Text → Except SyntaxError (Expression × Text)
  | 0, _, cs => .error (.atRest width cs)
  | fuel + 1, left, cs =>
    match trimStart cs with
    | '&' :: rest => do
      let (right, rest) ← readUnary width fuel rest
      readAndRest width fuel (.and left right) rest
    | _ => .ok (left, cs)

/-- Reads a negation, an expression in parentheses, or a test. -/
def readUnary (width : Nat) : Nat → Text → Except SyntaxError (Expression × Text)
  | 0, cs => .error (.atRest width cs)
  | fuel + 1, cs =>
    match trimStart cs with
    | '!' :: rest => do
      let (e, rest) ← readUnary width fuel rest
      return (.not e, rest)
    | '(' :: rest => do
      let (e, rest) ← readOr width fuel rest
      let rest ← expect width ')' (trimStart rest)
      return (e, rest)
    | cs => readPredicate width cs

end

/-- The steps that reading an expression can take: each character is reached through at most four
readers. -/
def stepsFor (cs : Text) : Nat :=
  4 * cs.length + 4

/-- Reads an expression from the start of what is left of a line. -/
def readExpression (width : Nat) (cs : Text) : Except SyntaxError (Expression × Text) :=
  readOr width (stepsFor cs) cs

/-- The colours that fit in thirty-two bits. -/
def largestColor : Nat := 0xFFFFFFFF

/-- Reads the specifier of a rule, if it has one. -/
def readSpecifier (cs : Text) : Except SyntaxError (Option Specifier × Text) :=
  match cs with
  | '@' :: rest =>
    let digits := rest.takeWhile Char.isDigit
    let after := rest.dropWhile Char.isDigit
    let color := ofDigits 10 (digits.filterMap decimalValue?)
    if digits.isEmpty then .ok (some .negate, after)
    else if 1 ≤ color ∧ color ≤ largestColor then .ok (some (.highlight color), after)
    else .error .invalidSpecifier
  | cs => .ok (none, cs)

/-- Whether a word looks like a match pattern: it begins with a scheme, or is the pattern of every
address. -/
def looksLikePattern (word : Text) : Bool :=
  word == allUrlsText ||
    match cutAt? "://".toList word with
    | some (scheme, _) => isSchemePattern scheme
    | none => false

/-- The regular expression that a text begins with: its target and the text from the slash on. -/
def regexStart? (cs : Text) : Option (RegexTarget × Text) :=
  match cs with
  | '/' :: _ => some (.url, cs)
  | _ =>
    match "url/".toList.isPrefixOf? cs with
    | some rest => some (.url, '/' :: rest)
    | none =>
      match "title/".toList.isPrefixOf? cs with
      | some rest => some (.title, '/' :: rest)
      | none => none

/-- Reads the body of a rule, without a guard. -/
def readBody (width : Nat) (cs : Text) : Except SyntaxError (RuleBody × Text) :=
  let word := cs.takeWhile (!isBlank ·)
  if looksLikePattern word then
    match MatchPattern.ofText word with
    | .ok p => .ok (.pattern p none, cs.dropWhile (!isBlank ·))
    | .error e => .error (.pattern e)
  else
    match regexStart? cs with
    | some (target, cs) => do
      let (regex, rest) ← readRegex width cs
      return (.regex target regex, rest)
    | none => do
      let (e, rest) ← readExpression width cs
      return (.expression e, rest)

/-- Reads the guard of a match pattern after its name. -/
def readGuard (width : Nat) (cs : Text) : Except SyntaxError (Expression × Text) := do
  let rest ← expect width '(' (trimStart cs)
  let (e, rest) ← readExpression width rest
  let rest ← expect width ')' (trimStart rest)
  return (e, rest)

/-- Whether what is left of a line is nothing, or a comment after a blank. -/
def finish (width : Nat) (rest : Text) : Except SyntaxError Unit :=
  match trimStart rest with
  | [] => .ok ()
  | c :: cs =>
    if c = '#' ∧ (c :: cs).length < rest.length then .ok () else .error (.atRest width (c :: cs))

/-- Reads a line: nothing if it is blank or a comment. -/
def ofLine (line : Text) : Except SyntaxError (Option Rule) :=
  let width := line.length
  match trimStart line with
  | [] => .ok none
  | '#' :: _ => .ok none
  | cs => do
    let (specifier, rest) ← readSpecifier cs
    let (body, rest) ← readBody width (trimStart rest)
    match "@if".toList.isPrefixOf? (trimStart rest) with
    | none => do
      finish width rest
      return some ⟨specifier, body⟩
    | some afterIf =>
      match body with
      | .pattern p _ => do
        let (guard, rest) ← readGuard width afterIf
        finish width rest
        return some ⟨specifier, .pattern p (some guard)⟩
      | _ => .error .misplacedGuard

end Rule

namespace RuleBody

/-- What the conditions of a rule say of a search result, apart from the test of a match pattern:
nothing where there is no condition, or no property to test. -/
def verdict? (props : Props) : RuleBody → Option Bool
  | .pattern _ guard => guard.map (·.eval props)
  | .regex target r => (props.get? target.prop).map r.isMatch
  | .expression e => some (e.eval props)

end RuleBody

end ResultFilter
