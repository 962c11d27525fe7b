import ResultFilter.Proofs.Rule.Cursor
import ResultFilter.Proofs.Rule.Literal
import ResultFilter.Proofs.Rule.RegexLiteral
import ResultFilter.Proofs.Rule.TrailingBlank

/-!
# Reading a line with a cursor

The readers of a rule line once more, as scanners: they look at the line through the cursor alone, keep byte
positions to go back to, step back over a slash, and cut the sources of regular expressions, names and letters
out of the line. From every place where an end of the line begins each of them finds what its reader finds in
that end, so on every line the scanner comes to what the line is read as, and never cuts the line where it
cannot be cut.

## Main definitions

* `Scanner.readString`, `Scanner.readRegex`, `Scanner.readPredicate`, `Scanner.readOr`, `Scanner.ofLine` — the
  scanners.
* `Scanner.Ends` — a scanner of a whole line comes to an answer.

## Main results

* `Scanner.follows_readString`, `Scanner.follows_readRegex`, `Scanner.follows_readOr` — scanners of the parts of a
  line follow their readers.
* `Scanner.ends_ofLine` — a line is scanned as it is read.
-/

namespace ResultFilter

open ResultFilter.Text

namespace Rule

/-- Reads how a line goes on behind the body of its rule. -/
def readEnd (width : ℕ) (specifier : Option Specifier) (body : RuleBody) (rest : Text) :
    Except SyntaxError (Option Rule) :=
  match "@if".toList.isPrefixOf? (trimStart rest) with
  | none => do
    finish width rest
    return some ⟨specifier, body⟩
  | some afterIf =>
    match body with
    | .pattern p _ => do
      let (guard, rest) ← readGuard width afterIf
      finish width rest
      return some ⟨specifier, .pattern p (some guard)⟩
    | _ => .error .misplacedGuard

/-- A line that is not blank and no comment is a specifier or none, a body, and an end. -/
theorem ofLine_eq_of_ne {line cs : Text} {c : Char} (hstart : trimStart line = c :: cs) (hc : c ≠ '#') :
    ofLine line = readSpecifier (c :: cs) >>= fun x => readBody line.length (trimStart x.2) >>= fun y =>
      readEnd line.length x.1 y.1 y.2 := by
  unfold ofLine
  dsimp only
  rw [hstart]
  split
  · next hnil => exact absurd hnil (List.cons_ne_nil c cs)
  · next hcomment => exact absurd (List.cons.inj hcomment).1 hc
  · rfl

end Rule

namespace Scanner

/-! ### The scanners of string literals -/

/-- Scans at most `count` further octal digits, as long as the code stays in range. -/
def readOctal : ℕ → ℕ → Scanner ℕ
  | 0, n => return n
  | count + 1, n => do
    match (← peek).bind octalValue? with
    | some d =>
      if n * 8 + d ≤ Literal.largestOctal then
        let _ ← bump
        readOctal count (n * 8 + d)
      else return n
    | none => return n

/-- Scans exactly `count` hexadecimal digits of an escape. -/
def readHex (column : ℕ) : ℕ → ℕ → Scanner ℕ
  | 0, n => return n
  | count + 1, n => do
    match (← peek).bind hexValue? with
    | some d =>
      let _ ← bump
      readHex column count (n * 16 + d)
    | none => throw (.invalidEscape column)

/-- Scans one to six hexadecimal digits of an escape and a closing brace; `count` digits have been scanned. -/
def readBraces (column : ℕ) : ℕ → ℕ → ℕ → Scanner ℕ
  | 0, _, _ => noOutcome
  | fuel + 1, count, n => do
    match ← bump with
    | none => throw (.invalidEscape column)
    | some c =>
      if c = '\x7d' ∧ count > 0 then return n
      else if count < 6 then
        match hexValue? c with
        | some d => readBraces column fuel (count + 1) (n * 16 + d)
        | none => throw (.invalidEscape column)
      else throw (.invalidEscape column)

/-- Scans the code that the digits of an escape spell, after its first character. -/
def readCode (column : ℕ) (c : Char) : Scanner ℕ :=
  match octalValue? c with
  | some d => readOctal 2 d
  | none => do
    if c = 'x' then readHex column 2 0
    else if c = 'u' then
      if ← eat '\x7b' then readBraces column 7 0 0
      else readHex column 4 0
    else throw (.invalidEscape column)

/-- Scans an escape after its backslash, which stands at the given column. -/
def readEscape (column : ℕ) : Scanner Char := do
  match ← bump with
  | none => throw .unterminatedString
  | some c =>
    match Literal.namedEscape? c with
    | some d => return d
    | none =>
      let n ← readCode column c
      if n.isValidChar then return Char.ofNat n else throw (.invalidEscape column)

/-- Scans the rest of a literal up to its quote; every step takes a character. -/
def readLiteral : ℕ → Scanner Text
  | 0 => noOutcome
  | fuel + 1 => do
    let column ← column
    match ← bump with
    | none => throw .unterminatedString
    | some c =>
      if c = '"' then return []
      else if c = '\\' then
        let d ← readEscape column
        return d :: (← readLiteral fuel)
      else return c :: (← readLiteral fuel)

/-- Scans a literal from its quote on. -/
def readString : Scanner Text := do
  if ← eat '"' then readLiteral (← steps)
  else unexpected

/-! ### The scanners of regular expressions -/

/-- Takes a character that has to come next. -/
def expect (c : Char) : Scanner Unit := do
  if ← eat c then return ()
  else unexpected

/-- Takes the source of a regular expression and the slash that closes it; every step takes a character. -/
def passSource : Bool → ℕ → Scanner Unit
  | _, 0 => noOutcome
  | inClass, fuel + 1 => do
    match ← bump with
    | none => throw .unterminatedRegex
    | some c =>
      if c = '\\' then
        match ← bump with
        | none => throw .unterminatedRegex
        | some _ => passSource inClass fuel
      else if c = '/' ∧ !inClass then return ()
      else passSource (if c = '[' then true else if c = ']' then false else inClass) fuel

/-- Scans a regular expression from its slash on. The slash that closes it has one byte. -/
def readRegex : Scanner Regex := do
  expect '/'
  let start ← place
  passSource false (← steps)
  let source ← slice start (← difference (← place) 1)
  if source.isEmpty then throw .emptyRegex
  else
    match RegexFlags.ofText (← takeWhile Char.isAlpha) with
    | .error c => throw (.invalidRegexFlag c)
    | .ok flags =>
      match Regex.ofText source flags with
      | some regex => return regex
      | none => throw .invalidRegex

/-! ### The scanners of expressions -/

/-- Scans the name of a property. -/
def readIdent : Scanner Text := do
  match ← peek with
  | some c => if Rule.isIdentStart c then takeWhile Rule.isIdentChar else unexpected
  | none => unexpected

/-- Scans a comparison, if one comes next. -/
def readOp : Scanner (Option StringOp) := do
  if ← eatText ['^', '='] then return some .startsWith
  else if ← eatText ['$', '='] then return some .endsWith
  else if ← eatText ['*', '='] then return some .contains
  else if ← eat '=' then return some .equals
  else return none

/-- Scans the letter that takes case out of a comparison: an `i` by itself. Where there is none the cursor goes
back before the blanks. -/
def readIgnoreCase : Scanner Bool := do
  let start ← place
  let _ ← skipBlanks
  if (← peek) = some 'i' ∧ !((← peekSecond).any Rule.isIdentChar) then
    let _ ← bump
    return true
  else
    returnTo start
    return false

/-- Scans a test of a property. -/
def readPredicate : Scanner Expression := do
  let prop ← readIdent
  let _ ← skipBlanks
  if ← eatText ['=', '~'] then
    let _ ← skipBlanks
    return .search prop (← readRegex)
  else
    match ← readOp with
    | none => unexpected
    | some op =>
      let _ ← skipBlanks
      let value ← readString
      return .comparison prop op value (← readIgnoreCase)

mutual

/-- Scans operands joined by `|`; the number bounds the steps. -/
def readOr : ℕ → Scanner Expression
  | 0 => noOutcome
  | fuel + 1 => do
    let e ← readAnd fuel
    readOrRest fuel e

/-- Scans further operands joined by `|` to an expression, and goes back before the blanks where there is
none. -/
def readOrRest : ℕ → Expression → Scanner Expression
  | 0, _ => noOutcome
  | fuel + 1, left => do
    let start ← place
    let _ ← skipBlanks
    if ← eat '|' then
      let right ← readAnd fuel
      readOrRest fuel (.or left right)
    else
      returnTo start
      return left

/-- Scans operands joined by `&`. -/
def readAnd : ℕ → Scanner Expression
  | 0 => noOutcome
  | fuel + 1 => do
    let e ← readUnary fuel
    readAndRest fuel e

/-- Scans further operands joined by `&` to an expression, and goes back before the blanks where there is
none. -/
def readAndRest : ℕ → Expression → Scanner Expression
  | 0, _ => noOutcome
  | fuel + 1, left => do
    let start ← place
    let _ ← skipBlanks
    if ← eat '&' then
      let right ← readUnary fuel
      readAndRest fuel (.and left right)
    else
      returnTo start
      return left

/-- Scans a negation, an expression in parentheses, or a test. -/
def readUnary : ℕ → Scanner Expression
  | 0 => noOutcome
  | fuel + 1 => do
    let _ ← skipBlanks
    if ← eat '!' then return .not (← readUnary fuel)
    else if ← eat '(' then
      let e ← readOr fuel
      let _ ← skipBlanks
      expect ')'
      return e
    else readPredicate

end

/-- Scans an expression from the cursor on. -/
def readExpression : Scanner Expression := do
  readOr (Rule.stepsFor (← rest))

/-! ### The scanner of a line -/

/-- Scans the specifier of a rule, if it has one. -/
def readSpecifier : Scanner (Option Specifier) := do
  if ← eat '@' then
    let digits ← takeWhile Char.isDigit
    let color := ofDigits 10 (digits.filterMap decimalValue?)
    if digits.isEmpty then return some .negate
    else if 1 ≤ color ∧ color ≤ Rule.largestColor then return some (.highlight color)
    else throw .invalidSpecifier
  else return none

/-- Scans the target of a regular expression, and leaves the cursor before the slash. -/
def readTarget : Scanner (Option RegexTarget) := do
  if (← peek) = some '/' then return some .url
  else if ← eatText "url/".toList then
    retreat '/'
    return some .url
  else if ← eatText "title/".toList then
    retreat '/'
    return some .title
  else return none

/-- Scans the body of a rule, without a guard. -/
def readBody : Scanner RuleBody := do
  let word := (← rest).takeWhile (!isBlank ·)
  if Rule.looksLikePattern word then
    match MatchPattern.ofText word with
    | .ok p =>
      advance (byteLength word)
      return .pattern p none
    | .error e => throw (.pattern e)
  else
    match ← readTarget with
    | some target => return .regex target (← readRegex)
    | none => return .expression (← readExpression)

/-- Scans the guard of a match pattern after its name. -/
def readGuard : Scanner Expression := do
  let _ ← skipBlanks
  expect '('
  let e ← readExpression
  let _ ← skipBlanks
  expect ')'
  return e

/-- Refuses what is left of the line, unless that is nothing, or a comment after a blank. -/
def finish (spaced : Bool) : Scanner Unit := do
  match ← peek with
  | none => return ()
  | some c => if c = '#' ∧ spaced then return () else unexpected

/-- Scans how a line goes on behind the body of its rule. -/
def readEnd (specifier : Option Specifier) (body : RuleBody) : Scanner (Option Rule) := do
  let spaced ← skipBlanks
  if ← eatText "@if".toList then
    match body with
    | .pattern p _ =>
      let guard ← readGuard
      finish (← skipBlanks)
      return some ⟨specifier, .pattern p (some guard)⟩
    | _ => throw .misplacedGuard
  else
    finish spaced
    return some ⟨specifier, body⟩

/-- Scans a line: nothing if it is blank or a comment. -/
def ofLine : Scanner (Option Rule) := do
  let _ ← skipBlanks
  if (← atEnd) ∨ (← peek) = some '#' then return none
  else
    let specifier ← readSpecifier
    let _ ← skipBlanks
    let body ← readBody
    readEnd specifier body

/-! ### String literals -/

section Literal

variable {line cs : Text} (hcs : cs <:+ line)

/-- What is found, or the fault of the escape that begins at a column. -/
def orInvalid {α : Type} (column : ℕ) : Option α → Except SyntaxError α
  | some a => .ok a
  | none => .error (.invalidEscape column)

/-- An escape that has no name is read by its code. -/
theorem readEscape_of_unnamed {c : Char} (hnamed : Literal.namedEscape? c = none) (column : ℕ) (cs : Text) :
    Literal.readEscape column (c :: cs) = orInvalid column (Literal.readCode? c cs) >>= fun x =>
      if x.1.isValidChar then .ok (Char.ofNat x.1, x.2) else .error (.invalidEscape column) := by
  rw [Literal.readEscape, hnamed]
  dsimp only
  cases Literal.readCode? c cs <;> rfl

/-- The rest of a literal is a character, spelled by itself or by an escape, and a shorter rest. -/
theorem readBody_cons {width fuel : ℕ} {c : Char} (hquote : c ≠ '"') (rest : Text) :
    Literal.readBody width (fuel + 1) (c :: rest)
      = (if c = '\\' then Literal.readEscape (SyntaxError.column width (c :: rest)) rest else .ok (c, rest))
        >>= fun x => Literal.readBody width fuel x.2 >>= fun y => .ok (x.1 :: y.1, y.2) := by
  rw [Literal.readBody, if_neg hquote]
  split
  · cases Literal.readEscape (SyntaxError.column width (c :: rest)) rest with
    | error e => rfl
    | ok x =>
      show _ = Literal.readBody width fuel x.2 >>= _
      dsimp only
      cases Literal.readBody width fuel x.2 <;> rfl
  · show _ = Literal.readBody width fuel rest >>= _
    cases Literal.readBody width fuel rest <;> rfl

include hcs

theorem follows_invalid {α : Type} (column : ℕ) :
    Follows (throw (.invalidEscape column) : Scanner α) line cs (.error (.invalidEscape column)) :=
  follows_throw hcs trivial

theorem follows_readOctal (count n : ℕ) :
    Follows (readOctal count n) line cs (.ok (Literal.readOctal count n cs)) := by
  induction count generalizing n cs with
  | zero => exact follows_pure n hcs
  | succ count ih =>
    refine (follows_peek hcs).then fun _ => ?_
    cases cs with
    | nil => exact follows_pure n hcs
    | cons c cs =>
      rw [Literal.readOctal, List.head?_cons, Option.bind_some]
      cases octalValue? c with
      | none => exact follows_pure n hcs
      | some d =>
        dsimp only
        split
        · exact (follows_bump hcs).then fun hrest => ih hrest _
        · exact follows_pure n hcs

theorem follows_readHex (column count n : ℕ) :
    Follows (readHex column count n) line cs (orInvalid column (Literal.readHex? count n cs)) := by
  induction count generalizing n cs with
  | zero => exact follows_pure n hcs
  | succ count ih =>
    refine (follows_peek hcs).then fun _ => ?_
    cases cs with
    | nil => exact follows_invalid hcs column
    | cons c cs =>
      rw [Literal.readHex?, List.head?_cons, Option.bind_some]
      cases hexValue? c with
      | none => exact follows_invalid hcs column
      | some d => exact (follows_bump hcs).then fun hrest => ih hrest _

/-- After six digits no step is left over, and none is needed. -/
theorem follows_readBraces (column : ℕ) {fuel : ℕ} (count n : ℕ) (hfuel : 7 ≤ fuel + count) (hcount : count ≤ 6) :
    Follows (readBraces column fuel count n) line cs (orInvalid column (Literal.readBraces? count n cs)) := by
  induction fuel generalizing count n cs with
  | zero => exact absurd hcount (by omega)
  | succ fuel ih =>
    refine (follows_bump hcs).then fun hrest => ?_
    cases cs with
    | nil => exact follows_invalid hrest column
    | cons c cs =>
      rw [Literal.readBraces?, List.head?_cons, List.tail_cons]
      dsimp only
      split
      · exact follows_pure n hrest
      · split
        · cases hexValue? c with
          | none => exact follows_invalid hrest column
          | some d => exact ih hrest _ _ (by omega) (by omega)
        · exact follows_invalid hrest column

theorem follows_readCode (column : ℕ) (c : Char) :
    Follows (readCode column c) line cs (orInvalid column (Literal.readCode? c cs)) := by
  cases hoctal : octalValue? c with
  | some d =>
    rw [readCode, hoctal, Literal.readCode?_octal hoctal]
    exact follows_readOctal hcs 2 d
  | none =>
    rw [readCode, hoctal]
    dsimp only
    by_cases hx : c = 'x'
    · rw [if_pos hx, hx, Literal.readCode?_two]
      exact follows_readHex hcs column 2 0
    rw [if_neg hx]
    by_cases hu : c = 'u'
    · rw [if_pos hu, hu]
      by_cases hbrace : cs.head? = some '\x7b'
      · obtain ⟨rest, rfl⟩ := List.head?_eq_some_iff.mp hbrace
        refine (follows_eat_cons hcs rfl).then fun hrest => ?_
        exact follows_readBraces hrest column 0 0 (Nat.le_refl _) (Nat.zero_le _)
      · rw [Literal.readCode?_four hbrace]
        exact (follows_eat_of_ne hcs hbrace).then fun _ => follows_readHex hcs column 4 0
    · have hnone : Literal.readCode? c cs = none := by
        unfold Literal.readCode?
        rw [hoctal]
        simp [hu]
      rw [if_neg hu, hnone]
      exact follows_invalid hcs column

theorem follows_readEscape (column : ℕ) :
    Follows (readEscape column) line cs (Literal.readEscape column cs) := by
  refine (follows_bump hcs).then fun hrest => ?_
  cases cs with
  | nil => exact follows_throw hrest trivial
  | cons c cs =>
    dsimp only [List.head?_cons, List.tail_cons] at hrest ⊢
    cases hnamed : Literal.namedEscape? c with
    | some d =>
      rw [Literal.readEscape, hnamed]
      exact follows_pure d hrest
    | none =>
      rw [readEscape_of_unnamed hnamed]
      refine (follows_readCode hrest column c).bind fun n rest _ hrest => ?_
      dsimp only
      split
      · exact follows_pure _ hrest
      · exact follows_invalid hrest column

theorem follows_readLiteral {fuel : ℕ} (hfuel : cs.length < fuel) :
    Follows (readLiteral fuel) line cs (Literal.readBody line.length fuel cs) := by
  induction fuel generalizing cs with
  | zero => exact absurd hfuel (Nat.not_lt_zero _)
  | succ fuel ih =>
    refine (follows_column hcs).then fun _ => (follows_bump hcs).then fun hrest => ?_
    cases cs with
    | nil => exact follows_throw hrest trivial
    | cons c cs =>
      have hlength : cs.length < fuel := Nat.lt_of_succ_lt_succ hfuel
      rw [List.head?_cons, List.tail_cons]
      dsimp only
      by_cases hquote : c = '"'
      · rw [if_pos hquote, Literal.readBody, if_pos hquote]
        exact follows_pure [] hrest
      · rw [if_neg hquote, readBody_cons hquote]
        by_cases hback : c = '\\'
        · rw [if_pos hback, if_pos hback]
          refine (follows_readEscape hrest _).bind fun d rest hread hrest => ?_
          have hlt := Nat.lt_of_le_of_lt (Literal.length_le_of_readEscape hread) hlength
          exact (ih hrest hlt).bind fun value rest _ hrest => follows_pure (d :: value) hrest
        · rw [if_neg hback, if_neg hback]
          exact (ih hrest hlength).bind fun value rest _ hrest => follows_pure (c :: value) hrest

theorem follows_readString :
    Follows readString line cs (Literal.readString line.length cs) := by
  unfold Literal.readString
  split
  · next rest =>
    refine (follows_eat_cons hcs rfl).then fun hrest => (follows_steps hrest).then fun _ => ?_
    exact follows_readLiteral hrest (Nat.lt_succ_self _)
  · next hquote =>
    refine (follows_eat_of_ne hcs fun hhead => ?_).then fun _ => follows_unexpected hcs
    obtain ⟨rest, rfl⟩ := List.head?_eq_some_iff.mp hhead
    exact hquote rest rfl

end Literal

/-! ### Regular expressions -/

section Regex

variable {line cs : Text} (hcs : cs <:+ line)
include hcs

theorem follows_expect (c : Char) :
    Follows (expect c) line cs ((Rule.expect line.length c cs).map fun rest => ((), rest)) := by
  by_cases h : cs.head? = some c
  · obtain ⟨rest, rfl⟩ := List.head?_eq_some_iff.mp h
    rw [Rule.expect, if_pos rfl]
    exact (follows_eat_cons hcs rfl).then fun hrest => follows_pure () hrest
  · have hread : Rule.expect line.length c cs = .error (.atRest line.length cs) := by
      unfold Rule.expect
      split
      · next d rest => rw [if_neg fun hd => h (by rw [hd]; rfl)]
      · rfl
    rw [hread]
    exact (follows_eat_of_ne hcs h).then fun _ => follows_unexpected hcs

/-- The reader of a source tells it, and the scanner passes it. -/
theorem follows_passSource (inClass : Bool) {fuel : ℕ} (hfuel : cs.length < fuel) :
    Follows (passSource inClass fuel) line cs
      ((Rule.readSource? inClass cs).elim (.error .unterminatedRegex) fun x => .ok ((), x.2)) := by
  fun_induction Rule.readSource? inClass cs generalizing fuel with
  | case1 =>
    obtain ⟨fuel, rfl⟩ := Nat.exists_eq_add_one.mpr (Nat.zero_lt_of_lt hfuel)
    exact (follows_bump hcs).then fun hrest => follows_throw hrest trivial
  | case2 inClass =>
    obtain ⟨fuel, rfl⟩ := Nat.exists_eq_add_one.mpr (Nat.zero_lt_of_lt hfuel)
    refine (follows_bump hcs).then fun hrest => (follows_bump hrest).then fun hrest => ?_
    exact follows_throw hrest trivial
  | case3 inClass c rest ih =>
    -- one step takes the backslash and what it escapes
    obtain ⟨fuel, rfl⟩ := Nat.exists_eq_add_one.mpr (Nat.zero_lt_of_lt hfuel)
    simp only [List.length_cons] at hfuel
    refine (follows_bump hcs).then fun hrest => (follows_bump hrest).then fun hrest => ?_
    rw [Option.elim_map]
    exact ih hrest (by omega)
  | case4 inClass c rest hback hclose =>
    obtain ⟨fuel, rfl⟩ := Nat.exists_eq_add_one.mpr (Nat.zero_lt_of_lt hfuel)
    refine (follows_bump hcs).then fun hrest => ?_
    dsimp only [List.head?_cons, List.tail_cons] at hrest ⊢
    rw [if_neg hback, if_pos hclose]
    exact follows_pure () hrest
  | case5 inClass c rest hback hclose ih =>
    obtain ⟨fuel, rfl⟩ := Nat.exists_eq_add_one.mpr (Nat.zero_lt_of_lt hfuel)
    refine (follows_bump hcs).then fun hrest => ?_
    dsimp only [List.head?_cons, List.tail_cons] at hrest ⊢
    rw [if_neg hback, if_neg hclose, Option.elim_map]
    exact ih hrest (Nat.lt_of_succ_lt_succ hfuel)

theorem follows_readRegex : Follows readRegex line cs (Rule.readRegex line.length cs) := by
  refine (follows_expect hcs '/').bind_rest fun after _ hafter => ?_
  refine (follows_place hafter).then fun _ => (follows_steps hafter).then fun _ => ?_
  have hpass := follows_passSource hafter false (Nat.lt_succ_self _)
  cases hsource : Rule.readSource? false after with
  | none =>
    rw [hsource] at hpass
    exact hpass.bind (g := fun _ => .error .unterminatedRegex) fun _ _ heq => nomatch heq
  | some parts =>
    obtain ⟨source, rest⟩ := parts
    rw [hsource] at hpass
    obtain rfl := RegexLiteral.eq_of_readSource? hsource
    refine hpass.then fun hrest => (follows_place hrest).then fun _ => ?_
    have hslash : '/' :: rest <:+ line := (List.suffix_append _ _).trans hafter
    refine (follows_difference hrest hslash).then fun _ => (follows_slice hrest source _ hafter).then fun _ => ?_
    dsimp only
    split
    · exact follows_throw hrest trivial
    · refine (follows_takeWhile hrest Char.isAlpha).then fun hlast => ?_
      cases RegexFlags.ofText (rest.takeWhile Char.isAlpha) with
      | error c => exact follows_throw hlast trivial
      | ok flags =>
        dsimp only
        cases Regex.ofText source flags with
        | none => exact follows_throw hlast trivial
        | some regex => exact follows_pure regex hlast

end Regex

/-! ### Tests of properties -/

section Predicate

variable {line cs : Text} (hcs : cs <:+ line)
include hcs

theorem follows_readIdent : Follows readIdent line cs (Rule.readIdent line.length cs) := by
  refine (follows_peek hcs).then fun _ => ?_
  cases cs with
  | nil => exact follows_unexpected hcs
  | cons c cs =>
    rw [Rule.readIdent, List.head?_cons]
    dsimp only
    split
    · exact follows_takeWhile hcs Rule.isIdentChar
    · exact follows_unexpected hcs

omit hcs in
theorem isPrefixOf?_eq_none_of_ne {mark : Text} (h : ∀ rest, cs ≠ mark ++ rest) : mark.isPrefixOf? cs = none :=
  Option.eq_none_iff_forall_ne_some.mpr fun rest hrest =>
    h rest (List.append_eq_of_isPrefixOf?_eq_some hrest).symm

/-- A comparison is found by one mark after the other. -/
theorem follows_readOp : Follows readOp line cs
    (.ok ((Rule.readOp? cs).elim (none, cs) fun x => (some x.1, x.2))) := by
  unfold Rule.readOp?
  split
  · exact (follows_eatText_append hcs rfl).then fun hrest => follows_pure _ hrest
  · refine (follows_eatText_of_none hcs rfl).then fun _ => ?_
    exact (follows_eatText_append hcs rfl).then fun hrest => follows_pure _ hrest
  · refine (follows_eatText_of_none hcs rfl).then fun _ => (follows_eatText_of_none hcs rfl).then fun _ => ?_
    exact (follows_eatText_append hcs rfl).then fun hrest => follows_pure _ hrest
  · refine (follows_eatText_of_none hcs rfl).then fun _ => (follows_eatText_of_none hcs rfl).then fun _ => ?_
    refine (follows_eatText_of_none hcs rfl).then fun _ => (follows_eat_cons hcs rfl).then fun hrest => ?_
    exact follows_pure _ hrest
  · next hstarts hends hcontains hequals =>
    refine (follows_eatText_of_none hcs (isPrefixOf?_eq_none_of_ne hstarts)).then fun _ => ?_
    refine (follows_eatText_of_none hcs (isPrefixOf?_eq_none_of_ne hends)).then fun _ => ?_
    refine (follows_eatText_of_none hcs (isPrefixOf?_eq_none_of_ne hcontains)).then fun _ => ?_
    refine (follows_eat_of_ne hcs fun hhead => ?_).then fun _ => follows_pure none hcs
    obtain ⟨rest, rfl⟩ := List.head?_eq_some_iff.mp hhead
    exact hequals rest rfl

omit hcs in
theorem readIgnoreCase_of_flag
    (h : (trimStart cs).head? = some 'i' ∧ !((trimStart cs)[1]?.any Rule.isIdentChar)) :
    Rule.readIgnoreCase cs = (true, (trimStart cs).tail) := by
  obtain ⟨hhead, hnext⟩ := h
  obtain ⟨rest, htrim⟩ := List.head?_eq_some_iff.mp hhead
  rw [htrim] at hnext
  rw [Rule.readIgnoreCase, htrim]
  cases rest with
  | nil => rfl
  | cons c rest =>
    have hc : Rule.isIdentChar c = false := by simpa using hnext
    simp [hc]

omit hcs in
theorem readIgnoreCase_of_not_flag
    (h : ¬ ((trimStart cs).head? = some 'i' ∧ !((trimStart cs)[1]?.any Rule.isIdentChar))) :
    Rule.readIgnoreCase cs = (false, cs) := by
  unfold Rule.readIgnoreCase
  split
  · next htrim => exact absurd (by rw [htrim]; decide) h
  · next c rest htrim =>
    split
    · rfl
    · next hc => exact absurd (by simp [htrim, hc]) h
  · rfl

/-- Where the letter is not found the cursor goes back before the blanks. -/
theorem follows_readIgnoreCase : Follows readIgnoreCase line cs (.ok (Rule.readIgnoreCase cs)) := by
  refine (follows_place hcs).then fun _ => (follows_skipBlanks hcs).then fun hrest => ?_
  refine (follows_peek hrest).then fun _ => (follows_peekSecond hrest).then fun _ => ?_
  split
  · next hflag =>
    rw [readIgnoreCase_of_flag hflag]
    exact (follows_bump hrest).then fun hlast => follows_pure true hlast
  · next hflag =>
    rw [readIgnoreCase_of_not_flag hflag]
    exact (follows_returnTo hcs).then fun _ => follows_pure false hcs

theorem follows_readPredicate : Follows readPredicate line cs (Rule.readPredicate line.length cs) := by
  rw [Rule.readPredicate_eq]
  refine (follows_readIdent hcs).bind fun prop rest _ hrest => (follows_skipBlanks hrest).then fun hrest => ?_
  dsimp only
  unfold Rule.readTest
  split
  · next rest htrim =>
    rw [htrim] at hrest ⊢
    have hmark : ['=', '~'].isPrefixOf? ('=' :: '~' :: rest) = some rest := rfl
    refine (follows_eatText_append hrest hmark).then fun hrest => ?_
    refine (follows_skipBlanks hrest).then fun hrest => ?_
    exact (follows_readRegex hrest).bind fun regex rest _ hrest => follows_pure _ hrest
  · next hne =>
    refine (follows_eatText_of_none hrest (isPrefixOf?_eq_none_of_ne hne)).then fun _ => ?_
    refine (follows_readOp hrest).then fun hafter => ?_
    unfold Rule.readComparison
    cases hop : Rule.readOp? (trimStart rest) with
    | none => exact follows_unexpected hrest
    | some x =>
      rw [hop] at hafter
      refine (follows_skipBlanks hafter).then fun hrest => ?_
      refine (follows_readString hrest).bind fun value rest _ hrest => ?_
      exact (follows_readIgnoreCase hrest).then fun hlast => follows_pure _ hlast

end Predicate

/-! ### Expressions -/

section Expression

variable {line : Text}

/-- The scanners of expressions follow their readers with some number of steps, where that is enough: a character
is reached through at most four scanners. -/
structure FollowReaders (line : Text) (fuel : ℕ) : Prop where
  or {cs : Text} : cs <:+ line → 4 * cs.length + 3 ≤ fuel →
    Follows (readOr fuel) line cs (Rule.readOr line.length fuel cs)
  orRest {left : Expression} {cs : Text} : cs <:+ line → 4 * cs.length + 1 ≤ fuel →
    Follows (readOrRest fuel left) line cs (Rule.readOrRest line.length fuel left cs)
  and {cs : Text} : cs <:+ line → 4 * cs.length + 2 ≤ fuel →
    Follows (readAnd fuel) line cs (Rule.readAnd line.length fuel cs)
  andRest {left : Expression} {cs : Text} : cs <:+ line → 4 * cs.length + 1 ≤ fuel →
    Follows (readAndRest fuel left) line cs (Rule.readAndRest line.length fuel left cs)
  unary {cs : Text} : cs <:+ line → 4 * cs.length + 1 ≤ fuel →
    Follows (readUnary fuel) line cs (Rule.readUnary line.length fuel cs)

/-- Where the next mark is none that a scanner looks for, that character is left out. -/
theorem follows_eat_of_not_cons {cs : Text} {c : Char} (hcs : cs <:+ line) (h : ∀ rest, cs ≠ c :: rest) :
    Follows (eat c) line cs (.ok (false, cs)) := by
  refine follows_eat_of_ne hcs fun hhead => ?_
  obtain ⟨rest, rfl⟩ := List.head?_eq_some_iff.mp hhead
  exact h rest rfl

section Mark

variable {α : Type} {left : α} {next : Scanner α} {cs : Text} {c : Char} (hcs : cs <:+ line)
include hcs

/-- Where a mark comes next behind blanks the scanner goes on behind it. -/
theorem follows_of_mark {rest : Text} {r : Except SyntaxError (α × Text)} (h : trimStart cs = c :: rest)
    (hnext : rest <:+ line → Follows next line rest r) :
    Follows (do
      let start ← place
      let _ ← skipBlanks
      if ← eat c then next
      else
        returnTo start
        return left) line cs r := by
  refine (follows_place hcs).then fun _ => (follows_skipBlanks hcs).then fun hrest => ?_
  exact (follows_eat_cons hrest h).then hnext

/-- Where the mark does not come next the blanks are given back. -/
theorem follows_of_no_mark (h : ∀ rest, trimStart cs ≠ c :: rest) :
    Follows (do
      let start ← place
      let _ ← skipBlanks
      if ← eat c then next
      else
        returnTo start
        return left) line cs (.ok (left, cs)) := by
  refine (follows_place hcs).then fun _ => (follows_skipBlanks hcs).then fun hrest => ?_
  refine (follows_eat_of_not_cons hrest h).then fun _ => ?_
  exact (follows_returnTo hcs).then fun _ => follows_pure left hcs

end Mark

theorem followReaders (line : Text) : ∀ fuel, FollowReaders line fuel := by
  intro fuel
  induction fuel with
  | zero =>
    exact ⟨fun _ h => absurd h (by omega), fun _ h => absurd h (by omega), fun _ h => absurd h (by omega),
      fun _ h => absurd h (by omega), fun _ h => absurd h (by omega)⟩
  | succ fuel ih =>
    -- an operand takes a character at least, so that the steps are enough for what is left behind it
    have hs := Rule.shortens line.length fuel
    refine ⟨fun {cs} hcs h => ?_, fun {left cs} hcs h => ?_, fun {cs} hcs h => ?_, fun {left cs} hcs h => ?_,
      fun {cs} hcs h => ?_⟩
    · rw [readOr, Rule.readOr]
      refine (ih.and hcs (by omega)).bind fun e rest hread hrest => ih.orRest hrest ?_
      have hlt := hs.and hread
      omega
    · rw [readOrRest, Rule.readOrRest]
      split
      · next rest hmark =>
        have hshort := length_lt_of_trimStart hmark
        refine follows_of_mark hcs hmark fun hrest => ?_
        refine (ih.and hrest (by omega)).bind fun e rest hread hrest => ih.orRest hrest ?_
        have hlt := hs.and hread
        omega
      · next hmark => exact follows_of_no_mark hcs hmark
    · rw [readAnd, Rule.readAnd]
      refine (ih.unary hcs (by omega)).bind fun e rest hread hrest => ih.andRest hrest ?_
      have hlt := hs.unary hread
      omega
    · rw [readAndRest, Rule.readAndRest]
      split
      · next rest hmark =>
        have hshort := length_lt_of_trimStart hmark
        refine follows_of_mark hcs hmark fun hrest => ?_
        refine (ih.unary hrest (by omega)).bind fun e rest hread hrest => ih.andRest hrest ?_
        have hlt := hs.unary hread
        omega
      · next hmark => exact follows_of_no_mark hcs hmark
    · rw [readUnary, Rule.readUnary]
      refine (follows_skipBlanks hcs).then fun hrest => ?_
      split
      · next rest hmark =>
        have hshort := length_lt_of_trimStart hmark
        refine (follows_eat_cons hrest hmark).then fun hrest => ?_
        exact (ih.unary hrest (by omega)).bind fun e rest _ hrest => follows_pure _ hrest
      · next rest hmark =>
        have hshort := length_lt_of_trimStart hmark
        refine (follows_eat_of_not_cons hrest (by simp [hmark])).then fun _ => ?_
        refine (follows_eat_cons hrest hmark).then fun hrest => ?_
        refine (ih.or hrest (by omega)).bind fun e rest _ hrest => ?_
        refine (follows_skipBlanks hrest).then fun hrest => ?_
        exact (follows_expect hrest ')').bind_rest fun rest _ hrest => follows_pure e hrest
      · next hnot hopen =>
        refine (follows_eat_of_not_cons hrest hnot).then fun _ => ?_
        exact (follows_eat_of_not_cons hrest hopen).then fun _ => follows_readPredicate hrest

theorem follows_readExpression {cs : Text} (hcs : cs <:+ line) :
    Follows readExpression line cs (Rule.readExpression line.length cs) :=
  (follows_rest hcs).then fun _ => (followReaders line _).or hcs (Nat.le_succ _)

end Expression

/-! ### Whole lines -/

/-- A scanner comes to an answer, wherever it leaves the cursor. -/
def Ends {α : Type} (m : Scanner α) (line cs : Text) (r : Except SyntaxError α) : Prop :=
  ∃ last, Follows m line cs (r.map fun a => (a, last))

section Line

variable {α β : Type} {m : Scanner α} {f : α → Scanner β} {line cs : Text}

theorem Follows.then_ends {a : α} {rest : Text} {r : Except SyntaxError β} (h : Follows m line cs (.ok (a, rest)))
    (hf : rest <:+ line → Ends (f a) line rest r) : Ends (m >>= f) line cs r := by
  obtain ⟨last, hlast⟩ := hf h.1
  exact ⟨last, h.then fun _ => hlast⟩

theorem Follows.bind_ends {r : Except SyntaxError (α × Text)} {g : α × Text → Except SyntaxError β}
    (h : Follows m line cs r)
    (hf : ∀ a rest, r = .ok (a, rest) → rest <:+ line → Ends (f a) line rest (g (a, rest))) :
    Ends (m >>= f) line cs (r >>= g) := by
  cases r with
  | error e => exact ⟨[], h.bind (g := fun _ => .error e) fun _ _ heq => nomatch heq⟩
  | ok x => exact Follows.then_ends h fun hrest => hf x.1 x.2 rfl hrest

/-- The place where the cursor is left. -/
theorem Ends.exists_stop {r : Except SyntaxError α} (h : Ends m line cs r) :
    ∃ stop, stop <:+ line ∧ m.runFrom (Cursor.atRest line cs) = some (r, Cursor.atRest line stop)
      ∧ ∀ e, r = .error e → e.PointsAt line stop := by
  obtain ⟨last, h⟩ := h
  cases r with
  | error e =>
    obtain ⟨stop, hstop, hpoints, hrun⟩ := h
    refine ⟨stop, hstop, hrun, fun e' he => ?_⟩
    obtain rfl := Except.error.inj he
    exact hpoints
  | ok a => exact ⟨last, h.1, h.2, fun _ he => nomatch he⟩

variable (hcs : cs <:+ line)
include hcs

theorem ends_pure (a : α) : Ends (pure a) line cs (.ok a) :=
  ⟨cs, follows_pure a hcs⟩

theorem ends_throw {e : SyntaxError} (he : e.PointsAt line cs) : Ends (throw e : Scanner α) line cs (.error e) :=
  ⟨cs, follows_throw hcs he⟩

theorem follows_readSpecifier : Follows readSpecifier line cs (Rule.readSpecifier cs) := by
  unfold Rule.readSpecifier
  split
  · next rest =>
    refine (follows_eat_cons hcs rfl).then fun hrest => (follows_takeWhile hrest Char.isDigit).then fun hrest => ?_
    dsimp only
    split
    · exact follows_pure _ hrest
    · split
      · exact follows_pure _ hrest
      · exact follows_throw hrest trivial
  · next hnot => exact (follows_eat_of_not_cons hcs hnot).then fun _ => follows_pure none hcs

/-- The slash behind the name of a target is left to the regular expression. -/
theorem follows_readTarget : Follows readTarget line cs
    (.ok ((Rule.regexStart? cs).elim (none, cs) fun x => (some x.1, x.2))) := by
  refine (follows_peek hcs).then fun _ => ?_
  by_cases hslash : cs.head? = some '/'
  · obtain ⟨rest, rfl⟩ := List.head?_eq_some_iff.mp hslash
    exact follows_pure _ hcs
  have hne : ∀ rest, cs ≠ '/' :: rest := by
    rintro rest rfl
    exact hslash rfl
  rw [if_neg hslash, Rule.regexStart?_of_ne hne, Rule.namedStart?]
  -- behind a name and its slash the cursor goes back over the slash alone
  have hbefore (name rest : Text) (h : (name ++ ['/']).isPrefixOf? cs = some rest) : '/' :: rest <:+ line := by
    obtain rfl := List.append_eq_of_isPrefixOf?_eq_some h
    rw [List.append_assoc] at hcs
    exact (List.suffix_append name _).trans hcs
  cases hurl : "url/".toList.isPrefixOf? cs with
  | some rest =>
    refine (follows_eatText_append hcs hurl).then fun hrest => ?_
    exact (follows_retreat hrest (hbefore "url".toList rest hurl)).then fun hrest => follows_pure _ hrest
  | none =>
    refine (follows_eatText_of_none hcs hurl).then fun _ => ?_
    cases htitle : "title/".toList.isPrefixOf? cs with
    | some rest =>
      refine (follows_eatText_append hcs htitle).then fun hrest => ?_
      exact (follows_retreat hrest (hbefore "title".toList rest htitle)).then fun hrest => follows_pure _ hrest
    | none => exact (follows_eatText_of_none hcs htitle).then fun _ => follows_pure none hcs

theorem follows_readBody : Follows readBody line cs (Rule.readBody line.length cs) := by
  refine (follows_rest hcs).then fun _ => ?_
  unfold Rule.readBody
  dsimp only
  split
  · cases MatchPattern.ofText (cs.takeWhile (!isBlank ·)) with
    | error e => exact follows_throw hcs trivial
    | ok p =>
      refine (follows_advance hcs (List.takeWhile_append_dropWhile).symm).then fun hrest => ?_
      exact follows_pure _ hrest
  · refine (follows_readTarget hcs).then fun hafter => ?_
    cases hstart : Rule.regexStart? cs with
    | none => exact (follows_readExpression hcs).bind fun e rest _ hrest => follows_pure _ hrest
    | some x =>
      rw [hstart] at hafter
      exact (follows_readRegex hafter).bind fun regex rest _ hrest => follows_pure _ hrest

theorem follows_readGuard : Follows readGuard line cs (Rule.readGuard line.length cs) := by
  refine (follows_skipBlanks hcs).then fun hrest => (follows_expect hrest '(').bind_rest fun rest _ hrest => ?_
  refine (follows_readExpression hrest).bind fun e rest _ hrest => (follows_skipBlanks hrest).then fun hrest => ?_
  exact (follows_expect hrest ')').bind_rest fun rest _ hrest => follows_pure e hrest

omit hcs

/-- Blanks have been passed just if less is left without them. -/
theorem follows_finish (hrest : trimStart cs <:+ line) :
    Follows (finish !(cs.takeWhile isBlank).isEmpty) line (trimStart cs)
      ((Rule.finish line.length cs).map fun _ => ((), trimStart cs)) := by
  refine (follows_peek hrest).then fun _ => ?_
  have hspaced : (trimStart cs).length < cs.length ↔ (!(cs.takeWhile isBlank).isEmpty) = true := by
    have hlength := congrArg List.length (List.takeWhile_append_dropWhile (p := isBlank) (l := cs))
    rw [List.length_append] at hlength
    rw [trimStart, Bool.not_eq_true', List.isEmpty_eq_false_iff, ← List.length_pos_iff]
    omega
  unfold Rule.finish
  cases htrim : trimStart cs with
  | nil =>
    rw [htrim] at hrest
    exact follows_pure () hrest
  | cons c tail =>
    rw [htrim] at hrest hspaced
    dsimp only [List.head?_cons]
    simp only [hspaced]
    split
    · exact follows_pure () hrest
    · exact follows_unexpected hrest

theorem ends_finish (hrest : trimStart cs <:+ line) (a : α) :
    Ends (finish (!(cs.takeWhile isBlank).isEmpty) >>= fun _ => pure a) line (trimStart cs)
      (Rule.finish line.length cs >>= fun _ => .ok a) := by
  have hends := (follows_finish hrest).bind_ends (f := fun _ => pure a) (g := fun _ => .ok a)
    fun _ _ _ hlast => ends_pure hlast a
  cases hfinish : Rule.finish line.length cs with
  | error e => rwa [hfinish] at hends
  | ok u => rwa [hfinish] at hends

theorem ends_readEnd (hcs : cs <:+ line) (specifier : Option Specifier) (body : RuleBody) :
    Ends (readEnd specifier body) line cs (Rule.readEnd line.length specifier body cs) := by
  refine (follows_skipBlanks hcs).then_ends fun hrest => ?_
  unfold Rule.readEnd
  cases hmark : "@if".toList.isPrefixOf? (trimStart cs) with
  | none =>
    refine (follows_eatText_of_none hrest hmark).then_ends fun _ => ?_
    exact ends_finish hrest _
  | some afterIf =>
    refine (follows_eatText_append hrest hmark).then_ends fun hafter => ?_
    cases body with
    | pattern p guard =>
      refine (follows_readGuard hafter).bind_ends fun guard rest _ hrest => ?_
      exact (follows_skipBlanks hrest).then_ends fun hlast => ends_finish hlast _
    | regex target regex => exact ends_throw hafter trivial
    | expression e => exact ends_throw hafter trivial

/-- A line is scanned as it is read. -/
theorem ends_ofLine (line : Text) : Ends ofLine line line (Rule.ofLine line) := by
  refine (follows_skipBlanks List.suffix_rfl).then_ends fun hstart => ?_
  refine (follows_atEnd hstart).then_ends fun _ => (follows_peek hstart).then_ends fun _ => ?_
  cases htrim : trimStart line with
  | nil =>
    rw [htrim] at hstart
    rw [Rule.ofLine, htrim]
    exact ends_pure hstart none
  | cons c cs =>
    rw [htrim] at hstart
    by_cases hc : c = '#'
    · subst hc
      rw [Rule.ofLine, htrim]
      exact ends_pure hstart none
    · rw [if_neg (by simp [hc]), Rule.ofLine_eq_of_ne htrim hc]
      refine (follows_readSpecifier hstart).bind_ends fun specifier rest _ hrest => ?_
      refine (follows_skipBlanks hrest).then_ends fun hrest => ?_
      exact (follows_readBody hrest).bind_ends fun body rest _ hrest => ends_readEnd hrest specifier body

end Line

end Scanner

end ResultFilter
