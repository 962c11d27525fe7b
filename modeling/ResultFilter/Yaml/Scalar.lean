import ResultFilter.Text.Hex
import ResultFilter.Yaml.Place

/-!
# Scalars of a YAML text

The text of a scalar in each of the ways to write one. In most of them a line end within the scalar is
folded: a single one is a space, and of several the first is dropped.

## Main definitions

* `Gap` — the blanks and line ends between two words, with `Gap.fold` for what they stand for.
* `readPlain` — a scalar without quotes.
* `readQuoted` — a scalar in single or double quotes.
* `readBlock` — a scalar laid out over the lines below its mark.
-/

namespace ResultFilter.Yaml

open ResultFilter.Text

/-! ### Gaps -/

/-- The blanks and line ends between two words of a scalar. -/
structure Gap where
  /-- The blanks before the first line end. -/
  blanks : Text := []
  /-- The first line end. -/
  first : Text := []
  /-- The line ends after the first. -/
  later : Text := []
  /-- Whether there is a line end, or an escape for one. -/
  broken : Bool := false

namespace Gap

/-- What a first line end and those after it stand for. -/
def foldBreaks (first later : Text) : Text :=
  if first == ['\n'] then if later.isEmpty then [' '] else later else first ++ later

/-- What a gap stands for in a folded scalar. -/
def fold (g : Gap) : Text :=
  if g.broken then foldBreaks g.first g.later else g.blanks

/-- Reads the rest of a gap. A tab within the indent of a later line is refused. -/
def read (indent : Int) : Nat → Gap → Place → Option (Gap × Place)
  | 0, g, p => some (g, p)
  | fuel + 1, g, p =>
    match p.rest with
    | [] => some (g, p)
    | c :: _ =>
      if isGap c then
        if g.broken then
          if c = '\t' ∧ (p.column : Int) < indent then none else read indent fuel g p.skip
        else read indent fuel { g with blanks := g.blanks ++ [c] } p.skip
      else if isBreak c then
        if g.broken then read indent fuel { g with later := g.later ++ p.breakText } p.skipBreak
        else read indent fuel { g with first := p.breakText, broken := true } p.skipBreak
      else some (g, p)

end Gap

/-! ### Plain scalars -/

/-- The indicators that end a plain scalar in brackets. -/
def isFlowIndicator (c : Char) : Bool :=
  c == ',' || c == '[' || c == ']' || c == '\x7b' || c == '\x7d'

/-- A word of a plain scalar, and what follows it. A colon ends it before a blank; in brackets one may
not stand before an indicator. -/
def plainWord (inFlow : Bool) : Text → Option (Text × Text)
  | [] => some ([], [])
  | c :: rest =>
    if isGapOrBreak c then some ([], c :: rest)
    else if inFlow && c == ':' && rest.head?.any (fun d => isFlowIndicator d || d == '?') then none
    else if c == ':' && rest.head?.all isGapOrBreak then some ([], c :: rest)
    else if inFlow && isFlowIndicator c then some ([], c :: rest)
    else (plainWord inFlow rest).map fun (word, rest) => (c :: word, rest)

/-- Reads the rest of a plain scalar after what has been gathered and a gap; gives the text, where it
ends, and whether the last gap has a line end. -/
def readPlainRest (inFlow : Bool) (indent : Int) :
    Nat → Text → Gap → Place → Option (Text × Place × Bool)
  | 0, _, _, _ => none
  | fuel + 1, text, gap, p =>
    if p.atMarker || p.seesChar '#' then some (text, p, gap.broken)
    else do
      let (word, _) ← plainWord inFlow p.rest
      let q := p.skipN word.length
      let (text, broken) :=
        if word.isEmpty then (text, gap.broken) else (text ++ gap.fold ++ word, false)
      if q.sees isGapOrBreak then do
        let (gap, r) ← Gap.read indent (q.rest.length + 1) {} q
        if !inFlow && (r.column : Int) < indent then some (text, r, gap.broken)
        else readPlainRest inFlow indent fuel text gap r
      else some (text, q, broken)

/-- Reads a plain scalar. -/
def readPlain (inFlow : Bool) (indent : Int) (p : Place) : Option (Text × Place × Bool) :=
  readPlainRest inFlow indent (p.rest.length + 1) [] {} p

/-! ### Quoted scalars -/

/-- What a character after a backslash stands for by itself. -/
def namedEscape? (c : Char) : Option Char :=
  match c with
  | '0' => some '\x00'
  | 'a' => some '\x07'
  | 'b' => some '\x08'
  | 't' => some '\t'
  | '\t' => some '\t'
  | 'n' => some '\n'
  | 'v' => some '\x0b'
  | 'f' => some '\x0c'
  | 'r' => some '\r'
  | 'e' => some '\x1b'
  | ' ' => some ' '
  | '"' => some '"'
  | '/' => some '/'
  | '\\' => some '\\'
  | 'N' => some '\u0085'
  | '_' => some '\u00a0'
  | 'L' => some '\u2028'
  | 'P' => some '\u2029'
  | _ => none

/-- The number of hexadecimal digits after a character that begins a code. -/
def codeLength? (c : Char) : Option Nat :=
  match c with
  | 'x' => some 2
  | 'u' => some 4
  | 'U' => some 8
  | _ => none

/-- Reads an escape after its backslash: what it stands for, and how many characters it takes. -/
def readEscape? : Text → Option (Char × Nat)
  | [] => none
  | c :: rest =>
    match namedEscape? c with
    | some d => some (d, 1)
    | none => do
      let n ← codeLength? c
      let digits ← (rest.take n).mapM hexValue?
      let code := ofDigits 16 digits
      if digits.length = n ∧ code.isValidChar then some (Char.ofNat code, n + 1) else none

/-- Reads a word of a quoted scalar: its text, where it ends, and whether it ends with the escape of a
line end. -/
def quotedWord (quote : Char) : Nat → Place → Option (Text × Place × Bool)
  | 0, _ => none
  | fuel + 1, p =>
    match p.rest with
    | [] => some ([], p, false)
    | c :: rest =>
      if isGapOrBreak c then some ([], p, false)
      else if c = quote then
        if quote = '\'' ∧ rest.head? = some '\'' then
          (quotedWord quote fuel (p.skipN 2)).map fun (text, after) => ('\'' :: text, after)
        else some ([], p, false)
      else if c = '\\' ∧ quote = '"' then
        if rest.head?.any isBreak then some ([], p.skip.skipBreak, true)
        else do
          let (d, n) ← readEscape? rest
          let (text, after) ← quotedWord quote fuel (p.skipN (n + 1))
          return (d :: text, after)
      else (quotedWord quote fuel p.skip).map fun (text, after) => (c :: text, after)

/-- Reads the rest of a quoted scalar after what has been gathered. -/
def readQuotedRest (quote : Char) : Nat → Text → Place → Option (Text × Place)
  | 0, _, _ => none
  | fuel + 1, text, p =>
    if p.atMarker || p.atEnd then none
    else do
      let (word, q, broken) ← quotedWord quote (p.rest.length + 1) p
      if q.seesChar quote then some (text ++ word, q.skip)
      else do
        let (gap, r) ← Gap.read (-1) (q.rest.length + 1) { broken } q
        readQuotedRest quote fuel (text ++ word ++ gap.fold) r

/-- Reads a quoted scalar from its quote on. -/
def readQuoted (quote : Char) (p : Place) : Option (Text × Place) :=
  readQuotedRest quote (p.rest.length + 1) [] p.skip

/-! ### Block scalars -/

/-- What becomes of the line ends at the end of a block scalar. -/
inductive Chomping where
  /-- None is kept. -/
  | strip
  /-- The first is kept. -/
  | clip
  /-- All are kept. -/
  | keep
deriving DecidableEq, Repr

/-- The chomping that a character stands for. -/
def chomping? (c : Char) : Option Chomping :=
  match c with
  | '+' => some .keep
  | '-' => some .strip
  | _ => none

/-- Reads the indent of a block scalar: a digit, but not zero. -/
def readIndent (p : Place) : Option (Option Nat × Place) :=
  match p.rest with
  | c :: _ =>
    match decimalValue? c with
    | some 0 => none
    | some n => some (some n, p.skip)
    | none => some (none, p)
  | [] => some (none, p)

/-- Reads the chomping of a block scalar. -/
def readChomping (p : Place) : Option Chomping × Place :=
  match p.rest.head?.bind chomping? with
  | some chomping => (some chomping, p.skip)
  | none => (none, p)

/-- Reads the chomping and the indent of a block scalar, in either order. -/
def readBlockHeader (p : Place) : Option (Chomping × Option Nat × Place) :=
  match readChomping p with
  | (some chomping, p) => (readIndent p).map fun (indent, p) => (chomping, indent, p)
  | (none, p) => do
    let (indent, p) ← readIndent p
    match indent with
    | none => return (.clip, none, p)
    | some _ =>
      let (chomping, p) := readChomping p
      return (chomping.getD .clip, indent, p)

/-- Reads the indents and line ends before a line with text. While the indent of the scalar is unknown,
every space belongs to it, and the widest is found; a tab in it is refused. -/
def readBlockBreaks (indent : Option Nat) :
    Nat → Nat → Text → Place → Option (Nat × Text × Place)
  | 0, widest, breaks, p => some (widest, breaks, p)
  | fuel + 1, widest, breaks, p =>
    let spaces := (p.rest.takeWhile (· == ' ')).length
    let q := p.skipN (match indent with
      | some n => min spaces (n - p.column)
      | none => spaces)
    let widest := max widest q.column
    if q.seesChar '\t' && indent.all (q.column < ·) then none
    else if q.sees isBreak then
      readBlockBreaks indent fuel widest (breaks ++ q.breakText) q.skipBreak
    else some (widest, breaks, q)

/-- What has been gathered of a block scalar. -/
structure BlockText where
  /-- The lines so far. -/
  text : Text := []
  /-- The line end of the last line. -/
  last : Text := []
  /-- Whether the last line begins with a blank. -/
  indented : Bool := false

/-- The text before the next line: its line ends are folded unless the scalar is literal or one of the
lines around them begins with a blank. -/
def BlockText.join (b : BlockText) (literal indented : Bool) (breaks : Text) : Text :=
  if !literal && b.last == ['\n'] && !b.indented && !indented then
    b.text ++ (if breaks.isEmpty then [' '] else breaks)
  else b.text ++ b.last ++ breaks

/-- Reads the lines of a block scalar; gives what they hold and the line ends left over. -/
def readBlockLines (literal : Bool) (indent : Nat) :
    Nat → BlockText → Text → Place → Option (BlockText × Text × Place)
  | 0, _, _, _ => none
  | fuel + 1, b, breaks, p =>
    if p.column == indent && !p.atEnd then do
      let indented := p.sees isGap
      let line := p.rest.takeWhile (!isBreak ·)
      let q := p.skipN line.length
      let b : BlockText :=
        { text := b.join literal indented breaks ++ line, last := q.breakText, indented }
      let q := q.skipBreak
      let (_, breaks, r) ← readBlockBreaks (some indent) (q.rest.length + 1) 0 [] q
      readBlockLines literal indent fuel b breaks r
    else some (b, breaks, p)

/-- Reads a block scalar from its mark on, within a block whose indent is given. -/
def readBlock (literal : Bool) (outer : Int) (p : Place) : Option (Text × Place) := do
  let (chomping, given, p) ← readBlockHeader p.skip
  let p := (p.skipWhile isGap).skipComment
  if !p.atLineEnd then none
  else
    let p := p.skipBreak
    let known := given.map fun n => (max outer 0).toNat + n
    let (widest, breaks, p) ← readBlockBreaks known (p.rest.length + 1) 0 [] p
    let indent := known.getD (max (max widest (outer + 1).toNat) 1)
    let (b, breaks, p) ← readBlockLines literal indent (p.rest.length + 1) {} breaks p
    return (b.text ++ match chomping with
      | .strip => []
      | .clip => b.last
      | .keep => b.last ++ breaks, p)

end ResultFilter.Yaml
