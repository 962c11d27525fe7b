import ResultFilter.Regex.Reader
import ResultFilter.Regex.Search
import ResultFilter.Regex.Size

/-!
# Regular expressions in rules

A rule gives a regular expression between slashes with letters for flags behind it. A slash within the
expression may be escaped; the escape is taken off at once, so that the source that is kept reads the
same in every place.

## Main definitions

* `RegexFlags` — the letters behind an expression.
* `unescapeSlashes` — takes the escapes off the slashes.
* `Regex` — an expression that has been read, with `Regex.ofText`.
* `Regex.isMatch` — whether it occurs in a text.
-/

namespace ResultFilter

open ResultFilter.Text

/-- The letters that may stand behind an expression. -/
structure RegexFlags where
  /-- `i`, case does not count. -/
  ignoreCase : Bool := false
  /-- `m`, anchors hold at every line. -/
  multiLine : Bool := false
  /-- `s`, the dot covers line ends. -/
  dotAll : Bool := false
  /-- `u`, allowed, and always in force. -/
  unicode : Bool := false
  /-- `g`, allowed, without a meaning here. -/
  global : Bool := false
  /-- `y`, allowed, without a meaning here. -/
  sticky : Bool := false
deriving DecidableEq, Repr

namespace RegexFlags

/-- Adds the flag of a letter. -/
def add? (flags : RegexFlags) (letter : Char) : Option RegexFlags :=
  match letter with
  | 'i' => some { flags with ignoreCase := true }
  | 'm' => some { flags with multiLine := true }
  | 's' => some { flags with dotAll := true }
  | 'u' => some { flags with unicode := true }
  | 'g' => some { flags with global := true }
  | 'y' => some { flags with sticky := true }
  | _ => none

/-- The flags of some letters added to others, or the first letter that is none. -/
def addAll (flags : RegexFlags) : Text → Except Char RegexFlags
  | [] => .ok flags
  | c :: rest =>
    match flags.add? c with
    | some flags => flags.addAll rest
    | none => .error c

/-- The flags of some letters, or the first letter that is none. -/
def ofText (letters : Text) : Except Char RegexFlags :=
  addAll {} letters

/-- The letters of the flags, in one order. -/
def render (flags : RegexFlags) : Text :=
  (if flags.ignoreCase then ['i'] else []) ++ (if flags.multiLine then ['m'] else [])
    ++ (if flags.dotAll then ['s'] else []) ++ (if flags.unicode then ['u'] else [])
    ++ (if flags.global then ['g'] else []) ++ (if flags.sticky then ['y'] else [])

/-- The flags that an expression is read under. -/
def toFlags (flags : RegexFlags) : Regex.Flags where
  ignoreCase := flags.ignoreCase
  multiLine := flags.multiLine
  dotNewLine := flags.dotAll

end RegexFlags

/-- An expression in which every escaped slash is a slash. -/
def unescapeSlashes : Text → Text
  | '\\' :: c :: rest => if c = '/' then '/' :: unescapeSlashes rest else '\\' :: c :: unescapeSlashes rest
  | c :: rest => c :: unescapeSlashes rest
  | [] => []

namespace Regex

/-- The pattern that a source stands for under some flags. -/
def readPattern? (source : Text) (flags : RegexFlags) : Option (Pattern CodeSet Look) := do
  let ast ← Ast.ofText? source
  let (p, _) ← patternOf? flags.toFlags ast
  return p

end Regex

/-- A regular expression that has been read. -/
structure Regex where
  /-- The expression, its slashes without escapes. -/
  source : Text
  /-- The flags. -/
  flags : RegexFlags
  /-- What it stands for. -/
  pattern : Regex.Pattern CodeSet Regex.Look
  /-- The source stands for the pattern. -/
  readPattern : Regex.readPattern? source flags = some pattern

namespace Regex

/-- Reads an expression. -/
def ofText (text : Text) (flags : RegexFlags) : Option Regex :=
  let source := unescapeSlashes text
  match h : readPattern? source flags with
  | some pattern => some ⟨source, flags, pattern, h⟩
  | none => none

/-- Expressions are equal if their sources and flags are. -/
theorem ext_source {a b : Regex} (hs : a.source = b.source) (hf : a.flags = b.flags) : a = b := by
  obtain ⟨s, f, p, hp⟩ := a
  obtain ⟨s', f', p', hp'⟩ := b
  subst hs
  subst hf
  rw [hp] at hp'
  cases hp'
  rfl

instance : DecidableEq Regex := fun a b =>
  if h : a.source = b.source ∧ a.flags = b.flags then .isTrue (ext_source h.1 h.2)
  else .isFalse fun e => h ⟨e ▸ rfl, e ▸ rfl⟩

/-- Whether an expression occurs in a text. One that is too large to be run occurs nowhere. -/
def isMatch (r : Regex) (text : Text) : Bool :=
  isRunnable r.pattern && occursIn r.pattern text

/-- Whether an expression has been made ready to run: that happens when it is first tested. -/
def isReadyAfter (_ : Regex) (tested : List Text) : Bool :=
  !tested.isEmpty

end Regex

end ResultFilter
