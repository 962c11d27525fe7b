import ResultFilter.Pattern
import ResultFilter.Text.Quoted

/-!
# Faults of a rule line

Why a line is no rule. Columns count characters from one.

## Main definitions

* `SyntaxError` — the faults.
* `SyntaxError.message` — a fault in words.
-/

namespace ResultFilter

open ResultFilter.Text

/-- Why a line is no rule. -/
inductive SyntaxError where
  /-- The line ends where more is needed. -/
  | unexpectedEnd
  /-- A character stands where it cannot. -/
  | unexpected (found : Char) (column : Nat)
  /-- An escape of a string is none; the column is that of its backslash. -/
  | invalidEscape (column : Nat)
  | unterminatedString
  | unterminatedRegex
  /-- A regular expression without a source. -/
  | emptyRegex
  /-- A regular expression that cannot be read. -/
  | invalidRegex
  | invalidRegexFlag (letter : Char)
  | invalidSpecifier
  /-- A guard stands after something other than a match pattern. -/
  | misplacedGuard
  | pattern (error : PatternError)
deriving DecidableEq, Repr

namespace SyntaxError

/-- A fault in words. -/
def message : SyntaxError → Text
  | .unexpectedEnd => "unexpected end of line".toList
  | .unexpected c n =>
    "unexpected ".toList ++ quoteChar c ++ " at column ".toList ++ decimalDigits n
  | .invalidEscape n => "invalid escape sequence at column ".toList ++ decimalDigits n
  | .unterminatedString => "unterminated string literal".toList
  | .unterminatedRegex => "unterminated regular expression".toList
  | .emptyRegex => "invalid regular expression: empty pattern".toList
  | .invalidRegex => "invalid regular expression".toList
  | .invalidRegexFlag c => "unsupported regular expression flag ".toList ++ quoteChar c
  | .invalidSpecifier => "invalid specifier".toList
  | .misplacedGuard => "@if is only allowed after a match pattern".toList
  | .pattern error => error.message

/-- The column of what is left of a line of a given width. -/
def column (width : Nat) (rest : Text) : Nat :=
  width - rest.length + 1

/-- The fault at the start of what is left of a line. -/
def atRest (width : Nat) : Text → SyntaxError
  | [] => .unexpectedEnd
  | c :: rest => .unexpected c (column width (c :: rest))

end SyntaxError

end ResultFilter
