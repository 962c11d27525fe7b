import ResultFilter.Text.Category
import ResultFilter.Text.Property

/-!
# A character in a message

A message shows a character in quotes. What could not be seen there is shown by its name or its code.

## Main definitions

* `quoteChar` — the character in quotes.
-/

namespace ResultFilter.Text

/-- The code of a character in braces. -/
def codeEscape (c : Char) : List Char :=
  ['\\', 'u', '\x7b'] ++ hexDigits c.toNat ++ ['\x7d']

/-- A character as it is shown between single quotes. -/
def escapeShown (c : Char) : List Char :=
  if c = '\x00' then ['\\', '0']
  else if c = '\t' then ['\\', 't']
  else if c = '\n' then ['\\', 'n']
  else if c = '\r' then ['\\', 'r']
  else if c = '\'' then ['\\', '\'']
  else if c = '\\' then ['\\', '\\']
  else if ' ' ≤ c ∧ c ≤ '~' then [c]
  else if graphemeExtendProperty.members.has c || !isPrintable c then codeEscape c
  else [c]

/-- A character in quotes. -/
def quoteChar (c : Char) : List Char :=
  '\'' :: escapeShown c ++ ['\'']

end ResultFilter.Text
