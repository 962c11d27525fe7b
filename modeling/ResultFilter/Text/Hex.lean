/-!
# Digits of a character

The value of a character as a digit, in the bases that escapes, addresses and tables use.

## Main definitions

* `hexValue?` — the value of a hexadecimal digit, of either case.
* `octalValue?`, `decimalValue?` — the values of the digits of the smaller bases.
* `ofDigits` — the number that a list of digit values spells.
* `tableEntries`, `hexNumbers` — the entries of a table written as text, and the numbers of an entry.
-/

namespace ResultFilter.Text

/-- The value of a decimal digit of the ASCII range. -/
def decimalValue? (c : Char) : Option Nat :=
  if '0' ≤ c ∧ c ≤ '9' then some (c.toNat - 48) else none

/-- The value of an octal digit. -/
def octalValue? (c : Char) : Option Nat :=
  if '0' ≤ c ∧ c ≤ '7' then some (c.toNat - 48) else none

/-- The value of a hexadecimal digit. -/
def hexValue? (c : Char) : Option Nat :=
  if '0' ≤ c ∧ c ≤ '9' then some (c.toNat - 48)
  else if 'a' ≤ c ∧ c ≤ 'f' then some (c.toNat - 87)
  else if 'A' ≤ c ∧ c ≤ 'F' then some (c.toNat - 55)
  else none

/-- The number spelled by digit values, the most significant first. -/
def ofDigits (base : Nat) (ds : List Nat) : Nat :=
  ds.foldl (fun n d => n * base + d) 0

/-- The words of a text after those read already; `word` holds, in reverse, the one being read. -/
def entriesFrom (word : List Char) : List Char → List (List Char)
  | [] => if word.isEmpty then [] else [word.reverse]
  | c :: rest =>
    if c = ' ' ∨ c = '\n' then
      if word.isEmpty then entriesFrom [] rest else word.reverse :: entriesFrom [] rest
    else entriesFrom (c :: word) rest

/-- The entries of a table: its words, parted by blanks and line ends. -/
def tableEntries (table : String) : List (List Char) :=
  entriesFrom [] table.toList

/-- The hexadecimal numbers that a mark parts; `n` is the part read so far of the first one. -/
def hexNumbers (mark : Char) (n : Nat) : List Char → List Nat
  | [] => [n]
  | c :: rest =>
    if c = mark then n :: hexNumbers mark 0 rest
    else hexNumbers mark (n * 16 + (hexValue? c).getD 0) rest

/-- The digit of a value below sixteen, in lower case. -/
def hexDigit (n : Nat) : Char :=
  if n < 10 then Char.ofNat (48 + n) else Char.ofNat (87 + n)

/-- The digit of a value below sixteen, in upper case. -/
def upperHexDigit (n : Nat) : Char :=
  if n < 10 then Char.ofNat (48 + n) else Char.ofNat (55 + n)

/-- The lower-case hexadecimal digits of a number, without leading zeros. -/
def hexDigits (n : Nat) : List Char :=
  Nat.toDigits 16 n

/-- The decimal digits of a number, without leading zeros. -/
def decimalDigits (n : Nat) : List Char :=
  Nat.toDigits 10 n

end ResultFilter.Text
