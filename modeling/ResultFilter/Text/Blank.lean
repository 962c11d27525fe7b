/-!
# White space

The characters with the Unicode property White_Space. They part the words of a rule line; the
narrower set of ASCII blanks parts nothing here.

## Main definitions

* `isBlank` — the property.
* `trimStart`, `trimEnd` — drop the blanks at an end of a text.
-/

namespace ResultFilter.Text

/-- Whether a character is white space. -/
def isBlank (c : Char) : Bool :=
  let n := c.toNat
  (0x9 ≤ n && n ≤ 0xD) || n == 0x20 || n == 0x85 || n == 0xA0 || n == 0x1680
    || (0x2000 ≤ n && n ≤ 0x200A) || n == 0x2028 || n == 0x2029 || n == 0x202F || n == 0x205F
    || n == 0x3000

/-- A text without its leading blanks. -/
def trimStart (cs : List Char) : List Char :=
  cs.dropWhile isBlank

/-- A text without its trailing blanks. -/
def trimEnd (cs : List Char) : List Char :=
  (cs.reverse.dropWhile isBlank).reverse

end ResultFilter.Text
