import ResultFilter.Host.Mapping
import ResultFilter.Host.Direction
import ResultFilter.Host.Joining
import ResultFilter.Host.Punycode
import ResultFilter.Text.Basic
import ResultFilter.Text.Category

/-!
# Host names in ASCII

A host name may be written in any script. It is mapped to one form, cut into labels, checked label by
label, and written in ASCII, each label with other characters as `xn--` and its punycode.

## Main definitions

* `isForbidden` — the ASCII characters that no host name contains.
* `splitDots` — the labels of a name, empty ones included.
* `labelOf?` — the characters that a mapped label stands for, if it is well formed.
* `asciiForm?` — the ASCII form of a name.
* `nameToAscii?` — the ASCII form of a host name.
-/

namespace ResultFilter.Host

open ResultFilter.Text

/-- The ASCII characters that no host name contains. -/
def isForbidden (c : Char) : Bool :=
  c.toNat ≤ 0x20 || c.toNat = 0x7F
    || ['%', '#', '/', ':', '<', '>', '?', '@', '[', '\\', ']', '^', '|'].contains c

/-- The labels of a name: what its dots part. -/
def splitDots (name : Text) : List Text :=
  Text.splitOn '.' name

/-- Labels put together again. -/
def joinDots (labels : List Text) : Text :=
  Text.join ['.'] labels

@[simp] theorem splitDots_nil : splitDots [] = [[]] := rfl

@[simp] theorem joinDots_splitDots (name : Text) : joinDots (splitDots name) = name :=
  Text.join_splitOn '.' name

/-- Whether a text is all ASCII. -/
def isAsciiText (cs : Text) : Bool :=
  cs.all (·.toNat < 0x80)

/-- The mark of a label in punycode. -/
def punycodeMark : Text := ['x', 'n', '-', '-']

/-- Whether the mapping leaves a text as it is. -/
def isMapped (cs : Text) : Bool :=
  cs.all (fun c => mapChar? c == some [c]) && canonicalForm cs == cs

/-- The longest label that is read from, and written in, punycode. -/
def longestEncoded : Nat := 2000

/-- The longest label that is written in punycode. -/
def longestPlain : Nat := 1000

/-- The characters that a mapped label stands for: itself, or what its punycode spells, which has to
be mapped and to have a character beyond ASCII. -/
def labelOf? (label : Text) : Option Text :=
  if punycodeMark.isPrefixOf label then
    let code := label.drop 4
    if code.length > longestEncoded || !isAsciiText code then none
    else do
      let decoded ← Punycode.decodeLabel? code
      if isAsciiText decoded || !isMapped decoded then none else some decoded
  else some label

/-- Whether a label may stand in a host: it does not begin with a mark, and its joiners join. -/
def isWellFormed (label : Text) : Bool :=
  isAsciiText label
    || (!(label.head?.any isMark) && joinersAllowed label && label.length ≤ longestPlain)

/-- A label in ASCII. -/
def labelToAscii (label : Text) : Text :=
  if isAsciiText label then label else punycodeMark ++ Punycode.encodeLabel label

/-- The ASCII form of a name, or nothing if some character or label is not allowed; which characters of
the ASCII range are forbidden depends on what the name is for. -/
def asciiForm? (forbidden : Char → Bool) (name : Text) : Option Text := do
  let mapped ← name.mapM mapChar?
  let text := canonicalForm mapped.flatten
  if text.any forbidden then none
  else
    let labels ← (splitDots text).mapM labelOf?
    if labels.any (·.any isRightToLeft) && !labels.all (fun l => followsDirection (l.map directionOf))
    then none
    else if labels.all isWellFormed then some (joinDots (labels.map labelToAscii))
    else none

/-- The ASCII form of a host name. -/
def nameToAscii? (name : Text) : Option Text :=
  asciiForm? isForbidden name

end ResultFilter.Host
