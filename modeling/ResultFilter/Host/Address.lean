import ResultFilter.Host.Idna

/-!
# Addresses as hosts

A host whose last label is a number is an IPv4 address, in one of the many spellings that browsers
read; a host in brackets is an IPv6 address. Both are written in one way.

## Main definitions

* `number?` — a part of an IPv4 address, in base eight, ten or sixteen.
* `endsInNumber` — whether a name has to be read as an IPv4 address.
* `Ipv4.ofName?`, `Ipv4.render` — reads and writes IPv4 addresses.
* `Ipv6.ofText?`, `Ipv6.render` — reads and writes IPv6 addresses.
* `isAddress` — whether a host is an address rather than a name.
-/

namespace ResultFilter.Host

open ResultFilter.Text

/-- The number that digits of a base spell, if all are digits. -/
def numeral? (base : Nat) (value? : Char → Option Nat) (cs : Text) : Option Nat :=
  (cs.mapM value?).map (ofDigits base)

/-- A part of an IPv4 address: `0x` marks base sixteen and a leading zero base eight. -/
def number? (cs : Text) : Option Nat :=
  match cs with
  | [] => none
  | '0' :: 'x' :: rest => numeral? 16 hexValue? rest
  | '0' :: 'X' :: rest => numeral? 16 hexValue? rest
  | '0' :: c :: rest => numeral? 8 octalValue? (c :: rest)
  | cs => numeral? 10 decimalValue? cs

/-- The labels of a name without the empty one that a final dot leaves. -/
def dropFinalEmpty (labels : List Text) : List Text :=
  if labels.getLast? == some [] then labels.dropLast else labels

/-- Whether the last label of a name is a number, so that the name is an IPv4 address or nothing. -/
def endsInNumber (name : Text) : Bool :=
  match (dropFinalEmpty (splitDots name)).getLast? with
  | none => false
  | some label => (!label.isEmpty && label.all Char.isDigit) || (number? label).isSome

/-- An IPv4 address. -/
abbrev Ipv4 := UInt32

/-- The address that the parts spell: each but the last is a byte, and the last fills the rest. -/
def Ipv4.ofParts? (parts : List Nat) : Option Ipv4 :=
  match parts.reverse with
  | [] => none
  | final :: leading =>
    let free := 4 - leading.length
    if leading.length > 3 || leading.any (· > 255) || final ≥ Nat.pow 256 free then none
    else some (UInt32.ofNat (ofDigits 256 leading.reverse * Nat.pow 256 free + final))

/-- The address that a name spells. -/
def Ipv4.ofName? (name : Text) : Option Ipv4 := do
  let parts ← (dropFinalEmpty (splitDots name)).mapM number?
  Ipv4.ofParts? parts

/-- The four bytes of an address. -/
def Ipv4.bytes (a : Ipv4) : List Nat :=
  let n := a.toNat
  [n / 0x1000000, n / 0x10000 % 256, n / 0x100 % 256, n % 256]

/-- An address as four decimal numbers. -/
def Ipv4.render (a : Ipv4) : Text :=
  joinDots ((Ipv4.bytes a).map decimalDigits)

/-- An IPv6 address, as its eight pieces of sixteen bits. -/
structure Ipv6 where
  /-- The pieces. -/
  pieces : List Nat
deriving DecidableEq, Repr

namespace Ipv6

/-- A byte of the IPv4 form that may end an address: no leading zero. -/
def byte? (cs : Text) : Option Nat :=
  match cs with
  | ['0'] => some 0
  | '0' :: _ => none
  | [] => none
  | cs => (numeral? 10 decimalValue? cs).bind fun n => if n ≤ 255 then some n else none

/-- The two pieces that an IPv4 form spells. -/
def embedded? (cs : Text) : Option (List Nat) :=
  match (splitDots cs).mapM byte? with
  | some [a, b, c, d] => some [a * 256 + b, c * 256 + d]
  | _ => none

/-- Reads pieces from the start of a piece on: `digits` are those of the piece being read, in reverse,
`begun` the text from its first digit on. The pieces come with the place of the double colon among
them, if there is one. -/
def readPieces (begun : Text) (digits : List Nat) :
    Text → Option (List Nat × Option Nat)
  | [] => if digits.isEmpty then none else some ([ofDigits 16 digits.reverse], none)
  | '.' :: _ => if digits.isEmpty then none else (embedded? begun).map (·, none)
  | [':', ':'] => if digits.isEmpty then none else some ([ofDigits 16 digits.reverse], some 1)
  | [':'] => none
  | ':' :: ':' :: rest =>
    if digits.isEmpty then none
    else
      match readPieces rest [] rest with
      | some (pieces, none) => some (ofDigits 16 digits.reverse :: pieces, some 1)
      | _ => none
  | ':' :: rest =>
    if digits.isEmpty then none
    else (readPieces rest [] rest).map fun (pieces, gap) =>
      (ofDigits 16 digits.reverse :: pieces, gap.map (· + 1))
  | c :: rest =>
    match hexValue? c with
    | some d => if digits.length < 4 then readPieces begun (d :: digits) rest else none
    | none => none

/-- The eight pieces, the gap filled with zeros. -/
def fillGap? (pieces : List Nat) (gap : Option Nat) : Option Ipv6 :=
  match gap with
  | none => if pieces.length = 8 then some ⟨pieces⟩ else none
  | some i =>
    if pieces.length ≤ 7 then
      some ⟨pieces.take i ++ List.replicate (8 - pieces.length) 0 ++ pieces.drop i⟩
    else none

/-- The address that a text spells. -/
def ofText? (cs : Text) : Option Ipv6 :=
  match cs with
  | [':', ':'] => fillGap? [] (some 0)
  | ':' :: ':' :: rest =>
    match readPieces rest [] rest with
    | some (pieces, none) => fillGap? pieces (some 0)
    | _ => none
  | ':' :: _ => none
  | cs => (readPieces cs [] cs).bind fun (pieces, gap) => fillGap? pieces gap

/-- The length of the run of zeros at the start of the pieces. -/
def zeroRun (pieces : List Nat) : Nat :=
  (pieces.takeWhile (· == 0)).length

/-- The place and length of the first longest run of zeros from place `i` on. -/
def longestRun (i : Nat) : List Nat → Nat × Nat
  | [] => (i, 0)
  | p :: rest =>
    let here := zeroRun (p :: rest)
    let later := longestRun (i + 1) rest
    if here ≥ later.2 then (i, here) else later

/-- Pieces in hexadecimal with colons between them. -/
def joinColons : List Nat → Text
  | [] => []
  | [p] => hexDigits p
  | p :: rest => hexDigits p ++ ':' :: joinColons rest

/-- An address in its one spelling: the first longest run of two or more zeros is a double colon. -/
def render (a : Ipv6) : Text :=
  let (i, n) := longestRun 0 a.pieces
  if n < 2 then joinColons a.pieces
  else joinColons (a.pieces.take i) ++ [':', ':'] ++ joinColons (a.pieces.drop (i + n))

end Ipv6

/-- Whether a host is an address, in brackets or not: an IPv4 address only in its one spelling. -/
def isAddress (host : Text) : Bool :=
  let inner := ((host.dropWhile (· == '[')).reverse.dropWhile (· == ']')).reverse
  (Ipv6.embedded? inner).isSome || (Ipv6.ofText? inner).isSome

end ResultFilter.Host
