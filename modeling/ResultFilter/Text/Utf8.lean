import ResultFilter.Text.Hex

/-!
# UTF-8

Texts as the bytes of their UTF-8 form, and percent-encoded bytes as used in addresses.

## Main definitions

* `utf8` — the bytes of a text.
* `ofUtf8?` — the text of well-formed bytes.
* `percentEncode` — bytes outside a safe class become `%XX`.
* `percentDecode` — the bytes of a text with its `%XX` read.
-/

namespace ResultFilter.Text

/-- The bytes of a text. -/
def utf8 (cs : List Char) : List UInt8 :=
  cs.flatMap String.utf8EncodeChar

@[simp] theorem utf8_nil : utf8 [] = [] := rfl

@[simp] theorem utf8_cons (c : Char) (cs : List Char) :
    utf8 (c :: cs) = String.utf8EncodeChar c ++ utf8 cs := rfl

@[simp] theorem utf8_append (cs ds : List Char) : utf8 (cs ++ ds) = utf8 cs ++ utf8 ds := by
  simp [utf8]

/-- The payload of a continuation byte. -/
def continuation? (b : UInt8) : Option Nat :=
  if 0x80 ≤ b ∧ b < 0xC0 then some (b.toNat - 0x80) else none

/-- The character of a code that needs at least `least`, unless it is a surrogate or too large. -/
def scalar? (least n : Nat) : Option Char :=
  if least ≤ n ∧ n.isValidChar then some (Char.ofNat n) else none

/-- The text of well-formed bytes: no overlong form, no surrogate, no stray byte. -/
def ofUtf8? : List UInt8 → Option (List Char)
  | [] => some []
  | a :: rest =>
    if a < 0x80 then (ofUtf8? rest).map (Char.ofNat a.toNat :: ·)
    else if a < 0xC2 then none
    else
      match rest with
      | [] => none
      | b :: rest =>
        if a < 0xE0 then do
          let y ← continuation? b
          (ofUtf8? rest).map (Char.ofNat ((a.toNat - 0xC0) * 64 + y) :: ·)
        else
          match rest with
          | [] => none
          | c :: rest =>
            if a < 0xF0 then do
              let y ← continuation? b
              let z ← continuation? c
              let x ← scalar? 0x800 (((a.toNat - 0xE0) * 64 + y) * 64 + z)
              (ofUtf8? rest).map (x :: ·)
            else
              match rest with
              | [] => none
              | d :: rest => do
                let y ← continuation? b
                let z ← continuation? c
                let w ← continuation? d
                let x ← scalar? 0x10000 ((((a.toNat - 0xF0) * 64 + y) * 64 + z) * 64 + w)
                (ofUtf8? rest).map (x :: ·)

/-- A byte as `%XX`. -/
def percentByte (b : UInt8) : List Char :=
  ['%', upperHexDigit (b.toNat / 16), upperHexDigit (b.toNat % 16)]

/-- A text in which the ASCII characters outside a safe class, and all others, are written as the
percent-encoded bytes of their UTF-8 form. -/
def percentEncode (safe : Char → Bool) (cs : List Char) : List Char :=
  cs.flatMap fun c =>
    if c.toNat < 0x80 && safe c then [c] else (String.utf8EncodeChar c).flatMap percentByte

/-- The bytes of a text in which `%XX` stands for a byte; any other percent sign is itself. -/
def percentDecode : List Char → List UInt8
  | [] => []
  | '%' :: a :: b :: rest =>
    match hexValue? a, hexValue? b with
    | some x, some y => UInt8.ofNat (x * 16 + y) :: percentDecode rest
    | _, _ => 0x25 :: percentDecode (a :: b :: rest)
  | c :: rest => String.utf8EncodeChar c ++ percentDecode rest

end ResultFilter.Text
