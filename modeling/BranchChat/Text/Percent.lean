import BranchChat.Text.Utf8

/-!
# Percent-encoding

A character outside a given set is written as its UTF-8 bytes, each as a percent sign and two
upper-case hexadecimal digits.

## Main definitions

- `encode keep`: writes the characters that `keep` does not hold as bytes
- `decode`: the bytes of a text in which well-formed triples stand for bytes
- `unreserved`: letters, digits and the four marks that never need encoding
-/

namespace BranchChat.Text.Percent

/-- The upper-case hexadecimal digit of a number below 16. -/
def hexDigit (n : Nat) : Char :=
  if n < 10 then Char.ofNat (48 + n) else Char.ofNat (55 + n)

/-- The value of a hexadecimal digit of either case. -/
def hexValue? (c : Char) : Option Nat :=
  if '0' ≤ c ∧ c ≤ '9' then some (c.toNat - 48)
  else if 'a' ≤ c ∧ c ≤ 'f' then some (c.toNat - 87)
  else if 'A' ≤ c ∧ c ≤ 'F' then some (c.toNat - 55)
  else none

/-- The triple that stands for a byte. -/
def triple (b : UInt8) : List Char :=
  ['%', hexDigit (b.toNat / 16), hexDigit (b.toNat % 16)]

/-- The written form of one character. -/
def encodeChar (keep : Char → Bool) (c : Char) : List Char :=
  if keep c then [c] else (String.utf8EncodeChar c).flatMap triple

/-- The written form of a text. -/
def encode (keep : Char → Bool) (cs : List Char) : List Char :=
  cs.flatMap (encodeChar keep)

/-- The bytes of a text, where each percent sign with two hexadecimal digits after it is one
byte. -/
def decode : List Char → List UInt8
  | [] => []
  | '%' :: h :: l :: rest =>
    match hexValue? h, hexValue? l with
    | some high, some low => UInt8.ofNat (high * 16 + low) :: decode rest
    | _, _ => 0x25 :: decode (h :: l :: rest)
  | c :: rest => String.utf8EncodeChar c ++ decode rest

/-- ASCII letters, ASCII digits and `-`, `_`, `.`, `~`. -/
def unreserved (c : Char) : Bool :=
  c.isAlphanum || c == '-' || c == '_' || c == '.' || c == '~'

end BranchChat.Text.Percent
