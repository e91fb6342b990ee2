import BranchChat.Json.Value
import BranchChat.Numeral.Shortest
import BranchChat.Text.Percent

/-!
# Printing JSON

Compact text has no spaces and keeps the order of members. In a string only the quote, the
backslash and the control characters below U+0020 are escaped. Doubles are written as the shortest
decimal that reads back, positionally from 0.00001 up to, but not including, 10 ^ 16.

## Main definitions

- `quoted`: a string literal
- `Value.compact`: the text of a value
-/

namespace BranchChat.Json

open BranchChat.Numeral (Layout)

/-- Where doubles change from positional to scientific form. -/
def doubleLayout : Layout := ⟨-5, 16⟩

/-- One character inside a string literal. -/
def escape (c : Char) : List Char :=
  match c with
  | '"' => ['\\', '"']
  | '\\' => ['\\', '\\']
  | '\n' => ['\\', 'n']
  | '\r' => ['\\', 'r']
  | '\t' => ['\\', 't']
  | '\x08' => ['\\', 'b']
  | '\x0c' => ['\\', 'f']
  | c =>
    if c.toNat < 0x20 then
      ['\\', 'u', '0', '0', hexLower (c.toNat / 16), hexLower (c.toNat % 16)]
    else [c]
where
  /-- The lower-case hexadecimal digit of a number below 16. -/
  hexLower (n : Nat) : Char := if n < 10 then Char.ofNat (48 + n) else Char.ofNat (87 + n)

/-- The literal of a string. -/
def quoted (s : String) : List Char :=
  '"' :: (s.toList.flatMap escape ++ ['"'])

/-- The text of a number. -/
def Number.text : Number → String
  | .integer n => toString n
  | .real x => doubleLayout.render x

mutual

/-- The compact text of a value. -/
def Value.print : Value → List Char
  | .null => "null".toList
  | .bool true => "true".toList
  | .bool false => "false".toList
  | .number n => n.text.toList
  | .string s => quoted s
  | .array [] => ['[', ']']
  | .array (v :: vs) => '[' :: (v.print ++ Value.printItems vs)
  | .object [] => ['\x7b', '\x7d']
  | .object ((k, v) :: ms) => '\x7b' :: (quoted k ++ ':' :: (v.print ++ Value.printMembers ms))

/-- The rest of an array after one of its items. -/
def Value.printItems : List Value → List Char
  | [] => [']']
  | v :: vs => ',' :: (v.print ++ Value.printItems vs)

/-- The rest of an object after one of its members. -/
def Value.printMembers : List (String × Value) → List Char
  | [] => ['\x7d']
  | (k, v) :: ms => ',' :: (quoted k ++ ':' :: (v.print ++ Value.printMembers ms))

end

/-- The compact text of a value, as a string. -/
def Value.compact (v : Value) : String :=
  .ofList v.print

end BranchChat.Json
