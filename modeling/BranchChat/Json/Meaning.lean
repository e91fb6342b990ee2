import BranchChat.Json.Raw
import BranchChat.Json.Value

/-!
# The meaning of written JSON

A written string stands for characters only if it has no gap and each escape names a character:
the escapes of a surrogate pair name one together, a surrogate by itself names none. A number
whose literal overflows has no value. A value nests at most 127 arrays and objects.

## Main definitions

- `Raw.text?`: the characters of a string body
- `Literal.number?`: the number of a literal
- `Raw.value`: the value of a tree
- `Value.parse?`: the value of a text
-/

namespace BranchChat.Json

open BranchChat.Numeral (Binary64)
open BranchChat.Text (Utf8.Symbol)

/-- The deepest nesting of arrays and objects in a value. -/
def maxNesting : Nat := 127

/-- The greatest unsigned 64-bit word. -/
def maxWord : Nat := Nat.pow 2 64 - 1

/-- The value of a hexadecimal digit, taken as zero for any other symbol. -/
def hexDigit : Utf8.Symbol → Nat
  | some c =>
    if c.isDigit then c.toNat - 48
    else if 'a' ≤ c ∧ c ≤ 'f' then c.toNat - 87
    else if 'A' ≤ c ∧ c ≤ 'F' then c.toNat - 55
    else 0
  | none => 0

/-- The code unit that four hexadecimal digits name. -/
def hexUnit (a b c d : Utf8.Symbol) : Nat :=
  ((hexDigit a * 16 + hexDigit b) * 16 + hexDigit c) * 16 + hexDigit d

/-- The character that a backslash and `c` stand for. -/
def escaped (c : Char) : Char :=
  match c with
  | 'b' => '\x08'
  | 'f' => '\x0c'
  | 'n' => '\n'
  | 'r' => '\r'
  | 't' => '\t'
  | c => c

/-- The characters of the body of a string. `done` holds those already found, newest first. -/
def Raw.text? (done : List Char) : List Utf8.Symbol → Option (List Char)
  | [] => some done.reverse
  | some '\\' :: some 'u' :: a :: b :: c :: d :: rest =>
    let unit := hexUnit a b c d
    if 0xD800 ≤ unit ∧ unit ≤ 0xDBFF then
      match rest with
      | some '\\' :: some 'u' :: a' :: b' :: c' :: d' :: rest =>
        let low := hexUnit a' b' c' d'
        if 0xDC00 ≤ low ∧ low ≤ 0xDFFF then
          Raw.text? (Char.ofNat (0x10000 + (unit - 0xD800) * 0x400 + (low - 0xDC00)) :: done) rest
        else none
      | _ => none
    else if 0xDC00 ≤ unit ∧ unit ≤ 0xDFFF then none
    else Raw.text? (Char.ofNat unit :: done) rest
  | some '\\' :: some e :: rest => Raw.text? (escaped e :: done) rest
  | some c :: rest => Raw.text? (c :: done) rest
  | none :: _ => none

/-- The string of the body of a string. -/
def Raw.stringOf? (body : List Utf8.Symbol) : Option String :=
  (Raw.text? [] body).map String.ofList

/-- Takes digits into a word as long as it does not overflow: the word, and the digits left. -/
def takeDigits (word : Nat) : List Nat → Nat × List Nat
  | [] => (word, [])
  | d :: ds => if word * 10 + d ≤ maxWord then takeDigits (word * 10 + d) ds else (word, d :: ds)

/-- Digits as a natural number. -/
def naturalOf (ds : List Nat) : Nat :=
  ds.foldl (fun n d => n * 10 + d) 0

namespace Literal

/-- The double of a literal. Digits of the whole part that no longer fit the word raise the
exponent, digits of the fraction that no longer fit are left out. -/
def real? (l : Literal) : Option Binary64 :=
  let (word, beyond) := takeDigits 0 l.whole
  let fraction := l.fraction.getD []
  let (significand, left) := takeDigits word fraction
  let start : Int := (beyond.length : Int) - (fraction.length - left.length : Nat)
  match l.exponent with
  | none => Binary64.scaled? l.negative significand start
  | some (negative, ds) =>
    let exponent := naturalOf ds
    if exponent < Nat.pow 2 31 then
      Binary64.scaled? l.negative significand
        (if negative then start - exponent else start + exponent)
    else if significand ≠ 0 ∧ ¬ negative then none
    else some (Binary64.ofFloat l.negative 0)

/-- The number of a literal: an integer where it is written as one and fits a 64-bit word, signed
if it is negative; else a double. A negative zero is a double. -/
def number? (l : Literal) : Option Number :=
  match l.fraction, l.exponent with
  | none, none =>
    let n := naturalOf l.whole
    if maxWord < n then l.real?.map .real
    else if l.negative then
      if n = 0 ∨ Nat.pow 2 63 < n then some (.real (Binary64.ofWord true n)) else some (.integer (-n))
    else some (.integer n)
  | _, _ => l.real?.map .real

end Literal

mutual

/-- The value of a tree that may nest as deep as the first argument says. -/
def Raw.value? (depth : Nat) : Raw → Option Value
  | .null => some .null
  | .bool b => some (.bool b)
  | .number l => l.number?.map .number
  | .string body => (Raw.stringOf? body).map .string
  | .array items =>
    match depth with
    | 0 => none
    | depth + 1 => (Raw.itemValues? depth items).map .array
  | .object members =>
    match depth with
    | 0 => none
    | depth + 1 => (Raw.memberValues? depth [] members).map .object

/-- The values of the items of an array. -/
def Raw.itemValues? (depth : Nat) : List Raw → Option (List Value)
  | [] => some []
  | item :: items => do
    let v ← item.value? depth
    let vs ← Raw.itemValues? depth items
    some (v :: vs)

/-- The members of an object. A key that comes again keeps its place and takes the new value. -/
def Raw.memberValues? (depth : Nat) (found : Members) :
    List (List Utf8.Symbol × Raw) → Option Members
  | [] => some found
  | (key, item) :: members => do
    let k ← Raw.stringOf? key
    let v ← item.value? depth
    Raw.memberValues? depth (found.set k v) members

end

/-- The value of a text. -/
def Value.parse? (ss : List Utf8.Symbol) : Option Value :=
  (Raw.read? ss).bind (Raw.value? maxNesting)

end BranchChat.Json
