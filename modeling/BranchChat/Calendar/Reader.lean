import BranchChat.Calendar.Timestamp
import BranchChat.Text.Blank

/-!
# Reading timestamps

A lenient reading of dates with a time and an offset. Numbers may have fewer digits than usual,
blanks may stand before every number and separator, and the offset may be `Z`, `UTC` or hours and
minutes. The date and the time are divided by a `T` or a single space directly after the day.

## Main definitions

- `Timestamp.read?`: the instant that a text names
-/

namespace BranchChat.Calendar

open BranchChat.Text (isBlank trimStart)

/-- The value of decimal digits. -/
def valueOf (digits : List Char) : Nat :=
  digits.foldl (fun n c => n * 10 + (c.toNat - 48)) 0

/-- A number of at least one digit at the front of a text. -/
def unbounded? (cs : List Char) : Option (Nat × List Char) :=
  let digits := cs.takeWhile Char.isDigit
  if digits.isEmpty then none else some (valueOf digits, cs.dropWhile Char.isDigit)

/-- A number of at least one and at most `width` digits at the front of a text. -/
def bounded? (width : Nat) (cs : List Char) : Option (Nat × List Char) :=
  let digits := (cs.take width).takeWhile Char.isDigit
  if digits.isEmpty then none else some (valueOf digits, cs.drop digits.length)

/-- A number of one or two digits, after blanks. -/
def two? (cs : List Char) : Option (Nat × List Char) :=
  bounded? 2 (trimStart cs)

/-- A year: up to four digits, or any number of digits after a sign. -/
def year? (cs : List Char) : Option (Int × List Char) :=
  match trimStart cs with
  | '-' :: rest => (unbounded? rest).map fun (n, after) => (-(n : Int), after)
  | '+' :: rest => (unbounded? rest).map fun (n, after) => ((n : Int), after)
  | rest => (bounded? 4 rest).map fun (n, after) => ((n : Int), after)

/-- The text after a given character, which may have blanks before it. -/
def mark? (mark : Char) (cs : List Char) : Option (List Char) :=
  match trimStart cs with
  | c :: rest => if c = mark then some rest else none
  | [] => none

/-- Nanoseconds after a point, of which digits beyond the ninth are left out; zero without a
point. -/
def nanoseconds? : List Char → Option (Nat × List Char)
  | '.' :: rest =>
    (bounded? 9 rest).map fun (n, after) =>
      (n * Nat.pow 10 (9 - (rest.length - after.length)), after.dropWhile Char.isDigit)
  | cs => some (0, cs)

/-- Hours and minutes of an offset, in minutes. Colons and blanks may divide them. -/
def offsetDigits? : List Char → Option (Nat × List Char)
  | h :: h' :: rest =>
    if h.isDigit && h'.isDigit then
      match rest.dropWhile fun c => c == ':' || isBlank c with
      | m :: m' :: after =>
        if '0' ≤ m && m ≤ '5' && m'.isDigit then
          some (valueOf [h, h'] * 60 + valueOf [m, m'], after)
        else none
      | _ => none
    else none
  | _ => none

/-- An offset from universal time, in minutes. -/
def offset? (cs : List Char) : Option (Int × List Char) :=
  if (cs.take 3).map Char.toUpper = ['U', 'T', 'C'] then some (0, cs.drop 3)
  else
    match cs with
    | 'Z' :: rest | 'z' :: rest => some (0, rest)
    | '+' :: rest => (offsetDigits? rest).map fun (n, after) => ((n : Int), after)
    | '-' :: rest | '\u2212' :: rest =>
      (offsetDigits? rest).map fun (n, after) => (-(n : Int), after)
    | _ => none

/-- The instant that a text names. -/
def Timestamp.read? (cs : List Char) : Option Timestamp := do
  let (year, cs) ← year? cs
  let cs ← mark? '-' cs
  let (month, cs) ← two? cs
  let cs ← mark? '-' cs
  let (day, cs) ← two? cs
  let cs ← match cs with
    | 'T' :: rest | 't' :: rest | ' ' :: rest => some rest
    | _ => none
  let (hour, cs) ← two? cs
  let cs ← mark? ':' cs
  let (minute, cs) ← two? cs
  let cs ← mark? ':' cs
  let (second, cs) ← two? cs
  let (nanosecond, cs) ← nanoseconds? cs
  let (offset, cs) ← offset? (trimStart cs)
  let date ← Date.of? year month day
  if (trimStart cs).isEmpty ∧ hour < 24 ∧ minute < 60 ∧ offset.natAbs < 1440 then
    Timestamp.ofLocal? date (hour * 60 + minute - offset) second nanosecond
  else none

end BranchChat.Calendar
