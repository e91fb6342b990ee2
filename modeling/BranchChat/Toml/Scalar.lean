import BranchChat.Calendar.Date
import BranchChat.Text.Percent
import BranchChat.Text.Split

/-!
# Unquoted values of TOML

A value without quotes is a truth value, an integer, a real number, or a date or time.

## Main definitions

- `Scalar`: a value without structure
- `Scalar.ofWord?`: the value of an unquoted word
- `isDate`: whether a word is a date, so that a time may follow after a space
-/

namespace BranchChat.Toml

open BranchChat.Text (cutFirst)

/-- A value without structure. Reals and times are kept as they are written. -/
inductive Scalar where
  | string (s : String)
  | integer (n : Int)
  | boolean (b : Bool)
  | real (written : String)
  | time (written : String)
deriving DecidableEq, Inhabited

/-! ### Numbers -/

/-- Digits of a base with single underscores between them, as a number. -/
def digits? (base : Nat) (cs : List Char) : Option Nat :=
  let rec go (afterDigit : Bool) (n : Nat) : List Char → Option Nat
    | [] => if afterDigit then some n else none
    | '_' :: rest => if afterDigit then go false n rest else none
    | c :: rest =>
      match Text.Percent.hexValue? c with
      | some d => if d < base then go true (n * base + d) rest else none
      | none => none
  go false 0 cs

/-- Decimal digits of which the first is no zero, unless it is the only one. -/
def whole? (cs : List Char) : Option Nat :=
  match cs with
  | '0' :: _ :: _ => none
  | cs => digits? 10 cs

/-- The sign of a number, and what follows it. -/
def signed (cs : List Char) : Bool × List Char :=
  match cs with
  | '-' :: rest => (true, rest)
  | '+' :: rest => (false, rest)
  | cs => (false, cs)

/-- An integer in decimal, or in base 16, 8 or 2 with its mark. -/
def integer? (cs : List Char) : Option Int :=
  match cs with
  | '0' :: 'x' :: rest => (digits? 16 rest).map Int.ofNat
  | '0' :: 'o' :: rest => (digits? 8 rest).map Int.ofNat
  | '0' :: 'b' :: rest => (digits? 2 rest).map Int.ofNat
  | cs =>
    let (negative, rest) := signed cs
    (whole? rest).map fun n => if negative then -(n : Int) else n

/-- Integers that some word of 128 bits can hold. -/
def isHeld (n : Int) : Bool :=
  decide (-(Nat.pow 2 127 : Int) ≤ n) && decide (n < (Nat.pow 2 128 : Int))

/-- Whether `digits * 10 ^ exponent` rounds to a finite double. -/
def isFinite (digits : Nat) (exponent : Int) : Bool :=
  let bound := Nat.pow 2 1024 - Nat.pow 2 970
  let size : Int := (toString digits).length + exponent
  if digits = 0 ∨ size < 0 then true
  else if 400 < size then false
  else
    match exponent with
    | .ofNat k => digits * Nat.pow 10 k < bound
    | .negSucc k => digits < bound * Nat.pow 10 (k + 1)

/-- The exponent of a real number. -/
def exponent? (cs : List Char) : Option Int :=
  let (negative, rest) := signed cs
  (digits? 10 rest).map fun n => if negative then -(n : Int) else n

/-- Whether a word is a real number that fits a double. -/
def isReal (cs : List Char) : Bool :=
  let (_, body) := signed cs
  let (mantissa, exponent) := match cutFirst (fun c => c == 'e' || c == 'E') body with
    | some (mantissa, exponent) => (mantissa, some exponent)
    | none => (body, none)
  let (whole, fraction) := match cutFirst (· == '.') mantissa with
    | some (whole, fraction) => (whole, some fraction)
    | none => (mantissa, none)
  let places := ((fraction.getD []).filter (· != '_')).length
  let parts : Option (Nat × Int) := do
    let w ← whole? whole
    let f ← match fraction with
      | some fraction => digits? 10 fraction
      | none => some 0
    let e ← match exponent with
      | some exponent => exponent? exponent
      | none => some 0
    some (w * Nat.pow 10 places + f, e - places)
  body == ['i', 'n', 'f'] || body == ['n', 'a', 'n'] ||
    match parts with
    | some (digits, e) => (fraction.isSome || exponent.isSome) && isFinite digits e
    | none => false

/-! ### Dates and times -/

/-- The value of exactly `width` digits. -/
def fixed? (width : Nat) (cs : List Char) : Option Nat :=
  if cs.length = width ∧ cs.all Char.isDigit then digits? 10 cs else none

/-- Whether a word is a day of the calendar. -/
def isDate (cs : List Char) : Bool :=
  match Text.cut (· == '-') cs with
  | [y, m, d] =>
    match fixed? 4 y, fixed? 2 m, fixed? 2 d with
    | some y, some m, some d => (Calendar.Date.of? y m d).isSome
    | _, _, _ => false
  | _ => false

/-- Whether a word is a number of two digits of at most `most`. -/
def isTwo (most : Nat) (cs : List Char) : Bool :=
  match fixed? 2 cs with
  | some n => n ≤ most
  | none => false

/-- Whether a word is seconds with or without a fraction. -/
def isSeconds (cs : List Char) : Bool :=
  match cutFirst (· == '.') cs with
  | some (whole, fraction) => isTwo 60 whole && !fraction.isEmpty && fraction.all Char.isDigit
  | none => isTwo 60 cs

/-- Whether a word is a time of the day, of which the seconds may be missing. -/
def isClock (cs : List Char) : Bool :=
  match Text.cut (· == ':') cs with
  | [h, m] => isTwo 23 h && isTwo 59 m
  | [h, m, s] => isTwo 23 h && isTwo 59 m && isSeconds s
  | _ => false

/-- Whether a word is a time of the day, with or without an offset. -/
def isZonedClock (cs : List Char) : Bool :=
  match cutFirst (fun c => c == 'Z' || c == 'z' || c == '+' || c == '-') cs with
  | none => isClock cs
  | some (clock, offset) =>
    isClock clock &&
      match cs.drop clock.length with
      | 'Z' :: _ | 'z' :: _ => offset.isEmpty
      | _ =>
        match Text.cut (· == ':') offset with
        | [h, m] => isTwo 23 h && isTwo 59 m
        | _ => false

/-- Whether a word is a date, a time, or both. -/
def isTime (cs : List Char) : Bool :=
  isClock cs || isDate cs ||
    (isDate (cs.take 10) &&
      match cs.drop 10 with
      | 'T' :: clock | 't' :: clock | ' ' :: clock => isZonedClock clock
      | _ => false)

/-! ### Words -/

/-- The value of an unquoted word. -/
def Scalar.ofWord? (cs : List Char) : Option Scalar :=
  if cs = "true".toList then some (.boolean true)
  else if cs = "false".toList then some (.boolean false)
  else
    match integer? cs with
    | some n => if isHeld n then some (.integer n) else none
    | none =>
      if isReal cs then some (.real (.ofList cs))
      else if isTime cs then some (.time (.ofList cs))
      else none

end BranchChat.Toml
