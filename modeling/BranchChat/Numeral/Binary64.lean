/-!
# Double-precision numbers

A double is kept as its bit pattern, so that equality is decidable and a sign on zero is seen.
A decimal literal is read in the usual two steps: as many of its digits as fit an unsigned 64-bit
word are taken as a whole number, and that number, rounded to a double, is multiplied or divided
by a power of ten. Each step rounds once.

## Main definitions

- `Binary64`: a bit pattern
- `Binary64.scaled?`: the double for a word times a power of ten, unless it overflows
-/

namespace BranchChat.Numeral

/-- A double-precision number, as its bits. -/
structure Binary64 where
  bits : UInt64
deriving DecidableEq, Inhabited

namespace Binary64

/-- The double with the given sign and magnitude. -/
def ofFloat (negative : Bool) (magnitude : Float) : Binary64 :=
  ⟨(if negative then -magnitude else magnitude).toBits⟩

/-- The double nearest to a power of ten. -/
def tenTo (k : Nat) : Float :=
  Float.ofScientific 1 false k

/-- Division by a power of ten, in steps of at most 308 places. -/
def divideByTenTo (x : Float) (k : Nat) : Float :=
  if k ≤ 308 then x / tenTo k
  else if x == 0 then x
  else divideByTenTo (x / tenTo 308) (k - 308)
termination_by k

/-- The double for `± significand * 10 ^ exponent`. Only a magnitude beyond the largest double has
none. -/
def scaled? (negative : Bool) (significand : Nat) (exponent : Int) : Option Binary64 :=
  let x := significand.toUInt64.toFloat
  match exponent with
  | .ofNat k =>
    if k ≤ 308 then
      let y := x * tenTo k
      if y.isInf then none else some (ofFloat negative y)
    else if x == 0 then some (ofFloat negative x)
    else none
  | .negSucc k => some (ofFloat negative (divideByTenTo x (k + 1)))

/-- The double nearest to a word. -/
def ofWord (negative : Bool) (n : Nat) : Binary64 :=
  ofFloat negative n.toUInt64.toFloat

/-- Whether the sign bit is set. -/
def isNegative (x : Binary64) : Bool :=
  x.bits >>> 63 == 1

/-- The significand and binary exponent of a finite double: its magnitude is
`significand * 2 ^ exponent`. -/
def parts (x : Binary64) : Nat × Int :=
  let word := x.bits.toNat
  let fraction : Nat := word % Nat.pow 2 52
  let field : Nat := word / Nat.pow 2 52 % Nat.pow 2 11
  if field = 0 then (fraction, -1074) else (fraction + Nat.pow 2 52, (field : Int) - 1075)

end Binary64

end BranchChat.Numeral
