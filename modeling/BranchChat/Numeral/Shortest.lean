import BranchChat.Numeral.Binary64

/-!
# The shortest decimal that reads back

All reals between the midpoints to a double's two neighbours round to that double; the midpoints
themselves do so iff its significand is even. Among the grids of multiples of a power of ten, the
coarsest one with a point in that interval is found, and of its points the nearest to the double
is written.

## Main definitions

- `Decimal`: a whole number times a power of ten
- `shortest`: the shortest decimal of a positive double
- `Layout`: which decimals are written in positional form
- `render`: the text of a double
-/

namespace BranchChat.Numeral

/-- `digits * 10 ^ exponent`. -/
structure Decimal where
  digits : Nat
  exponent : Int
deriving DecidableEq

/-- The interval of reals that round to a double, and the double itself, all in quarters of its
last place: `low ≤ value ≤ high` over a common `scale`, a fraction of two naturals. -/
structure Neighbourhood where
  low : Nat
  value : Nat
  high : Nat
  denominator : Nat
  closed : Bool

/-- The neighbourhood of a positive double `significand * 2 ^ exponent`. -/
def Neighbourhood.of (significand : Nat) (exponent : Int) : Neighbourhood :=
  let below := if significand = Nat.pow 2 52 ∧ exponent > -1074 then 1 else 2
  let (scale, denominator) : Nat × Nat :=
    match exponent - 2 with
    | .ofNat k => (Nat.pow 2 k, 1)
    | .negSucc k => (1, Nat.pow 2 (k + 1))
  ⟨(4 * significand - below) * scale, 4 * significand * scale, (4 * significand + 2) * scale,
    denominator, significand % 2 = 0⟩

/-- Whether `digits * 10 ^ exponent` rounds to the double. -/
def Neighbourhood.holds (n : Neighbourhood) (d : Decimal) : Bool :=
  let (up, down) : Nat × Nat :=
    match d.exponent with
    | .ofNat k => (Nat.pow 10 k, 1)
    | .negSucc k => (1, Nat.pow 10 (k + 1))
  let point := d.digits * up * n.denominator
  if n.closed then n.low * down ≤ point && point ≤ n.high * down
  else n.low * down < point && point < n.high * down

/-- The point nearest to the double on the grid of multiples of `10 ^ exponent`, if one of the two
around it lies in the interval. Of two points at the same distance the even one is taken. -/
def Neighbourhood.onGrid? (n : Neighbourhood) (exponent : Int) : Option Decimal :=
  let (up, down) : Nat × Nat :=
    match exponent with
    | .ofNat k => (Nat.pow 10 k, 1)
    | .negSucc k => (1, Nat.pow 10 (k + 1))
  let numerator := n.value * down
  let denominator := n.denominator * up
  let floor := numerator / denominator
  let excess := numerator % denominator
  let lower : Decimal := ⟨floor, exponent⟩
  let upper : Decimal := ⟨floor + 1, exponent⟩
  let upperIsNearer := 2 * excess > denominator || (2 * excess == denominator && floor % 2 == 1)
  match n.holds lower, n.holds upper with
  | true, true => some (if upperIsNearer then upper else lower)
  | true, false => some lower
  | false, true => some upper
  | false, false => none

/-- The first grid with a point, from `exponent` downwards. -/
def Neighbourhood.search (n : Neighbourhood) : Nat → Int → Decimal
  | 0, exponent => ⟨n.value / n.denominator, exponent⟩
  | steps + 1, exponent =>
    match n.onGrid? exponent with
    | some d => d
    | none => n.search steps (exponent - 1)

/-- The number of decimal digits of a natural number. -/
def digitCount (n : Nat) : Nat :=
  (toString n).length

/-- A decimal without zeros at its end. -/
def Decimal.stripped (d : Decimal) : Nat → Decimal
  | 0 => d
  | steps + 1 =>
    if d.digits ≠ 0 ∧ d.digits % 10 = 0 then
      Decimal.stripped ⟨d.digits / 10, d.exponent + 1⟩ steps
    else d

/-- The shortest decimal of a positive double. -/
def shortest (x : Binary64) : Decimal :=
  let (significand, exponent) := x.parts
  let n := Neighbourhood.of significand exponent
  let top : Int := (digitCount n.value : Int) - digitCount n.denominator + 1
  let d := n.search 24 top
  d.stripped (digitCount d.digits)

/-- Which decimal exponents are written in positional form. -/
structure Layout where
  leastPositional : Int
  leastScientific : Int

/-- The text of a positive decimal: in positional form always with a point, in scientific form
with a sign on the exponent. -/
def Layout.text (l : Layout) (d : Decimal) : String :=
  let digits := toString d.digits
  let count := digits.length
  let leading : Int := d.exponent + count - 1
  if leading < l.leastPositional ∨ l.leastScientific ≤ leading then
    let mantissa :=
      if count ≤ 1 then digits
      else String.ofList (digits.toList.take 1 ++ '.' :: digits.toList.drop 1)
    mantissa ++ (if leading < 0 then "e-" else "e+") ++ toString leading.natAbs
  else
    match leading + 1 with
    | .ofNat whole =>
      if count ≤ whole then
        String.ofList (digits.toList ++ List.replicate (whole - count) '0') ++ ".0"
      else if whole = 0 then "0." ++ digits
      else String.ofList (digits.toList.take whole ++ '.' :: digits.toList.drop whole)
    | .negSucc k => String.ofList ('0' :: '.' :: List.replicate (k + 1) '0' ++ digits.toList)

/-- The text of a finite double under a layout. -/
def Layout.render (l : Layout) (x : Binary64) : String :=
  let magnitude := if x.parts.1 = 0 then "0.0" else l.text (shortest x)
  if x.isNegative then "-" ++ magnitude else magnitude

end BranchChat.Numeral
