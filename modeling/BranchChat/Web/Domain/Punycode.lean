import BranchChat.Text.Split

/-!
# Punycode

The encoding of labels of domain names that hold characters beyond ASCII: the ASCII characters of
the label, a hyphen, and then the positions and values of the others as generalized
variable-length integers.

## Main definitions

- `encode`: the ASCII form of a label
- `decode?`: the label of an ASCII form
-/

namespace BranchChat.Web.Domain.Punycode

/-- Halving the first difference in scale, then dividing by 35 until it is small. -/
def settle (delta k : Nat) : Nat :=
  if 455 < delta then settle (delta / 35) (k + 36) else k + 36 * delta / (delta + 38)
termination_by delta

/-- The bias for the next integer. -/
def adapt (delta count : Nat) (first : Bool) : Nat :=
  let scaled := if first then delta / 700 else delta / 2
  settle (scaled + scaled / count) 0

/-- The threshold at a digit position. -/
def threshold (k bias : Nat) : Nat :=
  if k ≤ bias then 1 else if bias + 26 ≤ k then 26 else k - bias

/-- The character of a digit below 36. -/
def digit (n : Nat) : Char :=
  if n < 26 then Char.ofNat (97 + n) else Char.ofNat (22 + n)

/-- The value of a digit. -/
def digitValue? (c : Char) : Option Nat :=
  if 'a' ≤ c ∧ c ≤ 'z' then some (c.toNat - 97)
  else if 'A' ≤ c ∧ c ≤ 'Z' then some (c.toNat - 65)
  else if c.isDigit then some (c.toNat - 22)
  else none

/-- The digits of an integer. The first argument bounds their number. -/
def integer (bias : Nat) : Nat → Nat → Nat → List Char
  | 0, _, _ => []
  | fuel + 1, k, q =>
    let t := threshold k bias
    if q < t then [digit q]
    else digit (t + (q - t) % (36 - t)) :: integer bias fuel (k + 36) ((q - t) / (36 - t))

/-- What the encoder carries: the difference counted so far, the bias, the number of characters
handled, and the digits written. -/
structure Progress where
  delta : Nat
  bias : Nat
  handled : Nat
  written : List Char

/-- Writes the integers for every occurrence of the code point `n` in the label. -/
def Progress.pass (basic n : Nat) (label : List Nat) (p : Progress) : Progress :=
  label.foldl
    (fun p c =>
      if c < n then { p with delta := p.delta + 1 }
      else if c = n then
        { delta := 0
          bias := adapt p.delta (p.handled + 1) (p.handled == basic)
          handled := p.handled + 1
          written := p.written ++ integer p.bias (p.delta + 2) 36 p.delta }
      else p)
    p

/-- The ASCII form of a label, without the marker in front. -/
def encode (label : List Char) : List Char :=
  let basic := label.filter fun c => c.toNat < 128
  let points := label.map Char.toNat
  let others := ((points.filter (128 ≤ ·)).mergeSort (· ≤ ·)).eraseDups
  let start := if basic.isEmpty then [] else basic ++ ['-']
  let (done, _) := others.foldl
    (fun (p, n) c =>
      let p : Progress := { p with delta := p.delta + (c - n) * (p.handled + 1) }
      let p := p.pass basic.length c points
      ({ p with delta := p.delta + 1 }, c + 1))
    (({ delta := 0, bias := 72, handled := basic.length, written := start } : Progress), 128)
  done.written

/-- Reads an integer: its value added to `i`, and the digits after it. No number on the way may
exceed 32 bits. -/
def readInteger? (bias : Nat) : Nat → Nat → Nat → List Char → Option (Nat × List Char)
  | _, _, _, [] => none
  | k, i, weight, c :: rest => do
    let d ← digitValue? c
    let i := i + d * weight
    let t := threshold k bias
    if Nat.pow 2 32 ≤ i then none
    else if d < t then some (i, rest)
    else if Nat.pow 2 32 ≤ weight * (36 - t) then none
    else readInteger? bias (k + 36) i (weight * (36 - t)) rest

/-- Inserts the characters that the digits describe. The first argument bounds their number. -/
def insertAll? : Nat → Nat → Nat → Nat → List Char → List Char → Option (List Char)
  | 0, _, _, _, out, digits => if digits.isEmpty then some out else none
  | fuel + 1, n, i, bias, out, digits =>
    if digits.isEmpty then some out
    else do
      let (j, rest) ← readInteger? bias 36 i 1 digits
      let count := out.length + 1
      let n := n + j / count
      let place := j % count
      if h : n.isValidChar then
        insertAll? fuel n (place + 1) (adapt (j - i) count (i == 0))
          (out.take place ++ Char.ofNatAux n h :: out.drop place) rest
      else none

/-- The label of an ASCII form, without the marker in front. The last hyphen divides the characters
that are written as they are from the digits, and has at least one of them before it. -/
def decode? (form : List Char) : Option (List Char) :=
  match Text.cutFirst (· == '-') form.reverse with
  | none => insertAll? (form.length + 1) 128 0 72 [] form
  | some (_, []) => none
  | some (tail, basic) => insertAll? (form.length + 1) 128 0 72 basic.reverse tail.reverse

end BranchChat.Web.Domain.Punycode
