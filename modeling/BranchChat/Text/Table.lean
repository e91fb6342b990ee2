import BranchChat.Text.Blank

/-!
# Tables of characters

Properties of characters are given by ranges of code points. A table holds ranges with a value
each, in ascending order, and is searched by halving.

Ranges are written in hexadecimal digits, as in `300-36F 483`. What characters stand for is written
as a place and then the images of the characters from there on, as in `41: 61+1A B5: 3BC`. An image
is a code point, or several with points between them, and may serve more than one character:

* `61+1A`: 26 characters stand for the 26 from U+0061 on
* `101/18`: of 24 pairs of characters, the first of each stands for the second
* `20*B`: eleven characters stand for a space

## Main definitions

- `Table`, `Table.find?`: ranges with values, and the range that holds a code point
- `Table.ofRanges`: the table of written ranges
- `Image`, `Table.ofImages`, `Table.image?`: what characters stand for
-/

namespace BranchChat.Text

/-- A range of code points with a value. -/
structure Span (α : Type) where
  first : Nat
  last : Nat
  value : α
deriving DecidableEq

/-- Ranges with values, in ascending order. -/
structure Table (α : Type) where
  spans : Array (Span α)

namespace Table

variable {α : Type}

/-- The number of ranges that start at or before `n`, where this holds of the first `low` ranges
and of none from `high` on. -/
def rank (t : Table α) (n low high : Nat) : Nat :=
  if low < high then
    let middle := (low + high) / 2
    if t.spans[middle]?.any (·.first ≤ n) then t.rank n (middle + 1) high
    else t.rank n low middle
  else low
termination_by high - low

/-- The range that holds a code point. -/
def find? (t : Table α) (n : Nat) : Option (Span α) :=
  match t.rank n 0 t.spans.size with
  | 0 => none
  | k + 1 => t.spans[k]?.filter (n ≤ ·.last)

/-- The value of a character. -/
def value? (t : Table α) (c : Char) : Option α :=
  (t.find? c.toNat).map (·.value)

/-- Whether a character is in one of the ranges. -/
def contains (t : Table α) (c : Char) : Bool :=
  (t.find? c.toNat).isSome

end Table

/-! ### Written ranges -/

/-- The number that hexadecimal digits in upper case stand for. -/
def point (cs : List Char) : Nat :=
  cs.foldl (fun n c => n * 16 + if c.isDigit then c.toNat - 48 else c.toNat - 55) 0

/-- The range of a text such as `300-36F` or `483`. -/
def range {α : Type} (value : α) (word : List Char) : Span α :=
  match cutFirst (· == '-') word with
  | some (first, last) => ⟨point first, point last, value⟩
  | none => ⟨point word, point word, value⟩

/-- The table of written ranges, each text with the value of its ranges. -/
def Table.ofRanges {α : Type} (texts : List (α × String)) : Table α :=
  let spans := texts.flatMap fun (value, text) => (words text.toList).map (range value)
  ⟨(spans.mergeSort fun a b => a.first ≤ b.first).toArray⟩

/-- The table of the ranges of one text. -/
def Table.ofText (text : String) : Table Unit :=
  .ofRanges [((), text)]

/-! ### Written images -/

/-- What the characters of a range stand for. -/
inductive Image where
  /-- All of them for the same text. -/
  | same (points : List Nat)
  /-- The first for a code point, and each further one for the next code point. -/
  | shifted (first : Nat)
  /-- The first, the third and so on for what `shifted` gives, the others for themselves. -/
  | alternating (first : Nat)
deriving DecidableEq

/-- What the character at a distance from the first of its range stands for. -/
def Image.at? (image : Image) (distance : Nat) : Option (List Nat) :=
  match image with
  | same points => some points
  | shifted first => some [first + distance]
  | alternating first => if distance % 2 = 0 then some [first + distance] else none

/-- What a code point stands for. -/
def Table.image? (t : Table Image) (n : Nat) : Option (List Nat) :=
  (t.find? n).bind fun s => s.value.at? (n - s.first)

/-- One word of written images: the next place, and the ranges read so far, the last one first. -/
def readImage (state : Nat × List (Span Image)) (word : List Char) : Nat × List (Span Image) :=
  let (place, spans) := state
  let isSuffix := fun (c : Char) => ":+/*".toList.contains c
  let points := (cut (· == '.') (word.takeWhile fun c => !isSuffix c)).map point
  let put := fun (count : Nat) (image : Image) =>
    (place + count, ⟨place, place + count - 1, image⟩ :: spans)
  match word.dropWhile fun c => !isSuffix c with
  | ':' :: _ => (points.headD 0, spans)
  | '+' :: count => put (point count) (.shifted (points.headD 0))
  | '/' :: count => put (2 * point count - 1) (.alternating (points.headD 0))
  | '*' :: count => put (point count) (.same points)
  | _ => put 1 (.same points)

/-- The table of written images. -/
def Table.ofImages (text : String) : Table Image :=
  ⟨((words text.toList).foldl readImage (0, [])).2.reverse.toArray⟩

end BranchChat.Text
