/-!
# Reading UTF-8

Bytes are read one at a time. Each complete sequence gives a character, and each maximal
malformed sequence (the longest start of a well-formed sequence that its next byte breaks off, or
a single byte that starts none) gives a gap. All readings of bytes as text are views of the
resulting symbols: a strict reading refuses gaps, a lenient one writes the replacement character
for them.

## Main definitions

- `Symbol`: a character or a gap
- `Reader`: what has been read so far, with the sequence that is still open
- `symbols`: the symbols of a byte string
- `text?`, `lenient`: the strict and the lenient reading
- `bytes`: the encoding
-/

namespace BranchChat.Text.Utf8

/-- A character, or the gap (`none`) left by one maximal malformed sequence. -/
abbrev Symbol := Option Char

/-- A sequence that has begun: its value so far, how many bytes it still needs, and the range of
its next byte. -/
structure Open where
  value : Nat
  needed : Nat
  low : UInt8
  high : UInt8
deriving DecidableEq

/-- The symbols read so far, newest first, and the sequence that is still open. -/
structure Reader where
  read : List Symbol
  unfinished : Option Open
deriving DecidableEq

/-- The sequence that a byte of 0x80 or more begins, by the table of well-formed sequences. -/
def Open.start? (b : UInt8) : Option Open :=
  let v := b.toNat
  if 0xC2 ≤ v ∧ v ≤ 0xDF then some ⟨v - 0xC0, 1, 0x80, 0xBF⟩
  else if v = 0xE0 then some ⟨v - 0xE0, 2, 0xA0, 0xBF⟩
  else if v = 0xED then some ⟨v - 0xE0, 2, 0x80, 0x9F⟩
  else if 0xE1 ≤ v ∧ v ≤ 0xEF then some ⟨v - 0xE0, 2, 0x80, 0xBF⟩
  else if v = 0xF0 then some ⟨v - 0xF0, 3, 0x90, 0xBF⟩
  else if 0xF1 ≤ v ∧ v ≤ 0xF3 then some ⟨v - 0xF0, 3, 0x80, 0xBF⟩
  else if v = 0xF4 then some ⟨v - 0xF0, 3, 0x80, 0x8F⟩
  else none

/-- A byte read between two sequences. -/
def Reader.begin (read : List Symbol) (b : UInt8) : Reader :=
  if b < 0x80 then ⟨some (Char.ofNat b.toNat) :: read, none⟩
  else
    match Open.start? b with
    | some o => ⟨read, some o⟩
    | none => ⟨none :: read, none⟩

/-- One byte more. A byte that the open sequence cannot take closes it as a gap and is read
afresh. -/
def Reader.step (r : Reader) (b : UInt8) : Reader :=
  match r.unfinished with
  | none => .begin r.read b
  | some o =>
    if o.low ≤ b ∧ b ≤ o.high then
      let value := o.value * 64 + (b.toNat - 0x80)
      if o.needed ≤ 1 then ⟨some (Char.ofNat value) :: r.read, none⟩
      else ⟨r.read, some ⟨value, o.needed - 1, 0x80, 0xBF⟩⟩
    else .begin (none :: r.read) b

/-- The symbols read, oldest first, where a sequence left open at the end is a gap. -/
def Reader.finish (r : Reader) : List Symbol :=
  match r.unfinished with
  | none => r.read.reverse
  | some _ => (none :: r.read).reverse

/-- The symbols of a byte string. -/
def symbols (bs : List UInt8) : List Symbol :=
  (bs.foldl Reader.step ⟨[], none⟩).finish

/-- Symbols as characters, where U+FFFD stands for a gap. -/
def fillGaps (ss : List Symbol) : List Char :=
  ss.map fun s => s.getD '\uFFFD'

/-- The text of a byte string, with U+FFFD for each gap. -/
def lenient (bs : List UInt8) : List Char :=
  fillGaps (symbols bs)

/-- The text of a byte string that holds no gap. -/
def text? (bs : List UInt8) : Option (List Char) :=
  (symbols bs).mapM id

/-- The bytes that encode a text. -/
def bytes (cs : List Char) : List UInt8 :=
  cs.flatMap String.utf8EncodeChar

end BranchChat.Text.Utf8
