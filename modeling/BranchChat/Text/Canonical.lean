import BranchChat.Text.Composite
import BranchChat.Text.Mark

/-!
# The composed form of a text

Texts that look the same may be written in several ways: with composite characters or with marks,
and with marks in any order of their classes. The composed form is one of them for all: everything
is taken apart, marks are put into the order of their classes, and then each character takes up
those after it with which it has a composite.

## Main definitions

- `composed`: the composed form
-/

namespace BranchChat.Text

/-- A text with all composites taken apart. No character is composed in more than three steps. -/
def apart (cs : List Char) : List Char :=
  let step := fun (ns : List Nat) => ns.flatMap parts
  (step (step (step (cs.map Char.toNat)))).map Char.ofNat

/-- A text whose marks stand in the order of their classes. Marks of one class keep their order. -/
def ordered (cs : List Char) : List Char :=
  let classed := cs.map fun c => (combiningClass c, c)
  let runs := classed.splitBy fun _ next => next.1 != 0
  runs.flatMap fun run => (run.mergeSort fun a b => a.1 ≤ b.1).map (·.2)

/-- A text while it is composed: the last character that others may join, the marks after it that
did not join, and all before it; each with the newest first. -/
structure Composing where
  before : List Char
  base : Option Char
  marks : List Char

namespace Composing

/-- All characters, the newest first. -/
def text (t : Composing) : List Char :=
  t.marks ++ t.base.toList ++ t.before

/-- The composite of the base and a character, unless a mark between them keeps them apart. -/
def join? (t : Composing) (c : Char) : Option Char := do
  let base ← t.base
  match t.marks with
  | mark :: _ => if combiningClass c ≤ combiningClass mark then none
  | [] => pure ()
  (whole? base.toNat c.toNat).map Char.ofNat

/-- One character more. -/
def add (t : Composing) (c : Char) : Composing :=
  match t.join? c with
  | some whole => { t with base := some whole }
  | none =>
    if combiningClass c = 0 then ⟨t.text, some c, []⟩
    else { t with marks := c :: t.marks }

end Composing

/-- The composed form of a text. -/
def composed (cs : List Char) : List Char :=
  ((ordered (apart cs)).foldl Composing.add ⟨[], none, []⟩).text.reverse

end BranchChat.Text
