/-!
# Cutting a list at separators

`cut p` cuts a list at every element that satisfies `p` and drops those elements, so that `n`
separators give `n + 1` pieces. Words, rows and path segments are all read off its result.

## Main definitions

- `cut`: the pieces between separators
- `cutFirst`: the two sides of the first separator
-/

namespace BranchChat.Text

variable {α : Type}

/-- The pieces between the elements that satisfy `p`, in order. -/
def cut (p : α → Bool) (xs : List α) : List (List α) :=
  let step := fun (x : α) (pieces : List α × List (List α)) =>
    if p x then ([], pieces.1 :: pieces.2) else (x :: pieces.1, pieces.2)
  let pieces := xs.foldr step ([], [])
  pieces.1 :: pieces.2

/-- The elements before and after the first one that satisfies `p`, if there is one. -/
def cutFirst (p : α → Bool) (xs : List α) : Option (List α × List α) :=
  match xs.span fun x => !p x with
  | (before, _ :: after) => some (before, after)
  | (_, []) => none

/-- Joins pieces with a separator between neighbours. -/
def glue (separator : List α) : List (List α) → List α
  | [] => []
  | [piece] => piece
  | piece :: pieces => piece ++ separator ++ glue separator pieces

/-- The list without `front`, when it starts with it. -/
def dropFront? [BEq α] : List α → List α → Option (List α)
  | [], xs => some xs
  | _ :: _, [] => none
  | a :: front, x :: xs => if a == x then dropFront? front xs else none

end BranchChat.Text
