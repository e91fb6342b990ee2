import BranchChat.Text.Split

/-!
# Rows of a text

A text is cut after each newline. A carriage return directly before the newline belongs to the
line end. What follows the last newline is a row only if it is not empty, and keeps a carriage
return at its end.
-/

namespace BranchChat.Text

/-- The text without one carriage return at its end. -/
def dropReturn (cs : List Char) : List Char :=
  if cs.getLast? = some '\r' then cs.dropLast else cs

/-- The rows of a text, without their line ends. -/
def rows (cs : List Char) : List (List Char) :=
  let pieces := cut (· == '\n') cs
  let last := pieces.getLastD []
  pieces.dropLast.map dropReturn ++ if last.isEmpty then [] else [last]

end BranchChat.Text
