/-!
# The live area

The last lines on the screen are redrawn in place while a turn is under way. The area only
remembers how many lines it drew, moves the cursor up by as many, clears all below, and writes the
new lines.

## Main definitions

- `LiveArea`: the number of lines to be replaced
- `LiveArea.draw`: writes new lines over the old ones
- `LiveArea.keep`: leaves the drawn lines on the screen
-/

namespace BranchChat.Display

/-- The number of lines that the next drawing replaces. -/
structure LiveArea where
  drawn : Nat
deriving DecidableEq, Inhabited

namespace LiveArea

/-- Nothing is drawn yet. -/
def new : LiveArea := ⟨0⟩

/-- The control text that takes drawn lines away. -/
def erasing (n : Nat) : String :=
  if n = 0 then "" else "\x1b[" ++ toString n ++ "A\x1b[J"

/-- The text that replaces the drawn lines. -/
def draw (area : LiveArea) (lines : List String) : LiveArea × String :=
  (⟨lines.length⟩, erasing area.drawn ++ String.join (lines.map (· ++ "\n")))

/-- Leaves the drawn lines as they are; the next drawing goes below them. -/
def keep (_ : LiveArea) : LiveArea := new

end LiveArea

end BranchChat.Display
