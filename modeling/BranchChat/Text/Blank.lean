import BranchChat.Text.Split

/-!
# Blank characters

The characters of Unicode's property White_Space, and the operations on text that rest on it:
trimming, cutting into words and flattening to one row.

## Main definitions

- `isBlank`: membership in White_Space
- `trim`, `trimStart`, `trimEnd`: text without blanks at its ends
- `words`, `flat`: the runs between blanks, and these runs joined by single spaces
-/

namespace BranchChat.Text

/-- The twenty-five characters of Unicode's White_Space property. -/
def isBlank (c : Char) : Bool :=
  let n := c.toNat
  (9 ≤ n && n ≤ 13) || n == 0x20 || n == 0x85 || n == 0xA0 || n == 0x1680 ||
    (0x2000 ≤ n && n ≤ 0x200A) || n == 0x2028 || n == 0x2029 || n == 0x202F || n == 0x205F ||
    n == 0x3000

/-- The characters from the first one that is not blank on. -/
def trimStart (cs : List Char) : List Char :=
  cs.dropWhile isBlank

/-- The characters up to the last one that is not blank. -/
def trimEnd (cs : List Char) : List Char :=
  (cs.reverse.dropWhile isBlank).reverse

/-- The characters between the first and the last one that are not blank. -/
def trim (cs : List Char) : List Char :=
  trimEnd (trimStart cs)

/-- The maximal runs of characters that are not blank. -/
def words (cs : List Char) : List (List Char) :=
  (cut isBlank cs).filter fun word => !word.isEmpty

/-- The words of a text with one space between neighbours. -/
def flat (cs : List Char) : List Char :=
  glue [' '] (words cs)

/-- `trim` on strings. -/
def trimmed (s : String) : String :=
  .ofList (trim s.toList)

end BranchChat.Text
