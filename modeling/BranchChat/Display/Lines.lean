import BranchChat.Display.Block
import BranchChat.Text.Blank
import BranchChat.Text.Rows

/-!
# Lines of output

A block is written as lines. Text that may have several rows hangs behind its label; text that is
shown in passing is flattened to one row and cut short.

## Main definitions

- `labelled`: rows behind a label
- `glimpse`: a text on one row
- `Block.lines`, `lines`: the lines of one block and of many
- `snapshotLines`: the lines of activations kept in the archive
-/

namespace BranchChat.Display

open BranchChat.Execution (Activation ToolState)
open BranchChat.Text (rows flat trimEnd)

/-- The number of characters of a glimpse. -/
def glimpseLength : Nat := 160

/-- The rows of a text, the first behind a label and the others indented as far. A text without
rows leaves the label alone. -/
def labelled (label text : String) : List String :=
  let mark := label.toList
  match rows text.toList with
  | [] => [.ofList (trimEnd mark)]
  | first :: others =>
    .ofList (mark ++ first) :: others.map fun row => .ofList (mark.map (fun _ => ' ') ++ row)

/-- A text on one row, cut after `glimpseLength` characters. -/
def glimpse (text : String) : String :=
  let row := flat text.toList
  .ofList (if row.length ≤ glimpseLength then row else row.take glimpseLength ++ ['…'])

/-- The sign of a tool status. -/
def statusMark : ToolState → String
  | .running => "…"
  | .succeeded => "✓"
  | .failed => "✗"

/-- The lines of a block. Thinking is shown as a glimpse unless all of it is asked for. -/
def Block.lines (verbose : Bool) : Block → List String
  | .user text branch =>
    let place := match branch with
      | some (index, count) => " (" ++ toString (index + 1) ++ "/" ++ toString count ++ ")"
      | none => ""
    labelled ("you" ++ place ++ "> ") text
  | .agent name text => labelled (name.getD "assistant" ++ "> ") text
  | .thinking name text active =>
    let label := "  [" ++ name ++ " " ++ (if active then "thinking" else "thought") ++ "] "
    if verbose then labelled label text else [label ++ glimpse text]
  | .tool name used status duration =>
    let timing := match duration with
      | some ms => " (" ++ toString ms ++ "ms)"
      | none => ""
    ["  " ++ statusMark status ++ " " ++ used ++ " [" ++ name ++ "]" ++ timing]
  | .permission asked params => ["  ? " ++ asked ++ " needs permission", "    " ++ glimpse params]
  | .error text => ["error: " ++ text]

/-- The lines of blocks. -/
def lines (verbose : Bool) (blocks : List Block) : List String :=
  blocks.flatMap (Block.lines verbose)

/-- The lines of an activation from the archive, with a heading. -/
def activationLines (a : Activation) : List String :=
  ("── " ++ a.agent ++ " (" ++ (if a.isComplete then "done" else "running") ++ ")") ::
    lines true (activationBlocks a)

/-- The lines of activations from the archive. -/
def snapshotLines (activations : List Activation) : List String :=
  activations.flatMap activationLines

end BranchChat.Display
