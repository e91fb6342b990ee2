import BranchChat.Conversation.Workspace
import BranchChat.Execution.Basic
import BranchChat.Json.Printer

/-!
# Blocks of output

What the user sees is a list of blocks: messages, thinking, tool calls, a question for permission
and errors. A path of messages and an execution each have their blocks.

## Main definitions

- `Block`: one visual section
- `branchBlocks`: the blocks of messages on a branch
- `activationBlocks`, `executionBlocks`: the blocks of what agents do
-/

namespace BranchChat.Display

open BranchChat.Execution (Activation ToolState)

/-- One visual section. The branch of a user's message is its place and the number of siblings. -/
inductive Block where
  | user (text : String) (branch : Option (Nat × Nat))
  | agent (name : Option String) (text : String)
  | thinking (agent text : String) (active : Bool)
  | tool (agent tool : String) (status : ToolState) (duration : Option Nat)
  | permission (tool params : String)
  | error (text : String)
deriving DecidableEq, Inhabited

/-- The branch of a message that has siblings. -/
def branch? (t : Tree) (m : Message) : Option (Nat × Nat) :=
  let count := t.siblingCount m
  if 1 < count then some (t.siblingIndex m, count) else none

/-- The blocks of a message and of its response, if that is not empty. -/
def messageBlocks (t : Tree) (m : Message) : List Block :=
  .user m.content (branch? t m) ::
    match m.response with
    | some text => if text.isEmpty then [] else [.agent none text]
    | none => []

/-- The blocks of messages of a tree. -/
def branchBlocks (t : Tree) (path : List Message) : List Block :=
  path.flatMap (messageBlocks t)

/-- The blocks of an activation: what the agent thinks, its tool calls, its answer. -/
def activationBlocks (a : Activation) : List Block :=
  (if a.thinking.isEmpty then [] else [.thinking a.agent a.thinking a.isThinking]) ++
    a.tools.map (fun call => .tool call.agent call.tool call.status call.duration) ++
    if a.answer.isEmpty then [] else [.agent (some a.agent) a.answer]

/-- The blocks of an execution. An old error is not shown once there are activations of an idle
execution. -/
def executionBlocks (x : Execution) : List Block :=
  let draft := x.draft.toList.map fun text => .user text none
  let question := x.question.toList.map fun r => .permission r.tool r.params.compact
  let error :=
    if x.phase != .idle || x.activations.isEmpty then x.error.toList.map .error else []
  draft ++ x.activations.flatMap activationBlocks ++ question ++ error

end BranchChat.Display
