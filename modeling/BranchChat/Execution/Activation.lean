import BranchChat.Json.Value

/-!
# Agents at work

Each time an agent starts, there is a new activation. It collects what the agent thinks, which
tools it calls and what it answers.

## Main definitions

- `ToolCall`: a call of a tool, running or finished
- `Activation`: the work of one agent
- `Activation.isNoteworthy`: whether there is more to it than the answer
-/

namespace BranchChat.Execution

open BranchChat.Json (Value)

/-- How far a tool call has come. -/
inductive ToolState where
  | running
  | succeeded
  | failed
deriving DecidableEq, Inhabited

/-- A call of a tool. Durations are in milliseconds. -/
structure ToolCall where
  id : String
  tool : String
  agent : String
  params : Value
  status : ToolState
  result : Option Value
  duration : Option Nat
deriving Inhabited

/-- Whether this is a call of `tool` that has not finished. -/
def ToolCall.isRunning (tool : String) (call : ToolCall) : Bool :=
  call.tool == tool && call.status == .running

/-- The call with its outcome. -/
def ToolCall.complete (success : Bool) (result : Option Value) (duration : Option Nat)
    (call : ToolCall) : ToolCall :=
  { call with status := if success then .succeeded else .failed, result, duration }

/-- The work of one agent. No two activations have the same serial number. -/
structure Activation where
  serial : Nat
  agent : String
  isComplete : Bool
  thinking : String
  isThinking : Bool
  tools : List ToolCall
  answer : String
deriving Inhabited

namespace Activation

/-- An agent that has just started. -/
def start (serial : Nat) (agent : String) : Activation :=
  { serial, agent, isComplete := false, thinking := "", isThinking := false, tools := []
    answer := "" }

/-- Whether there is thinking or a tool call to look at later. -/
def isNoteworthy (a : Activation) : Bool :=
  !a.tools.isEmpty || !a.thinking.isEmpty

/-- The activation with the outcome put to the first running call of `tool`. -/
def completeTool (tool : String) (success : Bool) (result : Option Value) (duration : Option Nat)
    (a : Activation) : Activation :=
  { a with tools := go a.tools }
where
  /-- Finishes the first running call of the list. -/
  go : List ToolCall → List ToolCall
    | [] => []
    | call :: calls =>
      if call.isRunning tool then call.complete success result duration :: calls
      else call :: go calls

end Activation

end BranchChat.Execution
