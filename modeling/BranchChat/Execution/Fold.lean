import BranchChat.Execution.Basic
import BranchChat.Stream.Event

/-!
# Folding events into an execution

Only a turn that is under way takes events. Most of them concern the newest activation; a tool that
finishes is looked for in older activations, too. Some events ask the owner of the execution to do
something; this is said by a signal.

## Main definitions

- `Moment`: when an event is folded
- `Signal`: what the owner has to do
- `Execution.absorb`: folds the meaning of an event
- `Execution.receive`: folds an event if a turn is under way
-/

namespace BranchChat.Execution

open BranchChat.Json (Value)
open BranchChat.Stream (TurnEvent WireEvent)

/-- A moment by two clocks, in milliseconds: `now` never goes back, `wall` is since 1970-01-01. An
activation that begins then has the serial number `serial`, which no other activation has. -/
structure Moment where
  now : Nat
  wall : Int
  serial : Nat
deriving DecidableEq, Inhabited

/-- What the owner of an execution has to do after an event. -/
inductive Signal where
  | decisionNeeded
  /-- Fetch the conversation again, then clear the turn away. -/
  | completed (message : Option String)
  | failed
deriving DecidableEq, Inhabited

/-- The identifier of a tool call: the tool, the time, and the number of the call. -/
def toolCallId (tool : String) (wall : Int) (count : UInt64) : String :=
  tool ++ "-" ++ toString wall ++ "-" ++ toString count.toNat

/-- A new tool call of an activation, after which its answer starts anew. -/
def Activation.startTool (id tool : String) (agent : Option String) (params : Value)
    (a : Activation) : Activation :=
  let call : ToolCall :=
    { id, tool, agent := agent.getD a.agent, params, status := .running, result := none
      duration := none }
  { a with tools := a.tools ++ [call], answer := "" }

/-- Puts an outcome to the oldest running call of `tool` in the newest activation that has one. The
list is from newest to oldest. -/
def completeNewest (tool : String) (finish : Activation → Activation) :
    List Activation → List Activation
  | [] => []
  | a :: older =>
    if a.tools.any (·.isRunning tool) then finish a :: older
    else a :: completeNewest tool finish older

/-- Puts an outcome to a running call of `tool`, if there is one. -/
def completeTool (x : Execution) (tool : String) (success : Bool) (result : Option Value)
    (duration : Option Nat) : Execution :=
  let finish := Activation.completeTool tool success result duration
  { x with activations := (completeNewest tool finish x.activations.reverse).reverse }

/-- Keeps the activations worth a look under a message, if there are any and there is one. -/
def keep (x : Execution) (message : Option String) : Execution :=
  match x.activations.filter Activation.isNoteworthy, message with
  | [], _ | _, .none => x
  | kept, some message => { x with archive := x.archive.put message kept }

/-- The question for a permission, where the turn supplies what the event leaves out. -/
def Context.question (c : Context) (tool : String) (params : Value)
    (thread message : Option String) : Question :=
  { tool, params, conversation := c.conversation, thread := thread <|> c.thread
    message := message <|> c.message }

/-- Folds the meaning of an event. -/
def absorb (x : Execution) (moment : Moment) : TurnEvent → Execution × Option Signal
  | .identifiers conversation message thread =>
    (x.learn { conversation, message, thread, parent := .none }, .none)
  | .agentStarted agent =>
    let x := x.withHeldShown moment.now
    ({ x with activations := x.activations ++ [.start moment.serial agent] }, .none)
  | .reasoning text => (x.onCurrent ({ · with thinking := text, isThinking := true }), .none)
  | .answer text =>
    if x.activations.isEmpty then (x, .none)
    else
      let x := x.onCurrent ({ · with isThinking := false })
      ((x.settle (x.gate.offer text moment.now)).1, .none)
  | .silence | .unknown _ => (x, .none)
  | .wholeAnswer text =>
    (x.dropHeld.onCurrent ({ · with answer := text, isThinking := false }), .none)
  | .agentFinished _ =>
    let x := x.withHeldShown moment.now
    (x.onCurrent ({ · with isComplete := true, isThinking := false }), .none)
  | .toolStarted tool agent params =>
    let count := x.toolCount + 1
    let id := toolCallId tool moment.wall count
    ({ x.dropHeld with toolCount := count }.onCurrent (.startTool id tool agent params), .none)
  | .toolFinished tool success result duration =>
    (x.completeTool tool success result duration, .none)
  | .permissionAsked tool params thread message =>
    let x := x.withHeldShown moment.now
    ({ x with
        question := some (x.context.question tool params thread message)
        phase := .awaitingDecision }, some .decisionNeeded)
  | .permissionSettled _ => (x.dropQuestion, .none)
  | .completed message =>
    let x := x.withHeldShown moment.now
    let message := message <|> x.context.message
    ({ x.keep message with question := .none, phase := .ended }, some (.completed message))
  | .failed reason => (x.fail reason, some .failed)

/-- Folds an event if a turn is under way. -/
def receive (x : Execution) (e : WireEvent) (moment : Moment) : Execution × Option Signal :=
  if x.isUnderWay then x.absorb moment e.meaning else (x, .none)

end BranchChat.Execution
