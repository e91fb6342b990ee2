import BranchChat.Execution.Activation
import BranchChat.Execution.FrameGate

/-!
# The execution of a turn

An execution follows one turn at a time: what the agents do, whether the user is asked for a
permission, and how the turn ends. Answer text passes a frame gate on its way. When a turn is
completed, what the agents did is kept in an archive under the message of the turn.

## Main definitions

- `Phase`: how far the turn has come
- `Context`: what the turn belongs to
- `Execution`: the state of the turn, and the archive
- `Execution.begin`, `Execution.stop`, `Execution.fail`, `Execution.clear`, `Execution.wipe`: the
  life of a turn
- `Execution.showHeld`, `Execution.showDue`: held answer text
-/

namespace BranchChat

open BranchChat.Json (Value)

/-- How far a turn has come. -/
inductive Execution.Phase where
  | idle
  | streaming
  | awaitingDecision
  | ended
deriving DecidableEq, Inhabited

/-- What a turn belongs to: its conversation, its message, its thread, and the message that it
answers. -/
structure Execution.Context where
  conversation : Option String
  message : Option String
  thread : Option String
  parent : Option String
deriving DecidableEq, Inhabited

/-- What the user is asked to permit, and what the answer has to name. -/
structure Execution.Question where
  tool : String
  params : Value
  conversation : Option String
  thread : Option String
  message : Option String
deriving Inhabited

/-- The activations of completed turns, by message. -/
abbrev Execution.Archive := List (String × List Execution.Activation)

/-- The archive with a new entry, in place of an older one for the same message. -/
def Execution.Archive.put (archive : Archive) (message : String) (kept : List Activation) :
    Archive :=
  (message, kept) :: archive.filter (·.1 != message)

/-- The state of the turn, and the archive. `draft` is the text of the user, shown until the
backend's copy is there. `toolCount` counts tool calls. -/
structure Execution where
  phase : Execution.Phase
  context : Execution.Context
  activations : List Execution.Activation
  question : Option Execution.Question
  error : Option String
  draft : Option String
  archive : Execution.Archive
  gate : Execution.FrameGate
  toolCount : UInt64
deriving Inhabited

namespace Execution

/-- A context that names nothing. -/
def Context.none : Context := ⟨.none, .none, .none, .none⟩

/-- A context in which the names of `newer` replace older ones. -/
def Context.update (older newer : Context) : Context :=
  { conversation := newer.conversation <|> older.conversation
    message := newer.message <|> older.message
    thread := newer.thread <|> older.thread
    parent := newer.parent <|> older.parent }

/-- No turn, and nothing in the archive. -/
def new (gate : FrameGate) : Execution :=
  { phase := .idle, context := .none, activations := [], question := .none, error := .none
    draft := .none, archive := [], gate, toolCount := 0 }

/-- Whether a turn is under way. -/
def isUnderWay (x : Execution) : Bool :=
  x.phase == .streaming || x.phase == .awaitingDecision

/-- The activations kept for a message. -/
def archived? (x : Execution) (message : String) : Option (List Activation) :=
  x.archive.lookup message

/-! ### Activations -/

/-- A list with its last element changed. -/
def onLast {α : Type} (change : α → α) : List α → List α
  | [] => []
  | [a] => [change a]
  | a :: as => a :: onLast change as

/-- The execution with its newest activation changed. -/
def onCurrent (x : Execution) (change : Activation → Activation) : Execution :=
  { x with activations := onLast change x.activations }

/-! ### Answer text -/

/-- Puts text let through by the gate into the newest activation, and says whether it did. -/
def settle (x : Execution) (released : FrameGate × Option String) : Execution × Bool :=
  let x := { x with gate := released.1 }
  match released.2 with
  | some text => (x.onCurrent ({ · with answer := text }), !x.activations.isEmpty)
  | .none => (x, false)

/-- Shows held answer text if its frame is due. -/
def showDue (x : Execution) (now : Nat) : Execution × Bool :=
  x.settle (x.gate.releaseDue? now)

/-- Shows held answer text at once. -/
def showHeld (x : Execution) (now : Nat) : Execution × Bool :=
  x.settle (x.gate.release? now)

/-- The execution after `showHeld`. -/
def withHeldShown (x : Execution) (now : Nat) : Execution :=
  (x.showHeld now).1

/-- Forgets held answer text. -/
def dropHeld (x : Execution) : Execution :=
  { x with gate := x.gate.dropHeld }

/-! ### The life of a turn -/

/-- A new turn for the user's text. -/
def begin (x : Execution) (context : Context) (draft : String) : Execution :=
  { x.dropHeld with
    phase := .streaming, context, activations := [], question := .none, error := .none
    draft := some draft }

/-- Takes over names learned while the turn runs. -/
def learn (x : Execution) (context : Context) : Execution :=
  { x with context := x.context.update context }

/-- The user ends the turn, if there is one. -/
def stop (x : Execution) (now : Nat) : Execution :=
  if x.isUnderWay then { x.withHeldShown now with question := .none, phase := .ended } else x

/-- The turn ends with an error. -/
def fail (x : Execution) (reason : String) : Execution :=
  { x.dropHeld with question := .none, error := some reason, phase := .ended }

/-- Clears an ended turn away. The archive and the last error stay. -/
def clear (x : Execution) : Execution :=
  { x.dropHeld with
    phase := .idle, context := .none, activations := [], question := .none, draft := .none }

/-- Forgets everything, the archive included. -/
def wipe (x : Execution) : Execution :=
  { x.clear with error := .none, archive := [], toolCount := 0 }

/-- Takes the question back. -/
def dropQuestion (x : Execution) : Execution :=
  { x with question := .none }

/-- Goes on with a turn that was waiting for a permission. -/
def proceed (x : Execution) : Execution :=
  if x.phase = .awaitingDecision then { x with phase := .streaming } else x

end Execution

end BranchChat
