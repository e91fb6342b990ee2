import BranchChat.Client.Turn
import BranchChat.Display.Lines
import BranchChat.Display.LiveArea

/-!
# Chatting

One message is sent and the work on it is shown until the turn is over. While the client waits for
the next update, the frame timer may run out or the user may interrupt it; whatever the client was
about to fetch is then given up. Where a permission is asked for, a row of input decides.

What happens comes as moves, in any order. A move that is not possible at its time changes nothing.

## Main definitions

- `Chat`: the state of a chat
- `Chat.Entry`: a piece of output
- `Chat.Move`: what can happen
- `Chat.begin`: sends the message
- `Chat.step`, `Chat.run`: carries moves out
-/

namespace BranchChat

open BranchChat.Display (LiveArea)
open BranchChat.Execution (Moment)
open BranchChat.Web (ApiError)

/-- A piece of output. -/
inductive Chat.Entry where
  /-- Text that replaces what was drawn in the live area. -/
  | drawing (text : String)
  /-- A question for permission. -/
  | prompt (tool : String)
  | line (text : String)
deriving DecidableEq, Inhabited

/-- The text of a piece of output. -/
def Chat.Entry.text : Entry → String
  | drawing text => text
  | prompt tool => "Allow " ++ tool ++ "? [y/N] "
  | line text => text ++ "\n"

/-- Why a chat, or any other use of the client, fails. -/
inductive Chat.Failure where
  | expired
  | request (e : ApiError)
  | connectionLost
  | turnFailed (reason : String)
  | unreadableInput
deriving DecidableEq, Inhabited

/-- The wording of a failure. -/
def Chat.Failure.message : Failure → String
  | expired => "Session expired. Run `canopy login --token <TOKEN>` again."
  | request e => e.message
  | connectionLost => "Connection lost"
  | turnFailed reason => "Turn failed: " ++ reason
  | unreadableInput => "stream did not contain valid UTF-8"

/-- What a chat waits for. `due` is when the frame timer runs out. -/
inductive Chat.Stage where
  /-- The next delivery. -/
  | watching (due : Option Nat)
  /-- The conversation of the completed turn. -/
  | fetching (due : Option Nat) (message : Option String) (id : String)
  /-- The artifacts of the conversation that has been fetched. -/
  | fetchingArtifacts (due : Option Nat) (message : Option String) (id : String)
      (conversation : Conversation)
  /-- A row of input. -/
  | asking
  | over (result : Except Chat.Failure Unit)

/-- The state of a chat: what was written so far, and the rows of input that are still to come. -/
structure Chat where
  scene : Scene
  area : LiveArea
  written : List Chat.Entry
  rows : List String
  verbose : Bool
  stage : Chat.Stage

/-- What can happen to a chat. -/
inductive Chat.Move where
  /-- The user interrupts the program. -/
  | interrupt (now : Nat)
  /-- The frame timer runs out. -/
  | frame (now : Nat)
  /-- What the chat waits for on the network is there. -/
  | advance (moment : Moment)
  /-- A row of input is there, or the input is at its end. -/
  | input (now : Nat)
  /-- A row of input is there that is not text. -/
  | unreadable
deriving Inhabited

namespace Chat

/-- The failure of a request of the client. -/
def Failure.ofError (s : Scene) (e : ApiError) : Failure :=
  if s.isExpired then .expired else .request e

/-! ### Output -/

/-- Writes a piece of output. -/
def write (c : Chat) (e : Entry) : Chat :=
  { c with written := c.written ++ [e] }

/-- Replaces what is drawn in the live area. -/
def drawLines (c : Chat) (lines : List String) : Chat :=
  let (area, text) := c.area.draw lines
  { c with area }.write (.drawing text)

/-- Draws the turn. -/
def drawTurn (c : Chat) : Chat :=
  c.drawLines (Display.lines c.verbose (Display.executionBlocks c.scene.client.execution))

/-- The text written so far. -/
def output (c : Chat) : String :=
  String.join (c.written.map Entry.text)

/-! ### Stages -/

/-- The end of a chat. -/
def ended (c : Chat) (result : Except Failure Unit) : Chat :=
  { c with stage := .over result }

/-- Waits for the next delivery from `now` on. -/
def watch (c : Chat) (now : Nat) : Chat :=
  let due := (c.scene.client.execution.gate.remaining? now).map (now + ·)
  { c with stage := .watching due }

/-- When the frame timer runs out. -/
def due? (c : Chat) : Option Nat :=
  match c.stage with
  | .watching due | .fetching due _ _ | .fetchingArtifacts due _ _ _ => due
  | .asking | .over _ => none

/-- The scene after whatever was about to be fetched is given up. -/
def abandoned (c : Chat) : Scene :=
  match c.stage with
  | .fetching _ _ id => c.scene.abandonCall (c.scene.client.backend.conversation id)
  | .fetchingArtifacts _ _ id _ => c.scene.abandonCall (c.scene.client.backend.artifacts id)
  | .watching _ | .asking | .over _ => c.scene

/-- The lines that close a completed turn: what the agents did, and the message itself. -/
def closingLines (c : Chat) (message : Option String) : List String :=
  let x := c.scene.client.execution
  let w := c.scene.client.workspace
  Display.snapshotLines ((message.bind x.archived?).getD []) ++
    Display.lines c.verbose (Display.branchBlocks w.tree w.path.getLast?.toList)

/-- Shows an update, and goes on or comes to the end. -/
def report (c : Chat) (u : Update) (now : Nat) : Chat :=
  match u with
  | .progress | .paused => c.drawTurn.watch now
  | .decisionNeeded =>
    let c := c.drawTurn
    let tool := (c.scene.client.execution.question.map (·.tool)).getD ""
    { c.write (.prompt tool) with area := c.area.keep, stage := .asking }
  | .completed message =>
    let c := c.drawLines (c.closingLines message)
    let c := match c.scene.client.workspace.id? with
      | some id => c.write (.line ("(conversation " ++ id ++ ")"))
      | none => c
    c.ended (.ok ())
  | .failed reason =>
    let c := c.drawTurn
    c.ended (.error (if c.scene.isExpired then .expired else .turnFailed reason))
  | .stopped => c.drawTurn.ended (.ok ())

/-! ### Moves -/

/-- Takes what the network has. -/
def advance (c : Chat) (moment : Moment) : Chat :=
  match c.stage with
  | .watching due =>
    match c.scene.fold moment with
    | (scene, .settled .waiting) => { c with scene }
    | (scene, .settled .nothing) =>
      let lost := scene.client.execution.isUnderWay
      { c with scene }.ended (if lost then .error .connectionLost else .ok ())
    | (scene, .settled (.update u)) => { c with scene }.report u moment.now
    | (scene, .refreshing message id) => { c with scene, stage := .fetching due message id }
  | .fetching due message id =>
    match c.scene.obtainConversation id with
    | (scene, .error _) =>
      { c with scene := scene.settle message none }.report (.completed message) moment.now
    | (scene, .ok conversation) =>
      { c with scene, stage := .fetchingArtifacts due message id conversation }
  | .fetchingArtifacts _ message id conversation =>
    let (scene, artifacts) := c.scene.obtainArtifacts id
    let fetched := artifacts.toOption.map fun artifacts => (conversation, artifacts)
    { c with scene := scene.settle message fetched }.report (.completed message) moment.now
  | .asking | .over _ => c

/-- The frame timer has run out. -/
def frame (c : Chat) (now : Nat) : Chat :=
  match c.due? with
  | none => c
  | some due =>
    if now < due then c
    else
      let (scene, shown) := c.abandoned.onFrame now
      let c := { c with scene }
      (if shown then c.drawTurn else c).watch now

/-- The user interrupts the program. -/
def interrupt (c : Chat) (now : Nat) : Chat :=
  match c.stage with
  | .over _ => c
  | .asking =>
    let c := { c with scene := c.scene.stop now }
    ((c.write (.line "")).write (.line "(stopped)")).ended (.ok ())
  | .watching _ | .fetching .. | .fetchingArtifacts .. =>
    let c := { c with scene := c.abandoned.stop now }
    (c.drawTurn.write (.line "(stopped)")).ended (.ok ())

/-- Whether a row of input is a consent. -/
def isConsent (row : String) : Bool :=
  ["y", "Y", "yes"].contains (Text.trimmed row)

/-- Takes a row of input as the user's decision. At the end of the input the row is empty. -/
def takeRow (c : Chat) (now : Nat) : Chat :=
  match c.stage with
  | .asking =>
    let row := c.rows.head?.getD ""
    let c := { c with rows := c.rows.tail }
    match c.scene.resume (isConsent row) with
    | (scene, .ok ()) => { c with scene }.watch now
    | (scene, .error e) => { c with scene }.ended (.error (.ofError scene e))
  | .watching _ | .fetching .. | .fetchingArtifacts .. | .over _ => c

/-- Takes a row of input that is not text. -/
def refuseRow (c : Chat) : Chat :=
  match c.stage with
  | .asking => c.ended (.error .unreadableInput)
  | .watching _ | .fetching .. | .fetchingArtifacts .. | .over _ => c

/-- Carries a move out. -/
def step (c : Chat) : Move → Chat
  | .interrupt now => c.interrupt now
  | .frame now => c.frame now
  | .advance moment => c.advance moment
  | .input now => c.takeRow now
  | .unreadable => c.refuseRow

/-- Carries moves out one after the other. -/
def run (c : Chat) (moves : List Move) : Chat :=
  moves.foldl step c

/-! ### The beginning -/

/-- Sends the message. -/
def send (c : Chat) (text : String) (parent : Option String) (now : Nat) : Chat :=
  match c.scene.send text parent with
  | (scene, .error e) => { c with scene }.ended (.error (.ofError scene e))
  | (scene, .ok ()) => { c with scene }.drawTurn.watch now

/-- The messages shown before the new one. -/
def messagesBefore (w : Workspace) (parent : Option String) : List Message :=
  match parent with
  | some p => w.visible (some p)
  | none => w.path

/-- Opens the conversation, if there is one to go on with, and sends the message. -/
def begin (scene : Scene) (conversation parent : Option String) (text : String) (verbose : Bool)
    (rows : List String) (now : Nat) : Chat :=
  let c : Chat := { scene, area := .new, written := [], rows, verbose, stage := .watching none }
  match conversation with
  | none => c.send text parent now
  | some id =>
    match scene.visit id with
    | (scene, .error e) => { c with scene }.ended (.error (.ofError scene e))
    | (scene, .ok ()) =>
      let w := scene.client.workspace
      let lines := Display.lines verbose (Display.branchBlocks w.tree (messagesBefore w parent))
      { c with scene, written := lines.map .line }.send text parent now

end Chat

end BranchChat
