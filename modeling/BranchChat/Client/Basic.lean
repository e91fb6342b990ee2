import BranchChat.Conversation.Workspace
import BranchChat.Execution.Fold
import BranchChat.Session.Credential
import BranchChat.Web.Backend

/-!
# The client

A client has a backend, the credential of the user, a workspace, the execution of the current turn
and at most one live connection. Each connection has a mark of its own, by which it is cancelled. A
scene is a client together with all that it acts upon: files, the network and the marks.

## Main definitions

- `Client`: the state of the program
- `Scene`: a client and its surroundings
- `Scene.abort`: cancels the connection and lets go of it
- `Scene.expire`: gives the credential up
- `Scene.noteFailure`: what a failed request means for the turn
-/

namespace BranchChat

open BranchChat.Execution (FrameGate)
open BranchChat.Session (Credential)
open BranchChat.Web (ApiError Backend Network)

/-- A connection and the mark by which it is cancelled. -/
structure Client.Live where
  mark : Nat
  connection : Stream.Connection
deriving Inhabited

/-- The state of the program. `mark` is the one of the latest connection that was asked for and not
cancelled since. -/
structure Client where
  backend : Backend
  credential : Credential
  workspace : Workspace
  execution : Execution
  live : Option Client.Live
  mark : Option Nat

/-- A client before anything has happened. -/
def Client.new (backend : Backend) (credential : Credential) (gate : FrameGate) : Client :=
  { backend, credential, workspace := .empty, execution := .new gate, live := none, mark := none }

/-- The marks of connections: how many there are, and which are cancelled. -/
structure Client.Marks where
  issued : Nat
  cancelled : List Nat
deriving DecidableEq, Inhabited

/-- A client and its surroundings. -/
structure Scene where
  client : Client
  files : Files.Store
  network : Network
  marks : Client.Marks

namespace Scene

/-- A client in surroundings in which no connection was made yet. -/
def start (client : Client) (files : Files.Store) (network : Network) : Scene :=
  ⟨client, files, network, ⟨0, []⟩⟩

/-- The scene with the execution changed. -/
def onExecution (s : Scene) (change : Execution → Execution) : Scene :=
  { s with client.execution := change s.client.execution }

/-- The scene with the workspace changed. -/
def onWorkspace (s : Scene) (change : Workspace → Workspace) : Scene :=
  { s with client.workspace := change s.client.workspace }

/-- Cancels the connection with a mark. -/
def cancel (s : Scene) (mark : Nat) : Scene :=
  { s with marks.cancelled := mark :: s.marks.cancelled }

/-- Whether the connection with a mark is cancelled. -/
def isCancelled (s : Scene) (mark : Nat) : Bool :=
  s.marks.cancelled.contains mark

/-- Lets go of the live connection, which cancels it. -/
def dropLive (s : Scene) : Scene :=
  match s.client.live with
  | some live => { s.cancel live.mark with client.live := none }
  | none => s

/-- Cancels the latest connection and lets go of the live one. -/
def abort (s : Scene) : Scene :=
  let s := match s.client.mark with
    | some mark => { s.cancel mark with client.mark := none }
    | none => s
  s.dropLive

/-- Gives the credential up. -/
def expire (s : Scene) : Scene :=
  let (files, credential) := s.client.credential.forget s.files
  { s with client.credential := credential, files }

/-- Whether the user has to log in. -/
def isExpired (s : Scene) : Bool :=
  !s.client.credential.isPresent

/-- Takes note of a failed request: an expiry ends the session, and any failure ends the turn that
is under way. -/
def noteFailure (s : Scene) (e : ApiError) : Scene :=
  let s := if e.isExpiry then s.abort.expire else s
  if s.client.execution.isUnderWay then s.abort.onExecution (·.fail e.message) else s

/-- The user logs in, at time `now`. -/
def login (s : Scene) (token : String) (now : Int) : Scene × Except Files.Fault Unit :=
  match s.client.credential.keep s.files token now with
  | (files, .ok credential) => ({ s with client.credential := credential, files }, .ok ())
  | (files, .error fault) => ({ s with files }, .error fault)

/-- The user logs out: the connection, the turn, the conversation and the credential go. -/
def logout (s : Scene) : Scene :=
  ((s.abort.onExecution Execution.wipe).onWorkspace fun _ => .empty).expire

end Scene

end BranchChat
