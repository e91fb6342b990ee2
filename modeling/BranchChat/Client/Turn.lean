import BranchChat.Client.Request

/-!
# Turns of the client

The user sends a message; the client starts a turn and then takes one delivery after the other from
its connection. A turn that is paused for a permission goes on, on a new connection, when the user
has decided. When a turn is completed the conversation is fetched again.

## Main definitions

- `Update`: what a delivery has changed
- `Scene.send`, `Scene.resume`, `Scene.stop`: what the user does
- `Scene.fold`: takes a delivery, up to the point where something has to be fetched
- `Scene.reconcile`: fetches the conversation of a completed turn
- `Scene.advance`: both together
-/

namespace BranchChat

open BranchChat.Execution (Context Moment)
open BranchChat.Stream (WireEvent)
open BranchChat.Web (ApiError)

/-- What a delivery has changed. -/
inductive Update where
  | progress
  /-- The turn waits for a decision. -/
  | decisionNeeded
  | completed (message : Option String)
  | failed (reason : String)
  | stopped
  /-- The connection closed and the turn is not over. -/
  | paused
deriving DecidableEq, Inhabited

/-- Whether the connection has no more updates. -/
def Update.isLast : Update → Bool
  | progress | decisionNeeded => false
  | _ => true

/-- The answer to a request for the next update. -/
inductive Awaited where
  | update (u : Update)
  /-- There is no live connection. -/
  | nothing
  /-- The connection has nothing to deliver yet. -/
  | waiting
deriving DecidableEq, Inhabited

/-- A delivery that has been taken: its update, or what has to be fetched before there is one. -/
inductive Folded where
  | settled (p : Awaited)
  | refreshing (message : Option String) (conversation : String)
deriving DecidableEq, Inhabited

namespace Scene

/-! ### What the user does -/

/-- The user sends a message, below `parent` or at the end of the chosen branch. -/
def send (s : Scene) (content : String) (parent : Option String) : Scene × Except ApiError Unit :=
  let s := s.abort
  let conversation := s.client.workspace.id?
  let parent := parent <|> s.client.workspace.newParent?
  let s := s.onExecution (·.begin { conversation, message := none, thread := none, parent } content)
  match s.call Web.StartedTurn.read (s.client.backend.newTurn content conversation parent) with
  | (s, .error e) => (s.noteFailure e, .error e)
  | (s, .ok turn) =>
    let s := s.onExecution (·.learn
      { conversation := some turn.conversation, message := some turn.message
        thread := some turn.thread, parent := none })
    match s.attach turn.stream with
    | (s, .error e) => (s.noteFailure e, .error e)
    | (s, .ok ()) => (s, .ok ())

/-- What a decision belongs to: the conversation, the thread and the message of the request, where
the turn supplies what the request leaves out. -/
def decisionTarget? (x : Execution) : Option (String × String × String) := do
  let r := x.question
  let conversation ← (r.bind (·.conversation)) <|> x.context.conversation
  let thread ← (r.bind (·.thread)) <|> x.context.thread
  let message ← (r.bind (·.message)) <|> x.context.message
  some (conversation, thread, message)

/-- The user decides about the permission that the turn waits for. -/
def resume (s : Scene) (approved : Bool) : Scene × Except ApiError Unit :=
  if s.client.execution.phase ≠ .awaitingDecision then
    (s, .error (.invalidResponse .noPausedTurn))
  else
    match decisionTarget? s.client.execution with
    | none =>
      let e : ApiError := .invalidResponse .missingIdentifiers
      (s.noteFailure e, .error e)
    | some (conversation, thread, message) =>
      let call := s.client.backend.continueTurn conversation thread message approved
      match s.call Web.ResumedTurn.read call with
      | (s, .error e) => (s.noteFailure e, .error e)
      | (s, .ok turn) =>
        match s.attach turn.stream with
        | (s, .error e) => (s.noteFailure e, .error e)
        | (s, .ok ()) => (s.onExecution (·.dropQuestion.proceed), .ok ())

/-- The user stops the turn. -/
def stop (s : Scene) (now : Nat) : Scene :=
  s.abort.onExecution (·.stop now)

/-- Shows answer text whose frame is due, and says whether there was some. -/
def onFrame (s : Scene) (now : Nat) : Scene × Bool :=
  let (x, shown) := s.client.execution.showDue now
  (s.onExecution fun _ => x, shown)

/-! ### Deliveries -/

/-- What is said of a connection that closes too early. -/
def closedEarly : String := "Connection closed before the turn completed"

/-- Takes an event. -/
def foldEvent (s : Scene) (e : WireEvent) (moment : Moment) : Scene × Folded :=
  let (x, signal) := s.client.execution.receive e moment
  let s := s.onExecution fun _ => x
  match signal with
  | none => (s, .settled (.update .progress))
  | some .decisionNeeded => (s, .settled (.update .decisionNeeded))
  | some .failed => (s.abort, .settled (.update (.failed (x.error.getD ""))))
  | some (.completed message) =>
    match x.context.conversation with
    | none => (s.abort.onExecution Execution.clear, .settled (.update (.completed message)))
    | some conversation => (s.abort, .refreshing message conversation)

/-- Takes the next delivery of the live connection. -/
def fold (s : Scene) (moment : Moment) : Scene × Folded :=
  match s.client.live with
  | none => (s, .settled .nothing)
  | some live =>
    let (answer, connection) := live.connection.poll (s.isCancelled live.mark)
    let s := { s with client.live := some { live with connection } }
    match answer with
    | .waiting => (s, .settled .waiting)
    | .over => (s.dropLive, .settled .nothing)
    | .ready (.event e) => s.foldEvent e moment
    | .ready (.ending (.closed true)) =>
      (s.dropLive.onExecution (·.stop moment.now), .settled (.update .stopped))
    | .ready (.ending (.closed false)) =>
      let s := s.dropLive
      if s.client.execution.phase = .streaming then
        (s.onExecution (·.fail closedEarly), .settled (.update (.failed closedEarly)))
      else (s, .settled (.update .paused))
    | .ready (.ending (.broken fault)) =>
      let e : ApiError := .transport fault
      (s.noteFailure e, .settled (.update (.failed e.message)))

/-- Clears a completed turn away. Where its conversation has been fetched, the branch that ends at
its message is chosen. -/
def settle (s : Scene) (message : Option String)
    (fetched : Option (Conversation × List Artifact)) : Scene :=
  let s := match fetched with
    | some (conversation, artifacts) =>
      s.onWorkspace fun w =>
        let w := w.refreshed conversation artifacts
        (w.select? message).getD { w with leaf := none }
    | none => s
  s.onExecution Execution.clear

/-- Fetches the conversation of a completed turn, and clears the turn away in any case. -/
def reconcile (s : Scene) (message : Option String) (conversation : String) : Scene :=
  match s.obtainConversation conversation with
  | (s, .error _) => s.settle message none
  | (s, .ok c) =>
    match s.obtainArtifacts conversation with
    | (s, .error _) => s.settle message none
    | (s, .ok artifacts) => s.settle message (some (c, artifacts))

/-- The next update of the turn. -/
def advance (s : Scene) (moment : Moment) : Scene × Awaited :=
  match s.fold moment with
  | (s, .settled p) => (s, p)
  | (s, .refreshing message conversation) =>
    (s.reconcile message conversation, .update (.completed message))

end Scene

end BranchChat
