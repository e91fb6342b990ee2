import BranchChat.Client.Basic

/-!
# Requests of the client

Every request carries the token of the user. Without a token nothing is sent, and an answer that
refuses the token ends the session.

## Main definitions

- `Scene.call`: asks the backend for something
- `Scene.attach`: opens the connection of a turn
- `Scene.takeOver`: fetches a conversation with its artifacts
- `Scene.visit`, `Scene.loadCatalog`
-/

namespace BranchChat.Scene

open BranchChat.Json (ReaderOf)
open BranchChat.Stream (Arrival Connection)
open BranchChat.Web

/-- Sends a request. An answer comes with the body only if it is a success. -/
def exchange (s : Scene) (r : Request) : Scene × Except ApiError (List Arrival) :=
  let (network, answer) := s.network.exchange r
  let s := { s with network }
  match answer with
  | .error fault => (s, .error (.transport fault))
  | .ok (status, body) =>
    if isUnauthorized status then (s.expire, .error .sessionExpired)
    else if isSuccess status then (s, .ok body)
    else (s, .error (.status status (errorText body)))

/-- The request of a call. -/
def requestOf (s : Scene) (c : Call) : Except ApiError Request :=
  match s.client.credential.token with
  | none => .error .sessionExpired
  | some token =>
    match Request.make? c.method c.address token false c.body with
    | .error fault => .error (.transport fault)
    | .ok r => .ok r

/-- What a body says to a reader. -/
def readBody {α : Type} (read : ReaderOf α) (body : List Arrival) : Except ApiError α :=
  match (wholeBody? body).bind fun bs => Json.decode? read (Text.Utf8.symbols bs) with
  | some a => .ok a
  | none => .error (.invalidResponse .unreadableBody)

/-- Asks the backend for something. -/
def call {α : Type} (s : Scene) (read : ReaderOf α) (c : Call) : Scene × Except ApiError α :=
  match s.requestOf c with
  | .error e => (s, .error e)
  | .ok r =>
    match s.exchange r with
    | (s, .error e) => (s, .error e)
    | (s, .ok body) => (s, readBody read body)

/-- Asks for something and does not wait for the answer. -/
def abandonCall (s : Scene) (c : Call) : Scene :=
  match s.requestOf c with
  | .error _ => s
  | .ok r => { s with network := s.network.abandon r }

/-! ### Connections -/

/-- Opens the events at an address. Without a token the session is over; a connection that is
cancelled by now is not made. -/
def openEvents (s : Scene) (address : String) (mark : Nat) :
    Scene × Except ApiError Connection :=
  match s.client.credential.token with
  | none => (s.expire, .error .sessionExpired)
  | some token =>
    if s.isCancelled mark then (s, .ok .cancelledEarly)
    else
      match Request.make? .get address token true none with
      | .error fault => (s, .error (.transport fault))
      | .ok r =>
        match s.exchange r with
        | (s, .error e) => (s, .error e)
        | (s, .ok body) => (s, .ok (.opened body))

/-- Opens the connection of the turn in place of an earlier one. -/
def attach (s : Scene) (reference : String) : Scene × Except ApiError Unit :=
  let s := s.abort
  match s.client.backend.streamAddress? reference with
  | .error e => (s, .error e)
  | .ok address =>
    let mark := s.marks.issued
    let s := { s with marks.issued := mark + 1, client.mark := some mark }
    match s.openEvents address mark with
    | (s, .error e) => (s, .error e)
    | (s, .ok connection) => ({ s with client.live := some ⟨mark, connection⟩ }, .ok ())

/-! ### Conversations -/

/-- Fetches a conversation. -/
def obtainConversation (s : Scene) (id : String) : Scene × Except ApiError Conversation :=
  s.call Conversation.read (s.client.backend.conversation id)

/-- Fetches the artifacts of a conversation. -/
def obtainArtifacts (s : Scene) (id : String) : Scene × Except ApiError (List Artifact) :=
  s.call (Json.readList Artifact.read) (s.client.backend.artifacts id)

/-- Takes a conversation over with its artifacts, both or none. -/
def takeOver (s : Scene) (id : String) : Scene × Except ApiError Unit :=
  match s.obtainConversation id with
  | (s, .error e) => (s, .error e)
  | (s, .ok conversation) =>
    match s.obtainArtifacts id with
    | (s, .error e) => (s, .error e)
    | (s, .ok artifacts) => (s.onWorkspace (·.refreshed conversation artifacts), .ok ())

/-- Opens a conversation. -/
def visit (s : Scene) (id : String) : Scene × Except ApiError Unit :=
  match s.takeOver id with
  | (s, .error e) => (s.noteFailure e, .error e)
  | (s, .ok ()) => (s, .ok ())

/-- Fetches the list of conversations. -/
def loadCatalog (s : Scene) : Scene × Except ApiError Unit :=
  match s.call (Json.readList CatalogEntry.read) s.client.backend.conversations with
  | (s, .error e) => (s, .error e)
  | (s, .ok catalog) => (s.onWorkspace ({ · with catalog }), .ok ())

end BranchChat.Scene
