import BranchChat.Conversation.Record
import BranchChat.Web.Exchange

/-!
# The backend

What can be asked of a backend: to start a turn, to go on with one, to list conversations, to give
a conversation and its artifacts. All addresses hang on the base address of the backend.

## Main definitions

- `Backend`: a base address
- `Call`: something to ask for
- `Backend.newTurn`, `Backend.continueTurn`, `Backend.conversations`, `Backend.conversation`,
  `Backend.artifacts`: the calls
- `StartedTurn`, `ResumedTurn`: answers to the first two
- `Backend.streamAddress?`: the address of the events of a turn
-/

namespace BranchChat.Web

open BranchChat.Json (Value ReaderOf Raw readString)

/-- A backend, by its base address without slashes at the end. -/
structure Backend where
  base : String
deriving DecidableEq, Inhabited

/-- Something to ask a backend for. -/
structure Call where
  method : Method
  address : String
  body : Option Value
deriving Inhabited

/-- The answer to a new turn: what it is called, and where its events come from. -/
structure StartedTurn where
  conversation : String
  message : String
  thread : String
  stream : String
deriving DecidableEq, Inhabited

/-- The answer to a decision: where the events of the turn come from now. -/
structure ResumedTurn where
  stream : String
deriving DecidableEq, Inhabited

/-- Reads the answer to a new turn. -/
def StartedTurn.read : ReaderOf StartedTurn := fun raw => do
  let r ← raw.record? ["conversation_id", "message_id", "thread_id", "stream_url"]
  let conversation ← r.required "conversation_id" readString
  let message ← r.required "message_id" readString
  let thread ← r.required "thread_id" readString
  let stream ← r.required "stream_url" readString
  some { conversation, message, thread, stream }

/-- Reads the answer to a decision. -/
def ResumedTurn.read : ReaderOf ResumedTurn := fun raw => do
  let r ← raw.record? ["stream_url"]
  let stream ← r.required "stream_url" readString
  some { stream }

namespace Backend

/-- The backend at an address. -/
def ofAddress (address : String) : Backend :=
  ⟨.ofList (address.toList.reverse.dropWhile (· == '/')).reverse⟩

/-- A text as one step of an address. -/
def step (s : String) : String :=
  .ofList (Text.Percent.encode Text.Percent.unreserved s.toList)

/-- A member that is left out where there is no text for it. -/
def optionalMember (key : String) (text : Option String) : List (String × Value) :=
  text.toList.map fun s => (key, .string s)

/-- Starts a turn. -/
def newTurn (b : Backend) (content : String) (conversation parent : Option String) : Call :=
  { method := .post, address := b.base ++ "/api/turns"
    body := some (.object (("content", .string content) ::
      (optionalMember "conversation_id" conversation ++
        optionalMember "parent_message_id" parent))) }

/-- Goes on with a turn after a decision of the user. -/
def continueTurn (b : Backend) (conversation thread message : String) (approved : Bool) : Call :=
  { method := .post, address := b.base ++ "/api/turns/resume"
    body := some (.object
      [("conversation_id", .string conversation), ("thread_id", .string thread),
        ("message_id", .string message), ("approved", .bool approved)]) }

/-- Lists the conversations. -/
def conversations (b : Backend) : Call :=
  ⟨.get, b.base ++ "/api/conversations", none⟩

/-- Gives a conversation. -/
def conversation (b : Backend) (id : String) : Call :=
  ⟨.get, b.base ++ "/api/conversations/" ++ step id, none⟩

/-- Lists the artifacts of a conversation. -/
def artifacts (b : Backend) (id : String) : Call :=
  ⟨.get, b.base ++ "/api/conversations/" ++ step id ++ "/artifacts", none⟩

/-- The address of the events of a turn, which may be given relative to the base address. -/
def streamAddress? (b : Backend) (reference : String) : Except ApiError String :=
  match Url.parse? (b.base ++ "/") with
  | .error e => .error (.invalidResponse (.badBase e))
  | .ok base =>
    match Url.resolve? (some base) reference with
    | .error e => .error (.invalidResponse (.badStreamAddress reference e))
    | .ok u => .ok u.text

end Backend

end BranchChat.Web
