import BranchChat.Json.Value

/-!
# Events of a turn

A backend reports the work on a turn as events. On the wire an event is a kind and some data; its
meaning is read off the data by the rules of its kind.

## Main definitions

- `WireEvent`: an event as it was sent
- `WireEvent.isLast`: whether it is the last of its connection
- `TurnEvent`: what an event means
- `WireEvent.meaning`: the meaning of an event
-/

namespace BranchChat.Stream

open BranchChat.Json (Value)

/-- An event as it was sent. The names of an agent and a tool may stand beside the data. -/
structure WireEvent where
  kind : String
  timestamp : Option String
  agentName : Option String
  toolName : Option String
  data : Value
deriving Inhabited

/-- The kinds of event after which nothing belongs to the turn. -/
def isLastKind (kind : String) : Bool :=
  kind == "complete" || kind == "error"

/-- Whether nothing after this event belongs to the turn. -/
def WireEvent.isLast (e : WireEvent) : Bool :=
  isLastKind e.kind

/-- What an event says about the turn. -/
inductive TurnEvent where
  /-- Names that the backend has given to the conversation, the message and the thread. -/
  | identifiers (conversation message thread : Option String)
  | agentStarted (agent : String)
  /-- All reasoning of the running agent so far. -/
  | reasoning (text : String)
  /-- All answer text of the running agent so far. -/
  | answer (text : String)
  /-- A piece of output without text. -/
  | silence
  /-- The whole answer text of the running agent. -/
  | wholeAnswer (text : String)
  | agentFinished (agent : Option String)
  | toolStarted (tool : String) (agent : Option String) (params : Value)
  | toolFinished (tool : String) (success : Bool) (result : Option Value) (duration : Option Nat)
  | permissionAsked (tool : String) (params : Value) (thread message : Option String)
  | permissionSettled (approved : Option Bool)
  | completed (message : Option String)
  | failed (reason : String)
  | unknown (kind : String)
deriving Inhabited

namespace WireEvent

/-- The agent that the data names, or else the one named beside it. -/
def agent? (e : WireEvent) : Option String :=
  e.data.textAt? "agent_name" <|> e.data.textAt? "agent" <|> e.agentName

/-- The tool that the data names, or else the one named beside it, or else the empty name. -/
def tool (e : WireEvent) : String :=
  (e.data.textAt? "tool_name" <|> e.data.textAt? "tool" <|> e.toolName).getD ""

/-- The parameters of a tool call. -/
def params (e : WireEvent) : Value :=
  (e.data.field? "params" <|> e.data.field? "input").getD .null

/-- The meaning of a piece of output. Reasoning comes under a key of its own, or as content that is
marked as reasoning. -/
def output (e : WireEvent) : TurnEvent :=
  match e.data.textAt? "reasoning", e.data.textAt? "content" with
  | some text, _ => .reasoning text
  | none, some text =>
    if e.data.textAt? "chunk_type" = some "reasoning" then .reasoning text else .answer text
  | none, none => .silence

/-- The meaning of an event. -/
def meaning (e : WireEvent) : TurnEvent :=
  match e.kind with
  | "metadata" =>
    .identifiers (e.data.textAt? "conversation_id") (e.data.textAt? "message_id")
      (e.data.textAt? "thread_id")
  | "agent_start" => .agentStarted (e.agent?.getD "agent")
  | "llm_chunk" => e.output
  | "llm_complete" => .wholeAnswer ((e.data.textAt? "content").getD "")
  | "agent_complete" => .agentFinished e.agent?
  | "tool_start" => .toolStarted e.tool e.agent? e.params
  | "tool_complete" =>
    .toolFinished e.tool (((e.data.field? "success").bind Value.truth?).getD true)
      (e.data.field? "result") ((e.data.field? "duration_ms").bind Value.word?)
  | "permission_request" =>
    .permissionAsked e.tool e.params (e.data.textAt? "thread_id") (e.data.textAt? "message_id")
  | "permission_result" => .permissionSettled ((e.data.field? "approved").bind Value.truth?)
  | "complete" => .completed (e.data.textAt? "message_id")
  | "error" =>
    .failed ((e.data.textAt? "message" <|> e.data.textAt? "error").getD "Unknown stream error")
  | kind => .unknown kind

end WireEvent

end BranchChat.Stream
