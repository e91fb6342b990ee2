import BranchChat.Conversation.Message

/-!
# Records of conversations

What the backend tells about conversations: a conversation with its messages, the list of all
conversations, and the list of the artifacts of one.

## Main definitions

- `Conversation`, `CatalogEntry`, `Artifact`: the records
- `Conversation.read`, `CatalogEntry.read`, `Artifact.read`: their JSON readings
-/

namespace BranchChat

open BranchChat.Calendar (Timestamp)
open BranchChat.Json

/-- A conversation with all its messages. -/
structure Conversation where
  id : String
  title : Option String
  messages : List Message
deriving DecidableEq

/-- A line in the list of conversations. -/
structure CatalogEntry where
  id : String
  title : Option String
  updatedAt : Option Timestamp
deriving DecidableEq

/-- A line in the list of the artifacts of a conversation. -/
structure Artifact where
  id : String
  title : String
  kind : Option String
  version : UInt32
  updatedAt : Option Timestamp
deriving DecidableEq

/-- Reads a conversation. -/
def Conversation.read : ReaderOf Conversation := fun raw => do
  let r ← raw.record? ["id", "title", "messages"]
  let id ← r.required "id" readString
  let title ← r.defaulted "title" (readOption readString) none
  let messages ← r.defaulted "messages" (readList Message.read) []
  some { id, title, messages }

/-- Reads a line in the list of conversations. -/
def CatalogEntry.read : ReaderOf CatalogEntry := fun raw => do
  let r ← raw.record? ["id", "title", "updated_at"]
  let id ← r.required "id" readString
  let title ← r.defaulted "title" (readOption readString) none
  let updatedAt ← r.defaulted "updated_at" (readOption Timestamp.read) none
  some { id, title, updatedAt }

/-- Reads a line in the list of artifacts. -/
def Artifact.read : ReaderOf Artifact := fun raw => do
  let r ← raw.record? ["id", "title", "kind", "version", "updated_at"]
  let id ← r.required "id" readString
  let title ← r.required "title" readString
  let kind ← r.defaulted "kind" (readOption readString) none
  let version ← r.defaulted "version" readWord32 0
  let updatedAt ← r.defaulted "updated_at" (readOption Timestamp.read) none
  some { id, title, kind, version, updatedAt }

end BranchChat
