import BranchChat.Calendar.Reader
import BranchChat.Json.Printer
import BranchChat.Json.Record

/-!
# Messages

A message is what the user wrote, with the response to it. It names the message that it answers
to. Messages are exchanged as JSON records.

## Main definitions

- `Message`: a message
- `Message.read`: the message of a JSON tree
- `Message.toValue`, `Message.text`: its JSON form
-/

namespace BranchChat

open BranchChat.Calendar (Timestamp)
open BranchChat.Json

/-- A message. `listedChildren` is the backend's own list of answers, which nothing rests on. -/
structure Message where
  id : String
  parent : Option String
  content : String
  response : Option String
  createdAt : Timestamp
  listedChildren : List String
deriving DecidableEq

/-- Reads a timestamp. -/
def Calendar.Timestamp.read : ReaderOf Timestamp
  | .string body => (Raw.text? [] body).bind Timestamp.read?
  | _ => none

namespace Message

/-- The names of the fields, in their declared order. -/
def fieldNames : List String :=
  ["id", "parent_id", "content", "response", "created_at", "children"]

/-- Reads a message. -/
def read : ReaderOf Message := fun raw => do
  let r ← raw.record? fieldNames
  let id ← r.required "id" readString
  let parent ← r.defaulted "parent_id" (readOption readString) none
  let content ← r.required "content" readString
  let response ← r.defaulted "response" (readOption readString) none
  let createdAt ← r.required "created_at" Timestamp.read
  let listedChildren ← r.defaulted "children" (readList readString) []
  some { id, parent, content, response, createdAt, listedChildren }

/-- A string, or null. -/
def optionValue : Option String → Value
  | some s => .string s
  | none => .null

/-- The JSON form of a message. -/
def toValue (m : Message) : Value :=
  .object
    [("id", .string m.id), ("parent_id", optionValue m.parent), ("content", .string m.content),
      ("response", optionValue m.response), ("created_at", .string m.createdAt.text),
      ("children", .array (m.listedChildren.map .string))]

/-- The JSON text of a message. -/
def text (m : Message) : String :=
  m.toValue.compact

end Message

end BranchChat
