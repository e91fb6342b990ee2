import BranchChat.Json.Meaning
import BranchChat.Json.Printer
import BranchChat.Stream.Event
import BranchChat.Text.Blank

/-!
# Framing of events

Events come as lines of bytes, each ended by a newline. A line announces the kind of the events
that follow in its block, or carries the data of one event, or says nothing. A blank line ends a
block. Bytes are read one at a time, so that it does not matter how the network cuts them.

## Main definitions

- `Line`: what a line says
- `WireEvent.ofPayload?`: the event of the data of a line
- `Framing`: the part of a line that has come, and the kind announced in this block
- `Framing.feed`: reads bytes and gives the events of all lines that they end
- `Framing.close`: the end of the bytes
-/

namespace BranchChat.Stream

open BranchChat.Json (Value Members)
open BranchChat.Text (cutFirst trim)

/-- What a line says. -/
inductive Line where
  | blank
  /-- The kind of events to come, where no name takes an earlier one back. -/
  | kind (name : Option String)
  | data (payload : List Char)
  /-- A comment or an unknown field. -/
  | other
deriving DecidableEq, Inhabited

/-- The value of a field, of which one space at its front is dropped. -/
def fieldValue : List Char → List Char
  | ' ' :: rest => rest
  | value => value

/-- What a field says. -/
def Line.ofField (field value : List Char) : Line :=
  if field = "event".toList then
    let name := trim value
    .kind (if name.isEmpty then none else some (.ofList name))
  else if field = "data".toList then .data value
  else .other

/-- What a line without its end says. -/
def Line.ofChars : List Char → Line
  | [] => .blank
  | ':' :: _ => .other
  | line =>
    match cutFirst (· == ':') line with
    | some (field, value) => .ofField field (fieldValue value)
    | none => .ofField line []

/-- What a line of bytes says. One carriage return at its end belongs to the line end. -/
def Line.ofBytes (bytes : List UInt8) : Line :=
  let line := Text.Utf8.lenient bytes
  .ofChars (if line.getLast? = some '\r' then line.dropLast else line)

/-- A timestamp that is text or a number. -/
def timestamp? : Option Value → Option String
  | some (.string s) => some s
  | some (.number n) => some n.text
  | _ => none

/-- The text under a key, and the members without it. Anything but text stays. -/
def takeText (ms : Members) (key : String) : Option String × Members :=
  match ms.get? key with
  | some (.string s) => (some s, ms.without key)
  | _ => (none, ms)

/-- The event of an object: its kind is the one it names itself, or else the announced one. Its
data stands under a key of its own; without that key the rest of the object is the data. -/
def WireEvent.ofMembers? (announced : Option String) (ms : Members) : Option WireEvent :=
  let (named, ms) := takeText ms "type"
  (named <|> announced).map fun kind =>
    let timestamp := timestamp? (ms.get? "timestamp")
    let (agentName, ms) := takeText (ms.without "timestamp") "agent_name"
    let (toolName, ms) := takeText ms "tool_name"
    { kind, timestamp, agentName, toolName, data := (ms.get? "data").getD (.object ms) }

/-- The event of the data of a line, if it is an object with a kind. -/
def WireEvent.ofPayload? (announced : Option String) (payload : List Char) : Option WireEvent :=
  match Value.parse? ((trim payload).map some) with
  | some (.object ms) => WireEvent.ofMembers? announced ms
  | _ => none

/-- The bytes since the last newline, newest first, and the kind announced in this block. -/
structure Framing where
  pending : List UInt8
  announced : Option String
deriving DecidableEq, Inhabited

namespace Framing

/-- The byte that ends a line. -/
def newline : UInt8 := 0x0A

/-- The framing before any bytes. -/
def start : Framing := ⟨[], none⟩

/-- The effect of a whole line, and the event that it gives. -/
def readLine (announced : Option String) : Line → Option String × Option WireEvent
  | .blank => (none, none)
  | .kind name => (name, none)
  | .data payload => (announced, WireEvent.ofPayload? announced payload)
  | .other => (announced, none)

/-- The end of a line. -/
def endLine (f : Framing) : Framing × Option WireEvent :=
  let (announced, event) := readLine f.announced (.ofBytes f.pending.reverse)
  (⟨[], announced⟩, event)

/-- Reads bytes, and gives the events of the lines that end in them, in order. -/
def feed (f : Framing) : List UInt8 → Framing × List WireEvent
  | [] => (f, [])
  | b :: bs =>
    if b = newline then
      let (f, event) := f.endLine
      let (f, events) := f.feed bs
      (f, event.toList ++ events)
    else feed { f with pending := b :: f.pending } bs

/-- The end of the bytes. A line that has not ended is dropped. -/
def close (_ : Framing) : Framing :=
  start

end Framing

end BranchChat.Stream
