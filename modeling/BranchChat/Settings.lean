import BranchChat.Execution.FrameGate
import BranchChat.Files.Store
import BranchChat.Locations
import BranchChat.Text.Blank
import BranchChat.Toml.Reader

/-!
# Settings

Settings are read from the first settings file that exists. A record of settings is written as a
table, or as a list of its values in their declared order.

## Main definitions

- `Settings`: what can be set
- `Settings.read?`: the settings of a document
- `Settings.check`: whether they make sense
- `Settings.load`: the settings of the first file
-/

namespace BranchChat

open BranchChat.Files (Path Store)
open BranchChat.Toml (Node Scalar Members)

/-- What can be set. The frame length is in milliseconds, the retention of logs in days. -/
structure Settings where
  baseAddress : String
  frameLength : UInt64
  logLevel : Option String
  logFolder : Option Path
  logRetention : Option UInt64
deriving DecidableEq, Inhabited

namespace Settings

/-- The settings where no file has any. -/
def standard : Settings :=
  { baseAddress := "http://127.0.0.1:8000"
    frameLength := UInt64.ofNat Execution.FrameGate.defaultInterval
    logLevel := none, logFolder := none, logRetention := none }

/-! ### Reading -/

/-- The values of a record: by name, or in their declared order. -/
inductive Fields where
  | named (members : Members)
  | listed (values : List Node)

/-- The values of a node that can be a record. A time is a record without fields. -/
def fields? : Node → Option Fields
  | .table _ members => some (.named members)
  | .array items => some (.listed items)
  | .tables list => some (.listed (list.map (.table .header)))
  | .scalar (.time _) => some (.named [])
  | .scalar _ => none

/-- The value of a field, by its name or its place. -/
def Fields.get? (fields : Fields) (name : String) (place : Nat) : Option Node :=
  match fields with
  | named members => members.lookup name
  | listed values => values[place]?

/-- The text of a node. -/
def text? : Node → Option String
  | .scalar (.string s) => some s
  | _ => none

/-- The 64-bit word of a node. -/
def word? : Node → Option UInt64
  | .scalar (.integer (.ofNat n)) => if n < Nat.pow 2 64 then some (UInt64.ofNat n) else none
  | _ => none

/-- A field that a list must have, while a table may leave it out. -/
def Fields.optional? {α : Type} (fields : Fields) (name : String) (place : Nat)
    (read : Node → Option α) : Option (Option α) :=
  match fields.get? name place, fields with
  | some node, _ => (read node).map some
  | none, named _ => some none
  | none, listed _ => none

/-- The settings of a document. -/
def read? (document : Members) : Option Settings := do
  let server ← (document.lookup "server").bind fields?
  let baseAddress ← (server.get? "base_url" 0).bind text?
  let stream ← match document.lookup "stream" with
    | some node => fields? node
    | none => some (.named [])
  let frameLength ← match stream.get? "frame_interval_ms" 0 with
    | some node => word? node
    | none => some standard.frameLength
  let logging ← match document.lookup "logging" with
    | some node => fields? node
    | none => some (.named [])
  let logLevel ← logging.optional? "level" 0 text?
  let logFolder ← logging.optional? "directory" 1 text?
  let logRetention ← logging.optional? "retention_days" 2 word?
  some { baseAddress, frameLength, logLevel, logFolder, logRetention }

/-! ### Checks -/

/-- Why settings make no sense. -/
inductive Flaw where
  | badAddress (address : String)
  | frameTooLong
deriving DecidableEq, Inhabited

/-- The wording of a flaw. -/
def Flaw.message : Flaw → String
  | badAddress address => "Server base_url must start with http:// or https://, got: " ++ address
  | frameTooLong => "Stream frame_interval_ms must not exceed 1000"

/-- The greatest frame length. -/
def maxFrameLength : UInt64 := 1000

/-- Whether an address is one of the web, blanks around it and letter case apart. -/
def isWebAddress (address : String) : Bool :=
  let cs := (Text.trim address.toList).map Char.toLower
  "http://".toList.isPrefixOf cs || "https://".toList.isPrefixOf cs

/-- The first flaw of settings, if they have one. -/
def check (s : Settings) : Except Flaw Unit :=
  if !isWebAddress s.baseAddress then .error (.badAddress s.baseAddress)
  else if maxFrameLength < s.frameLength then .error .frameTooLong
  else .ok ()

/-! ### Files -/

/-- Why settings cannot be loaded. -/
inductive LoadError where
  | file (fault : Files.Fault)
  | unreadable
  | flawed (flaw : Flaw)
deriving DecidableEq, Inhabited

/-- The wording of an error. -/
def LoadError.message : LoadError → String
  | file fault => fault.message
  | unreadable => "TOML parse error"
  | flawed flaw => flaw.message

/-- The settings of a text. -/
def parse (text : List Char) : Except LoadError Settings :=
  match (Toml.read? text).bind read? with
  | some s => .ok s
  | none => .error .unreadable

/-- The settings of one file. -/
def loadFile (files : Store) (p : Path) : Except LoadError Settings :=
  match files.readText p with
  | .error fault => .error (.file fault)
  | .ok text =>
    match parse text with
    | .error e => .error e
    | .ok s =>
      match s.check with
      | .error flaw => .error (.flawed flaw)
      | .ok () => .ok s

/-- The settings of the first of the given files that exists, and which one it is. -/
def loadFirst (files : Store) (paths : List Path) : Except LoadError (Settings × Option Path) :=
  match paths.find? files.contains with
  | some p => (loadFile files p).map fun s => (s, some p)
  | none => .ok (standard, none)

/-- The settings that hold in an environment. -/
def load (files : Store) (e : Environment) : Except LoadError (Settings × Option Path) :=
  loadFirst files e.settingsFiles

end Settings

end BranchChat
