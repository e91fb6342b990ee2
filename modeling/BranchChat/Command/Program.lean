import BranchChat.Client.Chat
import BranchChat.Command.Invocation
import BranchChat.Display.Listing
import BranchChat.LogFilter
import BranchChat.LogFolder
import BranchChat.Settings

/-!
# The program

A run of the program: settings are loaded, the command line is read, the log folder is made ready,
the credential is loaded, and then the command is carried out.

## Main definitions

- `Surroundings`: what a run starts from
- `Outcome`: what it leaves
- `Command.carryOut`: carries a command out
- `Program.run`: a whole run
-/

namespace BranchChat

open BranchChat.Session (Credential)
open BranchChat.Web (ApiError Backend)

/-- Why the program ends with an error. -/
inductive Program.Failure where
  | notLoggedIn
  | files (fault : Files.Fault)
  | settings (flaw : Settings.Flaw)
  | client (failure : Chat.Failure)
  | unknownLeaf (leaf conversation : String)
  | noSibling (offset : Int) (message : String)
deriving DecidableEq, Inhabited

/-- A number with its sign. -/
def signedText (n : Int) : String :=
  if n < 0 then toString n else "+" ++ toString n

/-- The wording of a failure. -/
def Program.Failure.message : Failure → String
  | notLoggedIn => "Not logged in. Run `canopy login --token <TOKEN>` first."
  | files fault => fault.message
  | settings flaw => flaw.message
  | client failure => failure.message
  | unknownLeaf leaf conversation =>
    "Message " ++ leaf ++ " is not part of conversation " ++ conversation
  | noSibling offset message => "No sibling " ++ signedText offset ++ " of message " ++ message

/-- What a run of the program starts from: the time, the environment, the files, the network, the
rows of its input, and what happens while it chats. -/
structure Program.Surroundings where
  now : Int
  environment : Environment
  files : Files.Store
  network : Web.Network
  rows : List String
  moves : List Chat.Move

/-- What a run of the program leaves. Without an exit code it is still running. -/
structure Program.Outcome where
  exit : Option Nat
  output : String
  errors : String
  files : Files.Store
  network : Web.Network

/-- The output of a command, and how it ended. A command that is still running has not ended. -/
structure Program.Report where
  scene : Scene
  output : String
  result : Option (Except Program.Failure Unit)

namespace Command

open Program (Failure Report)

/-- Lines as output. -/
def unlines (lines : List String) : String :=
  String.join (lines.map (· ++ "\n"))

/-- A command that has come to its end. -/
def done (scene : Scene) (lines : List String) : Report :=
  ⟨scene, unlines lines, some (.ok ())⟩

/-- A command that has failed without any output. -/
def failed (scene : Scene) (failure : Failure) : Report :=
  ⟨scene, "", some (.error failure)⟩

/-- A command that has failed with a request. -/
def refused (scene : Scene) (e : ApiError) : Report :=
  failed scene (.client (.ofError scene e))

/-- Lists conversations. -/
def catalogReport (s : Scene) : Report :=
  match s.loadCatalog with
  | (s, .error e) => refused s e
  | (s, .ok ()) =>
    match s.client.workspace.catalog with
    | [] => done s ["No conversations yet."]
    | listed => done s (listed.map CatalogEntry.line)

/-- Lists the artifacts of a conversation. -/
def artifactsReport (s : Scene) (id : String) : Report :=
  match s.visit id with
  | (s, .error e) => refused s e
  | (s, .ok ()) =>
    match s.client.workspace.artifacts with
    | [] => done s ["No artifacts."]
    | listed => done s (listed.map Artifact.line)

/-- The branch that is asked for: the one that ends at `leaf`, and of that the one that goes through
a sibling of a message. -/
def chooseBranch (w : Workspace) (id : String) (leaf sibling : Option String)
    (offset : Option Int) : Except Failure Workspace := do
  let w ← match leaf with
    | none => pure w
    | some leaf =>
      match w.select? (some leaf) with
      | some w => pure w
      | none => throw (.unknownLeaf leaf id)
  match sibling, offset with
  | some message, some offset =>
    match w.switch? message offset with
    | some (w, _) => return w
    | none => throw (.noSibling offset message)
  | _, _ => return w

/-- Shows a branch of a conversation. -/
def branchReport (s : Scene) (id : String) (leaf sibling : Option String) (offset : Option Int)
    (verbose : Bool) : Report :=
  match s.visit id with
  | (s, .error e) => refused s e
  | (s, .ok ()) =>
    match chooseBranch s.client.workspace id leaf sibling offset with
    | .error failure => failed s failure
    | .ok w =>
      let title := w.title?.toList.map ("# " ++ ·)
      done (s.onWorkspace fun _ => w)
        (title ++ Display.lines verbose (Display.branchBlocks w.tree w.path))

/-- Sends a message and shows the work on it. -/
def converse (s : Scene) (conversation parent : Option String) (verbose : Bool) (text : String)
    (rows : List String) (moves : List Chat.Move) : Report :=
  let c := (Chat.begin s conversation parent text verbose rows 0).run moves
  let result := match c.stage with
    | .over (.ok ()) => some (.ok ())
    | .over (.error failure) => some (.error (.client failure))
    | _ => none
  ⟨c.scene, c.output, result⟩

/-- Carries a command out, but logging in and out, for a user who is logged in. -/
def carryOut (s : Scene) (rows : List String) (moves : List Chat.Move) (command : Command) :
    Report :=
  if s.isExpired then failed s .notLoggedIn
  else
    match command with
    | .show id leaf sibling offset verbose => branchReport s id leaf sibling offset verbose
    | .artifacts id => artifactsReport s id
    | .chat conversation parent verbose text =>
      converse s conversation parent verbose text rows moves
    | .conversations | .login _ | .logout => catalogReport s

end Command

namespace Program

/-- The name and the version of the program. -/
def versionText : String := "canopy 0.1.0"

/-- How the program is used. -/
def usageText : String :=
  "Usage: canopy [--server <SERVER>] <login|logout|conversations|show|artifacts|chat>"

/-- A command with the credential and the backend that it is for. -/
def report (s : Surroundings) (settings : Settings) (credential : Credential)
    (command : Command) : Report :=
  let backend := Backend.ofAddress settings.baseAddress
  let gate := Execution.FrameGate.fresh settings.frameLength.toNat
  let scene := Scene.start (.new backend credential gate) s.files s.network
  match command with
  | .login token =>
    match scene.login token s.now with
    | (scene, .ok ()) => Command.done scene ["Logged in to " ++ settings.baseAddress]
    | (scene, .error fault) => Command.failed scene (.files fault)
  | .logout => Command.done scene.logout ["Logged out"]
  | command => command.carryOut scene s.rows s.moves

/-- The settings with the server of the command line in place of their own. -/
def withServer (settings : Settings) (server : Option String) : Except Settings.Flaw Settings :=
  match server with
  | none => .ok settings
  | some address =>
    let settings := { settings with baseAddress := address }
    settings.check.map fun () => settings

/-- The exit code of a run that a failure breaks off. -/
def brokenCode : Nat := 101

/-- The files after logging has started, and what is said if it cannot, or about its filter. It is
an error if this is the last that is said. -/
def startLogging (s : Surroundings) (settings : Settings) : Files.Store × Except String String :=
  let folder := LogFolder.folderOf s.environment settings.logFolder
  match LogFolder.prepare s.files folder settings.logRetention s.now with
  | (files, .ok ()) =>
    (files, .ok (Command.unlines (settings.logLevel.elim [] LogFilter.complaints)))
  | (files, .error failure) =>
    let words := failure.message ++ "\n"
    (files, if failure.isFatal then .error words else .ok words)

/-- A run of the command of a command line, after its arguments have been read. -/
def invoke (s : Surroundings) (settings : Settings) (warning : String) (call : Invocation) :
    Outcome :=
  match withServer settings call.server with
  | .error flaw =>
    ⟨some 1, "", warning ++ "Error: " ++ flaw.message ++ "\n", s.files, s.network⟩
  | .ok settings =>
    match startLogging s settings with
    | (files, .error words) => ⟨some brokenCode, "", warning ++ words, files, s.network⟩
    | (files, .ok complaint) =>
      let credential := Credential.load files s.environment.tokenFile s.environment.token
      let r := report { s with files } settings credential call.command
      let errors := warning ++ complaint
      let leave := fun exit errors =>
        (⟨exit, r.output, errors, r.scene.files, r.scene.network⟩ : Outcome)
      match r.result with
      | none => leave none errors
      | some (.ok ()) => leave (some 0) errors
      | some (.error failure) => leave (some 1) (errors ++ "Error: " ++ failure.message ++ "\n")

/-- A whole run of the program. Settings that cannot be loaded give way to the standard ones. -/
def run (s : Surroundings) (args : List String) : Outcome :=
  let (settings, warning) := match Settings.load s.files s.environment with
    | .ok (settings, _) => (settings, "")
    | .error e =>
      (Settings.standard,
        "Warning: failed to load config, using defaults: " ++ e.message ++ "\n")
  match Invocation.read args with
  | .error .misuse => ⟨some 2, "", warning ++ usageText ++ "\n", s.files, s.network⟩
  | .error .help => ⟨some 0, usageText ++ "\n", warning, s.files, s.network⟩
  | .error .version => ⟨some 0, versionText ++ "\n", warning, s.files, s.network⟩
  | .ok call => invoke s settings warning call

end Program

end BranchChat
