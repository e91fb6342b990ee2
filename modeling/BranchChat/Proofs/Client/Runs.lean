import BranchChat.Client.Turn

/-!
# Runs of the client

Everything that the program and its user can do to a scene is a move. A scene is reachable if some
client comes to it by moves, whatever the files and the network are.

## Main definitions

- `Scene.Move`, `Scene.run`: what can be done to a scene
- `Scene.Reachable`: the scenes that a client can come to
- `Scene.advances`: asks for one update after the other
-/

namespace BranchChat.Scene

open BranchChat.Execution (FrameGate Moment)
open BranchChat.Session (Credential)
open BranchChat.Web (Backend Network)

/-- What can be done to a scene. An update may be given up while something is fetched for it: then
the delivery is folded, and each fetch is carried out or abandoned. -/
inductive Move where
  | send (content : String) (parent : Option String)
  | resume (approved : Bool)
  | stop (now : Nat)
  | frame (now : Nat)
  | advance (moment : Moment)
  | fold (moment : Moment)
  | fetch (id : String)
  | abandon (call : Web.Call)
  | visit (id : String)
  | loadCatalog
  /-- Another branch is looked at. -/
  | browse (w : Workspace)
  | login (token : String) (now : Int)
  | logout

/-- Carries a move out. -/
def step (s : Scene) : Move → Scene
  | .send content parent => (s.send content parent).1
  | .resume approved => (s.resume approved).1
  | .stop now => s.stop now
  | .frame now => (s.onFrame now).1
  | .advance moment => (s.advance moment).1
  | .fold moment => (s.fold moment).1
  | .fetch id => (s.obtainConversation id).1
  | .abandon call => s.abandonCall call
  | .visit id => (s.visit id).1
  | .loadCatalog => s.loadCatalog.1
  | .browse w => s.onWorkspace fun _ => w
  | .login token now => (s.login token now).1
  | .logout => s.logout

/-- Carries moves out one after the other. -/
def run (s : Scene) (moves : List Move) : Scene :=
  moves.foldl step s

/-- The scenes that a client can come to. -/
def Reachable (s : Scene) : Prop :=
  ∃ (backend : Backend) (credential : Credential) (gate : FrameGate) (files : Files.Store)
    (network : Network) (moves : List Move),
    s = (start (.new backend credential gate) files network).run moves

theorem Reachable.run {s : Scene} (h : s.Reachable) (moves : List Move) :
    (s.run moves).Reachable := by
  obtain ⟨backend, credential, gate, files, network, before, rfl⟩ := h
  refine ⟨backend, credential, gate, files, network, before ++ moves, ?_⟩
  exact List.foldl_append.symm

/-- Asks for one update after the other, and gives the answers in order. -/
def advances (s : Scene) : List Moment → Scene × List Awaited
  | [] => (s, [])
  | moment :: moments =>
    let next := (s.advance moment).1.advances moments
    (next.1, (s.advance moment).2 :: next.2)

end BranchChat.Scene
