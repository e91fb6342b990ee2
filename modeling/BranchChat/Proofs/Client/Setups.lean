import BranchChat.Proofs.Client.Requests
import BranchChat.Proofs.Client.Aborting
import BranchChat.Proofs.Client.Runs
import BranchChat.Proofs.Execution.Gates

/-!
# What a client is set up with

A client is given its backend, the file of its credential and the length of a frame when it is
made. No move changes them.

## Main definitions

- `Scene.Setup`: what a client is set up with

## Main statements

- `setup_step`, `setup_run`: moves leave it alone
-/

namespace BranchChat

open BranchChat.Execution (FrameGate Moment)
open BranchChat.Json (ReaderOf)
open BranchChat.Stream (WireEvent)
open BranchChat.Web

/-! ### The length of a frame -/

theorem Execution.FrameGate.Moved.interval_eq {g g' : FrameGate} {now : Nat} (h : g.Moved now g') :
    g'.interval = g.interval := by
  have hrelease (g : FrameGate) : (g.release? now).1.interval = g.interval := by
    unfold FrameGate.release?
    split <;> rfl
  have hdue (g : FrameGate) : (g.releaseDue? now).1.interval = g.interval := by
    unfold FrameGate.releaseDue?
    split
    · exact hrelease g
    · rfl
  cases h with
  | stays => rfl
  | drops => rfl
  | releases => exact hrelease g
  | releasesDue => exact hdue g
  | offers text => exact hdue { g with held := some text }

namespace Scene

/-- What a client is set up with. -/
structure Setup where
  backend : Backend
  file : Option Files.Path
  interval : Nat

/-- What the client of a scene is set up with. -/
def setup (s : Scene) : Setup :=
  ⟨s.client.backend, s.client.credential.file, s.client.execution.gate.interval⟩

variable {s t : Scene}

theorem Requested.setup_eq (h : Requested s t) : t.setup = s.setup := by
  cases h <;> rfl

theorem setup_of_call {α : Type} {read : ReaderOf α} {c : Call} {answer : Except ApiError α}
    (h : s.call read c = (t, answer)) : t.setup = s.setup :=
  (requested_of_call h).setup_eq

/-! ### Changes of one part -/

theorem setup_onMove (s : Scene) (moment : Moment) (move : Execution.Move) :
    (s.onExecution fun x => (x.step moment move).1).setup = s.setup := by
  have hinterval := (s.client.execution.gate_step moment move).interval_eq
  exact congrArg (Setup.mk s.client.backend s.client.credential.file) hinterval

theorem setup_dropLive (s : Scene) : s.dropLive.setup = s.setup := by
  obtain ⟨marks, heq⟩ := s.dropLive_eq
  rw [heq]
  rfl

theorem setup_abort (s : Scene) : s.abort.setup = s.setup := by
  obtain ⟨marks, heq⟩ := s.abort_eq
  rw [heq]
  rfl

theorem setup_noteFailure (s : Scene) (e : ApiError) : (s.noteFailure e).setup = s.setup := by
  have hexpiry : (s.afterExpiry e).setup = s.setup := by
    unfold afterExpiry
    split
    · exact s.setup_abort
    · rfl
  rw [noteFailure_eq]
  split
  · exact (setup_onMove _ default (.fail e.message)).trans ((setup_abort _).trans hexpiry)
  · exact hexpiry

theorem setup_of_attach {reference : String} {answer : Except ApiError Unit}
    (h : s.attach reference = (t, answer)) : t.setup = s.setup := by
  unfold attach at h
  dsimp only at h
  split at h
  · cases h
    exact s.setup_abort
  · split at h
    · next hopen =>
      cases h
      exact (requested_of_openEvents hopen).setup_eq.trans s.setup_abort
    · next hopen =>
      cases h
      exact (requested_of_openEvents hopen).setup_eq.trans s.setup_abort

/-! ### Moves -/

theorem setup_send (s : Scene) (content : String) (parent : Option String) :
    (s.send content parent).1.setup = s.setup := by
  have hbegun (context : Execution.Context) :
      (s.abort.onExecution (·.begin context content)).setup = s.setup :=
    (setup_onMove _ default (.begin context content)).trans s.setup_abort
  unfold send
  dsimp only
  split
  · next t e hcall => rw [setup_noteFailure, setup_of_call hcall, hbegun]
  · next t turn hcall =>
    have hlearned (context : Execution.Context) :
        (t.onExecution (·.learn context)).setup = s.setup := by
      rw [← hbegun, ← setup_of_call hcall]
      exact setup_onMove t default (.learn context)
    split
    · next hattach => rw [setup_noteFailure, setup_of_attach hattach, hlearned]
    · next hattach => rw [setup_of_attach hattach, hlearned]

theorem setup_resume (s : Scene) (approved : Bool) : (s.resume approved).1.setup = s.setup := by
  unfold resume
  split
  · rfl
  · split
    · exact s.setup_noteFailure _
    · dsimp only
      split
      · next hcall => rw [setup_noteFailure, setup_of_call hcall]
      · next t turn hcall =>
        split
        · next hattach => rw [setup_noteFailure, setup_of_attach hattach, setup_of_call hcall]
        · next u hattach =>
          rw [← setup_of_call hcall, ← setup_of_attach hattach]
          exact (setup_onMove _ default .proceed).trans (setup_onMove u default .dropQuestion)

theorem setup_foldEvent (s : Scene) (e : WireEvent) (moment : Moment) :
    (s.foldEvent e moment).1.setup = s.setup := by
  have hreceived := s.setup_onMove moment (.receive e)
  have haborted := (setup_abort _).trans hreceived
  unfold foldEvent
  dsimp only
  split
  · exact hreceived
  · exact hreceived
  · exact haborted
  · split
    · exact (setup_onMove _ default .clear).trans haborted
    · exact haborted

theorem setup_fold (s : Scene) (moment : Moment) : (s.fold moment).1.setup = s.setup := by
  unfold fold
  split
  · rfl
  · dsimp only
    split
    · rfl
    · exact setup_dropLive _
    · exact setup_foldEvent _ _ moment
    · exact (setup_onMove _ moment .stop).trans (setup_dropLive _)
    · split
      · exact (setup_onMove _ moment (.fail closedEarly)).trans (setup_dropLive _)
      · exact setup_dropLive _
    · exact setup_noteFailure _ _

theorem setup_settle (s : Scene) (message : Option String)
    (fetched : Option (Conversation × List Artifact)) :
    (s.settle message fetched).setup = s.setup := by
  cases fetched <;> rfl

theorem setup_reconcile (s : Scene) (message : Option String) (conversation : String) :
    (s.reconcile message conversation).setup = s.setup := by
  unfold reconcile obtainConversation obtainArtifacts
  split
  · next hcall => rw [setup_settle, setup_of_call hcall]
  · next hcall =>
    split
    · next hartifacts => rw [setup_settle, setup_of_call hartifacts, setup_of_call hcall]
    · next hartifacts => rw [setup_settle, setup_of_call hartifacts, setup_of_call hcall]

theorem setup_advance (s : Scene) (moment : Moment) : (s.advance moment).1.setup = s.setup := by
  have hfold := s.setup_fold moment
  unfold advance
  split
  · next heq => rwa [heq] at hfold
  · next heq =>
    rw [heq] at hfold
    rw [setup_reconcile, hfold]

theorem setup_visit (s : Scene) (id : String) : (s.visit id).1.setup = s.setup := by
  have htake : (s.takeOver id).1.setup = s.setup := by
    unfold takeOver obtainConversation obtainArtifacts
    split
    · next hcall => exact setup_of_call hcall
    · next hcall =>
      split
      · next hartifacts => exact (setup_of_call hartifacts).trans (setup_of_call hcall)
      · next hartifacts => exact (setup_of_call hartifacts).trans (setup_of_call hcall)
  unfold visit
  split
  · next heq =>
    rw [heq] at htake
    rw [setup_noteFailure, htake]
  · next heq => rwa [heq] at htake

theorem setup_loadCatalog (s : Scene) : s.loadCatalog.1.setup = s.setup := by
  unfold loadCatalog
  split
  · next t _ hcall => exact setup_of_call hcall
  · next t _ hcall =>
    show t.setup = s.setup
    exact setup_of_call hcall

theorem file_keep (c : Session.Credential) (files : Files.Store) (token : String) (now : Int)
    {c' : Session.Credential} {files' : Files.Store}
    (h : c.keep files token now = (files', .ok c')) : c'.file = c.file := by
  unfold Session.Credential.keep at h
  split at h
  · cases h
    rfl
  · split at h
    · cases (Prod.mk.inj h).2
    · split at h
      · cases (Prod.mk.inj h).2
      · cases h
        rfl

theorem setup_login (s : Scene) (token : String) (now : Int) :
    (s.login token now).1.setup = s.setup := by
  unfold login
  split
  · next hkeep =>
    exact congrArg (Setup.mk s.client.backend · s.client.execution.gate.interval)
      (file_keep _ _ _ _ hkeep)
  · rfl

/-- No move changes what the client is set up with. -/
theorem setup_step (s : Scene) (move : Move) : (s.step move).setup = s.setup := by
  cases move with
  | send content parent => exact s.setup_send content parent
  | resume approved => exact s.setup_resume approved
  | stop now => exact (setup_onMove _ ⟨now, 0, 0⟩ .stop).trans s.setup_abort
  | frame now => exact s.setup_onMove ⟨now, 0, 0⟩ .showDue
  | advance moment => exact s.setup_advance moment
  | fold moment => exact s.setup_fold moment
  | fetch id => exact (s.requested_call _ _).setup_eq
  | abandon call => exact (s.requested_abandonCall call).setup_eq
  | visit id => exact s.setup_visit id
  | loadCatalog => exact s.setup_loadCatalog
  | browse w => rfl
  | login token now => exact s.setup_login token now
  | logout => exact (setup_onMove _ default .wipe).trans s.setup_abort

theorem setup_run (s : Scene) (moves : List Move) : (s.run moves).setup = s.setup := by
  induction moves generalizing s with
  | nil => rfl
  | cons move moves ih => exact (ih (s.step move)).trans (s.setup_step move)

end Scene

end BranchChat
