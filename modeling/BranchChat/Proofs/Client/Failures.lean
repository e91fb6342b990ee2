import Mathlib.Control.Monad.Basic
import BranchChat.Proofs.Client.Updates

/-!
# Failures

Sending a message, deciding about a permission and opening a conversation consist of several
requests, each of which can fail. By then the turn may have begun, it may have learned names, and
a connection may have been given up for another one. Wherever the failure comes, it leaves the same
scene behind: the turn is over with the error for everyone to see, nothing of it is still to come,
and all that does not belong to the turn is as it was.

## Main definitions

- `Scene.EndedBy`: what a failed operation leaves behind
- `Scene.InTurn`: how far an operation may have come when it fails

## Main statements

- `InTurn.endedBy_noteFailure`: a failure in the middle of an operation ends the turn
- `failure_ends_turn`: so do all failures of the three operations
-/

namespace BranchChat.Scene

open BranchChat.Execution (isUnderWay_iff)
open BranchChat.Web (ApiError)

variable {s t u : Scene} {e : ApiError}

/-- Opening a connection touches neither the turn nor the workspace, whether it succeeds or not. -/
theorem content_attach {reference : String} {answer : Except ApiError Unit}
    (h : s.attach reference = (t, answer)) :
    t.client.execution = s.client.execution ∧ t.client.workspace = s.client.workspace := by
  have haborted := And.intro (abort_execution s) (abort_workspace s)
  simp only [attach] at h
  split at h
  · cases h
    exact haborted
  · split at h
    · next u e' hopen =>
      cases h
      have hkept := kept_of_openEvents hopen
      rw [hkept.execution, hkept.workspace]
      exact haborted
    · next u connection hopen =>
      cases h
      have hkept := kept_of_openEvents hopen
      show u.client.execution = _ ∧ u.client.workspace = _
      rw [hkept.execution, hkept.workspace]
      exact haborted

/-! ### The end of a turn -/

/-- An operation that began with `s` has failed with `e` and left `t` behind. The turn is over and
shows the error. There is no connection, no question and no held text. The workspace and the archive
are those of `s`. -/
structure EndedBy (s : Scene) (e : ApiError) (t : Scene) : Prop where
  phase : t.client.execution.phase = .ended
  error : t.client.execution.error = some e.message
  live : t.client.live = none
  question : t.client.execution.question = none
  held : t.client.execution.gate.held = none
  workspace : t.client.workspace = s.client.workspace
  archive : t.client.execution.archive = s.client.execution.archive

/-- An operation that began with `s` has come to `t`, where a turn is under way. -/
structure InTurn (s t : Scene) : Prop where
  under : t.client.execution.isUnderWay = true
  workspace : t.client.workspace = s.client.workspace
  archive : t.client.execution.archive = s.client.execution.archive

theorem InTurn.refl (under : s.client.execution.isUnderWay = true) : InTurn s s :=
  ⟨under, rfl, rfl⟩

theorem InTurn.kept (h : InTurn s t) (hkept : Kept t u) : InTurn s u := by
  refine ⟨?_, hkept.workspace.trans h.workspace, ?_⟩
  · rw [hkept.execution]
    exact h.under
  · rw [hkept.execution]
    exact h.archive

theorem InTurn.attach {reference : String} {answer : Except ApiError Unit} (h : InTurn s t)
    (hattach : t.attach reference = (u, answer)) : InTurn s u := by
  obtain ⟨hexecution, hworkspace⟩ := content_attach hattach
  refine ⟨?_, hworkspace.trans h.workspace, ?_⟩
  · rw [hexecution]
    exact h.under
  · rw [hexecution]
    exact h.archive

theorem InTurn.learn (h : InTurn s t) (context : Execution.Context) :
    InTurn s (t.onExecution (·.learn context)) :=
  ⟨h.under, h.workspace, h.archive⟩

/-- A failure in the middle of an operation ends the turn. -/
theorem InTurn.endedBy_noteFailure (h : InTurn s t) (e : ApiError) :
    EndedBy s e (t.noteFailure e) := by
  have hexecution := t.execution_noteFailure e
  rw [if_pos h.under] at hexecution
  have hworkspace := (workspace_noteFailure t e).trans h.workspace
  refine ⟨?_, ?_, live_noteFailure h.under e, ?_, ?_, hworkspace, ?_⟩
  all_goals rw [hexecution]
  · rfl
  · rfl
  · rfl
  · rfl
  · exact h.archive

/-! ### Operations -/

/-- A new turn is under way from the beginning, and any request that fails ends it. -/
theorem endedBy_send {content : String} {parent : Option String}
    (h : s.send content parent = (t, .error e)) : EndedBy s e t := by
  simp only [send] at h
  generalize hbegun : s.abort.onExecution _ = begun at h
  have hbegin : InTurn s begun := by
    rw [← hbegun]
    refine ⟨rfl, abort_workspace s, ?_⟩
    show s.abort.client.execution.archive = _
    rw [abort_execution]
  split at h
  · next u e' hcall =>
    cases h
    exact (hbegin.kept (kept_of_call hcall)).endedBy_noteFailure e
  · next u turn hcall =>
    have hlearned := fun context => (hbegin.kept (kept_of_call hcall)).learn context
    split at h
    · next v e' hattach =>
      cases h
      exact ((hlearned _).attach hattach).endedBy_noteFailure e
    · cases (Prod.mk.inj h).2

/-- A turn that waits for a decision is under way, and a decision that fails ends it. -/
theorem endedBy_resume {approved : Bool} (hphase : s.client.execution.phase = .awaitingDecision)
    (h : s.resume approved = (t, .error e)) : EndedBy s e t := by
  have hwaits : InTurn s s := .refl (isUnderWay_iff.mpr (.inr hphase))
  simp only [resume, hphase, ne_eq, not_true_eq_false, if_false] at h
  split at h
  · cases h
    exact hwaits.endedBy_noteFailure _
  · split at h
    · next u e' hcall =>
      cases h
      exact (hwaits.kept (kept_of_call hcall)).endedBy_noteFailure e
    · next u turn hcall =>
      split at h
      · next v e' hattach =>
        cases h
        exact ((hwaits.kept (kept_of_call hcall)).attach hattach).endedBy_noteFailure e
      · cases (Prod.mk.inj h).2

theorem visit_eq_error {id : String} (h : s.visit id = (t, .error e)) :
    ∃ u, Kept s u ∧ t = u.noteFailure e := by
  simp only [visit] at h
  split at h
  · next u e' htake =>
    cases h
    exact ⟨u, takeOver_eq_error htake, rfl⟩
  · cases (Prod.mk.inj h).2

/-- Opening a conversation needs no turn. One that is under way ends with the failure; otherwise
there is nothing to end. -/
theorem visit_failed {id : String} (h : s.visit id = (t, .error e)) :
    (s.client.execution.isUnderWay = true → EndedBy s e t) ∧
      (s.client.execution.isUnderWay = false →
        t.client.execution = s.client.execution ∧ t.client.workspace = s.client.workspace) := by
  obtain ⟨u, hkept, rfl⟩ := visit_eq_error h
  constructor
  · intro under
    exact ((InTurn.refl under).kept hkept).endedBy_noteFailure e
  · intro idle
    have hover : ¬u.client.execution.isUnderWay = true := by
      rw [hkept.execution, idle]
      exact Bool.false_ne_true
    rw [execution_noteFailure, if_neg hover, workspace_noteFailure]
    exact ⟨hkept.execution, hkept.workspace⟩

/-- A failure of sending a message, of deciding about a permission while the turn waits for the
decision, or of opening a conversation while a turn is under way ends the turn: the phase, the
error, the connection, the question and the held text say so, and the workspace and the archive stay
the same. Where no turn is under way, opening a conversation in vain changes nothing of the turn and
the workspace. -/
theorem failure_ends_turn (s : Scene) :
    (∀ content parent e, (s.send content parent).2 = .error e →
      EndedBy s e (s.send content parent).1) ∧
    (s.client.execution.phase = .awaitingDecision →
      ∀ approved e, (s.resume approved).2 = .error e → EndedBy s e (s.resume approved).1) ∧
    ∀ id e, (s.visit id).2 = .error e →
      (s.client.execution.isUnderWay = true → EndedBy s e (s.visit id).1) ∧
      (s.client.execution.isUnderWay = false →
        (s.visit id).1.client.execution = s.client.execution ∧
        (s.visit id).1.client.workspace = s.client.workspace) := by
  refine ⟨fun content parent e h => ?_, fun hphase approved e h => ?_, fun id e h => ?_⟩
  · exact endedBy_send (Prod.ext rfl h)
  · exact endedBy_resume hphase (Prod.ext rfl h)
  · exact visit_failed (Prod.ext rfl h)

/-- A client in the middle of an answer, of which the last words are held back. -/
def speaking : Scene :=
  let turn := "\x7b\"conversation_id\":\"c\",\"message_id\":\"m\"," ++
    "\"thread_id\":\"t\",\"stream_url\":\"/1\"\x7d"
  let events := "data: \x7b\"type\":\"agent_start\",\"agent_name\":\"A\"\x7d\n" ++
    "data: \x7b\"type\":\"llm_chunk\",\"content\":\"a\"\x7d\n" ++
    "data: \x7b\"type\":\"llm_chunk\",\"content\":\"ab\"\x7d\n"
  let waiting := start (.new ⟨"http://[::1]"⟩ (.unstored (some "token")) (.fresh 16)) default
    .offline
  (waiting.facing [.ofText 200 turn, .ofText 200 events]).run
    [.send "Hi" none, .advance ⟨0, 0, 0⟩, .advance ⟨1, 0, 1⟩, .advance ⟨2, 0, 2⟩]

/-- One failure of each kind: the backend turns the credential down; it takes the decision and then
gives no events; it gives the conversation and not the artifacts, while an answer is coming in; and
it cannot be reached at all, while nothing is under way. -/
theorem failure_ends_turn_speaking :
    let rejected := speaking.facing [.ofText 401 ""]
    let cutOff := asked.facing [.ofText 200 "\x7b\"stream_url\":\"/2\"\x7d", .ofText 500 "down"]
    let halfway := speaking.facing [.ofText 200 "\x7b\"id\":\"c\"\x7d", .ofText 503 "busy"]
    let unheard := asking.facing [.unreachable]
    speaking.client.execution.gate.held = some "ab" ∧
    (rejected.send "Again" none).2 = .error .sessionExpired ∧
    EndedBy rejected .sessionExpired (rejected.send "Again" none).1 ∧
    cutOff.client.execution.phase = .awaitingDecision ∧
    (cutOff.resume true).2 = .error (.status 500 "down") ∧
    EndedBy cutOff (.status 500 "down") (cutOff.resume true).1 ∧
    halfway.client.execution.isUnderWay = true ∧
    (halfway.visit "c").2 = .error (.status 503 "busy") ∧
    EndedBy halfway (.status 503 "busy") (halfway.visit "c").1 ∧
    unheard.client.execution.isUnderWay = false ∧
    (unheard.visit "c").2 =
      .error (.transport (.unanswered "http://[::1]/api/conversations/c")) ∧
    (unheard.visit "c").1.client.execution = unheard.client.execution := by
  intro rejected cutOff halfway unheard
  -- Each of the two runs is evaluated once for all that the theorem asks for.
  obtain ⟨hheld, hunder, hrejected, hhalfway⟩ :
      speaking.client.execution.gate.held = some "ab" ∧
      halfway.client.execution.isUnderWay = true ∧
      (rejected.send "Again" none).2 = .error .sessionExpired ∧
      (halfway.visit "c").2 = .error (.status 503 "busy") := by decide +kernel
  obtain ⟨hphase, hcutOff⟩ : cutOff.client.execution.phase = .awaitingDecision ∧
      (cutOff.resume true).2 = .error (.status 500 "down") := by decide +kernel
  have hunheard : (unheard.visit "c").2 =
      .error (.transport (.unanswered "http://[::1]/api/conversations/c")) := by decide +kernel
  obtain ⟨hsend, -, -⟩ := failure_ends_turn rejected
  obtain ⟨-, hresume, -⟩ := failure_ends_turn cutOff
  obtain ⟨-, -, hvisit⟩ := failure_ends_turn halfway
  obtain ⟨-, -, hidle⟩ := failure_ends_turn unheard
  exact ⟨hheld, hrejected, hsend _ _ _ hrejected, hphase, hcutOff, hresume hphase _ _ hcutOff,
    hunder, hhalfway, (hvisit _ _ hhalfway).1 hunder, rfl, hunheard,
    ((hidle _ _ hunheard).2 rfl).1⟩

end BranchChat.Scene
