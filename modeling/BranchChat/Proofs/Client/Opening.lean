import BranchChat.Proofs.Client.Marks

/-!
# How a turn gets its connection

Sending a message and deciding about a permission both open a new connection, in place of any other.
If they succeed, two requests were answered: the body of the second reply is what the connection has
to read.

## Main definitions

- `Scene.Opened`: a connection was opened for a turn

## Main statements

- `send_eq_ok`, `resume_eq_ok`: both open a connection, and what the message of the turn is then
-/

namespace BranchChat.Scene

open BranchChat.Stream (Arrival Connection)
open BranchChat.Web

variable {s t : Scene}

/-- From `s` to `t` two requests were answered, the second one by a connection with a body to read.
It is live and not cancelled, and the turn goes on. -/
structure Opened (s t : Scene) (body : List Arrival) : Prop where
  replies : ∃ first status, isSuccess status = true ∧
    s.network.replies = first :: .answered status body :: t.network.replies
  live : ∃ mark, t.client.live = some ⟨mark, .opened body⟩ ∧ t.isCancelled mark = false
  streaming : t.client.execution.phase = .streaming

theorem attach_eq_ok {reference : String} (h : s.attach reference = (t, .ok ()))
    (marks : s.MarksIssued) :
    ∃ status body, isSuccess status = true ∧
      s.network.replies = .answered status body :: t.network.replies ∧
      (∃ mark, t.client.live = some ⟨mark, .opened body⟩ ∧ t.isCancelled mark = false) ∧
      t.client.execution = s.client.execution := by
  unfold attach at h
  dsimp only at h
  split at h
  · cases (Prod.mk.inj h).2
  · split at h
    · cases (Prod.mk.inj h).2
    · next u connection hopen =>
      obtain ⟨rfl, -⟩ := Prod.mk.inj h
      -- The mark of the new connection is the next one, which nobody can have cancelled.
      have hfresh := marks.abort.isCancelled_issued
      have hkept := kept_of_openEvents hopen
      obtain ⟨status, body, hsuccess, rfl, hreplies⟩ := openEvents_eq_ok hopen hfresh
      refine ⟨status, body, hsuccess, ?_, ⟨_, rfl, ?_⟩, ?_⟩
      · rw [← hreplies]
        exact congrArg Network.replies s.abort_network.symm
      · show u.marks.cancelled.contains _ = false
        rw [hkept.marks]
        exact hfresh
      · exact hkept.execution.trans s.abort_execution

/-- Sending a message opens a connection, in a turn with the message that the backend has named. -/
theorem send_eq_ok {content : String} {parent : Option String}
    (h : s.send content parent = (t, .ok ())) (marks : s.MarksIssued) :
    (∃ body, Opened s t body) ∧
      ∃ status first turn, s.network.replies.head? = some (.answered status first) ∧
        readBody StartedTurn.read first = .ok turn ∧
        t.client.execution.context.message = some turn.message := by
  unfold send at h
  dsimp only at h
  split at h
  · cases (Prod.mk.inj h).2
  · next u turn hcall =>
    split at h
    · cases (Prod.mk.inj h).2
    · next v hattach =>
      obtain ⟨rfl, -⟩ := Prod.mk.inj h
      have hkept := kept_of_call hcall
      have hmarks := hkept.marksIssued (marks.abort.onExecution _)
      obtain ⟨status, body, hsuccess, hreplies, hlive, hexecution⟩ :=
        attach_eq_ok hattach (hmarks.onExecution _)
      obtain ⟨status', first, -, hread, hreplies'⟩ := call_eq_ok hcall
      have hfirst : s.network.replies = .answered status' first :: u.network.replies := by
        rw [← hreplies']
        exact congrArg Network.replies s.abort_network.symm
      refine ⟨⟨body, ⟨.answered status' first, status, hsuccess, ?_⟩, hlive, ?_⟩,
        status', first, turn, ?_, hread, ?_⟩
      · exact hfirst.trans (congrArg _ hreplies)
      · rw [hexecution]
        exact congrArg Execution.phase hkept.execution
      · rw [hfirst, List.head?_cons]
      · rw [hexecution]
        rfl

/-- Deciding opens a connection, in a turn with the message that it had before. -/
theorem resume_eq_ok {approved : Bool} (h : s.resume approved = (t, .ok ()))
    (marks : s.MarksIssued) :
    (∃ body, Opened s t body) ∧
      t.client.execution.context.message = s.client.execution.context.message := by
  unfold resume at h
  split at h
  · cases (Prod.mk.inj h).2
  · next hphase =>
    split at h
    · cases (Prod.mk.inj h).2
    · dsimp only at h
      split at h
      · cases (Prod.mk.inj h).2
      · next u turn hcall =>
        split at h
        · cases (Prod.mk.inj h).2
        · next v hattach =>
          obtain ⟨rfl, -⟩ := Prod.mk.inj h
          have hkept := kept_of_call hcall
          obtain ⟨status, body, hsuccess, hreplies, hlive, hexecution⟩ :=
            attach_eq_ok hattach (hkept.marksIssued marks)
          obtain ⟨status', first, -, -, hreplies'⟩ := call_eq_ok hcall
          -- Neither the request nor the connection has touched the execution.
          have hsame : v.client.execution = s.client.execution := hexecution.trans hkept.execution
          have hphase' : v.client.execution.phase = .awaitingDecision := by
            rw [hsame]
            exact Decidable.not_not.mp hphase
          refine ⟨⟨body, ⟨.answered status' first, status, hsuccess, ?_⟩, hlive, ?_⟩, ?_⟩
          · exact hreplies'.trans (congrArg _ hreplies)
          · simp [onExecution, Execution.proceed, Execution.dropQuestion, hphase']
          · rw [← hsame]
            simp [onExecution, Execution.proceed, Execution.dropQuestion, hphase']

end BranchChat.Scene
