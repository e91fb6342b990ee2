import BranchChat.Client.Basic

/-!
# Aborting

Whoever aborts a connection cancels it and lets go of it, and touches nothing else. A failed request
is noted by aborting, too: if the session has expired the credential goes, and if a turn is under
way it ends with the error.

## Main definitions

- `Scene.afterExpiry`: what a failure means for the session

## Main statements

- `noteFailure_eq`: what it means for the turn
-/

namespace BranchChat.Scene

open BranchChat.Web (ApiError)

variable {s : Scene}

/-! ### What aborting leaves alone -/

@[simp]
theorem dropLive_live (s : Scene) : s.dropLive.client.live = none := by
  unfold dropLive
  split
  · rfl
  · next h => exact h

@[simp]
theorem abort_live (s : Scene) : s.abort.client.live = none := by
  unfold abort
  split <;> exact dropLive_live _

@[simp]
theorem dropLive_execution (s : Scene) : s.dropLive.client.execution = s.client.execution := by
  unfold dropLive
  split <;> rfl

@[simp]
theorem abort_execution (s : Scene) : s.abort.client.execution = s.client.execution := by
  unfold abort
  split <;> exact dropLive_execution _

@[simp]
theorem dropLive_workspace (s : Scene) : s.dropLive.client.workspace = s.client.workspace := by
  unfold dropLive
  split <;> rfl

@[simp]
theorem abort_workspace (s : Scene) : s.abort.client.workspace = s.client.workspace := by
  unfold abort
  split <;> exact dropLive_workspace _

@[simp]
theorem dropLive_credential (s : Scene) : s.dropLive.client.credential = s.client.credential := by
  unfold dropLive
  split <;> rfl

@[simp]
theorem abort_credential (s : Scene) : s.abort.client.credential = s.client.credential := by
  unfold abort
  split <;> exact dropLive_credential _

@[simp]
theorem dropLive_network (s : Scene) : s.dropLive.network = s.network := by
  unfold dropLive
  split <;> rfl

@[simp]
theorem abort_network (s : Scene) : s.abort.network = s.network := by
  unfold abort
  split <;> exact dropLive_network _

/-- Letting go of the live connection changes nothing but this and the marks. -/
theorem dropLive_eq (s : Scene) :
    ∃ marks, s.dropLive = { s with client.live := none, marks := marks } := by
  obtain ⟨⟨_, _, _, _, live, _⟩, _, _, _⟩ := s
  cases live <;> exact ⟨_, rfl⟩

/-- So does aborting, except that there is no latest connection after it. -/
theorem abort_eq (s : Scene) :
    ∃ marks, s.abort = { s with client.live := none, client.mark := none, marks := marks } := by
  obtain ⟨⟨_, _, _, _, live, mark⟩, _, _, _⟩ := s
  cases live <;> cases mark <;> exact ⟨_, rfl⟩

/-! ### Failures -/

/-- The scene after a failure that may end the session, before the turn takes note of it. -/
def afterExpiry (s : Scene) (e : ApiError) : Scene :=
  if e.isExpiry then s.abort.expire else s

@[simp]
theorem afterExpiry_execution (s : Scene) (e : ApiError) :
    (s.afterExpiry e).client.execution = s.client.execution := by
  by_cases h : e.isExpiry = true
  · simp only [afterExpiry, h, if_true]
    exact abort_execution s
  · simp only [afterExpiry, h, Bool.false_eq_true, if_false]

@[simp]
theorem afterExpiry_workspace (s : Scene) (e : ApiError) :
    (s.afterExpiry e).client.workspace = s.client.workspace := by
  by_cases h : e.isExpiry = true
  · simp only [afterExpiry, h, if_true]
    exact abort_workspace s
  · simp only [afterExpiry, h, Bool.false_eq_true, if_false]

@[simp]
theorem afterExpiry_network (s : Scene) (e : ApiError) :
    (s.afterExpiry e).network = s.network := by
  by_cases h : e.isExpiry = true
  · simp only [afterExpiry, h, if_true]
    exact abort_network s
  · simp only [afterExpiry, h, Bool.false_eq_true, if_false]

/-- A failure is noted in the turn only while one is under way. -/
theorem noteFailure_eq (s : Scene) (e : ApiError) :
    s.noteFailure e =
      if s.client.execution.isUnderWay then
        (s.afterExpiry e).abort.onExecution (·.fail e.message)
      else s.afterExpiry e := by
  rw [← afterExpiry_execution s e]
  rfl

/-- A failure changes the turn only if one is under way. -/
theorem execution_noteFailure (s : Scene) (e : ApiError) :
    (s.noteFailure e).client.execution =
      if s.client.execution.isUnderWay then s.client.execution.fail e.message
      else s.client.execution := by
  rw [noteFailure_eq]
  split
  · show (s.afterExpiry e).abort.client.execution.fail e.message = _
    rw [abort_execution, afterExpiry_execution]
  · exact afterExpiry_execution s e

@[simp]
theorem workspace_noteFailure (s : Scene) (e : ApiError) :
    (s.noteFailure e).client.workspace = s.client.workspace := by
  rw [noteFailure_eq]
  split
  · exact (abort_workspace _).trans (afterExpiry_workspace s e)
  · exact afterExpiry_workspace s e

@[simp]
theorem network_noteFailure (s : Scene) (e : ApiError) :
    (s.noteFailure e).network = s.network := by
  rw [noteFailure_eq]
  split
  · exact (abort_network _).trans (afterExpiry_network s e)
  · exact afterExpiry_network s e

/-- A failure of a turn under way cancels the connection. -/
theorem live_noteFailure (under : s.client.execution.isUnderWay = true) (e : ApiError) :
    (s.noteFailure e).client.live = none := by
  rw [noteFailure_eq, if_pos under]
  exact abort_live _

end BranchChat.Scene
