import BranchChat.Proofs.Execution.Signals

/-!
# Questions and the phase of a turn

A question is open only while the turn waits for a decision. What an event makes of the phase and
the question can be told from the signal that it gives to the owner.

## Main definitions

- `Execution.OnlyAsksPaused`: a question is open only while the turn waits
- `Execution.Received`: what receiving an event comes to, signal by signal

## Main statements

- `received`: receiving an event comes to one of these
- `OnlyAsksPaused.stop`, `OnlyAsksPaused.showDue`: no question outlives the pause
-/

namespace BranchChat.Execution

open BranchChat.Stream (TurnEvent WireEvent)

variable {x y : Execution} {e : WireEvent} {moment : Moment}

/-- A question is open only while the turn waits for a decision. -/
def OnlyAsksPaused (x : Execution) : Prop :=
  x.question.isSome = true → x.phase = .awaitingDecision

theorem isUnderWay_iff :
    x.isUnderWay = true ↔ x.phase = .streaming ∨ x.phase = .awaitingDecision := by
  simp [isUnderWay]

theorem isUnderWay_congr (h : y.phase = x.phase) : y.isUnderWay = x.isUnderWay := by
  unfold isUnderWay
  rw [h]

/-! ### The life of a turn -/

theorem OnlyAsksPaused.of_none (h : x.question = none) : x.OnlyAsksPaused := by
  intro hsome
  rw [h] at hsome
  cases hsome

theorem OnlyAsksPaused.stop (h : x.OnlyAsksPaused) (now : Nat) : (x.stop now).OnlyAsksPaused := by
  unfold Execution.stop
  split
  · exact .of_none rfl
  · exact h

theorem phase_stop (under : x.isUnderWay = true) (now : Nat) : (x.stop now).phase = .ended := by
  rw [Execution.stop, if_pos under]

theorem phase_stop_ne_streaming (x : Execution) (now : Nat) : (x.stop now).phase ≠ .streaming := by
  by_cases under : x.isUnderWay = true
  · rw [phase_stop under]
    decide
  · rw [Execution.stop, if_neg under]
    intro hstreaming
    exact under (isUnderWay_iff.mpr (.inl hstreaming))

theorem settle_course (x : Execution) (released : FrameGate × Option String) :
    (x.settle released).1.phase = x.phase ∧ (x.settle released).1.question = x.question := by
  rw [settle_eq]
  exact ⟨rfl, rfl⟩

/-- Going on takes the question back. -/
theorem phase_proceed (h : x.phase = .awaitingDecision) :
    x.dropQuestion.proceed.phase = .streaming := by
  have hdrop : x.dropQuestion.phase = .awaitingDecision := h
  rw [proceed, if_pos hdrop]

theorem question_proceed (x : Execution) : x.dropQuestion.proceed.question = none := by
  unfold proceed
  split <;> rfl

/-! ### Events -/

/-- What receiving an event comes to. Without a signal the phase stays, and a question may be
settled; every signal tells what the phase is now. -/
inductive Received (x : Execution) : Execution × Option Signal → Prop where
  | quiet {z : Execution} (phase : z.phase = x.phase)
      (question : z.question = x.question ∨ z.question = none) : Received x (z, none)
  | asked {z : Execution} (phase : z.phase = .awaitingDecision)
      (question : z.question.isSome = true) : Received x (z, some .decisionNeeded)
  | completed {z : Execution} (message : Option String) (phase : z.phase = .ended)
      (question : z.question = none) : Received x (z, some (.completed message))
  | failed {z : Execution} (reason : String) (phase : z.phase = .ended)
      (question : z.question = none) (error : z.error = some reason) : Received x (z, some .failed)

theorem received_absorb (x : Execution) (moment : Moment) (t : TurnEvent) :
    x.Received (x.absorb moment t) := by
  cases t with
  | identifiers conversation message thread => exact .quiet rfl (.inl rfl)
  | agentStarted agent =>
    rw [absorb, withHeldShown_eq]
    exact .quiet rfl (.inl rfl)
  | agentFinished agent =>
    rw [absorb, withHeldShown_eq]
    exact .quiet rfl (.inl rfl)
  | answer text =>
    simp only [absorb]
    split
    · exact .quiet rfl (.inl rfl)
    · obtain ⟨hphase, hquestion⟩ := settle_course
        (x.onCurrent ({ · with isThinking := false })) (x.gate.offer text moment.now)
      exact .quiet hphase (.inl hquestion)
  | reasoning text => exact .quiet rfl (.inl rfl)
  | silence => exact .quiet rfl (.inl rfl)
  | unknown kind => exact .quiet rfl (.inl rfl)
  | wholeAnswer text => exact .quiet rfl (.inl rfl)
  | toolStarted tool agent params => exact .quiet rfl (.inl rfl)
  | toolFinished tool success result duration => exact .quiet rfl (.inl rfl)
  | permissionSettled approved => exact .quiet rfl (.inr rfl)
  | permissionAsked tool params thread message => exact .asked rfl rfl
  | completed message => exact .completed _ rfl rfl
  | failed reason => exact .failed reason rfl rfl rfl

theorem received (x : Execution) (e : WireEvent) (moment : Moment) :
    x.Received (x.receive e moment) := by
  unfold receive
  split
  · exact x.received_absorb moment e.meaning
  · exact .quiet rfl (.inl rfl)

/-- An event after which the turn goes on is not a final one. -/
theorem isLast_eq_false_of_signal (under : x.isUnderWay = true)
    (signal : (x.receive e moment).2 = none ∨ (x.receive e moment).2 = some .decisionNeeded) :
    e.isLast = false := by
  refine Bool.eq_false_iff.mpr fun hlast => ?_
  rcases WireEvent.isLast_iff.mp hlast with hkind | hkind
  · simp [receive_completed under moment hkind] at signal
  · simp [(receive_failed under moment hkind).1] at signal

theorem OnlyAsksPaused.of_same (h : x.OnlyAsksPaused) (phase : y.phase = x.phase)
    (question : y.question = x.question ∨ y.question = none) : y.OnlyAsksPaused := by
  rcases question with hsame | hnone
  · rw [OnlyAsksPaused, hsame, phase]
    exact h
  · exact .of_none hnone

theorem OnlyAsksPaused.showDue (h : x.OnlyAsksPaused) (now : Nat) :
    (x.showDue now).1.OnlyAsksPaused := by
  obtain ⟨hphase, hquestion⟩ := settle_course x (x.gate.releaseDue? now)
  exact h.of_same hphase (.inl hquestion)

end BranchChat.Execution
