import BranchChat.Client.Chat
import BranchChat.Proofs.Client.Updates

/-!
# Deliveries and moves

What a delivery does to a turn can be told from the update that it gives. A chat waits for the
network, waits for a row of input, or is over.

## Main definitions

- `Scene.Course`: what taking a delivery does to the turn, update by update
- `Chat.Stage.isBusy`, `Chat.Stage.isOver`: what a chat waits for

## Main statements

- `course_fold`: taking a delivery comes to one of these
- `run_concat`: one more move
-/

namespace BranchChat

open BranchChat.Execution (Moment)
open BranchChat.Stream (Connection WireEvent)

namespace Scene

variable {s : Scene}

/-- What taking a delivery does to the turn. In a steady scene no delivery stops it. -/
inductive Course (s : Scene) : Scene × Folded → Prop where
  | pending {t : Scene} {p : Awaited} (none : ∀ u, p ≠ .update u)
      (execution : t.client.execution = s.client.execution) : Course s (t, .settled p)
  | progress {t : Scene} : Course s (t, .settled (.update .progress))
  | asked {t : Scene} (question : t.client.execution.question.isSome = true) :
      Course s (t, .settled (.update .decisionNeeded))
  | completed {t : Scene} {message : Option String} (live : t.client.live = none)
      (phase : t.client.execution.phase = .idle) :
      Course s (t, .settled (.update (.completed message)))
  | failed {t : Scene} {reason : String} : Course s (t, .settled (.update (.failed reason)))
  | paused {t : Scene} : Course s (t, .settled (.update .paused))
  | stopped {t : Scene} (unsteady : ¬s.Steady) : Course s (t, .settled (.update .stopped))
  | refreshing {t : Scene} {message : Option String} {id : String} (live : t.client.live = none)
      (phase : t.client.execution.phase = .ended) : Course s (t, .refreshing message id)

theorem course_foldEvent (s t : Scene) (e : WireEvent) (moment : Moment) :
    s.Course (t.foldEvent e moment) := by
  have hreceived := Execution.received t.client.execution e moment
  unfold foldEvent
  generalize t.client.execution.receive e moment = result at hreceived
  cases hreceived with
  | quiet phase question => exact .progress
  | asked phase question => exact .asked question
  | @completed x message phase question =>
    dsimp only
    split
    · exact .completed (abort_live _) rfl
    · refine .refreshing (abort_live _) ?_
      rw [abort_execution]
      exact phase
  | failed reason phase question error => exact .failed

theorem course_fold (s : Scene) (moment : Moment) : s.Course (s.fold moment) := by
  unfold fold
  split
  · exact .pending nofun rfl
  · next live hlive =>
    dsimp only
    split
    · exact .pending nofun rfl
    · exact .pending nofun (dropLive_execution _)
    · exact s.course_foldEvent _ _ moment
    · next hpoll =>
      refine .stopped fun steady => ?_
      have hgiven := Connection.given_poll (steady.goesOn live hlive)
      rw [(steady.live live hlive).2.2] at hpoll
      generalize live.connection.poll false = result at hgiven hpoll
      cases hgiven with
      | waiting rest => cases hpoll
      | event e rest => cases hpoll
      | ended ending foreign =>
        cases hpoll
        exact foreign rfl
    · split
      · exact .failed
      · exact .paused
    · exact .failed

end Scene

namespace Chat

variable {c : Chat}

/-- Whether a chat waits for the network. -/
def Stage.isBusy : Stage → Bool
  | .watching _ | .fetching .. | .fetchingArtifacts .. => true
  | .asking | .over _ => false

/-- Whether a chat is over. -/
def Stage.isOver : Stage → Bool
  | .over _ => true
  | .watching _ | .fetching .. | .fetchingArtifacts .. | .asking => false

theorem Stage.isOver_of_isBusy {stage : Stage} (h : stage.isBusy = true) :
    stage.isOver = false := by
  cases stage with
  | watching _ => rfl
  | fetching _ _ _ => rfl
  | fetchingArtifacts _ _ _ _ => rfl
  | asking => rfl
  | _ => cases h

theorem isBusy_of_due? {due : Nat} (h : c.due? = some due) : c.stage.isBusy = true := by
  unfold due? at h
  cases hstage : c.stage with
  | watching _ => rfl
  | fetching _ _ _ => rfl
  | fetchingArtifacts _ _ _ _ => rfl
  | _ =>
    rw [hstage] at h
    cases h

theorem run_concat (c : Chat) (moves : List Move) (move : Move) :
    c.run (moves ++ [move]) = (c.run moves).step move :=
  List.foldl_append

end Chat

end BranchChat
