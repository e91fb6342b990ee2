import BranchChat.Proofs.Client.Opening
import BranchChat.Proofs.Execution.Signals
import BranchChat.Proofs.Stream.Backlog

/-!
# One update of a turn

An update takes one delivery of the live connection. An event in the middle of the turn is folded
and the connection goes on; a final event or an ending lets go of the connection.

## Main definitions

- `Scene.reading`: the scene with another connection in place of the live one
- `Update.ofEvent`, `Update.ofLast`, `Update.ofEnding`: the update for a delivery

## Main statements

- `advance_of_event`, `advance_of_last`, `advance_of_ending`: the update that comes with each
-/

namespace BranchChat

open BranchChat.Execution (Moment)
open BranchChat.Stream (Connection Ending Polled WireEvent)
open BranchChat.Web (ApiError)

/-- The update for an event that is not final. -/
def Update.ofEvent (e : WireEvent) : Update :=
  if e.asks then .decisionNeeded else .progress

/-- The update for a final event, in a turn that has a message so far. -/
def Update.ofLast (message : Option String) (e : WireEvent) : Update :=
  if e.kind = "complete" then .completed (e.data.textAt? "message_id" <|> message)
  else .failed e.reason

/-- The update for an ending before any final event, where the turn may have been asked for a
permission. -/
def Update.ofEnding (asked : Bool) : Ending → Update
  | .broken cause => .failed (ApiError.transport cause).message
  | .closed _ => if asked then .paused else .failed Scene.closedEarly

namespace Scene

variable {s : Scene} {live : Client.Live} {next : Connection} {e : WireEvent} {moment : Moment}

/-- The scene with another connection in place of the live one. -/
def reading (s : Scene) (c : Connection) : Scene :=
  { s with client.live := s.client.live.map ({ · with connection := c }) }

/-- The scene after an event is received. -/
def received (s : Scene) (e : WireEvent) (moment : Moment) : Scene :=
  s.onExecution fun _ => (s.client.execution.receive e moment).1

theorem live_reading (hlive : s.client.live = some live) (c : Connection) :
    (s.reading c).client.live = some { live with connection := c } := by
  rw [reading, hlive]
  rfl

theorem reading_reading (s : Scene) (c c' : Connection) :
    (s.reading c).reading c' = s.reading c' := by
  unfold reading
  rw [Option.map_map]
  rfl

/-- Aborting lets go of the live connection, whichever it is. -/
theorem abort_reading (s : Scene) (c : Connection) : (s.reading c).abort = s.abort := by
  obtain ⟨⟨_, _, _, _, live, mark⟩, _, _, _⟩ := s
  cases live <;> cases mark <;> rfl

/-! ### Events -/

/-- Folding an event that is not final changes the execution only. -/
theorem foldEvent_of_event (under : s.client.execution.isUnderWay = true)
    (h : e.isLast = false) (moment : Moment) :
    s.foldEvent e moment = (s.received e moment, .settled (.update (.ofEvent e))) := by
  obtain ⟨hsignal, -, -⟩ := Execution.receive_of_isLast_eq_false under moment h
  unfold foldEvent received Update.ofEvent
  dsimp only
  rw [hsignal]
  by_cases hasks : e.asks = true
  · rw [if_pos hasks, if_pos hasks]
  · rw [if_neg hasks, if_neg hasks]

/-- Folding a final event lets go of the live connection, so it does not matter what is left of
it. -/
theorem foldEvent_reading (under : s.client.execution.isUnderWay = true) (h : e.isLast = true)
    (c : Connection) (moment : Moment) :
    (s.reading c).foldEvent e moment = s.foldEvent e moment := by
  have habort : ((s.reading c).received e moment).abort = (s.received e moment).abort :=
    abort_reading (s.received e moment) c
  have hexecution : (s.reading c).client.execution = s.client.execution := rfl
  unfold foldEvent
  dsimp only
  rw [hexecution]
  rcases Stream.WireEvent.isLast_iff.mp h with hkind | hkind
  · rw [Execution.receive_completed under moment hkind]
    dsimp only
    split
    · exact congrArg (fun t => (t.onExecution Execution.clear, _)) habort
    · exact congrArg (·, _) habort
  · rw [(Execution.receive_failed under moment hkind).1]
    exact congrArg (·, _) habort

theorem fold_of_event (hlive : s.client.live = some live)
    (hpoll : live.connection.poll (s.isCancelled live.mark) = (.ofEvent e, next))
    (moment : Moment) : s.fold moment = (s.reading next).foldEvent e moment := by
  have hreading :
      s.reading next = { s with client.live := some { live with connection := next } } := by
    rw [reading, hlive]
    rfl
  unfold fold
  rw [hlive, hreading]
  dsimp only
  rw [hpoll]
  rfl

/-- An event in the middle of a turn is one update, and the connection goes on. -/
theorem advance_of_event (hlive : s.client.live = some live)
    (hpoll : live.connection.poll (s.isCancelled live.mark) = (.ofEvent e, next))
    (under : s.client.execution.isUnderWay = true) (h : e.isLast = false) (moment : Moment) :
    s.advance moment = ((s.received e moment).reading next, .update (.ofEvent e)) := by
  have hunder : (s.reading next).client.execution.isUnderWay = true := under
  rw [advance, fold_of_event hlive hpoll, foldEvent_of_event hunder h]
  rfl

/-- Fetching the conversation of a completed turn opens no connection. -/
theorem reconcile_live (s : Scene) (message : Option String) (conversation : String) :
    (s.reconcile message conversation).client.live = s.client.live := by
  obtain ⟨t, change, hkept, heq⟩ := s.reconcile_eq message conversation
  rw [heq]
  exact hkept.live

/-- A final event ends the turn, and the connection is let go of. -/
theorem advance_of_last (hlive : s.client.live = some live)
    (hpoll : live.connection.poll (s.isCancelled live.mark) = (.ofEvent e, next))
    (under : s.client.execution.isUnderWay = true) (h : e.isLast = true) (moment : Moment) :
    (s.advance moment).1.client.live = none ∧
      (s.advance moment).2 = .update (.ofLast s.client.execution.context.message e) := by
  rw [advance, fold_of_event hlive hpoll, foldEvent_reading under h]
  unfold foldEvent Update.ofLast
  dsimp only
  rcases Stream.WireEvent.isLast_iff.mp h with hkind | hkind
  · rw [Execution.receive_completed under moment hkind, if_pos hkind]
    dsimp only
    cases (s.client.execution.receive e moment).1.context.conversation with
    | none => exact ⟨abort_live _, rfl⟩
    | some conversation => exact ⟨(reconcile_live ..).trans (abort_live _), rfl⟩
  · obtain ⟨hsignal, herror⟩ := Execution.receive_failed under moment hkind
    have hne : e.kind ≠ "complete" := by rw [hkind]; decide
    rw [hsignal, herror, if_neg hne]
    exact ⟨abort_live _, rfl⟩

/-! ### Endings -/

/-- An ending that the owner has not brought about ends the turn or pauses it. -/
theorem advance_of_ending {ending : Ending} (hlive : s.client.live = some live)
    (hpoll : (live.connection.poll (s.isCancelled live.mark)).1 = .ofEnding ending)
    (under : s.client.execution.isUnderWay = true) (h : ending ≠ .closed true)
    (moment : Moment) :
    (s.advance moment).1.client.live = none ∧
      (s.advance moment).2 =
        .update (.ofEnding (s.client.execution.phase == .awaitingDecision) ending) := by
  unfold advance fold
  rw [hlive]
  dsimp only
  rw [hpoll]
  cases ending with
  | broken cause =>
    refine ⟨live_noteFailure ?_ _, rfl⟩
    exact under
  | closed aborted =>
    cases aborted with
    | true => exact absurd rfl h
    | false =>
      dsimp only [Polled.ofEnding]
      rw [dropLive_execution]
      dsimp only
      have hphase : s.client.execution.phase = .streaming ∨
          s.client.execution.phase = .awaitingDecision := by
        simpa [Execution.isUnderWay] using under
      rcases hphase with hphase | hphase
      · rw [hphase, if_pos rfl]
        exact ⟨dropLive_live _, rfl⟩
      · rw [hphase, if_neg (by decide)]
        exact ⟨dropLive_live _, rfl⟩

end Scene

end BranchChat
