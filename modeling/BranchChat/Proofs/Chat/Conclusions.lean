import Mathlib.Data.List.Induction
import BranchChat.Proofs.Chat.Steps

/-!
# How a chat ends

A chat that is not interrupted and ends without an error has seen its turn completed. Two ways lead
to that end. If the conversation is fetched in peace then the client comes to rest and the message is
drawn. If the frame timer runs out in the meantime, what was about to be fetched is given up, and
nobody takes it up again: the chat ends as if there were nothing left to do.

## Main definitions

- `Chat.Overtaken`: the frame timer has run out while the conversation was fetched
- `Chat.Concluded`: the completed turn was carried through to its end
- `Chat.Standing`: how a chat stands after some moves

## Main statements

- `Standing.step`, `standing_run`: a chat that is not interrupted stands in one of these ways
- `concluded_iff`: which end a chat comes to
-/

namespace BranchChat

open BranchChat.Display (LiveArea)
open BranchChat.Execution (Moment isUnderWay_iff)

/-! ### Scenes in the middle of a turn -/

namespace Scene

variable {s t : Scene}

/-- A turn is under way. -/
structure Going (s : Scene) : Prop where
  steady : s.Steady
  marks : s.MarksIssued
  under : s.client.execution.isUnderWay = true

/-- The turn is over, and there is no connection. -/
structure TurnOver (s : Scene) : Prop where
  live : s.client.live = none
  phase : s.client.execution.phase = .ended

theorem TurnOver.kept (h : s.TurnOver) (hkept : Kept s t) : t.TurnOver :=
  ⟨hkept.live.trans h.live, (congrArg Execution.phase hkept.execution).trans h.phase⟩

theorem TurnOver.onFrame (h : s.TurnOver) (now : Nat) : (s.onFrame now).1.TurnOver := by
  obtain ⟨hphase, -⟩ :=
    Execution.settle_course s.client.execution (s.client.execution.gate.releaseDue? now)
  exact ⟨h.live, hphase.trans h.phase⟩

theorem Going.onFrame (h : s.Going) (now : Nat) : (s.onFrame now).1.Going := by
  obtain ⟨hphase, -⟩ :=
    Execution.settle_course s.client.execution (s.client.execution.gate.releaseDue? now)
  exact ⟨(h.steady.onFrame now).steady, h.marks.step (.frame now),
    (Execution.isUnderWay_congr hphase).trans h.under⟩

/-- How a delivery in the middle of a turn leaves the turn in the scene `t`. -/
inductive Left (t : Scene) : Folded → Prop where
  | pending {p : Awaited} (none : ∀ u, p ≠ .update u) (going : t.Going) : Left t (.settled p)
  | progress (going : t.Going) : Left t (.settled (.update .progress))
  | asked (going : t.Going) : Left t (.settled (.update .decisionNeeded))
  | paused (going : t.Going) : Left t (.settled (.update .paused))
  | failed {reason : String} : Left t (.settled (.update (.failed reason)))
  | completed {message : Option String} (phase : t.client.execution.phase = .idle) :
      Left t (.settled (.update (.completed message)))
  | refreshing {message : Option String} {id : String} (turnOver : t.TurnOver) :
      Left t (.refreshing message id)

theorem Going.left_of_fold (h : s.Going) {moment : Moment} {folded : Folded}
    (hfold : s.fold moment = (t, folded)) : t.Left folded := by
  have hcourse := s.course_fold moment
  have htaken := h.steady.taken_fold h.marks moment
  have hmarks := h.marks.fold moment
  rw [hfold] at hcourse htaken hmarks
  have hsteady : t.Steady := by
    cases htaken with
    | pending leads _ => exact leads.steady
    | update leads _ => exact leads.steady
    | refreshing leads _ => exact leads.steady
  have hagrees (u : Update) (hu : folded = .settled (.update u)) : u.Agrees t.client.execution := by
    subst hu
    cases htaken with
    | pending _ none => exact absurd rfl (none u)
    | update _ fits => exact fits.agrees
  cases hcourse with
  | pending none execution => exact .pending none ⟨hsteady, hmarks, by rw [execution]; exact h.under⟩
  | progress => exact .progress ⟨hsteady, hmarks, hagrees _ rfl⟩
  | asked _ =>
    exact .asked ⟨hsteady, hmarks, isUnderWay_iff.mpr (.inr (hagrees .decisionNeeded rfl).1)⟩
  | paused => exact .paused ⟨hsteady, hmarks, isUnderWay_iff.mpr (.inr (hagrees .paused rfl))⟩
  | failed => exact .failed
  | completed _ phase => exact .completed phase
  | stopped unsteady => exact absurd h.steady unsteady
  | refreshing live phase => exact .refreshing ⟨live, phase⟩

/-- A decision that the backend has taken keeps the turn going. -/
theorem Going.resume (h : s.Going) {approved : Bool} (hresume : s.resume approved = (t, .ok ())) :
    t.Going := by
  have hleads := h.steady.resume h.marks approved
  have hmarks := h.marks.resume approved
  rw [hresume] at hleads hmarks
  obtain ⟨⟨body, hopened⟩, -⟩ := resume_eq_ok hresume h.marks
  exact ⟨hleads.steady, hmarks, isUnderWay_iff.mpr (.inl hopened.streaming)⟩

/-- A message that the backend has taken starts a turn. -/
theorem Reachable.going_of_send (h : s.Reachable) {content : String} {parent : Option String}
    (hsend : s.send content parent = (t, .ok ())) : t.Going := by
  have hreachable := h.run [.send content parent]
  have hrun : s.run [.send content parent] = t := congrArg Prod.fst hsend
  rw [hrun] at hreachable
  obtain ⟨⟨body, hopened⟩, -⟩ := send_eq_ok hsend h.marksIssued
  exact ⟨hreachable.steady, hreachable.marksIssued, isUnderWay_iff.mpr (.inl hopened.streaming)⟩

theorem phase_settle (s : Scene) (message : Option String)
    (fetched : Option (Conversation × List Artifact)) :
    (s.settle message fetched).client.execution.phase = .idle :=
  rfl

end Scene

namespace Chat

variable {c : Chat} {moves : List Move} {move : Move} {message : Option String}

/-! ### What becomes of a completed turn -/

/-- Whether a chat fetches the conversation of the completed turn. -/
def Stage.isFetching : Stage → Bool
  | .fetching .. | .fetchingArtifacts .. => true
  | .watching _ | .asking | .over _ => false

/-- With this move the frame timer runs out while the conversation of the completed turn is
fetched. -/
def Overtakes (c : Chat) : Move → Prop
  | .frame now => c.stage.isFetching = true ∧ ∃ due, c.due? = some due ∧ due ≤ now
  | .interrupt _ | .advance _ | .input _ | .unreadable => False

/-- The frame timer has run out while the conversation of the completed turn was fetched. -/
def Overtaken (c : Chat) (moves : List Move) : Prop :=
  ∃ before move after, moves = before ++ move :: after ∧ (c.run before).Overtakes move

/-- A delivery completes the turn; together with what has to be fetched, taking it leads to the
scene `t`. -/
def Completes (c : Chat) (moves : List Move) (message : Option String) (t : Scene) : Prop :=
  ∃ before moment after due, moves = before ++ .advance moment :: after ∧
    (c.run before).stage = .watching due ∧
    (c.run before).scene.advance moment = (t, .update (.completed message))

/-- The line that names the conversation. -/
def conversationLine (c : Chat) : List Entry :=
  c.scene.client.workspace.id?.toList.map fun id => .line ("(conversation " ++ id ++ ")")

/-- The completed turn was carried through to its end: what its last delivery comes to was fetched,
the client is at rest, and the message was drawn as the last thing but the name of the
conversation. -/
structure Concluded (c : Chat) (moves : List Move) (message : Option String) : Prop where
  completes : c.Completes moves message (c.run moves).scene
  stage : (c.run moves).stage = .over (.ok ())
  phase : (c.run moves).scene.client.execution.phase = .idle
  drawn : ∃ earlier, earlier <+: moves ∧ (c.run moves).written =
    (c.run earlier).written ++
      .drawing ((c.run earlier).area.draw ((c.run moves).closingLines message)).2 ::
        (c.run moves).conversationLine

/-- What fetching the conversation will come to, with the message of the turn. -/
def outcome? (c : Chat) : Option (Option String × Scene) :=
  match c.stage with
  | .fetching _ message id => some (message, c.scene.reconcile message id)
  | .fetchingArtifacts _ message id conversation =>
    let (scene, artifacts) := c.scene.obtainArtifacts id
    some (message,
      scene.settle message (artifacts.toOption.map fun artifacts => (conversation, artifacts)))
  | .watching _ | .asking | .over _ => none

/-! ### One more move -/

theorem overtaken_concat :
    c.Overtaken (moves ++ [move]) ↔ c.Overtaken moves ∨ (c.run moves).Overtakes move := by
  constructor
  · rintro ⟨before, move', after, hmoves, hovertakes⟩
    rcases List.eq_nil_or_concat after with rfl | ⟨after, last, rfl⟩
    · obtain ⟨rfl, hmove⟩ := List.append_inj' hmoves rfl
      obtain rfl := List.singleton_inj.mp hmove
      exact .inr hovertakes
    · rw [List.concat_eq_append, ← List.cons_append, ← List.append_assoc] at hmoves
      obtain ⟨rfl, -⟩ := List.append_inj' hmoves rfl
      exact .inl ⟨before, move', after, rfl, hovertakes⟩
  · rintro (⟨before, move', after, rfl, hovertakes⟩ | hovertakes)
    · exact ⟨before, move', after ++ [move], by rw [List.append_assoc, List.cons_append], hovertakes⟩
    · exact ⟨moves, move, [], rfl, hovertakes⟩

theorem not_overtaken_nil (c : Chat) : ¬c.Overtaken [] := by
  rintro ⟨before, move, after, hmoves, -⟩
  cases before <;> cases hmoves

theorem not_overtaken_concat (fresh : ¬c.Overtaken moves) (calm : ¬(c.run moves).Overtakes move) :
    ¬c.Overtaken (moves ++ [move]) := by
  rw [overtaken_concat]
  exact not_or.mpr ⟨fresh, calm⟩

theorem Completes.concat {t : Scene} (h : c.Completes moves message t) (move : Move) :
    c.Completes (moves ++ [move]) message t := by
  obtain ⟨before, moment, after, due, rfl, hstage, hadvance⟩ := h
  exact ⟨before, moment, after ++ [move], due, by rw [List.append_assoc, List.cons_append], hstage,
    hadvance⟩

theorem Concluded.concat (h : c.Concluded moves message)
    (same : c.run (moves ++ [move]) = c.run moves) : c.Concluded (moves ++ [move]) message := by
  obtain ⟨earlier, hprefix, hwritten⟩ := h.drawn
  rw [← same] at hwritten
  refine ⟨?_, ?_, ?_, earlier, hprefix.trans (List.prefix_append _ _), hwritten⟩
  · rw [same]
    exact h.completes.concat move
  · rw [same]
    exact h.stage
  · rw [same]
    exact h.phase

/-- Reporting a completed turn draws the message and ends the chat. -/
theorem report_completed (c : Chat) (message : Option String) (now : Nat) :
    (c.report (.completed message) now).scene = c.scene ∧
      (c.report (.completed message) now).stage = .over (.ok ()) ∧
      (c.report (.completed message) now).verbose = c.verbose ∧
      (c.report (.completed message) now).written =
        c.written ++ .drawing (c.area.draw (c.closingLines message)).2 :: c.conversationLine := by
  have hid : (c.drawLines (c.closingLines message)).scene.client.workspace.id? =
      c.scene.client.workspace.id? := rfl
  unfold report conversationLine
  dsimp only
  rw [hid]
  cases c.scene.client.workspace.id? with
  | none => exact ⟨rfl, rfl, rfl, rfl⟩
  | some id => exact ⟨rfl, rfl, rfl, List.append_assoc ..⟩

theorem concluded_of_report {u : Chat} {now : Nat}
    (hrun : c.run (moves ++ [move]) = u.report (.completed message) now)
    (completes : c.Completes (moves ++ [move]) message u.scene)
    (phase : u.scene.client.execution.phase = .idle) (written : u.written = (c.run moves).written)
    (area : u.area = (c.run moves).area) : c.Concluded (moves ++ [move]) message := by
  obtain ⟨hscene, hstage, hverbose, hwritten⟩ := u.report_completed message now
  rw [← hrun] at hscene hstage hverbose hwritten
  have hclosing : (c.run (moves ++ [move])).closingLines message = u.closingLines message := by
    unfold closingLines
    rw [hscene, hverbose]
  have hline : (c.run (moves ++ [move])).conversationLine = u.conversationLine := by
    unfold conversationLine
    rw [hscene]
  refine ⟨?_, hstage, ?_, moves, List.prefix_append _ _, ?_⟩
  · rw [hscene]
    exact completes
  · rw [hscene]
    exact phase
  · rw [hclosing, hline, ← written, ← area]
    exact hwritten

/-! ### Standings -/

/-- How a chat that is not interrupted stands after some moves. -/
inductive Standing (c : Chat) (moves : List Move) : Prop where
  /-- The turn goes on. -/
  | going (stage : (c.run moves).stage = .asking ∨ ∃ due, (c.run moves).stage = .watching due)
      (fresh : ¬c.Overtaken moves) (going : (c.run moves).scene.Going)
  /-- The turn is completed, and the rest is being fetched. -/
  | fetching (message : Option String) (scene : Scene)
      (outcome : (c.run moves).outcome? = some (message, scene)) (fresh : ¬c.Overtaken moves)
      (completes : c.Completes moves message scene) (turnOver : (c.run moves).scene.TurnOver)
  | concluded (message : Option String) (fresh : ¬c.Overtaken moves)
      (concluded : c.Concluded moves message)
  /-- The turn is completed, and the rest will never be fetched. -/
  | lost (stage : (∃ due, (c.run moves).stage = .watching due) ∨
        (c.run moves).stage = .over (.ok ()))
      (overtaken : c.Overtaken moves) (turnOver : (c.run moves).scene.TurnOver)
  | failed (failure : Failure) (stage : (c.run moves).stage = .over (.error failure))

/-- A move that changes nothing leaves the standing as it is, unless it overtakes the chat. -/
theorem Standing.of_same (h : c.Standing moves) (same : c.run (moves ++ [move]) = c.run moves)
    (calm : ¬(c.run moves).Overtakes move) : c.Standing (moves ++ [move]) := by
  cases h with
  | going stage fresh going =>
    rw [← same] at stage going
    exact .going stage (not_overtaken_concat fresh calm) going
  | fetching message scene outcome fresh completes turnOver =>
    rw [← same] at outcome turnOver
    exact .fetching message scene outcome (not_overtaken_concat fresh calm) (completes.concat move) turnOver
  | concluded message fresh concluded =>
    exact .concluded message (not_overtaken_concat fresh calm) (concluded.concat same)
  | lost stage overtaken turnOver =>
    rw [← same] at stage turnOver
    exact .lost stage (overtaken_concat.mpr (.inl overtaken)) turnOver
  | failed failure stage =>
    rw [← same] at stage
    exact .failed failure stage

/-- In the middle of a turn a delivery is taken. -/
theorem standing_of_delivery {due : Option Nat} (hstage : (c.run moves).stage = .watching due)
    (fresh : ¬c.Overtaken moves) (going : (c.run moves).scene.Going) (moment : Moment) :
    c.Standing (moves ++ [.advance moment]) := by
  have hfresh : ¬c.Overtaken (moves ++ [.advance moment]) := not_overtaken_concat fresh id
  have hrun : c.run (moves ++ [.advance moment]) = (c.run moves).advance moment :=
    c.run_concat moves _
  cases hfold : (c.run moves).scene.fold moment with
  | mk scene folded =>
    have hleft := going.left_of_fold hfold
    have hcompletes {message : Option String} {t : Scene}
        (hadvance : (c.run moves).scene.advance moment = (t, .update (.completed message))) :
        c.Completes (moves ++ [.advance moment]) message t :=
      ⟨moves, moment, [], due, rfl, hstage, hadvance⟩
    unfold advance at hrun
    rw [hstage] at hrun
    dsimp only at hrun
    rw [hfold] at hrun
    cases hleft with
    | @pending p none going =>
      cases p with
      | update u => exact absurd rfl (none u)
      | waiting =>
        refine .going (.inr ⟨due, congrArg stage hrun⟩) hfresh ?_
        rw [hrun]
        exact going
      | nothing =>
        refine .failed .connectionLost ((congrArg stage hrun).trans ?_)
        exact congrArg Stage.over (if_pos going.under)
    | progress going =>
      refine .going (.inr ⟨_, congrArg stage hrun⟩) hfresh ?_
      rw [hrun]
      exact going
    | asked going =>
      refine .going (.inl (congrArg stage hrun)) hfresh ?_
      rw [hrun]
      exact going
    | paused going =>
      refine .going (.inr ⟨_, congrArg stage hrun⟩) hfresh ?_
      rw [hrun]
      exact going
    | failed => exact .failed _ (congrArg stage hrun)
    | completed phase =>
      refine .concluded _ hfresh (concluded_of_report hrun (hcompletes ?_) phase rfl rfl)
      rw [Scene.advance, hfold]
    | @refreshing message id turnOver =>
      refine .fetching message (scene.reconcile message id) ?_ hfresh (hcompletes ?_) ?_
      · rw [hrun]
        rfl
      · rw [Scene.advance, hfold]
      · rw [hrun]
        exact turnOver

/-- While the rest is fetched an answer has come. -/
theorem standing_of_answer {scene : Scene} (outcome : (c.run moves).outcome? = some (message, scene))
    (fresh : ¬c.Overtaken moves) (completes : c.Completes moves message scene)
    (turnOver : (c.run moves).scene.TurnOver) (moment : Moment) :
    c.Standing (moves ++ [.advance moment]) := by
  have hfresh : ¬c.Overtaken (moves ++ [.advance moment]) := not_overtaken_concat fresh id
  have hcompletes := completes.concat (.advance moment)
  have hrun : c.run (moves ++ [.advance moment]) = (c.run moves).advance moment :=
    c.run_concat moves _
  unfold advance at hrun
  unfold outcome? at outcome
  split at outcome
  · next due message' id hstage =>
    obtain ⟨rfl, hscene⟩ := Prod.mk.inj (Option.some.inj outcome)
    rw [hstage] at hrun
    dsimp only at hrun
    unfold Scene.reconcile at hscene
    split at hscene
    · next t e hcall =>
      rw [hcall] at hrun
      refine .concluded _ hfresh (concluded_of_report hrun ?_ (Scene.phase_settle ..) rfl rfl)
      rw [← hscene] at hcompletes
      exact hcompletes
    · next t conversation hcall =>
      rw [hcall] at hrun
      have hkept := Scene.kept_of_call hcall
      refine .fetching _ scene ?_ hfresh hcompletes ?_
      · rw [hrun, ← hscene]
        unfold outcome?
        dsimp only
        cases t.obtainArtifacts id with
        | mk u artifacts => cases artifacts <;> rfl
      · rw [hrun]
        exact turnOver.kept hkept
  · next due message' id conversation hstage =>
    rw [hstage] at hrun
    dsimp only at hrun outcome
    obtain ⟨rfl, hscene⟩ := Prod.mk.inj (Option.some.inj outcome)
    rw [← hscene] at hcompletes
    exact .concluded _ hfresh
      (concluded_of_report hrun hcompletes (Scene.phase_settle ..) rfl rfl)
  all_goals cases outcome

/-- A frame that is due gives up whatever was to be fetched, and the chat waits for a delivery. -/
theorem frame_of_due {due now : Nat} (hdue : c.due? = some due) (hle : due ≤ now) :
    (∃ due, (c.frame now).stage = .watching due) ∧
      (c.frame now).scene = (c.abandoned.onFrame now).1 := by
  unfold frame
  rw [hdue]
  dsimp only
  rw [if_neg (Nat.not_lt.mpr hle)]
  split <;> exact ⟨⟨_, rfl⟩, rfl⟩

theorem frame_of_not_due {now : Nat} (h : ∀ due, c.due? = some due → now < due) :
    c.frame now = c := by
  unfold frame
  split
  · rfl
  · next due hdue => exact if_pos (h due hdue)

theorem isFetching_of_outcome? {outcome : Option String × Scene} (h : c.outcome? = some outcome) :
    c.stage.isFetching = true := by
  unfold outcome? at h
  split at h
  · next hstage => rw [hstage, Stage.isFetching]
  · next hstage => rw [hstage, Stage.isFetching]
  all_goals cases h

/-- Giving up what is fetched changes nothing but the network. -/
theorem kept_abandoned (c : Chat) : Scene.Kept c.scene c.abandoned := by
  unfold abandoned
  split
  · exact Scene.kept_abandonCall _ _
  · exact Scene.kept_abandonCall _ _
  all_goals exact Scene.Kept.refl _

theorem abandoned_of_watching {due : Option Nat} (h : c.stage = .watching due) :
    c.abandoned = c.scene := by
  unfold abandoned
  rw [h]

/-- A frame overtakes a chat that is fetching, and otherwise it changes the drawing at most. -/
theorem Standing.frame (h : c.Standing moves) (now : Nat) : c.Standing (moves ++ [.frame now]) := by
  have hrun : c.run (moves ++ [.frame now]) = (c.run moves).frame now := c.run_concat moves _
  by_cases hdue : ∃ due, (c.run moves).due? = some due ∧ due ≤ now
  · obtain ⟨due, hdue, hle⟩ := hdue
    obtain ⟨hstage, hscene⟩ := frame_of_due hdue hle
    rw [← hrun] at hstage hscene
    cases h with
    | going stage fresh going =>
      rcases stage with hasking | ⟨due', hwatching⟩
      · rw [due?, hasking] at hdue
        cases hdue
      · have hcalm : ¬(c.run moves).Overtakes (.frame now) := by
          rintro ⟨hfetching, -⟩
          rw [hwatching] at hfetching
          cases hfetching
        refine .going (.inr hstage) (not_overtaken_concat fresh hcalm) ?_
        rw [hscene, abandoned_of_watching hwatching]
        exact going.onFrame now
    | fetching message scene outcome fresh completes turnOver =>
      have hovertakes : (c.run moves).Overtakes (.frame now) :=
        ⟨isFetching_of_outcome? outcome, due, hdue, hle⟩
      refine .lost (.inl hstage) (overtaken_concat.mpr (.inr hovertakes)) ?_
      rw [hscene]
      exact (turnOver.kept (kept_abandoned _)).onFrame now
    | concluded message fresh concluded =>
      rw [due?, concluded.stage] at hdue
      cases hdue
    | lost stage overtaken turnOver =>
      refine .lost (.inl hstage) (overtaken_concat.mpr (.inl overtaken)) ?_
      rw [hscene]
      exact (turnOver.kept (kept_abandoned _)).onFrame now
    | failed failure stage =>
      rw [due?, stage] at hdue
      cases hdue
  · have hsame : (c.run moves).frame now = c.run moves :=
      frame_of_not_due fun due hsome => Nat.lt_of_not_le fun hle => hdue ⟨due, hsome, hle⟩
    exact h.of_same (hrun.trans hsame) fun ⟨_, hovertakes⟩ => hdue hovertakes

/-- Nobody takes up what was given up: the next delivery is none, and the chat is over. -/
theorem standing_of_lost {due : Option Nat} (hstage : (c.run moves).stage = .watching due)
    (overtaken : c.Overtaken moves) (turnOver : (c.run moves).scene.TurnOver) (moment : Moment) :
    c.Standing (moves ++ [.advance moment]) := by
  have hfold : (c.run moves).scene.fold moment = ((c.run moves).scene, .settled .nothing) := by
    unfold Scene.fold
    rw [turnOver.live]
  have hunder : (c.run moves).scene.client.execution.isUnderWay ≠ true := by
    rw [Ne, isUnderWay_iff, turnOver.phase]
    decide
  have hrun : c.run (moves ++ [.advance moment]) = (c.run moves).advance moment :=
    c.run_concat moves _
  unfold advance at hrun
  rw [hstage] at hrun
  dsimp only at hrun
  rw [hfold] at hrun
  refine .lost (.inr ?_) (overtaken_concat.mpr (.inl overtaken)) ?_
  · exact (congrArg stage hrun).trans (congrArg Stage.over (if_neg hunder))
  · rw [hrun]
    exact turnOver

theorem Standing.advance (h : c.Standing moves) (moment : Moment) :
    c.Standing (moves ++ [.advance moment]) := by
  have hrun : c.run (moves ++ [.advance moment]) = (c.run moves).advance moment :=
    c.run_concat moves _
  have hsame (hstage : (c.run moves).stage = .asking ∨ ∃ r, (c.run moves).stage = .over r) :
      c.run (moves ++ [.advance moment]) = c.run moves := by
    rw [hrun]
    unfold Chat.advance
    rcases hstage with hasking | ⟨r, hover⟩
    · rw [hasking]
    · rw [hover]
  cases h with
  | going stage fresh going =>
    rcases stage with hasking | ⟨due, hwatching⟩
    · exact (Standing.going (.inl hasking) fresh going).of_same (hsame (.inl hasking)) id
    · exact standing_of_delivery hwatching fresh going moment
  | fetching message scene outcome fresh completes turnOver =>
    exact standing_of_answer outcome fresh completes turnOver moment
  | concluded message fresh concluded =>
    exact (Standing.concluded message fresh concluded).of_same
      (hsame (.inr ⟨_, concluded.stage⟩)) id
  | lost stage overtaken turnOver =>
    rcases stage with ⟨due, hwatching⟩ | hover
    · exact standing_of_lost hwatching overtaken turnOver moment
    · exact (Standing.lost (.inr hover) overtaken turnOver).of_same (hsame (.inr ⟨_, hover⟩)) id
  | failed failure stage =>
    exact (Standing.failed failure stage).of_same (hsame (.inr ⟨_, stage⟩)) id

theorem Standing.going_of_asking (h : c.Standing moves) (hasking : (c.run moves).stage = .asking) :
    ¬c.Overtaken moves ∧ (c.run moves).scene.Going := by
  cases h with
  | going stage fresh going => exact ⟨fresh, going⟩
  | fetching message scene outcome fresh completes turnOver =>
    have hfetching := isFetching_of_outcome? outcome
    rw [hasking] at hfetching
    cases hfetching
  | concluded message fresh concluded => cases concluded.stage.symm.trans hasking
  | lost stage overtaken turnOver =>
    rcases stage with ⟨due, hwatching⟩ | hover
    · cases hwatching.symm.trans hasking
    · cases hover.symm.trans hasking
  | failed failure stage => cases stage.symm.trans hasking

/-- A row of input lets the turn go on, or the chat fails. -/
theorem Standing.input (h : c.Standing moves) (now : Nat) : c.Standing (moves ++ [.input now]) := by
  have hrun : c.run (moves ++ [.input now]) = (c.run moves).takeRow now := c.run_concat moves _
  by_cases hasking : (c.run moves).stage = .asking
  · obtain ⟨fresh, going⟩ := h.going_of_asking hasking
    unfold takeRow at hrun
    rw [hasking] at hrun
    dsimp only at hrun
    split at hrun
    · next scene hresume =>
      refine .going (.inr ⟨_, congrArg stage hrun⟩) (not_overtaken_concat fresh id) ?_
      rw [hrun]
      exact going.resume hresume
    · exact .failed _ (congrArg stage hrun)
  · refine h.of_same (hrun.trans ?_) id
    unfold takeRow
    split
    · next hstage => exact absurd hstage hasking
    all_goals rfl

theorem Standing.unreadable (h : c.Standing moves) : c.Standing (moves ++ [.unreadable]) := by
  have hrun : c.run (moves ++ [.unreadable]) = (c.run moves).refuseRow := c.run_concat moves _
  by_cases hasking : (c.run moves).stage = .asking
  · unfold refuseRow at hrun
    rw [hasking] at hrun
    exact .failed _ (congrArg stage hrun)
  · refine h.of_same (hrun.trans ?_) id
    unfold refuseRow
    split
    · next hstage => exact absurd hstage hasking
    all_goals rfl

theorem Standing.step (h : c.Standing moves) (calm : ∀ now, move ≠ .interrupt now) :
    c.Standing (moves ++ [move]) := by
  cases move with
  | interrupt now => exact absurd rfl (calm now)
  | frame now => exact h.frame now
  | advance moment => exact h.advance moment
  | input now => exact h.input now
  | unreadable => exact h.unreadable

/-! ### Runs -/

theorem standing_send (c : Chat) (reachable : c.scene.Reachable) (text : String)
    (parent : Option String) (now : Nat) : (c.send text parent now).Standing [] := by
  unfold send
  split
  · exact .failed _ rfl
  · next hsend =>
    exact .going (.inr ⟨_, rfl⟩) (not_overtaken_nil _) (reachable.going_of_send hsend)

theorem standing_begin {scene : Scene} (reachable : scene.Reachable)
    (conversation parent : Option String) (text : String) (verbose : Bool) (rows : List String)
    (now : Nat) : (begin scene conversation parent text verbose rows now).Standing [] := by
  unfold begin
  dsimp only
  split
  · exact standing_send _ reachable text parent now
  · next id =>
    split
    · next opened e hvisit => exact .failed _ rfl
    · next opened hvisit =>
      have hopened : scene.run [.visit id] = opened := congrArg Prod.fst hvisit
      refine standing_send _ ?_ text parent now
      show opened.Reachable
      rw [← hopened]
      exact reachable.run _

/-- A chat that is not interrupted stands in one of these ways. -/
theorem standing_run {scene : Scene} (reachable : scene.Reachable)
    (conversation parent : Option String) (text : String) (verbose : Bool) (rows : List String)
    (now : Nat) {moves : List Move} (calm : ∀ now, .interrupt now ∉ moves) :
    (begin scene conversation parent text verbose rows now).Standing moves := by
  induction moves using List.reverseRecOn with
  | nil => exact standing_begin reachable conversation parent text verbose rows now
  | append_singleton moves move ih =>
    refine (ih fun now hmem => calm now (List.mem_append_left _ hmem)).step fun now hmove => ?_
    rw [hmove] at calm
    exact calm now List.mem_concat_self

/-- The end of a chat that is not interrupted and ends without an error. The completed turn is
carried through to its end, unless the frame timer has run out while the conversation was fetched.
In that case the turn is never cleared away. -/
theorem concluded_iff {scene : Scene} (reachable : scene.Reachable)
    (conversation parent : Option String) (text : String) (verbose : Bool) (rows : List String)
    (now : Nat) {moves : List Move} (calm : ∀ now, .interrupt now ∉ moves)
    (ended : ((begin scene conversation parent text verbose rows now).run moves).stage =
      .over (.ok ())) :
    let c := begin scene conversation parent text verbose rows now
    ((∃ message, c.Concluded moves message) ↔ ¬c.Overtaken moves) ∧
      (c.Overtaken moves → (c.run moves).scene.TurnOver) := by
  intro c
  have hstanding := standing_run reachable conversation parent text verbose rows now calm
  change c.Standing moves at hstanding
  change (c.run moves).stage = .over (.ok ()) at ended
  cases hstanding with
  | going stage fresh going =>
    rcases stage with hasking | ⟨due, hwatching⟩
    · cases hasking.symm.trans ended
    · cases hwatching.symm.trans ended
  | fetching message scene outcome fresh completes turnOver =>
    have hfetching := isFetching_of_outcome? outcome
    rw [ended] at hfetching
    cases hfetching
  | concluded message fresh concluded =>
    exact ⟨iff_of_true ⟨message, concluded⟩ fresh, fun overtaken => absurd overtaken fresh⟩
  | lost stage overtaken turnOver =>
    refine ⟨iff_of_false ?_ (not_not.mpr overtaken), fun _ => turnOver⟩
    rintro ⟨message, concluded⟩
    cases concluded.phase.symm.trans turnOver.phase
  | failed failure stage => cases stage.symm.trans ended

/-! ### A fast backend -/

/-- Whether a chat is over without an error. -/
def Stage.isDone : Stage → Bool
  | .over (.ok _) => true
  | .watching _ | .fetching .. | .fetchingArtifacts .. | .asking | .over (.error _) => false

theorem Stage.eq_over_of_isDone {stage : Stage} (h : stage.isDone = true) :
    stage = .over (.ok ()) := by
  match stage, h with
  | .over (.ok _), _ => rfl

/-- A client whose backend sends an answer in two pieces and completes the turn, all at once. -/
def quickly : Scene :=
  let turn := "\x7b\"conversation_id\":\"c\",\"message_id\":\"m\"," ++
    "\"thread_id\":\"t\",\"stream_url\":\"/1\"\x7d"
  let events := "data: \x7b\"type\":\"agent_start\",\"agent_name\":\"A\"\x7d\n" ++
    "data: \x7b\"type\":\"llm_chunk\",\"content\":\"a\"\x7d\n" ++
    "data: \x7b\"type\":\"llm_chunk\",\"content\":\"ab\"\x7d\n" ++
    "data: \x7b\"type\":\"complete\"\x7d\n"
  let conversation := "\x7b\"id\":\"c\",\"messages\":[\x7b\"id\":\"m\",\"content\":\"Hi\"," ++
    "\"response\":\"ab\",\"created_at\":\"2024-01-01T00:00:00Z\"\x7d]\x7d"
  let replies := [turn, events, conversation, "[]"].map fun text =>
    Web.Reply.answered 200 [.bytes (Text.Utf8.bytes text.toList), .finish]
  .start (.new ⟨"http://[::1]"⟩ (.unstored (some "token")) (.fresh 16)) default (.answering replies)

/-- The moves up to the completion of the turn. The second piece of the answer is held back until
time 17. -/
def untilComplete : List Move :=
  [.advance ⟨0, 0, 0⟩, .advance ⟨1, 0, 1⟩, .advance ⟨2, 0, 2⟩, .advance ⟨3, 0, 3⟩]

theorem concluded_quickly :
    let c := begin quickly none none "Hi" false [] 0
    let moves := untilComplete ++ [.advance ⟨4, 0, 4⟩, .advance ⟨5, 0, 5⟩]
    quickly.Reachable ∧ (∀ now, .interrupt now ∉ moves) ∧
      (c.run moves).stage = .over (.ok ()) ∧ ∃ message, c.Concluded moves message := by
  intro c moves
  have reachable : quickly.Reachable := ⟨_, _, _, _, _, [], rfl⟩
  have hmoves : ∀ move ∈ moves, ∃ moment, move = .advance moment := by
    intro move hmem
    simp only [moves, untilComplete, List.cons_append, List.nil_append, List.mem_cons,
      List.not_mem_nil, or_false] at hmem
    rcases hmem with rfl | rfl | rfl | rfl | rfl | rfl <;> exact ⟨_, rfl⟩
  have calm : ∀ now, .interrupt now ∉ moves := by
    intro now hmem
    obtain ⟨moment, hmove⟩ := hmoves _ hmem
    cases hmove
  have fresh : ¬c.Overtaken moves := by
    rintro ⟨before, move, after, hsplit, hovertakes⟩
    obtain ⟨moment, rfl⟩ := hmoves move (by rw [hsplit]; exact List.mem_append_cons_self)
    exact hovertakes
  have ended : (c.run moves).stage = .over (.ok ()) := by
    refine Stage.eq_over_of_isDone ?_
    decide +kernel
  obtain ⟨hconcluded, -⟩ := concluded_iff reachable none none "Hi" false [] 0 calm ended
  exact ⟨reachable, calm, ended, hconcluded.mpr fresh⟩

/-- The same chat, where the conversation is slow to come: the frame timer runs out first. The turn
is completed and the chat ends without an error, and yet the turn is not carried through. -/
theorem not_concluded_quickly :
    let c := begin quickly none none "Hi" false [] 0
    let moves := untilComplete ++ [.frame 17, .advance ⟨17, 0, 4⟩]
    quickly.Reachable ∧ (∀ now, .interrupt now ∉ moves) ∧
      (c.run untilComplete).stage.isFetching = true ∧ (c.run moves).stage = .over (.ok ()) ∧
      (c.run moves).scene.client.execution.phase = .ended ∧
      (c.run moves).written = (c.run untilComplete).written ∧
      ∀ message, ¬c.Concluded moves message := by
  intro c moves
  have calm : ∀ now, .interrupt now ∉ moves := by
    intro now hmem
    simp [moves, untilComplete] at hmem
  -- The run is evaluated once for all that the theorem asks for.
  obtain ⟨hfetching, hended, hphase, hwritten⟩ :
      (c.run untilComplete).stage.isFetching = true ∧ (c.run moves).stage.isDone = true ∧
      (c.run moves).scene.client.execution.phase = .ended ∧
      (c.run moves).written = (c.run untilComplete).written := by
    decide +kernel
  refine ⟨⟨_, _, _, _, _, [], rfl⟩, calm, hfetching, Stage.eq_over_of_isDone hended, hphase,
    hwritten, fun message concluded => ?_⟩
  cases concluded.phase.symm.trans hphase

end Chat

end BranchChat
