import BranchChat.Proofs.Execution.Gates
import BranchChat.Proofs.Stream.Kinds

/-!
# What an event does to the course of a turn

Of all events only four kinds touch the phase of a turn, its message, or its owner: `metadata` may
name the message, `permission_request` stops the turn for a decision, and `complete` and `error` end
it.

## Main statements

- `receive_of_isLast_eq_false`: an event in the middle of a turn
- `receive_completed`, `receive_failed`: an event that ends it
-/

namespace BranchChat.Execution

open BranchChat.Stream (TurnEvent WireEvent)

variable {x : Execution} {e : WireEvent}

/-- The kinds of event that concern more than the activations. -/
def weighty : List String := ["metadata", "permission_request", "complete", "error"]

/-- Every other event leaves the phase and the context alone and asks for nothing. -/
theorem absorb_of_not_weighty (x : Execution) (moment : Moment) {t : TurnEvent}
    (h : t.kind ∉ weighty) :
    (x.absorb moment t).2 = none ∧ (x.absorb moment t).1.phase = x.phase ∧
      (x.absorb moment t).1.context = x.context := by
  cases t with
  | identifiers => exact absurd h (by simp [TurnEvent.kind, weighty])
  | permissionAsked => exact absurd h (by simp [TurnEvent.kind, weighty])
  | completed => exact absurd h (by simp [TurnEvent.kind, weighty])
  | failed => exact absurd h (by simp [TurnEvent.kind, weighty])
  | agentStarted agent =>
    rw [absorb, withHeldShown_eq]
    exact ⟨rfl, rfl, rfl⟩
  | agentFinished agent =>
    rw [absorb, withHeldShown_eq]
    exact ⟨rfl, rfl, rfl⟩
  | answer text =>
    simp only [absorb]
    split
    · exact ⟨rfl, rfl, rfl⟩
    · refine ⟨rfl, ?_⟩
      unfold settle
      split <;> exact ⟨rfl, rfl⟩
  | reasoning text => exact ⟨rfl, rfl, rfl⟩
  | silence => exact ⟨rfl, rfl, rfl⟩
  | unknown kind => exact ⟨rfl, rfl, rfl⟩
  | wholeAnswer text => exact ⟨rfl, rfl, rfl⟩
  | toolStarted tool agent params => exact ⟨rfl, rfl, rfl⟩
  | toolFinished tool success result duration => exact ⟨rfl, rfl, rfl⟩
  | permissionSettled approved => exact ⟨rfl, rfl, rfl⟩

/-- An event that is not final asks for a decision or for nothing. It stops the turn for the
decision, and it may name the message of the turn. -/
theorem receive_of_isLast_eq_false (under : x.isUnderWay = true) (moment : Moment)
    (h : e.isLast = false) :
    (x.receive e moment).2 = (if e.asks then some .decisionNeeded else none) ∧
      (x.receive e moment).1.phase = (if e.asks then .awaitingDecision else x.phase) ∧
      (x.receive e moment).1.context.message = (e.named? <|> x.context.message) := by
  rw [receive, if_pos under]
  by_cases hasks : e.asks = true
  · have hnamed : e.named? = none := by
      rw [WireEvent.named?, beq_iff_eq.mp hasks]
      rfl
    rw [WireEvent.meaning_of_asks hasks, hnamed, if_pos hasks, if_pos hasks, absorb,
      withHeldShown_eq]
    exact ⟨rfl, rfl, rfl⟩
  · rw [if_neg hasks, if_neg hasks]
    by_cases hmetadata : e.kind = "metadata"
    · rw [WireEvent.meaning_of_metadata hmetadata]
      exact ⟨rfl, rfl, rfl⟩
    · have hnamed : e.named? = none := if_neg hmetadata
      have hkind : e.meaning.kind ∉ weighty := by
        rw [e.kind_meaning]
        intro hmem
        have hlast := mt WireEvent.isLast_iff.mpr (Bool.eq_false_iff.mp h)
        have hpermission : e.kind ≠ "permission_request" := fun hk => hasks (beq_iff_eq.mpr hk)
        simp [weighty, hmetadata, hpermission] at hmem
        exact hlast hmem
      obtain ⟨hsignal, hphase, hcontext⟩ := x.absorb_of_not_weighty moment hkind
      refine ⟨hsignal, hphase, ?_⟩
      rw [hcontext, hnamed]
      rfl

/-- The end of a turn tells its message: the one that it names itself, or else the latest one. -/
theorem receive_completed (under : x.isUnderWay = true) (moment : Moment)
    (h : e.kind = "complete") :
    (x.receive e moment).2 =
      some (.completed (e.data.textAt? "message_id" <|> x.context.message)) := by
  have hmeaning := WireEvent.meaning_eq_completed_iff.mpr ⟨h, rfl⟩
  rw [receive, if_pos under, hmeaning, absorb, withHeldShown_eq]

/-- The failure of a turn is kept as its error. -/
theorem receive_failed (under : x.isUnderWay = true) (moment : Moment) (h : e.kind = "error") :
    (x.receive e moment).2 = some .failed ∧ (x.receive e moment).1.error = some e.reason := by
  have hmeaning := WireEvent.meaning_eq_failed_iff.mpr ⟨h, rfl⟩
  rw [receive, if_pos under, hmeaning]
  exact ⟨rfl, rfl⟩

end BranchChat.Execution
