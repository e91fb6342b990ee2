import BranchChat.Stream.Event

/-!
# Kinds and meanings

The meaning of an event determines its kind. So what an event says about the turn as a whole (that
it ends, that it is paused, what it is called) is said by events of one kind only.

## Main definitions

- `TurnEvent.kind`: the kind of the events with a meaning
- `TurnEvent.isWork`: whether an event is about the work of agents, and not only about their words
- `WireEvent.asks`: whether an event asks for a permission
- `WireEvent.named?`: the message that an event gives to the turn
- `WireEvent.reason`: why the turn has failed, in the words of an event of kind `error`
-/

namespace BranchChat.Stream

/-- The kind of the events that have a meaning. -/
def TurnEvent.kind : TurnEvent → String
  | .identifiers .. => "metadata"
  | .agentStarted _ => "agent_start"
  | .reasoning _ | .answer _ | .silence => "llm_chunk"
  | .wholeAnswer _ => "llm_complete"
  | .agentFinished _ => "agent_complete"
  | .toolStarted .. => "tool_start"
  | .toolFinished .. => "tool_complete"
  | .permissionAsked .. => "permission_request"
  | .permissionSettled _ => "permission_result"
  | .completed _ => "complete"
  | .failed _ => "error"
  | .unknown kind => kind

/-- Whether an event says that an agent or a tool starts, or that a tool finishes. -/
def TurnEvent.isWork : TurnEvent → Bool
  | .agentStarted _ | .toolStarted .. | .toolFinished .. => true
  | _ => false

namespace WireEvent

variable {e : WireEvent}

/-- Whether an event asks for a permission. -/
def asks (e : WireEvent) : Bool :=
  e.kind == "permission_request"

/-- The message that an event of kind `metadata` names. -/
def named? (e : WireEvent) : Option String :=
  if e.kind = "metadata" then e.data.textAt? "message_id" else none

/-- The reason that an event of kind `error` gives. -/
def reason (e : WireEvent) : String :=
  (e.data.textAt? "message" <|> e.data.textAt? "error").getD "Unknown stream error"

theorem kind_output (e : WireEvent) : e.output.kind = "llm_chunk" := by
  unfold output
  repeat' split
  all_goals rfl

/-- Reading the meaning of an event loses nothing of its kind. -/
theorem kind_meaning (e : WireEvent) : e.meaning.kind = e.kind := by
  unfold meaning
  split
  case h_3 hk => exact e.kind_output.trans hk.symm
  case h_12 => rfl
  all_goals exact Eq.symm ‹e.kind = _›

/-- The events that fail are those of kind `error`. -/
theorem meaning_eq_failed_iff {r : String} :
    e.meaning = .failed r ↔ e.kind = "error" ∧ r = e.reason := by
  have hm : e.kind = "error" → e.meaning = .failed e.reason := by
    intro hk
    simp only [meaning, hk, reason]
  constructor
  · intro h
    have hk : e.kind = "error" := by rw [← e.kind_meaning, h]; rfl
    exact ⟨hk, TurnEvent.failed.inj (h.symm.trans (hm hk))⟩
  · rintro ⟨hk, rfl⟩
    exact hm hk

/-- The events that complete are those of kind `complete`. -/
theorem meaning_eq_completed_iff {message : Option String} :
    e.meaning = .completed message ↔
      e.kind = "complete" ∧ message = e.data.textAt? "message_id" := by
  have hm : e.kind = "complete" → e.meaning = .completed (e.data.textAt? "message_id") := by
    intro hk
    simp only [meaning, hk]
  constructor
  · intro h
    have hk : e.kind = "complete" := by rw [← e.kind_meaning, h]; rfl
    exact ⟨hk, TurnEvent.completed.inj (h.symm.trans (hm hk))⟩
  · rintro ⟨hk, rfl⟩
    exact hm hk

/-- An event of kind `metadata` names the conversation, the message and the thread. -/
theorem meaning_of_metadata (h : e.kind = "metadata") :
    e.meaning = .identifiers (e.data.textAt? "conversation_id") e.named?
      (e.data.textAt? "thread_id") := by
  simp only [meaning, named?, h, if_true]

theorem meaning_of_asks (h : e.asks = true) :
    e.meaning = .permissionAsked e.tool e.params (e.data.textAt? "thread_id")
      (e.data.textAt? "message_id") := by
  simp only [meaning, beq_iff_eq.mp h]

theorem meaning_of_agentStart (h : e.kind = "agent_start") :
    e.meaning = .agentStarted (e.agent?.getD "agent") := by
  simp only [meaning, h]

theorem meaning_of_toolStart (h : e.kind = "tool_start") :
    e.meaning = .toolStarted e.tool e.agent? e.params := by
  simp only [meaning, h]

theorem meaning_of_toolComplete (h : e.kind = "tool_complete") :
    ∃ success result duration, e.meaning = .toolFinished e.tool success result duration := by
  simp only [meaning, h]
  exact ⟨_, _, _, rfl⟩

/-- An event that starts a tool names it. -/
theorem of_meaning_eq_toolStarted {tool : String} {agent : Option String} {params : Json.Value}
    (h : e.meaning = .toolStarted tool agent params) : e.kind = "tool_start" ∧ e.tool = tool := by
  have hk : e.kind = "tool_start" := by rw [← e.kind_meaning, h]; rfl
  exact ⟨hk, (TurnEvent.toolStarted.inj ((meaning_of_toolStart hk).symm.trans h)).1⟩

/-- An event that is not about work is of none of the kinds that are. -/
theorem kind_ne_of_isWork_eq_false (h : e.meaning.isWork = false) :
    e.kind ≠ "agent_start" ∧ e.kind ≠ "tool_start" ∧ e.kind ≠ "tool_complete" := by
  refine ⟨fun hk => ?_, fun hk => ?_, fun hk => ?_⟩
  · rw [meaning_of_agentStart hk] at h
    cases h
  · rw [meaning_of_toolStart hk] at h
    cases h
  · obtain ⟨success, result, duration, hm⟩ := meaning_of_toolComplete hk
    rw [hm] at h
    cases h

theorem isLast_iff : e.isLast = true ↔ e.kind = "complete" ∨ e.kind = "error" := by
  rw [isLast, isLastKind, Bool.or_eq_true, beq_iff_eq, beq_iff_eq]

end WireEvent

end BranchChat.Stream
