import BranchChat.Proofs.Execution.Work

/-!
# Histories

Within a turn the activations are a history that is only extended. Activations and their calls keep
their places, a call gets an outcome at most once, and whatever is not the newest activation stays
as it is, except that a call of it may still finish.

## Main definitions

- `Kept`: the elements of a list keep their places in another list
- `ToolCall.Later`, `Activation.Later`: what can become of a call and of an activation
- `Activation.Frozen`: what stays of an activation that is not the newest one
- `Extends`: a list of activations extends another one

## Main statements

- `Worked.isExtended`: every event extends the history
- `isExtended_run`, `length_run`: so does every run within a turn
- `history_run`: between any two points of a turn the history is extended, by one activation for
  each agent that started
-/

namespace BranchChat.Execution

open BranchChat.Stream (TurnEvent WireEvent)

/-! ### Places -/

section Kept

variable {α : Type} {R : α → α → Prop} {l l' m : List α}

/-- The elements of a list keep their places in another list, where they may have changed as a
relation allows. The other list may be longer. -/
def Kept (R : α → α → Prop) (l l' : List α) : Prop :=
  ∀ (i : Nat) (a : α), l[i]? = some a → ∃ b, l'[i]? = some b ∧ R a b

theorem Kept.refl (h : ∀ a, R a a) (l : List α) : Kept R l l :=
  fun _ a ha => ⟨a, ha, h a⟩

theorem Kept.trans (trans : ∀ a b c, R a b → R b c → R a c) (h : Kept R l m) (h' : Kept R m l') :
    Kept R l l' := by
  intro i a ha
  obtain ⟨b, hb, hab⟩ := h i a ha
  obtain ⟨c, hc, hbc⟩ := h' i b hb
  exact ⟨c, hc, trans a b c hab hbc⟩

theorem Kept.length_le (h : Kept R l l') : l.length ≤ l'.length := by
  refine Nat.le_of_not_lt fun hlt => ?_
  obtain ⟨b, hb, -⟩ := h _ _ (List.getElem?_eq_getElem hlt)
  exact absurd (List.getElem?_eq_some_iff.mp hb).1 (Nat.lt_irrefl _)

theorem Kept.append (h : Kept R l l') (m : List α) : Kept R l (l' ++ m) := by
  intro i a ha
  obtain ⟨b, hb, hab⟩ := h i a ha
  exact ⟨b, by rw [List.getElem?_append_left (List.getElem?_eq_some_iff.mp hb).1, hb], hab⟩

theorem Kept.of_append (h : Kept R (l ++ m) l') : Kept R l l' := by
  intro i a ha
  exact h i a (by rw [List.getElem?_append_left (List.getElem?_eq_some_iff.mp ha).1, ha])

theorem kept_replace (refl : ∀ a, R a a) {a b : α} (h : R a b) (before after : List α) :
    Kept R (before ++ a :: after) (before ++ b :: after) := by
  intro i c hc
  rcases Nat.lt_trichotomy i before.length with hlt | rfl | hgt
  · rw [List.getElem?_append_left hlt] at hc
    exact ⟨c, by rw [List.getElem?_append_left hlt, hc], refl c⟩
  · rw [List.getElem?_append_right (Nat.le_refl _), Nat.sub_self, List.getElem?_cons_zero] at hc
    obtain rfl := Option.some.inj hc
    refine ⟨b, ?_, h⟩
    rw [List.getElem?_append_right (Nat.le_refl _), Nat.sub_self, List.getElem?_cons_zero]
  · obtain ⟨n, hn⟩ := Nat.exists_eq_add_of_lt hgt
    have hi : i - before.length = n + 1 := by omega
    rw [List.getElem?_append_right (Nat.le_of_lt hgt), hi, List.getElem?_cons_succ] at hc
    refine ⟨c, ?_, refl c⟩
    rw [List.getElem?_append_right (Nat.le_of_lt hgt), hi, List.getElem?_cons_succ, hc]

end Kept

/-! ### Calls and activations -/

/-- What can become of a call: it stays as it is, or, if it was running, it finishes. -/
structure ToolCall.Later (c d : ToolCall) : Prop where
  id_eq : d.id = c.id
  tool_eq : d.tool = c.tool
  agent_eq : d.agent = c.agent
  params_eq : d.params = c.params
  outcome : d = c ∨ c.status = .running ∧ d.status ≠ .running

/-- What can become of an activation: its calls keep their places before newer ones, and once it is
complete it stays so. -/
structure Activation.Later (a b : Activation) : Prop where
  serial_eq : b.serial = a.serial
  agent_eq : b.agent = a.agent
  isComplete_of : a.isComplete = true → b.isComplete = true
  tools : Kept ToolCall.Later a.tools b.tools

/-- What stays of an activation that is not the newest one. -/
structure Activation.Frozen (a b : Activation) : Prop where
  thinking_eq : b.thinking = a.thinking
  isThinking_eq : b.isThinking = a.isThinking
  answer_eq : b.answer = a.answer
  isComplete_eq : b.isComplete = a.isComplete
  length_tools_eq : b.tools.length = a.tools.length

/-- A list of activations extends another one: all activations keep their places, and all but the
newest one are frozen. -/
structure Extends (l l' : List Activation) : Prop where
  later : Kept Activation.Later l l'
  frozen : Kept Activation.Frozen l.dropLast l'

theorem ToolCall.Later.refl (c : ToolCall) : c.Later c :=
  ⟨rfl, rfl, rfl, rfl, .inl rfl⟩

theorem ToolCall.Later.trans {c d e : ToolCall} (h : c.Later d) (h' : d.Later e) : c.Later e where
  id_eq := h'.id_eq.trans h.id_eq
  tool_eq := h'.tool_eq.trans h.tool_eq
  agent_eq := h'.agent_eq.trans h.agent_eq
  params_eq := h'.params_eq.trans h.params_eq
  outcome := by
    rcases h.outcome with rfl | ⟨running, finished⟩
    · exact h'.outcome
    · -- A call that has finished is not running, so that it does not change again.
      rcases h'.outcome with rfl | ⟨running', -⟩
      · exact .inr ⟨running, finished⟩
      · exact absurd running' finished

theorem Activation.Later.refl (a : Activation) : a.Later a :=
  ⟨rfl, rfl, id, .refl ToolCall.Later.refl _⟩

theorem Activation.Later.trans {a b c : Activation} (h : a.Later b) (h' : b.Later c) :
    a.Later c where
  serial_eq := h'.serial_eq.trans h.serial_eq
  agent_eq := h'.agent_eq.trans h.agent_eq
  isComplete_of hcomplete := h'.isComplete_of (h.isComplete_of hcomplete)
  tools := h.tools.trans (fun _ _ _ => ToolCall.Later.trans) h'.tools

theorem Activation.Frozen.refl (a : Activation) : a.Frozen a :=
  ⟨rfl, rfl, rfl, rfl, rfl⟩

theorem Activation.Frozen.trans {a b c : Activation} (h : a.Frozen b) (h' : b.Frozen c) :
    a.Frozen c where
  thinking_eq := h'.thinking_eq.trans h.thinking_eq
  isThinking_eq := h'.isThinking_eq.trans h.isThinking_eq
  answer_eq := h'.answer_eq.trans h.answer_eq
  isComplete_eq := h'.isComplete_eq.trans h.isComplete_eq
  length_tools_eq := h'.length_tools_eq.trans h.length_tools_eq

theorem Extends.refl (l : List Activation) : Extends l l where
  later := .refl Activation.Later.refl l
  frozen := by
    rcases List.eq_nil_or_concat l with rfl | ⟨l, a, rfl⟩
    · exact .refl Activation.Frozen.refl []
    · rw [List.concat_eq_append, List.dropLast_concat]
      exact (Kept.refl Activation.Frozen.refl l).append [a]

theorem Extends.trans {l m n : List Activation} (h : Extends l m) (h' : Extends m n) :
    Extends l n where
  later := h.later.trans (fun _ _ _ => Activation.Later.trans) h'.later
  frozen := by
    intro i a ha
    obtain ⟨b, hb, hab⟩ := h.frozen i a ha
    -- What is not the newest activation now is not the newest one later.
    have hi : i < m.length - 1 := by
      have hlt := (List.getElem?_eq_some_iff.mp ha).1
      have hle := h.later.length_le
      rw [List.length_dropLast] at hlt
      omega
    have hb' : m.dropLast[i]? = some b := by rw [List.getElem?_dropLast, if_pos hi, hb]
    obtain ⟨c, hc, hbc⟩ := h'.frozen i b hb'
    exact ⟨c, hc, hab.trans hbc⟩

/-! ### Events -/

theorem Activation.Retold.later {a b : Activation} (h : a.Retold b) : a.Later b where
  serial_eq := h.serial_eq
  agent_eq := h.agent_eq
  isComplete_of := h.isComplete_of
  tools := h.tools_eq ▸ .refl ToolCall.Later.refl a.tools

theorem Activation.later_startTool (a : Activation) (id tool : String) (agent : Option String)
    (params : Json.Value) : a.Later (a.startTool id tool agent params) where
  serial_eq := rfl
  agent_eq := rfl
  isComplete_of h := h
  tools := (Kept.refl ToolCall.Later.refl a.tools).append _

/-- A change of the newest activation leaves the others alone. -/
theorem extends_onLast {f : Activation → Activation} (h : ∀ a : Activation, a.Later (f a))
    (l : List Activation) : Extends l (onLast f l) := by
  rcases List.eq_nil_or_concat l with rfl | ⟨l, a, rfl⟩
  · exact .refl []
  · rw [List.concat_eq_append, onLast_concat]
    refine ⟨kept_replace Activation.Later.refl (h a) l [], ?_⟩
    rw [List.dropLast_concat]
    exact (Kept.refl Activation.Frozen.refl l).append [f a]

theorem Told.isExtended {l l' : List Activation} (h : Told l l') : Extends l l' := by
  obtain ⟨f, hf, rfl⟩ := h
  exact extends_onLast (fun a => (hf a).later) l

/-- A running call may finish in any way. -/
theorem ToolCall.later_complete {call : ToolCall} {tool : String}
    (running : call.isRunning tool = true) (success : Bool) (result : Option Json.Value)
    (duration : Option Nat) : call.Later (call.complete success result duration) := by
  refine ⟨rfl, rfl, rfl, rfl, .inr ⟨?_, ?_⟩⟩
  · simp only [ToolCall.isRunning, Bool.and_eq_true, beq_iff_eq] at running
    exact running.2
  · cases success <;> simp [ToolCall.complete]

/-- A call that finishes changes nothing else, wherever it is. -/
theorem Finished.isExtended {tool : String} {success : Bool} {result : Option Json.Value}
    {duration : Option Nat} {l l' : List Activation}
    (h : Finished tool success result duration l l') : Extends l l' := by
  cases h with
  | @intro older newer a before after call newest tools first running =>
    have hcall := ToolCall.later_complete running success result duration
    have hlater :
        a.Later { a with tools := before ++ call.complete success result duration :: after } :=
      ⟨rfl, rfl, id, tools ▸ kept_replace ToolCall.Later.refl hcall before after⟩
    have hfrozen :
        a.Frozen { a with tools := before ++ call.complete success result duration :: after } :=
      ⟨rfl, rfl, rfl, rfl, by simp [tools]⟩
    refine ⟨kept_replace Activation.Later.refl hlater older newer, ?_⟩
    have hall := kept_replace Activation.Frozen.refl hfrozen older newer
    rw [← List.dropLast_concat_getLast (l := older ++ a :: newer) (by simp)] at hall
    exact hall.of_append

theorem Worked.isExtended {t : TurnEvent} {l l' : List Activation} (h : Worked l t l') :
    Extends l l' := by
  cases h with
  | told quiet told => exact told.isExtended
  | @started agent serial l' told =>
    have hnew : Extends l' (l' ++ [.start serial agent]) := by
      have h := Extends.refl l'
      exact ⟨h.later.append _, h.frozen.append _⟩
    exact told.isExtended.trans hnew
  | called tool agent params id => exact extends_onLast (·.later_startTool id tool agent params) l
  | finished tool success result duration finished => exact finished.isExtended
  | unmatched => exact .refl l

/-! ### Lengths -/

theorem length_onLast {α : Type} (f : α → α) (l : List α) : (onLast f l).length = l.length := by
  rcases List.eq_nil_or_concat l with rfl | ⟨l, a, rfl⟩
  · rfl
  · simp [onLast_concat]

theorem Told.length_eq {l l' : List Activation} (h : Told l l') : l'.length = l.length := by
  obtain ⟨f, -, rfl⟩ := h
  exact length_onLast f l

theorem Worked.length_eq {e : WireEvent} {l l' : List Activation} (h : Worked l e.meaning l') :
    l'.length = l.length + if e.kind = "agent_start" then 1 else 0 := by
  generalize hm : e.meaning = t at h
  have hkind : t.kind = e.kind := by rw [← hm, e.kind_meaning]
  cases h with
  | told quiet told =>
    rw [told.length_eq, if_neg (WireEvent.kind_ne_of_isWork_eq_false (hm ▸ quiet)).1, Nat.add_zero]
  | started agent serial told =>
    rw [← hkind, List.length_append, told.length_eq]
    rfl
  | called =>
    rw [← hkind, length_onLast]
    rfl
  | finished tool success result duration finished =>
    rw [← hkind]
    cases finished
    simp [TurnEvent.kind]
  | unmatched =>
    rw [← hkind]
    rfl

/-! ### Runs -/

section Within

variable {moves : List (Moment × Move)} (within : ∀ m ∈ moves, m.2.isWithinTurn = true)

/-- Every move within a turn extends the history, by one activation if it is an agent that
starts. -/
theorem isExtended_step (x : Execution) (moment : Moment) {move : Move}
    (within : move.isWithinTurn = true) :
    Extends x.activations (x.step moment move).1.activations ∧
      (x.step moment move).1.activations.length =
        x.activations.length + ((x.folds? move).toList.map (x, ·)).countP
          (·.2.kind == "agent_start") := by
  cases h : x.folds? move with
  | none =>
    have htold := x.told_step moment within h
    exact ⟨htold.isExtended, htold.length_eq⟩
  | some e =>
    have hworked := x.worked_step moment h
    refine ⟨hworked.isExtended, hworked.length_eq.trans ?_⟩
    simp [List.countP_singleton]

include within

theorem isExtended_run (x : Execution) : Extends x.activations (x.run moves).1.activations := by
  induction moves generalizing x with
  | nil => exact .refl _
  | cons m moves ih =>
    obtain ⟨hm, hrest⟩ := List.forall_mem_cons.mp within
    exact (x.isExtended_step m.1 hm).1.trans (ih hrest _)

theorem length_run (x : Execution) :
    (x.run moves).1.activations.length =
      x.activations.length + (x.folded moves).countP (·.2.kind == "agent_start") := by
  induction moves generalizing x with
  | nil => rfl
  | cons m moves ih =>
    obtain ⟨hm, hrest⟩ := List.forall_mem_cons.mp within
    rw [folded, List.countP_append, ← Nat.add_assoc, ← (x.isExtended_step m.1 hm).2]
    exact ih hrest _

end Within

/-- Between any two points of a turn the history is extended: activations and calls keep their
places and their names, a call finishes at most once, a complete activation stays complete, and
what is not the newest activation stays as it is but for calls that finish. The activations that
are new are as many as the agents that have started. -/
theorem history_run (x : Execution) {moves : List (Moment × Move)}
    (within : ∀ m ∈ moves, m.2.isWithinTurn = true) :
    (∀ i j, i ≤ j → Extends (x.run (moves.take i)).1.activations
        (x.run (moves.take j)).1.activations) ∧
      (x.run moves).1.activations.length =
        x.activations.length + (x.folded moves).countP (·.2.kind == "agent_start") := by
  refine ⟨fun i j hij => ?_, length_run within x⟩
  have hsplit : moves.take i ++ (moves.take j).drop i = moves.take j := by
    have h := List.take_append_drop i (moves.take j)
    rwa [List.take_take, Nat.min_eq_left hij] at h
  rw [← hsplit, run_append]
  refine isExtended_run (fun m hm => within m ?_) _
  exact List.mem_of_mem_take (List.mem_of_mem_drop hm)

/-- A turn that is handed over from one agent to another while a tool of the first one is running
and words of it are held back, and that is stopped in the end. -/
def handover : List (Moment × Move) :=
  let event (kind : String) (words : String) : Move :=
    .receive ⟨kind, none, some "A", some "X", .object [("content", .string words)]⟩
  [(⟨1, 0, 1⟩, event "agent_start" ""), (⟨2, 0, 2⟩, event "tool_start" ""),
    (⟨3, 0, 3⟩, event "llm_chunk" "S"), (⟨4, 0, 4⟩, event "llm_chunk" "Su"),
    (⟨5, 0, 5⟩, event "agent_start" ""), (⟨6, 0, 6⟩, event "llm_chunk" "T"),
    (⟨7, 0, 7⟩, event "tool_complete" ""), (⟨8, 0, 8⟩, .stop)]

theorem history_run_handover :
    let x := (new (.fresh 16)).begin .none "q"
    (∀ m ∈ handover, m.2.isWithinTurn = true) ∧
      Extends (x.run (handover.take 5)).1.activations (x.run (handover.take 8)).1.activations ∧
      (x.run (handover.take 5)).1.activations.map (·.answer) = ["Su", ""] ∧
      (x.run (handover.take 8)).1.activations.map (·.answer) = ["Su", "T"] ∧
      (x.run (handover.take 8)).1.activations.map (·.tools.map (·.status)) = [[.succeeded], []] ∧
      (x.run handover).1.activations.length = 2 := by
  intro x
  have within : ∀ m ∈ handover, m.2.isWithinTurn = true := by decide
  obtain ⟨hextends, hlength⟩ := history_run x within
  refine ⟨within, hextends 5 8 (by decide), by decide, by decide, by decide, ?_⟩
  rw [hlength]
  decide

end BranchChat.Execution
