import BranchChat.Proofs.Execution.Activations
import BranchChat.Proofs.Execution.Gates
import BranchChat.Proofs.Stream.Kinds

/-!
# What an event makes of the activations

An event does one of a few things to the activations of a turn. Most events, and all other moves
within a turn, change at most what the newest agent says. An agent that starts adds an activation, a
tool that starts adds a call to the newest one, and a tool that finishes puts its outcome to one
running call.

## Main definitions

- `Told`: at most the words of the newest agent are new
- `Finished`: one running call has got its outcome
- `Worked`: what an event makes of the activations

## Main statements

- `worked_absorb`, `worked_step`: folding an event comes to one of these
- `told_step`: what is not an event changes the words of the newest agent at most
-/

namespace BranchChat.Execution

open BranchChat.Json (Value)
open BranchChat.Stream (TurnEvent WireEvent)

/-! ### A call that finishes -/

theorem completeTool_go_eq_onFirst (tool : String) (success : Bool) (result : Option Value)
    (duration : Option Nat) (calls : List ToolCall) :
    Activation.completeTool.go tool success result duration calls =
      onFirst (·.isRunning tool) (·.complete success result duration) calls := by
  induction calls with
  | nil => rfl
  | cons call calls ih => rw [Activation.completeTool.go, onFirst, ih]

/-- No call of `tool` is running. -/
def NoneRunning (tool : String) (activations : List Activation) : Prop :=
  ∀ a ∈ activations, ∀ call ∈ a.tools, call.isRunning tool = false

/-- One call of `tool` has got its outcome: the first running one of the newest activation that has
any. Nothing else is changed. -/
inductive Finished (tool : String) (success : Bool) (result : Option Value)
    (duration : Option Nat) : List Activation → List Activation → Prop where
  | intro {older newer : List Activation} {a : Activation} {before after : List ToolCall}
      {call : ToolCall} (newest : NoneRunning tool newer)
      (tools : a.tools = before ++ call :: after)
      (first : ∀ c ∈ before, c.isRunning tool = false) (running : call.isRunning tool = true) :
      Finished tool success result duration (older ++ a :: newer)
        (older ++ { a with tools := before ++ call.complete success result duration :: after } ::
          newer)

/-- The end of a tool call is put to the call that it belongs to, if there is one. -/
theorem completeTool_cases (x : Execution) (tool : String) (success : Bool)
    (result : Option Value) (duration : Option Nat) :
    (NoneRunning tool x.activations ∧ x.completeTool tool success result duration = x) ∨
      ∃ l, Finished tool success result duration x.activations l ∧
        x.completeTool tool success result duration = { x with activations := l } := by
  unfold completeTool
  simp only [completeNewest_eq_onFirst]
  rcases onFirst_cases (·.tools.any (·.isRunning tool))
      (Activation.completeTool tool success result duration) x.activations.reverse with
    ⟨hnone, heq⟩ | ⟨newer, a, older, hsplit, hnewer, ha, heq⟩
  · refine .inl ⟨fun a ha call hcall => ?_, by rw [heq, List.reverse_reverse]⟩
    exact Bool.eq_false_iff.mpr
      (List.any_eq_false.mp (hnone a (List.mem_reverse.mpr ha)) call hcall)
  · refine .inr ⟨_, ?_, rfl⟩
    -- In the activation found, some call is running, so that the first such call is complete now.
    rcases onFirst_cases (·.isRunning tool) (·.complete success result duration) a.tools with
      ⟨hidle, -⟩ | ⟨before, call, after, htools, hbefore, hcall, hgo⟩
    · obtain ⟨call, hmem, hrunning⟩ := List.any_eq_true.mp ha
      exact absurd hrunning (Bool.eq_false_iff.mp (hidle call hmem))
    · have hx : x.activations = older.reverse ++ a :: newer.reverse := by
        rw [← List.reverse_reverse x.activations, hsplit]
        simp
      rw [heq, hx, List.reverse_append, List.reverse_cons, List.append_assoc,
        List.singleton_append, Activation.completeTool, completeTool_go_eq_onFirst, hgo]
      refine .intro (fun b hb c hc => ?_) htools hbefore hcall
      exact Bool.eq_false_iff.mpr
        (List.any_eq_false.mp (hnewer b (List.mem_reverse.mp hb)) c hc)

/-! ### Words -/

/-- Nothing is new of an activation but what its agent says and whether it is complete; it does not
become incomplete. -/
structure Activation.Retold (a b : Activation) : Prop where
  serial_eq : b.serial = a.serial
  agent_eq : b.agent = a.agent
  tools_eq : b.tools = a.tools
  isComplete_of : a.isComplete = true → b.isComplete = true

theorem Activation.Retold.trans {a b c : Activation} (h : a.Retold b) (h' : b.Retold c) :
    a.Retold c where
  serial_eq := h'.serial_eq.trans h.serial_eq
  agent_eq := h'.agent_eq.trans h.agent_eq
  tools_eq := h'.tools_eq.trans h.tools_eq
  isComplete_of hcomplete := h'.isComplete_of (h.isComplete_of hcomplete)

/-- Of a list of activations, at most the newest one is told anew. -/
def Told (l l' : List Activation) : Prop :=
  ∃ change : Activation → Activation, (∀ a : Activation, a.Retold (change a)) ∧ l' = onLast change l

theorem onLast_id {α : Type} (l : List α) : onLast id l = l := by
  rcases List.eq_nil_or_concat l with rfl | ⟨l, a, rfl⟩
  · rfl
  · rw [List.concat_eq_append, onLast_concat, id]

theorem Told.refl (l : List Activation) : Told l l :=
  ⟨id, fun _ => ⟨rfl, rfl, rfl, id⟩, (onLast_id l).symm⟩

theorem Told.trans {l m n : List Activation} (h : Told l m) (h' : Told m n) : Told l n := by
  obtain ⟨f, hf, rfl⟩ := h
  obtain ⟨g, hg, rfl⟩ := h'
  exact ⟨g ∘ f, fun a => (hf a).trans (hg (f a)), onLast_onLast l⟩

theorem told_onCurrent (x : Execution) {f : Activation → Activation}
    (h : ∀ a : Activation, a.Retold (f a)) :
    Told x.activations (x.onCurrent f).activations :=
  ⟨f, h, rfl⟩

theorem told_settle (x : Execution) (released : FrameGate × Option String) :
    Told x.activations (x.settle released).1.activations := by
  unfold settle
  split
  · exact told_onCurrent { x with gate := released.1 } fun _ => ⟨rfl, rfl, rfl, id⟩
  · exact .refl _

theorem told_withHeldShown (x : Execution) (now : Nat) :
    Told x.activations (x.withHeldShown now).activations :=
  x.told_settle (x.gate.release? now)

/-! ### Events -/

/-- What an event makes of the activations. -/
inductive Worked (l : List Activation) : TurnEvent → List Activation → Prop where
  | told {t : TurnEvent} {l' : List Activation} (quiet : t.isWork = false) (told : Told l l') :
      Worked l t l'
  | started (agent : String) (serial : Nat) {l' : List Activation} (told : Told l l') :
      Worked l (.agentStarted agent) (l' ++ [.start serial agent])
  | called (tool : String) (agent : Option String) (params : Value) (id : String) :
      Worked l (.toolStarted tool agent params) (onLast (.startTool id tool agent params) l)
  | finished (tool : String) (success : Bool) (result : Option Value) (duration : Option Nat)
      {l' : List Activation} (finished : Finished tool success result duration l l') :
      Worked l (.toolFinished tool success result duration) l'
  | unmatched (tool : String) (success : Bool) (result : Option Value) (duration : Option Nat)
      (none_running : NoneRunning tool l) : Worked l (.toolFinished tool success result duration) l

theorem worked_absorb (x : Execution) (moment : Moment) (t : TurnEvent) :
    Worked x.activations t (x.absorb moment t).1.activations := by
  have quiet (h : t.isWork = false) (told : Told x.activations (x.absorb moment t).1.activations) :
      Worked x.activations t (x.absorb moment t).1.activations := .told h told
  have hheld := x.told_withHeldShown moment.now
  cases t with
  | agentStarted agent => exact .started agent moment.serial hheld
  | toolStarted tool agent params => exact .called tool agent params _
  | toolFinished tool success result duration =>
    rw [absorb]
    rcases x.completeTool_cases tool success result duration with
      ⟨hnone, heq⟩ | ⟨l, hfinished, heq⟩
    · rw [heq]
      exact .unmatched tool success result duration hnone
    · rw [heq]
      exact .finished tool success result duration hfinished
  | reasoning text =>
    exact quiet rfl (x.told_onCurrent fun _ => ⟨rfl, rfl, rfl, id⟩)
  | answer text =>
    refine quiet rfl ?_
    simp only [absorb]
    split
    · exact .refl _
    · -- The agent stops thinking, and then the gate may let the new text through.
      have hanswers := x.told_onCurrent (f := ({ · with isThinking := false }))
        fun _ => ⟨rfl, rfl, rfl, id⟩
      exact hanswers.trans (told_settle _ _)
  | wholeAnswer text =>
    exact quiet rfl (x.dropHeld.told_onCurrent fun _ => ⟨rfl, rfl, rfl, id⟩)
  | agentFinished agent =>
    exact quiet rfl
      (hheld.trans (told_onCurrent _ fun _ => ⟨rfl, rfl, rfl, fun _ => rfl⟩))
  | permissionAsked tool params thread message => exact quiet rfl hheld
  | completed message =>
    refine quiet rfl ?_
    simp only [absorb, keep_eq]
    exact hheld
  | identifiers conversation message thread => exact quiet rfl (.refl _)
  | silence => exact quiet rfl (.refl _)
  | permissionSettled approved => exact quiet rfl (.refl _)
  | failed reason => exact quiet rfl (.refl _)
  | unknown kind => exact quiet rfl (.refl _)

/-! ### Moves within a turn -/

theorem worked_step (x : Execution) (moment : Moment) {move : Move} {e : WireEvent}
    (h : x.folds? move = some e) :
    Worked x.activations e.meaning (x.step moment move).1.activations := by
  obtain ⟨under, rfl⟩ := folds?_eq_some_iff.mp h
  simp only [step, receive, if_pos under]
  exact x.worked_absorb moment e.meaning

theorem told_step (x : Execution) (moment : Moment) {move : Move}
    (within : move.isWithinTurn = true) (h : x.folds? move = none) :
    Told x.activations (x.step moment move).1.activations := by
  cases move with
  | begin context draft => cases within
  | clear => cases within
  | wipe => cases within
  | receive e =>
    have hnot : ¬ x.isUnderWay = true := fun under =>
      nomatch h.symm.trans (folds?_eq_some_iff.mpr ⟨under, rfl⟩)
    simp only [step, receive, if_neg hnot]
    exact .refl _
  | showDue => exact x.told_settle _
  | showHeld => exact x.told_settle _
  | stop =>
    simp only [step, stop]
    split
    · exact x.told_withHeldShown moment.now
    · exact .refl _
  | proceed =>
    simp only [step, proceed]
    split <;> exact .refl _
  | learn context => exact .refl _
  | fail reason => exact .refl _
  | dropQuestion => exact .refl _

end BranchChat.Execution
