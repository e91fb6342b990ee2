import BranchChat.Proofs.Execution.Serials
import BranchChat.Proofs.Stream.Kinds

/-!
# Coalescing is invisible

The gate of an execution decides when answer text is shown, and nothing else. What an execution
would be if its gate had held nothing back is determined by the moves alone, and so are the signals,
as long as no turn fails (a failing turn drops the text that is held).

## Main definitions

- `ungated`: what the execution would be if its gate had held nothing back

## Main statements

- `ungated_step`, `ungated_run`: showing held text can be put off past any move but a failure
- `view_run_fresh`: with held text shown, a run with frames of any length looks like the same run
  without frames
-/

namespace BranchChat.Execution

open BranchChat.Stream (TurnEvent WireEvent)

variable {f : Activation → Activation}

/-- What the execution would be if its gate had held nothing back. -/
def ungated (x : Execution) : Execution :=
  { x with activations := x.shown, gate := .unlimited }

/-- Where nothing is held, only the gate is forgotten. -/
theorem ungated_of_held_none {x : Execution} (h : x.gate.held = none) :
    x.ungated = { x with gate := .unlimited } := by
  simp only [ungated, shown, h]

theorem ungated_congr {x y : Execution} (hx : x.gate.held = none) (hy : y.gate.held = none)
    (h : { x with gate := .unlimited } = { y with gate := .unlimited }) :
    x.ungated = y.ungated := by
  rw [ungated_of_held_none hx, ungated_of_held_none hy, h]

theorem ungated_withHeldShown (x : Execution) (now : Nat) :
    (x.withHeldShown now).ungated = x.ungated := by
  rw [withHeldShown_eq, ungated_of_held_none (FrameGate.held_release? ..)]
  rfl

theorem ungated_showDue (x : Execution) (now : Nat) : (x.showDue now).1.ungated = x.ungated := by
  unfold showDue FrameGate.releaseDue?
  split
  · exact x.ungated_withHeldShown now
  · rfl

/-! ### Changes of the newest activation -/

/-- Whatever leaves the answer alone does not mind whether held text is shown before or after. -/
theorem ungated_onCurrent (x : Execution)
    (h : ∀ a text, f { a with answer := text } = { f a with answer := text }) :
    (x.onCurrent f).ungated = x.ungated.onCurrent f := by
  have hs : (x.onCurrent f).shown = onLast f x.shown := by
    unfold shown onCurrent
    dsimp only
    split
    · rw [onLast_onLast, onLast_onLast]
      exact congrArg (onLast · x.activations) (funext fun a => (h a _).symm)
    · rfl
  rw [ungated, hs]
  rfl

/-- Whatever puts the answer anew makes up for held text that is dropped. -/
theorem ungated_dropHeld_onCurrent (x : Execution)
    (h : ∀ a text, f { a with answer := text } = f a) :
    (x.dropHeld.onCurrent f).ungated = x.ungated.onCurrent f := by
  have hs : onLast f x.shown = onLast f x.activations := by
    unfold shown
    split
    · rw [onLast_onLast]
      exact congrArg (onLast · x.activations) (funext fun a => h a _)
    · rfl
  rw [onCurrent, onCurrent, ungated, ungated, hs]
  rfl

/-- New answer text is seen as if the gate had let it through. -/
theorem ungated_settle_offer (x : Execution) (text : String) (now : Nat) :
    (x.settle (x.gate.offer text now)).1.ungated =
      x.ungated.onCurrent ({ · with answer := text }) := by
  rw [← ungated_dropHeld_onCurrent x fun _ _ => rfl]
  unfold FrameGate.offer FrameGate.releaseDue?
  split <;> rfl

theorem ungated_completeTool (x : Execution) (tool : String) (success : Bool)
    (result : Option Json.Value) (duration : Option Nat) :
    (x.completeTool tool success result duration).ungated =
      x.ungated.completeTool tool success result duration := by
  have hs : (x.completeTool tool success result duration).shown =
      (completeNewest tool (Activation.completeTool tool success result duration)
        x.shown.reverse).reverse := by
    unfold shown completeTool
    dsimp only
    split
    case h_1 text _ =>
      rw [completeNewest_onLast (f := ({ · with answer := text })) (fun _ => rfl) (fun _ => rfl),
        List.reverse_reverse]
    case h_2 => rfl
  rw [ungated, hs]
  rfl

theorem isEmpty_ungated (x : Execution) :
    x.ungated.activations.isEmpty = x.activations.isEmpty := by
  have h : x.shown = [] ↔ x.activations = [] := by
    unfold shown
    split
    · exact onLast_eq_nil
    · rfl
  rw [Bool.eq_iff_iff, List.isEmpty_iff, List.isEmpty_iff]
  exact h

/-! ### Moves -/

/-- Every event but a failure has the same effect and the same signal whether held text is shown
before it or after it. -/
theorem ungated_absorb (x : Execution) (moment : Moment) {t : TurnEvent}
    (h : ∀ reason, t ≠ .failed reason) :
    (x.absorb moment t).1.ungated = (x.ungated.absorb moment t).1.ungated ∧
      (x.absorb moment t).2 = (x.ungated.absorb moment t).2 := by
  cases t with
  | identifiers conversation message thread => exact ⟨rfl, rfl⟩
  | agentStarted agent =>
    -- Held text is shown by the event itself, so that nothing is held after it.
    refine ⟨?_, rfl⟩
    simp only [absorb, withHeldShown_eq]
    exact ungated_congr (FrameGate.held_release? ..) rfl rfl
  | reasoning text => exact ⟨x.ungated_onCurrent fun _ _ => rfl, rfl⟩
  | answer text =>
    simp only [absorb, isEmpty_ungated]
    split
    · exact ⟨rfl, rfl⟩
    · -- The new text takes the place of the held one, whether or not it is held back in turn.
      refine ⟨?_, rfl⟩
      dsimp only
      rw [ungated_settle_offer, ungated_settle_offer, ungated_onCurrent _ fun _ _ => rfl]
      rfl
  | silence => exact ⟨rfl, rfl⟩
  | wholeAnswer text => exact ⟨x.ungated_dropHeld_onCurrent fun _ _ => rfl, rfl⟩
  | agentFinished agent =>
    refine ⟨?_, rfl⟩
    simp only [absorb, withHeldShown_eq]
    exact ungated_congr (FrameGate.held_release? ..) rfl rfl
  | toolStarted tool agent params =>
    -- The new call clears the answer, so that it does not matter that held text is dropped.
    exact ⟨ungated_dropHeld_onCurrent { x with toolCount := x.toolCount + 1 } fun _ _ => rfl, rfl⟩
  | toolFinished tool success result duration =>
    exact ⟨x.ungated_completeTool tool success result duration, rfl⟩
  | permissionAsked tool params thread message =>
    refine ⟨?_, rfl⟩
    simp only [absorb, withHeldShown_eq]
    exact ungated_congr (FrameGate.held_release? ..) rfl rfl
  | permissionSettled approved => exact ⟨rfl, rfl⟩
  | completed message =>
    simp only [absorb, withHeldShown_eq, keep_eq]
    exact ⟨ungated_congr (FrameGate.held_release? ..) rfl rfl, rfl⟩
  | failed reason => exact absurd rfl (h reason)
  | unknown kind => exact ⟨rfl, rfl⟩

/-- Every move but a failure has the same effect, and an event the same signal, whether held text
is shown before it or after it. -/
theorem ungated_step (x : Execution) (moment : Moment) {move : Move} (h : ¬ x.Failing move) :
    (x.step moment move).1.ungated = (x.ungated.step moment move).1.ungated ∧
      (x.step moment move).2.signal? = (x.ungated.step moment move).2.signal? := by
  have hu : x.ungated.isUnderWay = x.isUnderWay := rfl
  cases move with
  | begin context draft => exact ⟨rfl, rfl⟩
  | receive e =>
    simp only [step, receive, hu]
    by_cases hx : x.isUnderWay = true
    · have hm : ∀ reason, e.meaning ≠ .failed reason := by
        intro reason hr
        exact h ⟨hx, (WireEvent.meaning_eq_failed_iff.mp hr).1⟩
      obtain ⟨heq, hsignal⟩ := x.ungated_absorb moment hm
      rw [if_pos hx, if_pos hx, hsignal]
      exact ⟨heq, rfl⟩
    · rw [if_neg hx, if_neg hx]
      exact ⟨rfl, rfl⟩
  | learn context => exact ⟨rfl, rfl⟩
  | showDue => exact ⟨(x.ungated_showDue moment.now).trans rfl, rfl⟩
  | showHeld => exact ⟨(x.ungated_withHeldShown moment.now).trans rfl, rfl⟩
  | stop =>
    refine ⟨?_, rfl⟩
    simp only [step, stop, hu]
    split
    · rw [withHeldShown_eq]
      exact ungated_congr (FrameGate.held_release? ..) rfl rfl
    · rfl
  | fail reason => exact absurd trivial h
  | clear => exact ⟨rfl, rfl⟩
  | wipe => exact ⟨rfl, rfl⟩
  | dropQuestion => exact ⟨rfl, rfl⟩
  | proceed =>
    refine ⟨?_, rfl⟩
    have hp : x.ungated.phase = x.phase := rfl
    simp only [step, proceed, hp]
    split <;> rfl

theorem failing_ungated (x : Execution) (move : Move) :
    x.ungated.Failing move ↔ x.Failing move := by
  cases move <;> exact Iff.rfl

/-! ### Runs -/

/-- Executions that differ only in what their gates hold back stay so in a run without failure, and
their events are answered by the same signals. -/
theorem ungated_run {x y : Execution} {moves : List (Moment × Move)}
    (h : x.RunsWithoutFailure moves) (hxy : x.ungated = y.ungated) :
    (x.run moves).1.ungated = (y.run moves).1.ungated ∧
      signals (x.run moves).2 = signals (y.run moves).2 := by
  induction moves generalizing x y with
  | nil => exact ⟨hxy, rfl⟩
  | cons m moves ih =>
    obtain ⟨moment, move⟩ := m
    obtain ⟨hmove, hrest⟩ := h
    have hy : ¬ y.Failing move := by
      rwa [← failing_ungated, ← hxy, failing_ungated]
    -- Both executions move as the one that they agree in would move.
    obtain ⟨hx1, hx2⟩ := x.ungated_step moment hmove
    obtain ⟨hy1, hy2⟩ := y.ungated_step moment hy
    have hnext : (x.step moment move).1.ungated = (y.step moment move).1.ungated := by
      rw [hx1, hy1, hxy]
    have hanswer : (x.step moment move).2.signal? = (y.step moment move).2.signal? := by
      rw [hx2, hy2, hxy]
    obtain ⟨hend, hsignals⟩ := ih hrest hnext
    refine ⟨hend, ?_⟩
    unfold signals at hsignals ⊢
    simp only [run, List.filterMap_cons, hanswer, hsignals]

/-- What is to be seen once held text is shown is what is to be seen without a gate. -/
theorem view_withHeldShown (x : Execution) (now : Nat) :
    (x.withHeldShown now).view = x.ungated.view := by
  rw [withHeldShown_eq]
  rfl

theorem view_ungated_of_held_none {x : Execution} (h : x.gate.held = none) :
    x.ungated.view = x.view := by
  rw [ungated_of_held_none h]
  rfl

/-- A run with frames of any length and the same run without frames, with serial numbers of its
own, give the same signals. At every point of the runs, the first one looks like the second one
once its held text is shown. -/
theorem view_run_fresh (interval : Nat) {moves moves' : List (Moment × Move)}
    (same : unnumbered moves = unnumbered moves')
    (spared : (new (.fresh interval)).RunsWithoutFailure moves) :
    signals ((new (.fresh interval)).run moves).2 = signals ((new .unlimited).run moves').2 ∧
      ∀ n now, (((new (.fresh interval)).run (moves.take n)).1.withHeldShown now).view =
        ((new .unlimited).run (moves'.take n)).1.view := by
  have hstart : (new (.fresh interval)).ungated = (new .unlimited).ungated := rfl
  constructor
  · obtain ⟨-, hsignals⟩ := ungated_run spared hstart
    obtain ⟨-, hanswers⟩ := view_run_of_unnumbered_eq .unlimited same
    rw [hsignals, hanswers]
  · intro n now
    have hsame : unnumbered (moves.take n) = unnumbered (moves'.take n) := by
      rw [unnumbered, unnumbered, List.map_take, List.map_take]
      exact congrArg (List.take n) same
    -- Between the two runs stands the one without frames that has the serial numbers of the first.
    have hopen : ((new .unlimited).run (moves.take n)).1.gate.IsOpen :=
      isOpen_gate_run ⟨rfl, rfl⟩ (moves.take n)
    obtain ⟨hungated, -⟩ := ungated_run (spared.take n) hstart
    obtain ⟨hview, -⟩ := view_run_of_unnumbered_eq .unlimited hsame
    calc (((new (.fresh interval)).run (moves.take n)).1.withHeldShown now).view
      _ = ((new (.fresh interval)).run (moves.take n)).1.ungated.view := view_withHeldShown _ now
      _ = ((new .unlimited).run (moves.take n)).1.ungated.view := by rw [hungated]
      _ = ((new .unlimited).run (moves.take n)).1.view := view_ungated_of_held_none hopen.held_eq
      _ = ((new .unlimited).run (moves'.take n)).1.view := hview

/-- A turn whose last text comes within the frame of the first one. -/
def hastyTurn (serial : Nat) : List (Moment × Move) :=
  let chunk (text : String) : Move :=
    .receive ⟨"llm_chunk", none, none, none, .object [("content", .string text)]⟩
  [(⟨0, 0, serial⟩, .begin .none "q"),
    (⟨1, 0, serial + 1⟩, .receive ⟨"agent_start", none, some "A", none, .null⟩),
    (⟨2, 0, serial + 2⟩, chunk "S"), (⟨5, 0, serial + 3⟩, chunk "Sum"),
    (⟨6, 0, serial + 4⟩, .receive ⟨"complete", none, none, none, .null⟩)]

theorem view_run_hastyTurn :
    unnumbered (hastyTurn 0) = unnumbered (hastyTurn 7) ∧
      (new (.fresh 16)).RunsWithoutFailure (hastyTurn 0) ∧
      ((new (.fresh 16)).run ((hastyTurn 0).take 4)).1.gate.held = some "Sum" ∧
      (((new (.fresh 16)).run ((hastyTurn 0).take 4)).1.withHeldShown 5).view =
        ((new .unlimited).run ((hastyTurn 7).take 4)).1.view := by
  have same : unnumbered (hastyTurn 0) = unnumbered (hastyTurn 7) := rfl
  have spared : (new (.fresh 16)).RunsWithoutFailure (hastyTurn 0) :=
    runsWithoutFailure_of_forall _ (by decide)
  exact ⟨same, spared, by decide, (view_run_fresh 16 same spared).2 4 5⟩

end BranchChat.Execution
