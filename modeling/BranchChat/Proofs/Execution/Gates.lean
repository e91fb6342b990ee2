import BranchChat.Proofs.Execution.Runs

/-!
# The gate during a run

A move does one of five things to the gate of an execution. Whatever all of them keep is kept by
every run.

## Main definitions

- `shown`: the activations as they are once held text is shown
- `Archive.keep`: the archive after a completed turn
- `FrameGate.Moved`: what a move can do to a gate
- `FrameGate.IsOpen`: the gate holds nothing, and will hold nothing
-/

namespace BranchChat.Execution

open BranchChat.Stream (TurnEvent)

/-! ### Showing held text -/

/-- The activations as they are once held text is shown. -/
def shown (x : Execution) : List Activation :=
  match x.gate.held with
  | some text => onLast ({ · with answer := text }) x.activations
  | none => x.activations

theorem FrameGate.held_release? (g : FrameGate) (now : Nat) : (g.release? now).1.held = none := by
  unfold FrameGate.release?
  split
  · rfl
  · assumption

theorem withHeldShown_eq (x : Execution) (now : Nat) :
    x.withHeldShown now = { x with activations := x.shown, gate := (x.gate.release? now).1 } := by
  unfold withHeldShown showHeld settle shown FrameGate.release?
  cases x.gate.held <;> rfl

/-- Text that is let through changes nothing but the gate and the activations. -/
theorem settle_eq (x : Execution) (released : FrameGate × Option String) :
    (x.settle released).1 =
      { x with activations := (x.settle released).1.activations, gate := released.1 } := by
  unfold settle
  split <;> rfl

theorem gate_settle (x : Execution) (released : FrameGate × Option String) :
    (x.settle released).1.gate = released.1 := by
  rw [settle_eq]

/-- The archive after a turn with these activations is completed. -/
def Archive.keep (archive : Archive) (activations : List Activation) (message : Option String) :
    Archive :=
  match activations.filter Activation.isNoteworthy, message with
  | [], _ | _, .none => archive
  | kept, some message => archive.put message kept

theorem keep_eq (x : Execution) (message : Option String) :
    x.keep message = { x with archive := x.archive.keep x.activations message } := by
  unfold keep Archive.keep
  cases x.activations.filter Activation.isNoteworthy <;> cases message <;> rfl

/-! ### Moves -/

/-- What a move can do to a gate. -/
inductive FrameGate.Moved (g : FrameGate) (now : Nat) : FrameGate → Prop
  | stays : Moved g now g
  | drops : Moved g now g.dropHeld
  | releases : Moved g now (g.release? now).1
  | releasesDue : Moved g now (g.releaseDue? now).1
  | offers (text : String) : Moved g now (g.offer text now).1

theorem gate_absorb (x : Execution) (moment : Moment) (t : TurnEvent) :
    x.gate.Moved moment.now (x.absorb moment t).1.gate := by
  cases t
  case answer text =>
    simp only [absorb]
    split
    · exact .stays
    · rw [gate_settle]
      exact .offers text
  case agentStarted | agentFinished | permissionAsked =>
    simp only [absorb, withHeldShown_eq]
    exact .releases
  case completed =>
    simp only [absorb, withHeldShown_eq, keep_eq]
    exact .releases
  case wholeAnswer | toolStarted | failed => exact .drops
  all_goals exact .stays

theorem gate_step (x : Execution) (moment : Moment) (move : Move) :
    x.gate.Moved moment.now (x.step moment move).1.gate := by
  cases move
  case receive e =>
    simp only [step, receive]
    split
    · exact x.gate_absorb moment e.meaning
    · exact .stays
  case showDue =>
    simp only [step, showDue, gate_settle]
    exact .releasesDue
  case showHeld =>
    simp only [step, showHeld, gate_settle]
    exact .releases
  case stop =>
    simp only [step, stop, withHeldShown_eq]
    split
    · exact .releases
    · exact .stays
  case proceed =>
    simp only [step, proceed]
    split <;> exact .stays
  case begin | fail | clear | wipe => exact .drops
  all_goals exact .stays

/-! ### Gates that are always open -/

/-- The gate holds nothing, and lets every text through at once. -/
structure FrameGate.IsOpen (g : FrameGate) : Prop where
  interval_eq : g.interval = 0
  held_eq : g.held = none

/-- A gate without frames is always due. -/
theorem FrameGate.isDue_of_interval_eq_zero {g : FrameGate} (h : g.interval = 0) (now : Nat) :
    g.isDue now = true := by
  unfold FrameGate.isDue
  split
  · simp [h]
  · rfl

theorem FrameGate.IsOpen.moved {g g' : FrameGate} {now : Nat} (h : g.IsOpen)
    (hm : g.Moved now g') : g'.IsOpen := by
  obtain ⟨hi, hh⟩ := h
  cases hm with
  | stays => exact ⟨hi, hh⟩
  | drops => exact ⟨hi, rfl⟩
  | releases => simpa [FrameGate.release?, hh] using ⟨hi, hh⟩
  | releasesDue => simpa [FrameGate.releaseDue?, FrameGate.release?, hh] using ⟨hi, hh⟩
  | offers text =>
    have hdue : ({ g with held := some text } : FrameGate).isDue now = true :=
      FrameGate.isDue_of_interval_eq_zero hi now
    rw [FrameGate.offer, FrameGate.releaseDue?, if_pos hdue]
    exact ⟨hi, rfl⟩

/-- A run that starts with an open gate never holds text back. -/
theorem isOpen_gate_run {x : Execution} (h : x.gate.IsOpen) (moves : List (Moment × Move)) :
    (x.run moves).1.gate.IsOpen :=
  holds_run (P := (·.gate.IsOpen))
    (fun x moment move h => h.moved (x.gate_step moment move)) h moves

end BranchChat.Execution
