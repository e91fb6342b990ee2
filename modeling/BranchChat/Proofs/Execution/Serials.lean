import BranchChat.Proofs.Execution.Activations
import BranchChat.Proofs.Execution.Gates

/-!
# Serial numbers

Serial numbers tell activations apart and do nothing else: a run with other serial numbers gives
the same answers, and the same state up to the serial numbers in it.

## Main definitions

- `anonymous`: the execution with all serial numbers taken away
- `View`, `view`: what is to be seen of an execution besides its gate
-/

namespace BranchChat.Execution

open BranchChat.Stream (TurnEvent)

/-- The activation without its serial number. -/
def Activation.anonymous (a : Activation) : Activation :=
  { a with serial := 0 }

/-- The archive without serial numbers. -/
def Archive.anonymous (archive : Archive) : Archive :=
  archive.map fun entry => (entry.1, entry.2.map Activation.anonymous)

/-- The execution without serial numbers. -/
def anonymous (x : Execution) : Execution :=
  { x with
    activations := x.activations.map Activation.anonymous
    archive := x.archive.anonymous }

/-- The moment without a serial number for a new activation. -/
def Moment.anonymous (moment : Moment) : Moment :=
  { moment with serial := 0 }

/-- The moves of a run without serial numbers. -/
def unnumbered (moves : List (Moment × Move)) : List (Moment × Move) :=
  moves.map fun m => (m.1.anonymous, m.2)

/-- What is to be seen of an execution besides its gate, where activations have no serial
numbers. -/
structure View where
  phase : Phase
  context : Context
  activations : List Activation
  question : Option Question
  error : Option String
  draft : Option String
  archive : Archive

/-- What is to be seen of an execution. -/
def view (x : Execution) : View :=
  { phase := x.phase, context := x.context, activations := x.activations.map Activation.anonymous
    question := x.question, error := x.error, draft := x.draft, archive := x.archive.anonymous }

theorem view_anonymous (x : Execution) : x.anonymous.view = x.view := by
  have ha : Activation.anonymous ∘ Activation.anonymous = Activation.anonymous := rfl
  simp only [view, anonymous, Archive.anonymous, List.map_map, ha, View.mk.injEq, true_and]
  exact List.map_congr_left fun entry _ => by simp [ha]

/-! ### One move -/

/-- A change that does not look at the serial number can be made without it. -/
theorem anonymous_onCurrent (x : Execution) {f : Activation → Activation}
    (h : ∀ a, (f a).anonymous = f a.anonymous) :
    (x.onCurrent f).anonymous = x.anonymous.onCurrent f := by
  simp only [anonymous, onCurrent, map_onLast h]

theorem anonymous_settle (x : Execution) (released : FrameGate × Option String) :
    (x.settle released).1.anonymous = (x.anonymous.settle released).1 ∧
      (x.settle released).2 = (x.anonymous.settle released).2 := by
  obtain ⟨gate, _ | text⟩ := released
  · exact ⟨rfl, rfl⟩
  · refine ⟨anonymous_onCurrent { x with gate } fun _ => rfl, ?_⟩
    simp [settle, anonymous]

theorem anonymous_withHeldShown (x : Execution) (now : Nat) :
    (x.withHeldShown now).anonymous = x.anonymous.withHeldShown now :=
  (x.anonymous_settle (x.gate.release? now)).1

theorem anonymous_completeTool (x : Execution) (tool : String) (success : Bool)
    (result : Option Json.Value) (duration : Option Nat) :
    (x.completeTool tool success result duration).anonymous =
      x.anonymous.completeTool tool success result duration := by
  have hm (l : List Activation) :
      (completeNewest tool (Activation.completeTool tool success result duration) l).map
          Activation.anonymous =
        completeNewest tool (Activation.completeTool tool success result duration)
          (l.map Activation.anonymous) :=
    map_completeNewest (g := Activation.completeTool tool success result duration)
      (v := Activation.anonymous) (fun _ => rfl) (fun _ => rfl) l
  simp only [anonymous, completeTool, List.map_reverse, hm]

theorem Archive.anonymous_put (archive : Archive) (message : String) (kept : List Activation) :
    (archive.put message kept).anonymous =
      archive.anonymous.put message (kept.map Activation.anonymous) := by
  simp only [put, Archive.anonymous, List.map_cons, List.filter_map]
  rfl

theorem anonymous_keep (x : Execution) (message : Option String) :
    (x.keep message).anonymous = x.anonymous.keep message := by
  have hf : (x.activations.map Activation.anonymous).filter Activation.isNoteworthy =
      (x.activations.filter Activation.isNoteworthy).map Activation.anonymous := by
    rw [List.filter_map]
    rfl
  simp only [keep_eq, anonymous, Archive.keep, hf]
  cases x.activations.filter Activation.isNoteworthy with
  | nil => rfl
  | cons a kept =>
    cases message with
    | none => rfl
    | some message => simp only [List.map_cons, Archive.anonymous_put]

theorem anonymous_absorb (x : Execution) (moment : Moment) (t : TurnEvent) :
    (x.absorb moment t).1.anonymous = (x.anonymous.absorb moment.anonymous t).1 ∧
      (x.absorb moment t).2 = (x.anonymous.absorb moment.anonymous t).2 := by
  have hw : x.anonymous.withHeldShown moment.anonymous.now =
      (x.withHeldShown moment.now).anonymous := (x.anonymous_withHeldShown moment.now).symm
  cases t with
  | identifiers conversation message thread => exact ⟨rfl, rfl⟩
  | agentStarted agent =>
    -- The only event that reads the serial number of its moment.
    simp only [absorb, hw]
    simp [anonymous, Activation.anonymous, Activation.start, Moment.anonymous]
  | reasoning text => exact ⟨x.anonymous_onCurrent fun _ => rfl, rfl⟩
  | answer text =>
    have he : x.anonymous.activations.isEmpty = x.activations.isEmpty := by
      simp [anonymous]
    simp only [absorb, he]
    split
    · exact ⟨rfl, rfl⟩
    · have hc := x.anonymous_onCurrent (f := ({ · with isThinking := false })) fun _ => rfl
      refine ⟨?_, rfl⟩
      dsimp only
      rw [(anonymous_settle _ _).1, hc]
      rfl
  | silence => exact ⟨rfl, rfl⟩
  | wholeAnswer text => exact ⟨x.dropHeld.anonymous_onCurrent fun _ => rfl, rfl⟩
  | agentFinished agent =>
    simp only [absorb, hw]
    exact ⟨anonymous_onCurrent _ fun _ => rfl, trivial⟩
  | toolStarted tool agent params =>
    exact ⟨anonymous_onCurrent { x.dropHeld with toolCount := x.toolCount + 1 } fun _ => rfl, rfl⟩
  | toolFinished tool success result duration =>
    exact ⟨x.anonymous_completeTool tool success result duration, rfl⟩
  | permissionAsked tool params thread message =>
    simp only [absorb, hw]
    exact ⟨rfl, trivial⟩
  | permissionSettled approved => exact ⟨rfl, rfl⟩
  | completed message =>
    simp only [absorb, hw, ← anonymous_keep]
    exact ⟨rfl, rfl⟩
  | failed reason => exact ⟨rfl, rfl⟩
  | unknown kind => exact ⟨rfl, rfl⟩

theorem anonymous_step (x : Execution) (moment : Moment) (move : Move) :
    (x.step moment move).1.anonymous = (x.anonymous.step moment.anonymous move).1 ∧
      (x.step moment move).2 = (x.anonymous.step moment.anonymous move).2 := by
  have hu : x.anonymous.isUnderWay = x.isUnderWay := rfl
  cases move with
  | receive e =>
    simp only [step, receive, hu]
    obtain ⟨hx, hs⟩ := x.anonymous_absorb moment e.meaning
    split
    · exact ⟨hx, congrArg Answer.signal hs⟩
    · exact ⟨rfl, rfl⟩
  | showDue =>
    obtain ⟨hx, hs⟩ := x.anonymous_settle (x.gate.releaseDue? moment.now)
    exact ⟨hx, congrArg Answer.shown hs⟩
  | showHeld =>
    obtain ⟨hx, hs⟩ := x.anonymous_settle (x.gate.release? moment.now)
    exact ⟨hx, congrArg Answer.shown hs⟩
  | stop =>
    have hw := x.anonymous_withHeldShown moment.now
    simp only [step, stop, hu]
    split
    · refine ⟨?_, trivial⟩
      exact congrArg (fun y : Execution => { y with question := none, phase := .ended }) hw
    · exact ⟨rfl, trivial⟩
  | proceed =>
    have hp : x.anonymous.phase = x.phase := rfl
    simp only [step, proceed, hp]
    split <;> exact ⟨rfl, trivial⟩
  | begin context draft => exact ⟨rfl, rfl⟩
  | learn context => exact ⟨rfl, rfl⟩
  | fail reason => exact ⟨rfl, rfl⟩
  | clear => exact ⟨rfl, rfl⟩
  | wipe => exact ⟨rfl, rfl⟩
  | dropQuestion => exact ⟨rfl, rfl⟩

/-! ### Runs -/

/-- A run is the same with and without serial numbers. -/
theorem anonymous_run (x : Execution) (moves : List (Moment × Move)) :
    (x.run moves).1.anonymous = (x.anonymous.run (unnumbered moves)).1 ∧
      (x.run moves).2 = (x.anonymous.run (unnumbered moves)).2 := by
  induction moves generalizing x with
  | nil => exact ⟨rfl, rfl⟩
  | cons m moves ih =>
    obtain ⟨hx, ha⟩ := x.anonymous_step m.1 m.2
    obtain ⟨hend, hanswers⟩ := ih (x.step m.1 m.2).1
    rw [hx] at hend hanswers
    refine ⟨hend, ?_⟩
    simp only [run, unnumbered, List.map_cons, ha]
    exact congrArg (_ :: ·) hanswers

/-- Two runs of a new execution that differ in serial numbers only give the same answers and the
same view. -/
theorem view_run_of_unnumbered_eq (gate : FrameGate) {moves moves' : List (Moment × Move)}
    (h : unnumbered moves = unnumbered moves') :
    ((new gate).run moves).1.view = ((new gate).run moves').1.view ∧
      ((new gate).run moves).2 = ((new gate).run moves').2 := by
  obtain ⟨hx, hs⟩ := (new gate).anonymous_run moves
  obtain ⟨hx', hs'⟩ := (new gate).anonymous_run moves'
  rw [← h] at hx' hs'
  refine ⟨?_, hs.trans hs'.symm⟩
  rw [← view_anonymous, hx, ← hx', view_anonymous]

end BranchChat.Execution
