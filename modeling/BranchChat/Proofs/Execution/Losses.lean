import BranchChat.Proofs.Execution.Archives
import BranchChat.Proofs.Execution.Coalescing
import BranchChat.Proofs.Execution.Ended

/-!
# What a failure loses

A turn that is stopped shows the newest text that its agent has sent. A turn that fails, by itself
or by an event that says so, drops the text that is still held back. Everything else it shows as the
stopped turn does.

## Main definitions

- `said`: the newest text of the newest agent, read off the moves alone
- `FailsTo`: what a failure makes of a turn

## Main statements

- `newestAnswer?_shown_step`, `newestAnswer?_shown_run`: the newest text is shown or held back
- `stop_shows_said`: a stop shows it, and a failure does so exactly where nothing new is held back
-/

namespace BranchChat.Execution

open BranchChat.Stream (TurnEvent WireEvent)

variable {x y : Execution} {moment : Moment} {move : Move} {before : Option String}

/-! ### What the newest agent has said -/

/-- The answer of the newest activation. -/
def newestAnswer? (activations : List Activation) : Option String :=
  (activations.map (·.answer)).getLast?

/-- What the newest agent has said after an event, where it had said `before`. A new agent has said
nothing yet, and a new tool call makes it start anew. -/
def saidAfter (before : Option String) : TurnEvent → Option String
  | .agentStarted _ => some ""
  | .answer text | .wholeAnswer text => before.map fun _ => text
  | .toolStarted .. => before.map fun _ => ""
  | _ => before

/-- What the newest agent has said at the end of a run, if it had said `before` at the start. Where
no agent has started in the turn there is nothing. -/
def said (x : Execution) (before : Option String) : List (Moment × Move) → Option String
  | [] => before
  | (moment, move) :: moves =>
    let after := match x.folds? move with
      | some e => saidAfter before e.meaning
      | none => if move.isWithinTurn then before else none
    (x.step moment move).1.said after moves

theorem newestAnswer?_concat (l : List Activation) (a : Activation) :
    newestAnswer? (l ++ [a]) = some a.answer := by
  simp [newestAnswer?]

/-- A change of the newest activation changes its answer. -/
theorem newestAnswer?_onLast {f : Activation → Activation} {g : String → String}
    (h : ∀ a : Activation, (f a).answer = g a.answer) (l : List Activation) :
    newestAnswer? (onLast f l) = (newestAnswer? l).map g := by
  rcases List.eq_nil_or_concat l with rfl | ⟨l, a, rfl⟩
  · rfl
  · simp only [List.concat_eq_append, onLast_concat, newestAnswer?_concat, h, Option.map_some]

/-- The end of a tool call changes no answer. -/
theorem newestAnswer?_completeTool (x : Execution) (tool : String) (success : Bool)
    (result : Option Json.Value) (duration : Option Nat) :
    newestAnswer? (x.completeTool tool success result duration).activations =
      newestAnswer? x.activations := by
  rcases x.completeTool_cases tool success result duration with ⟨-, heq⟩ | ⟨l, hfinished, heq⟩
  · rw [heq]
  · rw [heq]
    generalize x.activations = l' at hfinished
    cases hfinished
    simp [newestAnswer?]

/-! ### Without a gate -/

theorem withHeldShown_of_isOpen (h : x.gate.IsOpen) (now : Nat) : x.withHeldShown now = x := by
  rw [withHeldShown_eq, FrameGate.release?, shown, h.held_eq]

theorem shown_of_isOpen (h : x.gate.IsOpen) : x.shown = x.activations := by
  rw [shown, h.held_eq]

theorem activations_settle_offer_of_isOpen (h : x.gate.IsOpen) (text : String) (now : Nat) :
    (x.settle (x.gate.offer text now)).1.activations =
      onLast ({ · with answer := text }) x.activations := by
  have hdue : ({ x.gate with held := some text } : FrameGate).isDue now = true :=
    FrameGate.isDue_of_interval_eq_zero h.interval_eq now
  rw [FrameGate.offer, FrameGate.releaseDue?, if_pos hdue]
  rfl

theorem newestAnswer?_absorb_of_isOpen (h : x.gate.IsOpen) (moment : Moment) (t : TurnEvent) :
    newestAnswer? (x.absorb moment t).1.activations =
      saidAfter (newestAnswer? x.activations) t := by
  have hheld := withHeldShown_of_isOpen h moment.now
  have same {f : Activation → Activation} (hf : ∀ a : Activation, (f a).answer = a.answer) :
      newestAnswer? (x.onCurrent f).activations = newestAnswer? x.activations := by
    rw [onCurrent, newestAnswer?_onLast (g := id) hf, Option.map_id_apply]
  cases t with
  | agentStarted agent =>
    rw [absorb, hheld]
    exact newestAnswer?_concat _ _
  | answer text =>
    simp only [absorb]
    split
    case isTrue hnil =>
      rw [List.isEmpty_iff.mp hnil]
      rfl
    case isFalse =>
      have hquiet : (x.onCurrent ({ · with isThinking := false })).gate.IsOpen := h
      dsimp only
      rw [activations_settle_offer_of_isOpen hquiet,
        newestAnswer?_onLast (g := fun _ => text) fun _ => rfl,
        same (f := ({ · with isThinking := false })) fun _ => rfl]
      rfl
  | wholeAnswer text => exact newestAnswer?_onLast (fun _ => rfl) _
  | toolStarted tool agent params => exact newestAnswer?_onLast (fun _ => rfl) _
  | toolFinished tool success result duration =>
    exact x.newestAnswer?_completeTool tool success result duration
  | agentFinished agent =>
    rw [absorb, hheld]
    exact same fun _ => rfl
  | permissionAsked tool params thread message => rw [absorb, hheld]; rfl
  | completed message =>
    rw [absorb, hheld, keep_eq]
    rfl
  | reasoning text => exact same fun _ => rfl
  | identifiers conversation message thread => rfl
  | silence => rfl
  | permissionSettled approved => rfl
  | failed reason => rfl
  | unknown kind => rfl

theorem newestAnswer?_step_of_isOpen (h : x.gate.IsOpen) (moment : Moment)
    (spared : ¬ x.Failing move) :
    newestAnswer? (x.step moment move).1.activations =
      match x.folds? move with
      | some e => saidAfter (newestAnswer? x.activations) e.meaning
      | none => if move.isWithinTurn then newestAnswer? x.activations else none := by
  cases move with
  | receive e =>
    simp only [step, receive, folds?]
    split
    · exact newestAnswer?_absorb_of_isOpen h moment e.meaning
    · rfl
  | showDue =>
    simp only [step, showDue, FrameGate.releaseDue?_of_held_eq_none h.held_eq]
    rfl
  | showHeld =>
    simp only [step, showHeld, FrameGate.release?_of_held_eq_none h.held_eq]
    rfl
  | stop =>
    simp only [step, stop, withHeldShown_of_isOpen h]
    split <;> rfl
  | proceed =>
    simp only [step, proceed]
    split <;> rfl
  | fail reason => exact absurd trivial spared
  | begin context draft => rfl
  | learn context => rfl
  | clear => rfl
  | wipe => rfl
  | dropQuestion => rfl

/-! ### What is shown or held back -/

theorem Failing.endsTurn (h : x.Failing move) : move.endsTurn = true := by
  cases move with
  | receive e => exact WireEvent.isLast_iff.mpr (.inr h.2)
  | fail reason => rfl
  | _ => cases h

theorem isOpen_ungated (x : Execution) : x.ungated.gate.IsOpen := ⟨rfl, rfl⟩

/-- The newest text is the one that is held back, or else the one that is shown. -/
theorem newestAnswer?_shown_step (moment : Moment) (spared : ¬ x.Failing move) :
    newestAnswer? (x.step moment move).1.shown =
      match x.folds? move with
      | some e => saidAfter (newestAnswer? x.shown) e.meaning
      | none => if move.isWithinTurn then newestAnswer? x.shown else none := by
  have hopen : (x.ungated.step moment move).1.gate.IsOpen :=
    x.isOpen_ungated.moved (x.ungated.gate_step moment move)
  have hshown : (x.step moment move).1.shown = (x.ungated.step moment move).1.shown :=
    congrArg activations (x.ungated_step moment spared).1
  have hfolds : x.ungated.folds? move = x.folds? move := by cases move <;> rfl
  rw [hshown, shown_of_isOpen hopen,
    newestAnswer?_step_of_isOpen x.isOpen_ungated moment (mt (failing_ungated x move).mp spared),
    hfolds]
  rfl

/-- Whatever is done to an execution, while a turn is under way the newest text of its newest agent
is the one that is held back, or else the one that is shown. -/
theorem newestAnswer?_shown_run {moves : List (Moment × Move)}
    (h : x.isUnderWay = true → newestAnswer? x.shown = before)
    (under : (x.run moves).1.isUnderWay = true) :
    newestAnswer? (x.run moves).1.shown = x.said before moves := by
  induction moves generalizing x before with
  | nil => exact h under
  | cons m moves ih =>
    obtain ⟨moment, move⟩ := m
    refine ih (fun hnext => ?_) under
    have spared : ¬ x.Failing move := fun failing =>
      absurd hnext (Bool.eq_false_iff.mp (x.isUnderWay_step_of_endsTurn moment failing.endsTurn))
    rw [newestAnswer?_shown_step moment spared]
    cases hfolds : x.folds? move with
    | some e => rw [h (folds?_eq_some_iff.mp hfolds).1]
    | none =>
      dsimp only
      split
      case isTrue within => exact h (isUnderWay_of_isUnderWay_step within hnext)
      case isFalse => rfl

/-! ### Failures -/

/-- What a failure makes of a turn: it is told of the failure, or an event says so. -/
inductive FailsTo (x : Execution) : Execution → Prop where
  | told (reason : String) : FailsTo x (x.fail reason)
  | received (e : WireEvent) (moment : Moment) (kind : e.kind = "error") :
      FailsTo x (x.receive e moment).1

/-- A failure changes no activation. -/
theorem FailsTo.activations_eq (h : x.FailsTo y) : y.activations = x.activations := by
  cases h with
  | told reason => rfl
  | received e moment kind =>
    have hmeaning := WireEvent.meaning_eq_failed_iff.mpr ⟨kind, rfl⟩
    unfold receive
    split
    · rw [hmeaning]
      rfl
    · rfl

/-- A stop shows the text that is held back. -/
theorem activations_stop (under : x.isUnderWay = true) (now : Nat) :
    (x.stop now).activations = x.shown := by
  rw [stop, if_pos under, withHeldShown_eq]

/-- Held text is new unless it is shown already. -/
theorem shown_eq_activations_iff (h : x.gate.held.isSome = true → x.activations ≠ []) :
    x.shown = x.activations ↔
      ∀ text, x.gate.held = some text → newestAnswer? x.activations = some text := by
  unfold shown
  cases hheld : x.gate.held with
  | none => simp
  | some text =>
    obtain ⟨older, a, hx⟩ :=
      (List.eq_nil_or_concat x.activations).resolve_left (h (Option.isSome_of_eq_some hheld))
    rw [List.concat_eq_append] at hx
    dsimp only
    rw [hx, onLast_concat, newestAnswer?_concat]
    constructor
    · intro heq t ht
      obtain rfl := Option.some.inj ht
      have ha := List.append_cancel_left heq
      rw [← (List.cons.inj ha).1]
    · intro hnew
      obtain ⟨⟩ := Option.some.inj (hnew text rfl)
      rfl

/-- Shown and held text differ in the newest answer at most. -/
theorem shown_eq_onLast (x : Execution) :
    x.shown = onLast (fun a => { a with answer := (newestAnswer? x.shown).getD a.answer })
      x.activations := by
  unfold shown
  rcases List.eq_nil_or_concat x.activations with hx | ⟨older, a, hx⟩
  · rw [hx]
    split <;> rfl
  · rw [hx, List.concat_eq_append]
    split
    · simp only [onLast_concat, newestAnswer?_concat, Option.getD_some]
    · simp only [onLast_concat, newestAnswer?_concat, Option.getD_some]

/-- Whatever is done to an execution whose gate holds nothing at first, and whatever the frames are:
stopping a turn that is under way shows the newest text of its agent. A failure of it, by itself or
by an event, leaves the same activations but for that text. It shows the text, too, exactly where no
other text is held back. -/
theorem stop_shows_said {gate : FrameGate} (empty : gate.held = none)
    (moves : List (Moment × Move)) (under : ((new gate).run moves).1.isUnderWay = true) (now : Nat) :
    let x := ((new gate).run moves).1
    let newest := (new gate).said none moves
    newestAnswer? (x.stop now).activations = newest ∧
      ∀ y, x.FailsTo y →
        (x.stop now).activations =
            onLast (fun a => { a with answer := newest.getD a.answer }) y.activations ∧
          (y.activations = (x.stop now).activations ↔
            ∀ text, x.gate.held = some text → newestAnswer? y.activations = some text) := by
  intro x newest
  have staged : x.Staged := staged_run (.idle rfl rfl rfl rfl empty) moves
  have horderly : x.Orderly := staged.orderly (primed_run (.of_held_eq_none empty) moves)
  have hnewest : newestAnswer? x.shown = newest := newestAnswer?_shown_run nofun under
  rw [activations_stop under]
  refine ⟨hnewest, fun y failed => ?_⟩
  rw [failed.activations_eq]
  constructor
  · rw [← hnewest]
    exact x.shown_eq_onLast
  · rw [eq_comm]
    exact shown_eq_activations_iff fun hheld => (horderly.held hheld).2

/-- The turn of `earlyText` fails, by itself or by an event, while its newest text is held back. -/
theorem stop_shows_said_earlyText :
    let x := ((new (.fresh 16)).run earlyText).1
    let failure : WireEvent := ⟨"error", none, none, none, .null⟩
    (FrameGate.fresh 16).held = none ∧ x.isUnderWay = true ∧ x.gate.held = some "Sum" ∧
      newestAnswer? (x.stop 6).activations = (new (.fresh 16)).said none earlyText ∧
      (new (.fresh 16)).said none earlyText = some "Sum" ∧
      (x.fail "lost").activations ≠ (x.stop 6).activations ∧
      (x.receive failure ⟨6, 0, 4⟩).1.activations ≠ (x.stop 6).activations := by
  intro x failure
  have empty : (FrameGate.fresh 16).held = none := rfl
  have under : x.isUnderWay = true := by decide
  have held : x.gate.held = some "Sum" := by decide
  obtain ⟨hnewest, hfails⟩ := stop_shows_said empty earlyText under 6
  have lost (y : Execution) (failed : x.FailsTo y) : y.activations ≠ (x.stop 6).activations := by
    intro same
    have hsum := (hfails y failed).2.mp same "Sum" held
    rw [failed.activations_eq] at hsum
    exact absurd hsum (by decide)
  exact ⟨empty, under, held, hnewest, by decide, lost _ (.told "lost"),
    lost _ (.received failure ⟨6, 0, 4⟩ rfl)⟩

/-- Text that has come within the frame of the text before is shown by a stop and lost by a failure,
so that the two do not leave the same activations behind. -/
theorem not_forall_fail_eq_stop :
    ¬ ∀ (interval : Nat) (moves : List (Moment × Move)) (now : Nat),
      let x := ((new (.fresh interval)).run moves).1
      x.isUnderWay = true → ∀ y, x.FailsTo y → y.activations = (x.stop now).activations := by
  intro same
  have hunder : ((new (.fresh 16)).run earlyText).1.isUnderWay = true := by decide
  have hsame := same 16 earlyText 6 hunder _ (.told "lost")
  exact absurd (congrArg (List.map (·.answer)) hsame) (by decide)

end BranchChat.Execution
