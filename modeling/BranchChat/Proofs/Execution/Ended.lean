import BranchChat.Proofs.Execution.Stages

/-!
# Ended turns

What comes after the end of a turn comes to nothing: events that were still on their way, a frame
that falls due, a second stop, the end of a pause. This rests on what every end leaves behind, which
is neither a question nor held text.

## Main definitions

- `Move.isBelated`: whether a move may be one that has come too late
- `Move.idleAnswer`: the answer to a move that finds nothing to do
- `Inert`: belated moves change nothing, and are answered so
- `Move.endsTurn`: whether no turn is under way after a move

## Main statements

- `step_of_over`: one belated move
- `inert_run_iff`: the executions that are inert are those without a turn under way
-/

namespace BranchChat.Execution

open BranchChat.Stream (WireEvent)

variable {x : Execution} {moment : Moment} {move : Move}

/-- Whether a move may be one that has come too late for its turn. The others begin a turn, fail it,
name it, or clear it away. -/
def Move.isBelated : Move → Bool
  | .receive _ | .showDue | .showHeld | .stop | .dropQuestion | .proceed => true
  | .begin .. | .learn _ | .fail _ | .clear | .wipe => false

/-- The answer to a move that finds nothing to do. -/
def Move.idleAnswer : Move → Answer
  | .receive _ => .signal none
  | .showDue | .showHeld => .shown false
  | _ => .done

/-- Belated moves, as many as there may be and at whatever time, leave everything as it is, and none
of them is answered by a signal or by text that was shown. -/
def Inert (x : Execution) : Prop :=
  ∀ moves : List (Moment × Move), (∀ m ∈ moves, m.2.isBelated = true) →
    x.run moves = (x, moves.map (·.2.idleAnswer))

/-- Whether no turn is under way after a move: the turn is stopped or fails, its last event comes, or
it is cleared away. -/
def Move.endsTurn : Move → Bool
  | .stop | .fail _ | .clear | .wipe => true
  | .receive e => e.isLast
  | _ => false

theorem isUnderWay_eq_false_iff :
    x.isUnderWay = false ↔ x.phase = .idle ∨ x.phase = .ended := by
  unfold isUnderWay
  cases x.phase <;> decide

/-! ### Belated moves -/

theorem FrameGate.release?_of_held_eq_none {g : FrameGate} (h : g.held = none) (now : Nat) :
    g.release? now = (g, none) := by
  rw [release?, h]

theorem FrameGate.releaseDue?_of_held_eq_none {g : FrameGate} (h : g.held = none) (now : Nat) :
    g.releaseDue? now = (g, none) := by
  rw [releaseDue?, release?_of_held_eq_none h, ite_self]

/-- A belated move finds no turn, no question and no text. -/
theorem step_of_over (settled : x.isUnderWay = false) (question : x.question = none)
    (held : x.gate.held = none) (moment : Moment) (belated : move.isBelated = true) :
    x.step moment move = (x, move.idleAnswer) := by
  have hover : ¬ x.isUnderWay = true := Bool.eq_false_iff.mp settled
  cases move with
  | receive e =>
    simp only [step, receive, if_neg hover]
    rfl
  | showDue =>
    simp only [step, showDue, FrameGate.releaseDue?_of_held_eq_none held]
    rfl
  | showHeld =>
    simp only [step, showHeld, FrameGate.release?_of_held_eq_none held]
    rfl
  | stop =>
    simp only [step, stop, if_neg hover]
    rfl
  | dropQuestion =>
    simp only [step, dropQuestion, ← question]
    rfl
  | proceed =>
    have hphase : x.phase ≠ .awaitingDecision := by
      intro h
      exact hover (isUnderWay_iff.mpr (.inr h))
    simp only [step, proceed, if_neg hphase]
    rfl
  | begin context draft => cases belated
  | learn context => cases belated
  | fail reason => cases belated
  | clear => cases belated
  | wipe => cases belated

theorem inert_of_over (settled : x.isUnderWay = false) (question : x.question = none)
    (held : x.gate.held = none) : x.Inert := by
  intro moves belated
  induction moves with
  | nil => rfl
  | cons m moves ih =>
    obtain ⟨hfirst, hrest⟩ := List.forall_mem_cons.mp belated
    have hstep : x.step m.1 m.2 = (x, m.2.idleAnswer) :=
      step_of_over settled question held m.1 hfirst
    simp only [run, hstep, ih hrest, List.map_cons]

/-- Between turns there is neither a question nor held text. -/
theorem Staged.inert (h : x.Staged) (settled : x.isUnderWay = false) : x.Inert := by
  cases h with
  | idle phase activations question draft held => exact inert_of_over settled question held
  | ended phase question held => exact inert_of_over settled question held
  | underWay under =>
    rw [settled] at under
    cases under

/-! ### Ends -/

theorem phase_receive_of_isLast {e : WireEvent} (under : x.isUnderWay = true) (moment : Moment)
    (last : e.isLast = true) : (x.receive e moment).1.phase = .ended := by
  have hsignal : (x.receive e moment).2 ≠ none ∧
      (x.receive e moment).2 ≠ some .decisionNeeded := by
    rcases WireEvent.isLast_iff.mp last with hkind | hkind
    · rw [receive_completed under moment hkind]
      exact ⟨nofun, nofun⟩
    · rw [(receive_failed under moment hkind).1]
      exact ⟨nofun, nofun⟩
  have hreceived := received x e moment
  generalize x.receive e moment = result at hreceived hsignal
  cases hreceived with
  | quiet => exact absurd rfl hsignal.1
  | asked => exact absurd rfl hsignal.2
  | completed message phase => exact phase
  | failed reason phase => exact phase

theorem isUnderWay_step_of_endsTurn (x : Execution) (moment : Moment) (h : move.endsTurn = true) :
    (x.step moment move).1.isUnderWay = false := by
  apply isUnderWay_eq_false_iff.mpr
  -- A turn that is not under way is not ended once more.
  by_cases under : x.isUnderWay = true
  · cases move with
    | stop => exact .inr (phase_stop under moment.now)
    | receive e => exact .inr (phase_receive_of_isLast under moment h)
    | fail reason => exact .inr rfl
    | clear => exact .inl rfl
    | wipe => exact .inl rfl
    | _ => cases h
  · have hover := isUnderWay_eq_false_iff.mp (Bool.eq_false_iff.mpr under)
    cases move with
    | stop => simpa only [step, stop, if_neg under] using hover
    | receive e => simpa only [step, receive, if_neg under] using hover
    | fail reason => exact .inr rfl
    | clear => exact .inl rfl
    | wipe => exact .inl rfl
    | _ => cases h

/-- Whatever is done to an execution that starts with a gate that holds nothing: it is inert exactly
while no turn is under way. So after a stop, a failure or the last event of a turn nothing that is
still on its way changes anything, until a turn begins, fails, is named or is cleared away. -/
theorem inert_run_iff {gate : FrameGate} (empty : gate.held = none)
    (moves : List (Moment × Move)) :
    let x := ((new gate).run moves).1
    (x.Inert ↔ x.phase = .idle ∨ x.phase = .ended) ∧
      ∀ (moment : Moment) (move : Move), move.endsTurn = true → (x.step moment move).1.Inert := by
  intro x
  have staged : x.Staged := staged_run (.idle rfl rfl rfl rfl empty) moves
  constructor
  · constructor
    · intro inert
      by_cases under : x.isUnderWay = true
      · -- A stop would end the turn.
        have hstop : x.run [(default, .stop)] = (x, [.done]) := inert _ (by simp [Move.isBelated])
        have hsame : x.stop 0 = x := congrArg Prod.fst hstop
        right
        rw [← hsame]
        exact phase_stop under 0
      · exact isUnderWay_eq_false_iff.mp (Bool.eq_false_iff.mpr under)
    · intro settled
      exact staged.inert (isUnderWay_eq_false_iff.mpr settled)
  · intro moment move ends
    apply (staged.step moment move).inert
    exact x.isUnderWay_step_of_endsTurn moment ends

/-- What may still come after a turn was stopped: the text that was on its way, the frame of the text
before, and the last event. -/
def stragglers : List (Moment × Move) :=
  [(⟨7, 0, 4⟩, .receive ⟨"llm_chunk", none, none, none, .object [("content", .string "Summ")]⟩),
    (⟨18, 0, 5⟩, .showDue), (⟨19, 0, 6⟩, .proceed),
    (⟨20, 0, 7⟩, .receive ⟨"complete", none, none, none, .object [("message_id", .string "m")]⟩)]

theorem inert_run_earlyText :
    let x := ((new (.fresh 16)).run earlyText).1
    let y := (x.step ⟨6, 0, 3⟩ .stop).1
    (FrameGate.fresh 16).held = none ∧ x.gate.held = some "Sum" ∧ ¬ x.Inert ∧
      (∀ m ∈ stragglers, m.2.isBelated = true) ∧ y.activations.map (·.answer) = ["Sum"] ∧
      y.run stragglers = (y, [.signal none, .shown false, .done, .signal none]) := by
  intro x y
  have empty : (FrameGate.fresh 16).held = none := rfl
  have belated : ∀ m ∈ stragglers, m.2.isBelated = true := by decide
  obtain ⟨hinert, hends⟩ := inert_run_iff empty earlyText
  refine ⟨empty, by decide, ?_, belated, by decide, ?_⟩
  · intro inert
    have hphase : x.phase = .streaming := by decide
    have hover := hinert.mp inert
    rw [hphase] at hover
    exact absurd hover (by decide)
  · exact hends ⟨6, 0, 3⟩ .stop rfl stragglers belated

end BranchChat.Execution
