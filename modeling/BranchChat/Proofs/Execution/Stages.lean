import BranchChat.Proofs.Execution.Frames
import BranchChat.Proofs.Execution.Histories
import BranchChat.Proofs.Execution.Questions

/-!
# The stages of a turn

There is no turn, or one is under way, or one has ended. In each stage certain things are there and
others are not: a question and held text belong to a turn that is under way, its draft is there from
the beginning until the turn is cleared away, and an error is what the last turn has ended with.
Text is held back only for an activation in which it can be shown, so that none gets lost when the
gate lets it through.

## Main definitions

- `Staged`: what there is in each stage
- `Orderly`: the same, told by what is there
- `Shows`: text that the gate lets through is shown

## Main statements

- `Staged.step`, `staged_run`: every move leads from one stage to another
- `orderly_run`: whatever is done to an execution, it is orderly, and it shows what it takes out of
  its gate
-/

namespace BranchChat.Execution

open BranchChat.Stream (TurnEvent WireEvent)

variable {x y : Execution} {moment : Moment} {move : Move} {t : TurnEvent}

theorem primed_run (h : x.gate.Primed) (moves : List (Moment × Move)) :
    (x.run moves).1.gate.Primed :=
  holds_run (P := (·.gate.Primed))
    (fun x moment move h => h.moved (x.gate_step moment move)) h moves

/-! ### Stages -/

/-- What there is in each stage of a turn. -/
inductive Staged (x : Execution) : Prop where
  | idle (phase : x.phase = .idle) (activations : x.activations = []) (question : x.question = none)
      (draft : x.draft = none) (held : x.gate.held = none)
  | underWay (under : x.isUnderWay = true) (error : x.error = none)
      (draft : x.draft.isSome = true) (held : x.gate.held.isSome = true → x.activations ≠ [])
  | ended (phase : x.phase = .ended) (question : x.question = none) (held : x.gate.held = none)

theorem phase_ne_of_isUnderWay (under : x.isUnderWay = true) :
    x.phase ≠ .idle ∧ x.phase ≠ .ended := by
  rcases isUnderWay_iff.mp under with hphase | hphase
  · rw [hphase]
    decide
  · rw [hphase]
    decide

/-- Whatever does not touch the course of a turn leaves it in its stage. -/
theorem Staged.of_same (h : x.Staged) (phase : y.phase = x.phase)
    (question : y.question = x.question ∨ y.question = none) (error : y.error = x.error)
    (draft : y.draft = x.draft) (activations : y.activations = [] ↔ x.activations = [])
    (held : y.gate.held.isSome = true → x.gate.held.isSome = true) : y.Staged := by
  have held_none (h : x.gate.held = none) : y.gate.held = none := by
    refine Option.not_isSome_iff_eq_none.mp fun hsome => ?_
    exact absurd (held hsome) (by rw [h]; decide)
  have question_none (h : x.question = none) : y.question = none := by
    rcases question with hsame | hnone
    · exact hsame.trans h
    · exact hnone
  cases h with
  | idle hphase hactivations hquestion hdraft hheld =>
    exact .idle (phase.trans hphase) (activations.mpr hactivations) (question_none hquestion)
      (draft.trans hdraft) (held_none hheld)
  | underWay hunder herror hdraft hheld =>
    exact .underWay ((isUnderWay_congr phase).trans hunder) (error.trans herror)
      (draft ▸ hdraft) fun hsome => mt activations.mp (hheld (held hsome))
  | ended hphase hquestion hheld =>
    exact .ended (phase.trans hphase) (question_none hquestion) (held_none hheld)

theorem Told.eq_nil_iff {l l' : List Activation} (h : Told l l') : l' = [] ↔ l = [] := by
  rw [← List.length_eq_zero_iff, h.length_eq, List.length_eq_zero_iff]

/-- Showing text changes the activations and the gate, and leaves nothing held that was not. -/
theorem Staged.settle (h : x.Staged) (now : Nat) (m : FrameGate.Move)
    (patient : m.isPatient = true) : (x.settle (x.gate.step now m)).1.Staged := by
  have hnil := (x.told_settle (x.gate.step now m)).eq_nil_iff
  rw [settle_eq]
  exact h.of_same rfl (.inl rfl) rfl rfl hnil (FrameGate.held_of_held_step patient)

/-! ### Events -/

/-- What an event makes of a turn that is under way: it goes on, and text is held back only if there
is an activation for it, or it ends and leaves nothing open. -/
inductive Course (x y : Execution) : Prop where
  | goesOn (phase : y.phase = x.phase ∨ y.phase = .awaitingDecision) (error : y.error = x.error)
      (draft : y.draft = x.draft)
      (held : y.gate.held.isSome = true → x.gate.held.isSome = true ∨ x.activations ≠ [])
  | ends (phase : y.phase = .ended) (question : y.question = none) (held : y.gate.held = none)

theorem course_absorb (x : Execution) (moment : Moment) (t : TurnEvent) :
    x.Course (x.absorb moment t).1 := by
  have released (h : (x.gate.release? moment.now).1.held.isSome = true) :
      x.gate.held.isSome = true ∨ x.activations ≠ [] := by
    rw [x.gate.held_release?] at h
    cases h
  have dropped (h : x.gate.dropHeld.held.isSome = true) :
      x.gate.held.isSome = true ∨ x.activations ≠ [] :=
    absurd h Bool.false_ne_true
  cases t with
  | agentStarted agent =>
    rw [absorb, withHeldShown_eq]
    exact .goesOn (.inl rfl) rfl rfl released
  | agentFinished agent =>
    rw [absorb, withHeldShown_eq]
    exact .goesOn (.inl rfl) rfl rfl released
  | permissionAsked tool params thread message =>
    rw [absorb, withHeldShown_eq]
    exact .goesOn (.inr rfl) rfl rfl released
  | completed message =>
    simp only [absorb, withHeldShown_eq, keep_eq]
    exact .ends rfl rfl (x.gate.held_release? moment.now)
  | failed reason => exact .ends rfl rfl rfl
  | answer text =>
    simp only [absorb, List.isEmpty_iff]
    split
    · exact .goesOn (.inl rfl) rfl rfl .inl
    case isFalse hne =>
      rw [settle_eq]
      exact .goesOn (.inl rfl) rfl rfl fun _ => .inr hne
  | wholeAnswer text => exact .goesOn (.inl rfl) rfl rfl dropped
  | toolStarted tool agent params => exact .goesOn (.inl rfl) rfl rfl dropped
  | identifiers conversation message thread => exact .goesOn (.inl rfl) rfl rfl .inl
  | reasoning text => exact .goesOn (.inl rfl) rfl rfl .inl
  | silence => exact .goesOn (.inl rfl) rfl rfl .inl
  | toolFinished tool success result duration => exact .goesOn (.inl rfl) rfl rfl .inl
  | permissionSettled approved => exact .goesOn (.inl rfl) rfl rfl .inl
  | unknown kind => exact .goesOn (.inl rfl) rfl rfl .inl

theorem Staged.receive (h : x.Staged) (e : WireEvent) (moment : Moment) :
    (x.receive e moment).1.Staged := by
  unfold Execution.receive
  split
  case isFalse => exact h
  case isTrue under =>
    cases h with
    | idle phase => exact absurd phase (phase_ne_of_isUnderWay under).1
    | ended phase => exact absurd phase (phase_ne_of_isUnderWay under).2
    | underWay _ error draft held =>
      have hgrown := (x.worked_absorb moment e.meaning).isExtended.later.length_le
      cases x.course_absorb moment e.meaning with
      | ends phase question held' => exact .ended phase question held'
      | goesOn phase error' draft' held' =>
        refine .underWay ?_ (error'.trans error) (draft' ▸ draft) fun hsome hnil => ?_
        · rcases phase with hsame | hpaused
          · exact (isUnderWay_congr hsame).trans under
          · exact isUnderWay_iff.mpr (.inr hpaused)
        · -- There is an activation, because there was one before and none goes away.
          have hne : x.activations ≠ [] := by
            rcases held' hsome with hheld | hne
            · exact held hheld
            · exact hne
          rw [hnil] at hgrown
          exact hne (List.length_eq_zero_iff.mp (Nat.le_zero.mp hgrown))

/-! ### Moves -/

/-- Every move leads from one stage to another. -/
theorem Staged.step (h : x.Staged) (moment : Moment) (move : Move) :
    (x.step moment move).1.Staged := by
  cases move with
  | begin context draft => exact .underWay rfl rfl rfl nofun
  | receive e => exact h.receive e moment
  | learn context => exact h.of_same rfl (.inl rfl) rfl rfl .rfl id
  | showDue => exact h.settle moment.now .releaseDue rfl
  | showHeld => exact h.settle moment.now .release rfl
  | stop =>
    simp only [Execution.step, stop, withHeldShown_eq]
    split
    · exact .ended rfl rfl (x.gate.held_release? moment.now)
    · exact h
  | fail reason => exact .ended rfl rfl rfl
  | clear => exact .idle rfl rfl rfl rfl rfl
  | wipe => exact .idle rfl rfl rfl rfl rfl
  | dropQuestion => exact h.of_same rfl (.inr rfl) rfl rfl .rfl id
  | proceed =>
    simp only [Execution.step, proceed]
    split
    case isFalse => exact h
    case isTrue paused =>
      cases h with
      | idle phase => exact absurd (phase.symm.trans paused) (by decide)
      | ended phase => exact absurd (phase.symm.trans paused) (by decide)
      | underWay _ error draft held => exact .underWay rfl error draft held

theorem staged_run (h : x.Staged) (moves : List (Moment × Move)) : (x.run moves).1.Staged :=
  holds_run (fun _ moment move h => h.step moment move) h moves

/-! ### What is there -/

/-- Everything that is there fits the phase of the turn. -/
structure Orderly (x : Execution) : Prop where
  idle : x.phase = .idle →
    x.activations = [] ∧ x.question = none ∧ x.draft = none ∧ x.gate.held = none
  ended : x.phase = .ended → x.question = none ∧ x.gate.held = none
  error : x.error.isSome = true → x.phase = .ended ∨ x.phase = .idle
  draft : x.isUnderWay = true → x.draft.isSome = true
  question : x.question.isSome = true → x.isUnderWay = true
  held : x.gate.held.isSome = true → x.isUnderWay = true ∧ x.activations ≠ []
  /-- Held text is due some time, and only held text is. -/
  remaining : ∀ now, (x.gate.remaining? now).isSome = x.gate.held.isSome

theorem Staged.orderly (h : x.Staged) (primed : x.gate.Primed) : x.Orderly := by
  cases h with
  | idle phase activations question draft held =>
    refine ⟨fun _ => ⟨activations, question, draft, held⟩, fun hended => ?_, fun _ => .inr phase,
      fun under => ?_, fun hsome => ?_, fun hsome => ?_, primed.isSome_remaining?⟩
    · exact absurd (phase.symm.trans hended) (by decide)
    · exact absurd phase (phase_ne_of_isUnderWay under).1
    · exact absurd hsome (by simp [question])
    · exact absurd hsome (by simp [held])
  | underWay under error draft held =>
    refine ⟨fun hidle => ?_, fun hended => ?_, fun hsome => ?_, fun _ => draft, fun _ => under,
      fun hsome => ⟨under, held hsome⟩, primed.isSome_remaining?⟩
    · exact absurd hidle (phase_ne_of_isUnderWay under).1
    · exact absurd hended (phase_ne_of_isUnderWay under).2
    · exact absurd hsome (by simp [error])
  | ended phase question held =>
    refine ⟨fun hidle => ?_, fun _ => ⟨question, held⟩, fun _ => .inl phase,
      fun under => ?_, fun hsome => ?_, fun hsome => ?_, primed.isSome_remaining?⟩
    · exact absurd (phase.symm.trans hidle) (by decide)
    · exact absurd phase (phase_ne_of_isUnderWay under).2
    · exact absurd hsome (by simp [question])
    · exact absurd hsome (by simp [held])

/-- Text that the gate has let through is shown in the newest activation, and the answer tells
whether there was some. -/
structure Shows (x : Execution) (released : FrameGate × Option String)
    (result : Execution × Bool) : Prop where
  answer : result.2 = released.2.isSome
  shown : ∀ text, released.2 = some text → ∃ older a, x.activations = older ++ [a] ∧
    result.1.activations = older ++ [{ a with answer := text }]

theorem shows_settle {released : FrameGate × Option String}
    (h : released.2.isSome = true → x.activations ≠ []) : x.Shows released (x.settle released) := by
  obtain ⟨gate, _ | text⟩ := released
  · exact ⟨rfl, nofun⟩
  · obtain ⟨older, a, hx⟩ := (List.eq_nil_or_concat x.activations).resolve_left (h rfl)
    rw [List.concat_eq_append] at hx
    refine ⟨?_, fun t ht => ⟨older, a, hx, ?_⟩⟩
    · simp [settle, hx]
    · obtain rfl := Option.some.inj ht
      simp only [settle, onCurrent, hx, onLast_concat]

/-- Whatever is done to an execution that starts with a gate that holds nothing, everything that is
there fits the phase of the turn. So it always shows what it takes out of its gate. -/
theorem orderly_run {gate : FrameGate} (empty : gate.held = none) (moves : List (Moment × Move)) :
    ((new gate).run moves).1.Orderly ∧
      ∀ now, ((new gate).run moves).1.Shows (((new gate).run moves).1.gate.releaseDue? now)
          (((new gate).run moves).1.showDue now) ∧
        ((new gate).run moves).1.Shows (((new gate).run moves).1.gate.release? now)
          (((new gate).run moves).1.showHeld now) := by
  have horderly : ((new gate).run moves).1.Orderly :=
    (staged_run (.idle rfl rfl rfl rfl empty) moves).orderly
      (primed_run (.of_held_eq_none empty) moves)
  generalize ((new gate).run moves).1 = x at horderly
  have shows (m : FrameGate.Move) (patient : m.isPatient = true) (now : Nat) :
      x.Shows (x.gate.step now m) (x.settle (x.gate.step now m)) := by
    refine shows_settle fun hsome => ?_
    obtain ⟨text, htext⟩ := Option.isSome_iff_exists.mp hsome
    have hheld := FrameGate.held_of_step_eq_some patient htext
    exact (horderly.held (Option.isSome_of_eq_some hheld)).2
  exact ⟨horderly, fun now => ⟨shows .releaseDue rfl now, shows .release rfl now⟩⟩

/-- A turn with text that has come within the frame of the text before. -/
def earlyText : List (Moment × Move) :=
  let chunk (text : String) : Move :=
    .receive ⟨"llm_chunk", none, none, none, .object [("content", .string text)]⟩
  [(⟨0, 0, 0⟩, .begin .none "q"),
    (⟨1, 0, 1⟩, .receive ⟨"agent_start", none, some "A", none, .null⟩),
    (⟨2, 0, 2⟩, chunk "S"), (⟨5, 0, 3⟩, chunk "Sum")]

theorem orderly_run_earlyText :
    let x := ((new (.fresh 16)).run earlyText).1
    (FrameGate.fresh 16).held = none ∧ x.gate.held = some "Sum" ∧ x.gate.remaining? 6 = some 12 ∧
      (x.gate.releaseDue? 17).2 = none ∧ (x.gate.releaseDue? 18).2 = some "Sum" ∧ x.Orderly ∧
      x.Shows (x.gate.releaseDue? 18) (x.showDue 18) := by
  intro x
  have empty : (FrameGate.fresh 16).held = none := rfl
  obtain ⟨horderly, hshows⟩ := orderly_run empty earlyText
  exact ⟨empty, by decide, by decide, by decide, by decide, horderly, (hshows 18).1⟩

end BranchChat.Execution
