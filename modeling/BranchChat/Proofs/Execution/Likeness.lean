import BranchChat.Proofs.Execution.Coalescing

/-!
# Executions that look alike

Executions look alike if there is no telling them apart once held text is shown, serial numbers
aside. Alike executions stay alike, whenever their gates have last opened, as long as no turn fails.

## Main definitions

- `plain`: the execution with held text shown and serial numbers taken away

## Main statements

- `plain_step_congr`: alike executions stay alike, and events are answered by the same signals
-/

namespace BranchChat.Execution

open BranchChat.Stream (WireEvent)

variable {x y : Execution} {moment moment' : Moment} {move : Move} {e : WireEvent} {now : Nat}

/-- The execution with held text shown and serial numbers taken away. -/
def plain (x : Execution) : Execution :=
  x.ungated.anonymous

theorem shown_anonymous (x : Execution) :
    x.anonymous.shown = x.shown.map Activation.anonymous := by
  unfold shown anonymous
  dsimp only
  split
  · refine Eq.symm (map_onLast ?_ x.activations)
    intro a
    rfl
  · rfl

theorem ungated_anonymous (x : Execution) : x.anonymous.ungated = x.plain := by
  simp only [plain, ungated, shown_anonymous]
  rfl

/-- What is to be seen of an execution with held text shown is to be seen of its plain form. -/
theorem view_plain (x : Execution) : x.plain.view = x.ungated.view :=
  view_anonymous x.ungated

/-- What becomes of an execution is read off its plain form, as long as no turn fails. -/
theorem plain_step (h : ¬ x.Failing move) :
    (x.step moment move).1.plain = (x.plain.step moment.anonymous move).1.ungated ∧
      (x.step moment move).2.signal? = (x.plain.step moment.anonymous move).2.signal? := by
  obtain ⟨hungated, hsignal⟩ := x.ungated_step moment h
  obtain ⟨hanonymous, hanswer⟩ := x.ungated.anonymous_step moment move
  constructor
  · calc (x.step moment move).1.plain
      _ = (x.ungated.step moment move).1.plain := by rw [plain, hungated, plain]
      _ = (x.ungated.step moment move).1.anonymous.ungated := (ungated_anonymous _).symm
      _ = (x.plain.step moment.anonymous move).1.ungated := by rw [hanonymous, plain]
  · rw [hsignal, hanswer, plain]

theorem failing_plain (x : Execution) (move : Move) : x.plain.Failing move ↔ x.Failing move := by
  cases move <;> exact Iff.rfl

section Alike

variable (hxy : x.plain = y.plain)

include hxy

/-- Alike executions stay alike, and events are answered by the same signals. -/
theorem plain_step_congr (h : ¬ x.Failing move) (same : moment.anonymous = moment'.anonymous) :
    (x.step moment move).1.plain = (y.step moment' move).1.plain ∧
      (x.step moment move).2.signal? = (y.step moment' move).2.signal? := by
  have hy : ¬ y.Failing move := by rwa [← failing_plain, ← hxy, failing_plain]
  obtain ⟨hx1, hx2⟩ := plain_step h
  obtain ⟨hy1, hy2⟩ := plain_step hy
  rw [hx1, hx2, hy1, hy2, hxy, same]
  exact ⟨rfl, rfl⟩

theorem phase_congr : x.phase = y.phase := by
  show x.plain.phase = y.plain.phase
  rw [hxy]

theorem context_congr : x.context = y.context := by
  show x.plain.context = y.plain.context
  rw [hxy]

theorem question_congr : x.question = y.question := by
  show x.plain.question = y.plain.question
  rw [hxy]

theorem isUnderWay_plain_congr : x.isUnderWay = y.isUnderWay := by
  show x.plain.isUnderWay = y.plain.isUnderWay
  rw [hxy]

theorem error_congr : x.error = y.error := by
  show x.plain.error = y.plain.error
  rw [hxy]

end Alike

end BranchChat.Execution
