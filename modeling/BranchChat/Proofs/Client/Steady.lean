import BranchChat.Proofs.Client.Deliveries
import BranchChat.Proofs.Execution.Questions

/-!
# The live connection and its turn

Between two moves the connection and the turn fit together: a live connection belongs to a turn
under way, a turn that streams has one, and all connections but the live one are cancelled. Where
there is no live connection all are cancelled, which is what aborting comes to.

## Main definitions

- `Scene.Silent`: there is no live connection, and all that there were are cancelled
- `Scene.Steady`: the live connection and the turn fit together
- `Scene.LeadsTo`: a scene is steady, and its connection is that of an earlier scene or a newer one

## Main statements

- `EarlierCancelled.silent_abort`, `Steady.silent_dropLive`: both ways to end a connection
- `Silent.leadsTo_of_over`, `Steady.onExecution`, `Undisturbed.leadsTo`: steps to a steady scene
-/

namespace BranchChat.Scene

variable {s t u : Scene} {mark : Nat}

/-! ### Cancelling -/

/-- The mark of the live connection. -/
def liveMark? (s : Scene) : Option Nat :=
  s.client.live.map (·.mark)

theorem isCancelled_cancel {other : Nat} :
    (s.cancel other).isCancelled mark = true ↔ other = mark ∨ s.isCancelled mark = true := by
  unfold isCancelled cancel
  rw [List.contains_cons, Bool.or_eq_true, beq_iff_eq, eq_comm]

theorem isCancelled_dropLive :
    s.dropLive.isCancelled mark = true ↔
      s.liveMark? = some mark ∨ s.isCancelled mark = true := by
  unfold dropLive liveMark?
  cases s.client.live with
  | none => simp
  | some live =>
    rw [Option.map_some, Option.some.injEq]
    exact isCancelled_cancel

theorem isCancelled_abort :
    s.abort.isCancelled mark = true ↔
      s.client.mark = some mark ∨ s.liveMark? = some mark ∨ s.isCancelled mark = true := by
  unfold abort
  cases s.client.mark with
  | none => simp [isCancelled_dropLive]
  | some latest =>
    rw [Option.some.injEq, or_left_comm, ← isCancelled_cancel]
    exact isCancelled_dropLive

@[simp]
theorem issued_dropLive (s : Scene) : s.dropLive.marks.issued = s.marks.issued := by
  unfold dropLive
  split <;> rfl

@[simp]
theorem issued_abort (s : Scene) : s.abort.marks.issued = s.marks.issued := by
  unfold abort
  split <;> exact issued_dropLive _

/-- There is no live connection, and all that there were are cancelled. -/
structure Silent (s : Scene) : Prop where
  live : s.client.live = none
  cancelled : ∀ mark < s.marks.issued, s.isCancelled mark = true

/-- All connections are cancelled, except perhaps the latest one. -/
def EarlierCancelled (s : Scene) : Prop :=
  ∀ mark < s.marks.issued, s.client.mark = some mark ∨ s.isCancelled mark = true

theorem Silent.earlierCancelled (h : s.Silent) : s.EarlierCancelled :=
  fun mark hmark => .inr (h.cancelled mark hmark)

theorem EarlierCancelled.silent_abort (h : s.EarlierCancelled) : s.abort.Silent := by
  refine ⟨abort_live s, fun mark hmark => isCancelled_abort.mpr ?_⟩
  rw [issued_abort] at hmark
  exact (h mark hmark).imp_right .inr

theorem Silent.onExecution (h : s.Silent) (change : Execution → Execution) :
    (s.onExecution change).Silent :=
  ⟨h.live, h.cancelled⟩

theorem Kept.earlierCancelled (h : Kept s t) (hs : s.EarlierCancelled) : t.EarlierCancelled := by
  intro mark hmark
  rw [h.marks] at hmark
  rw [isCancelled, h.mark, h.marks]
  exact hs mark hmark

theorem Kept.silent (h : Kept s t) (hs : s.Silent) : t.Silent := by
  constructor
  · rw [h.live, hs.live]
  · intro mark hmark
    rw [h.marks] at hmark
    rw [isCancelled, h.marks]
    exact hs.cancelled mark hmark

/-! ### Steady scenes -/

/-- The live connection and the turn fit together: a live connection belongs to a turn under way, it
is the latest one and not cancelled, and it is not at its end. A turn that streams has one. A
question is open only while the turn waits, and all connections but the live one are cancelled. -/
structure Steady (s : Scene) : Prop where
  live : ∀ live ∈ s.client.live, s.client.execution.isUnderWay = true ∧
    s.client.mark = some live.mark ∧ s.isCancelled live.mark = false
  goesOn : ∀ live ∈ s.client.live, live.connection.GoesOn
  streaming : s.client.execution.phase = .streaming → s.client.live.isSome = true
  question : s.client.execution.OnlyAsksPaused
  others : ∀ mark < s.marks.issued, s.liveMark? = some mark ∨ s.isCancelled mark = true

/-- The scene `t` is steady, and its connection is that of `s` or was made later. -/
structure LeadsTo (s t : Scene) : Prop where
  steady : t.Steady
  issued : s.marks.issued ≤ t.marks.issued
  live : ∀ mark, t.liveMark? = some mark → s.liveMark? = some mark ∨ s.marks.issued ≤ mark

theorem Steady.leadsTo_self (h : s.Steady) : s.LeadsTo s :=
  ⟨h, Nat.le_refl _, fun _ hmark => .inl hmark⟩

theorem LeadsTo.trans (h : s.LeadsTo t) (h' : t.LeadsTo u) : s.LeadsTo u := by
  refine ⟨h'.steady, Nat.le_trans h.issued h'.issued, fun mark hmark => ?_⟩
  rcases h'.live mark hmark with hsame | hlater
  · exact h.live mark hsame
  · exact .inr (Nat.le_trans h.issued hlater)

theorem Steady.earlierCancelled (h : s.Steady) : s.EarlierCancelled := by
  intro mark hmark
  refine (h.others mark hmark).imp_left fun hlive => ?_
  obtain ⟨live, hmem, rfl⟩ := Option.map_eq_some_iff.mp hlive
  exact (h.live live hmem).2.1

theorem Steady.silent_abort (h : s.Steady) : s.abort.Silent :=
  h.earlierCancelled.silent_abort

/-- Dropping the live connection cancels it, as all others are. -/
theorem Steady.silent_dropLive (h : s.Steady) : s.dropLive.Silent := by
  refine ⟨dropLive_live s, fun mark hmark => isCancelled_dropLive.mpr ?_⟩
  rw [issued_dropLive] at hmark
  exact h.others mark hmark

theorem Silent.leadsTo (h : t.Silent) (issued : s.marks.issued ≤ t.marks.issued)
    (phase : t.client.execution.phase ≠ .streaming)
    (question : t.client.execution.OnlyAsksPaused) : s.LeadsTo t := by
  have hnone : t.liveMark? = none := by rw [liveMark?, h.live]; rfl
  refine ⟨⟨?_, ?_, fun hphase => absurd hphase phase, question, ?_⟩, issued, ?_⟩
  · intro live hlive
    rw [h.live] at hlive
    cases hlive
  · intro live hlive
    rw [h.live] at hlive
    cases hlive
  · exact fun mark hmark => .inr (h.cancelled mark hmark)
  · intro mark hmark
    rw [hnone] at hmark
    cases hmark

/-- Without a connection a scene is steady as soon as the turn is over. -/
theorem Silent.leadsTo_of_over (h : t.Silent) (issued : s.marks.issued ≤ t.marks.issued)
    (phase : t.client.execution.phase = .ended ∨ t.client.execution.phase = .idle)
    (question : t.client.execution.question = none) : s.LeadsTo t := by
  refine h.leadsTo issued (fun hstreaming => ?_) (.of_none question)
  rw [hstreaming] at phase
  rcases phase with hended | hidle
  · cases hended
  · cases hidle

/-- A change of the turn alone, which keeps it under way as long as there is a connection. -/
theorem Steady.onExecution (h : s.Steady) {x : Execution}
    (under : s.client.execution.isUnderWay = true → x.isUnderWay = true)
    (phase : x.phase = .streaming → s.client.execution.phase = .streaming)
    (question : x.OnlyAsksPaused) : s.LeadsTo (s.onExecution fun _ => x) := by
  refine ⟨⟨?_, h.goesOn, fun hx => h.streaming (phase hx), question, h.others⟩, Nat.le_refl _,
    fun _ hmark => .inl hmark⟩
  intro live hlive
  obtain ⟨hunder, hmark, hcancelled⟩ := h.live live hlive
  exact ⟨under hunder, hmark, hcancelled⟩

/-! ### Moves that leave the turn alone -/

theorem Undisturbed.leadsTo (h : Undisturbed s t) (hs : s.Steady) : s.LeadsTo t := by
  have hlive : t.liveMark? = s.liveMark? := congrArg (Option.map Client.Live.mark) h.live
  refine ⟨⟨?_, ?_, ?_, ?_, ?_⟩, ?_, ?_⟩
  · rw [h.live, h.execution, h.mark]
    unfold isCancelled
    rw [h.marks]
    exact hs.live
  · rw [h.live]
    exact hs.goesOn
  · rw [h.execution, h.live]
    exact hs.streaming
  · rw [h.execution]
    exact hs.question
  · unfold isCancelled
    rw [hlive, h.marks]
    exact hs.others
  · exact Nat.le_of_eq (congrArg _ h.marks.symm)
  · rw [hlive]
    exact fun _ hmark => .inl hmark

end BranchChat.Scene
