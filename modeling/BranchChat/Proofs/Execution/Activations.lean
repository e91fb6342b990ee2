import BranchChat.Execution.Fold

/-!
# Changing one activation of a list

Almost every event changes the newest activation only, and the end of a tool call changes the newest
one that has a running call of the tool. Both changes are seen here as changes near the head of the
reversed list.

## Main definitions

- `onFirst`: a list with the first element changed that has a property

## Main statements

- `onLast_concat`, `onFirst_cases`: where the changed element stands
- `map_onLast`, `map_onFirst`: views of the elements that see a change as a change of the view
-/

namespace BranchChat.Execution

/-! ### The newest activation -/

section OnLast

variable {α β : Type} {f g : α → α}

@[simp]
theorem onLast_eq_nil {l : List α} : onLast f l = [] ↔ l = [] := by
  cases l with
  | nil => simp [onLast]
  | cons a l => cases l <;> simp [onLast]

/-- Appending an element and changing the last one is appending the changed element. -/
theorem onLast_concat (l : List α) (a : α) : onLast f (l ++ [a]) = l ++ [f a] := by
  induction l with
  | nil => rfl
  | cons b l ih =>
    cases l with
    | nil => rfl
    | cons c l => simpa [onLast] using ih

/-- Two changes of the last element are one. -/
theorem onLast_onLast (l : List α) : onLast f (onLast g l) = onLast (f ∘ g) l := by
  rcases List.eq_nil_or_concat l with rfl | ⟨l, a, rfl⟩
  · rfl
  · simp only [List.concat_eq_append, onLast_concat, Function.comp_apply]

/-- A view of the elements sees the change of the last one as a change of its view. -/
theorem map_onLast {view : α → β} {f' : β → β} (h : ∀ a, view (f a) = f' (view a)) (l : List α) :
    (onLast f l).map view = onLast f' (l.map view) := by
  rcases List.eq_nil_or_concat l with rfl | ⟨l, a, rfl⟩
  · rfl
  · simp [onLast_concat, h]

end OnLast

/-! ### The first element with a property -/

section OnFirst

variable {α : Type}

/-- A list with the first element changed that has a property. -/
def onFirst (p : α → Bool) (change : α → α) : List α → List α
  | [] => []
  | a :: l => if p a then change a :: l else a :: onFirst p change l

/-- Either no element has the property, or the first one that has it is changed. -/
theorem onFirst_cases (p : α → Bool) (change : α → α) (l : List α) :
    ((∀ a ∈ l, p a = false) ∧ onFirst p change l = l) ∨
      ∃ before a after, l = before ++ a :: after ∧ (∀ b ∈ before, p b = false) ∧ p a = true ∧
        onFirst p change l = before ++ change a :: after := by
  induction l with
  | nil => exact .inl ⟨nofun, rfl⟩
  | cons a l ih =>
    by_cases h : p a = true
    · exact .inr ⟨[], a, l, rfl, nofun, h, if_pos h⟩
    · have hfalse : p a = false := Bool.eq_false_iff.mpr h
      have hcons : onFirst p change (a :: l) = a :: onFirst p change l := if_neg h
      rcases ih with ⟨hnone, heq⟩ | ⟨before, b, after, rfl, hbefore, hb, heq⟩
      · exact .inl ⟨List.forall_mem_cons.mpr ⟨hfalse, hnone⟩, by rw [hcons, heq]⟩
      · refine .inr ⟨a :: before, b, after, rfl, ?_, hb, ?_⟩
        · exact List.forall_mem_cons.mpr ⟨hfalse, hbefore⟩
        · rw [hcons, heq, List.cons_append]

theorem map_onFirst {p : α → Bool} {f v : α → α} (hp : ∀ a, p (v a) = p a)
    (commute : ∀ a, v (f a) = f (v a)) (l : List α) :
    (onFirst p f l).map v = onFirst p f (l.map v) := by
  induction l with
  | nil => rfl
  | cons a l ih =>
    simp only [List.map_cons, onFirst, hp]
    split
    · simp only [List.map_cons, commute]
    · simp only [List.map_cons, ih]

end OnFirst

/-! ### The newest activation with a running call -/

theorem completeNewest_eq_onFirst (tool : String) (finish : Activation → Activation)
    (l : List Activation) :
    completeNewest tool finish l = onFirst (·.tools.any (·.isRunning tool)) finish l := by
  induction l with
  | nil => rfl
  | cons a l ih => rw [completeNewest, onFirst, ih]

/-- Putting an outcome to a call commutes with a change of the head that keeps the calls. -/
theorem completeNewest_onLast {tool : String} {g f : Activation → Activation}
    (tools : ∀ a, (f a).tools = a.tools) (commute : ∀ a, g (f a) = f (g a)) (l : List Activation) :
    completeNewest tool g (onLast f l).reverse =
      (onLast f (completeNewest tool g l.reverse).reverse).reverse := by
  rcases List.eq_nil_or_concat l with rfl | ⟨l, a, rfl⟩
  · rfl
  · simp only [List.concat_eq_append, onLast_concat, List.reverse_append, List.reverse_cons,
      List.reverse_nil, List.nil_append, List.singleton_append, completeNewest, tools]
    split
    · simp [onLast_concat, commute]
    · simp [onLast_concat]

/-- A view that keeps which calls are running sees the end of a call as the end of a call. -/
theorem map_completeNewest {tool : String} {g v : Activation → Activation}
    (running : ∀ a, (v a).tools.any (·.isRunning tool) = a.tools.any (·.isRunning tool))
    (commute : ∀ a, v (g a) = g (v a)) (l : List Activation) :
    (completeNewest tool g l).map v = completeNewest tool g (l.map v) := by
  simp only [completeNewest_eq_onFirst]
  exact map_onFirst running commute l

end BranchChat.Execution
