import BranchChat.Proofs.Conversation.Newest
import BranchChat.Proofs.Conversation.Paths

/-!
# Switching between branches

Another branch is named by one of its messages: a sibling of a message that is seen, so many places
after it. The new branch runs through this sibling, and the opposite number of places leads back.

## Main statements

- `sibling?_eq_some_iff`: which sibling is meant
- `sibling?_neg`: the way back
- `switch?_reaches`: the new branch runs through the sibling
-/

namespace BranchChat.Workspace

open Relation (ReflTransGen)

variable {w w' : Workspace} {id s leaf : String} {offset : Int}

/-! ### Siblings -/

/-- The place that lies `offset` places after a message among its siblings. -/
def placeAfter (w : Workspace) (id : String) (offset : Int) : Int :=
  (w.tree.siblings id).idxOf id + offset

theorem sibling?_eq_some_iff :
    w.sibling? id offset = some s ↔
      0 ≤ w.placeAfter id offset ∧
        (w.tree.siblings id)[(w.placeAfter id offset).toNat]? = some s := by
  unfold sibling? placeAfter
  dsimp only
  rw [List.contains_eq_mem]
  cases hhas : w.tree.has id with
  | false => simp [Tree.siblings_of_not_has hhas]
  | true =>
    simp only [Tree.mem_siblings_self hhas, decide_true, if_true]
    cases ((w.tree.siblings id).idxOf id : Int) + offset with
    | ofNat place => simp
    | negSucc n => simp [Int.negSucc_not_nonneg]

/-- There is no sibling for a message that the tree does not have, and none beyond the group. -/
theorem sibling?_eq_none_iff :
    w.sibling? id offset = none ↔
      w.tree.has id = false ∨
        ¬ (0 ≤ w.placeAfter id offset ∧
          w.placeAfter id offset < (w.tree.siblings id).length) := by
  cases hhas : w.tree.has id with
  | false => simp [sibling?, Tree.siblings_of_not_has hhas]
  | true =>
    simp only [Bool.true_eq_false, false_or]
    rw [Option.eq_none_iff_forall_ne_some]
    constructor
    · rintro hnone ⟨hle, hlt⟩
      have hplace : (w.placeAfter id offset).toNat < (w.tree.siblings id).length := by omega
      exact hnone _ (sibling?_eq_some_iff.mpr ⟨hle, List.getElem?_eq_getElem hplace⟩)
    · rintro houtside s hs
      obtain ⟨hle, hget⟩ := sibling?_eq_some_iff.mp hs
      obtain ⟨hlt, -⟩ := List.getElem?_eq_some_iff.mp hget
      exact houtside ⟨hle, by omega⟩

/-- The opposite number of places leads back. -/
theorem sibling?_neg (h : w.sibling? id offset = some s) : w.sibling? s (-offset) = some id := by
  obtain ⟨hle, hs⟩ := sibling?_eq_some_iff.mp h
  obtain ⟨hlt, hget⟩ := List.getElem?_eq_some_iff.mp hs
  have hmem : s ∈ w.tree.siblings id := List.mem_of_getElem? hs
  have hsame := Tree.siblings_eq_of_mem hmem
  have hid : id ∈ w.tree.siblings id := by
    refine Tree.mem_siblings_self ?_
    by_contra hhas
    rw [Bool.not_eq_true] at hhas
    simp [sibling?, Tree.siblings_of_not_has hhas] at h
  have hindex : (w.tree.siblings id).idxOf s = (w.placeAfter id offset).toNat := by
    rw [← hget]
    exact (w.tree.nodup_siblings id).idxOf_getElem _ hlt
  have hback : w.placeAfter s (-offset) = (w.tree.siblings id).idxOf id := by
    rw [placeAfter, hsame, hindex, Int.toNat_of_nonneg hle, placeAfter]
    omega
  rw [sibling?_eq_some_iff, hsame, hback]
  exact ⟨by omega, by simpa using List.getElem?_idxOf hid⟩

/-! ### Switching -/

theorem switch?_eq_some_iff :
    w.switch? id offset = some (w', leaf) ↔
      ∃ s, w.sibling? id offset = some s ∧ w.tree.newestUnder? s = some leaf ∧
        { w with leaf := some leaf } = w' := by
  simp only [switch?, Option.bind_eq_bind, Option.bind_eq_some_iff, Option.some.injEq,
    Prod.mk.injEq]
  constructor
  · rintro ⟨s, hs, _, hleaf, hw, rfl⟩
    exact ⟨s, hs, hleaf, hw⟩
  · rintro ⟨s, hs, hleaf, hw⟩
    exact ⟨s, hs, leaf, hleaf, hw, rfl⟩

/-- Switching succeeds for every sibling that there is. -/
theorem switch?_eq_none_iff : w.switch? id offset = none ↔ w.sibling? id offset = none := by
  cases hs : w.sibling? id offset with
  | none => simp [switch?, hs]
  | some s =>
    obtain ⟨-, hget⟩ := sibling?_eq_some_iff.mp hs
    have hhas : w.tree.has s = true := Tree.has_of_mem_siblings (List.mem_of_getElem? hget)
    have hleaf : w.tree.newestUnder? s ≠ none := by
      rw [Ne, Tree.newestUnder?_eq_none_iff, hhas]
      decide
    obtain ⟨leaf, hleaf⟩ := Option.ne_none_iff_exists'.mp hleaf
    simp [switch?, hs, hleaf]

/-- The new branch runs through the sibling. -/
theorem mem_path_of_switch? (hs : w.sibling? id offset = some s)
    (h : w.switch? id offset = some (w', leaf)) : s ∈ w'.path.map Message.id := by
  obtain ⟨s', hs', hleaf, rfl⟩ := switch?_eq_some_iff.mp h
  obtain rfl : s = s' := Option.some.inj (hs.symm.trans hs')
  obtain ⟨m, hm, rfl, hunder⟩ := Tree.newestUnder?_eq_some hleaf
  have hpath : Workspace.path { w with leaf := some m.id } = w.tree.path (some m.id) := rfl
  rw [hpath, Tree.path_some, List.map_reverse, List.mem_reverse]
  simpa [Tree.isUnder] using hunder

/-- Switching to another branch. It fails exactly for a message that the tree does not have, and
where the sibling would lie beyond either end of the group. Otherwise nothing but the end of the
branch changes: it is the sibling itself or a message that the lists of children lead to from there,
and the sibling is on the new path. From the sibling, the opposite number of places leads back to a
branch with the message. -/
theorem switch?_reaches (w : Workspace) (id : String) (offset : Int) :
    let siblings := w.tree.siblings id
    let place := (siblings.idxOf id : Int) + offset
    (w.switch? id offset = none ↔
      w.tree.has id = false ∨ ¬ (0 ≤ place ∧ place < siblings.length)) ∧
    ∀ w' leaf, w.switch? id offset = some (w', leaf) →
      ∃ s, siblings[place.toNat]? = some s ∧ w' = { w with leaf := some leaf } ∧
        w.tree.has leaf = true ∧ ReflTransGen (fun a b => b ∈ w.tree.children a) s leaf ∧
        s ∈ w'.path.map Message.id ∧
        ∃ w'' leaf', w'.switch? s (-offset) = some (w'', leaf') ∧
          id ∈ w''.path.map Message.id := by
  intro siblings place
  constructor
  · exact switch?_eq_none_iff.trans sibling?_eq_none_iff
  · intro w' leaf h
    obtain ⟨s, hs, hleaf, rfl⟩ := switch?_eq_some_iff.mp h
    obtain ⟨m, hm, rfl, hunder⟩ := Tree.newestUnder?_eq_some hleaf
    -- The tree is the same afterwards, and so are the siblings.
    have hback : Workspace.sibling? { w with leaf := some m.id } s (-offset) = some id :=
      sibling?_neg hs
    have hsome : Workspace.switch? { w with leaf := some m.id } s (-offset) ≠ none := by
      rw [Ne, switch?_eq_none_iff, hback]
      exact Option.some_ne_none id
    obtain ⟨⟨w'', leaf'⟩, hswitch⟩ := Option.ne_none_iff_exists'.mp hsome
    exact ⟨s, (sibling?_eq_some_iff.mp hs).2, rfl, Tree.has_of_mem hm,
      (Tree.isUnder_iff hm).mp hunder, mem_path_of_switch? hs h, w'', leaf', hswitch,
      mem_path_of_switch? hback hswitch⟩

/-- A workspace that shows the tangled conversation. -/
def showingTangled : Workspace :=
  Workspace.empty.load ⟨"k", none, tangled⟩

theorem switch?_showingTangled :
    showingTangled.switch? "b" (-1) = none ∧
    showingTangled.switch? "y" 1 = some ({ showingTangled with leaf := some "z" }, "z") ∧
    ∃ w leaf, Workspace.switch? { showingTangled with leaf := some "z" } "z" (-1) =
      some (w, leaf) ∧ "y" ∈ w.path.map Message.id := by
  obtain ⟨hnone, -⟩ := switch?_reaches showingTangled "b" (-1)
  obtain ⟨-, hsome⟩ := switch?_reaches showingTangled "y" 1
  have hswitch : showingTangled.switch? "y" 1 =
      some ({ showingTangled with leaf := some "z" }, "z") := by decide +kernel
  obtain ⟨s, hs, -, -, -, -, w, leaf, hback, hmem⟩ := hsome _ _ hswitch
  obtain rfl : "z" = s := Option.some.inj (Eq.trans (by decide +kernel) hs)
  exact ⟨hnone.mpr (.inr (by decide +kernel)), hswitch, w, leaf, hback, hmem⟩

end BranchChat.Workspace
