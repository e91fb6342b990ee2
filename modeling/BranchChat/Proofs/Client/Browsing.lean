import BranchChat.Proofs.Client.Requests
import BranchChat.Proofs.Conversation.Leaves
import BranchChat.Proofs.Conversation.Switching

/-!
# Browsing

The tree is kept beside the conversation that it is made of, and the chosen branch is told by the
message that it ends at. The conversation is replaced as a whole while a branch is chosen, and then
this message may be gone. A branch that has lost its end would have no path, and a new turn would
answer to nothing: no operation leaves such a branch behind, or a tree of another conversation.

## Main definitions

- `Workspace.Move`, `Workspace.run`: what can be done to a workspace
- `Workspace.IsAnchored`: the chosen branch ends at a message of the tree
- `Workspace.IsWellFormed`: so it does, and the tree is that of the conversation

## Main statements

- `isWellFormed_step`: no operation takes the end of the chosen branch away, or the tree from its
  conversation
- `newParent?_of_leaf`, `newParent?_of_newest`: the message that a new turn answers to
- `browse_run`: the workspace after any run, and what loading and choosing do there
-/

namespace BranchChat.Workspace

variable {w w' : Workspace} {id : String}

/-! ### The end of the chosen branch -/

/-- The chosen branch, if there is one, ends at a message of the tree. -/
def IsAnchored (w : Workspace) : Prop :=
  ∀ id ∈ w.leaf, w.tree.has id = true

/-- The tree is that of the conversation, and the chosen branch ends in it. -/
structure IsWellFormed (w : Workspace) : Prop where
  tree : w.tree = w.conversation.elim .empty fun c => .ofMessages c.messages
  anchored : w.IsAnchored

theorem newParent?_of_leaf (h : w.IsAnchored) (leaf : w.leaf = some id) :
    w.newParent? = some id := by
  rw [newParent?, path, leaf]
  exact Tree.getLast?_path (h id leaf)

theorem path_of_newest (leaf : w.leaf = none) : w.path = w.tree.path w.tree.newest? := by
  rw [path, leaf]
  exact w.tree.path_none

theorem newParent?_of_newest (leaf : w.leaf = none) : w.newParent? = w.tree.newest? := by
  rw [newParent?, path_of_newest leaf]
  exact w.tree.getLast?_path_newest?

theorem newParent?_eq_none_iff : w.newParent? = none ↔ w.path = [] := by
  rw [newParent?, Option.map_eq_none_iff, List.getLast?_eq_none_iff]

/-- A workspace shows no messages only where there are none. -/
theorem path_eq_nil_iff (h : w.IsAnchored) : w.path = [] ↔ w.tree.messages = [] := by
  rw [← newParent?_eq_none_iff]
  cases leaf : w.leaf with
  | none => rw [newParent?_of_newest leaf, Tree.newest?_eq_none_iff]
  | some id =>
    rw [newParent?_of_leaf h leaf]
    refine iff_of_false (Option.some_ne_none id) fun hempty => ?_
    have hgone := Tree.has_eq_false_of_empty hempty id
    rw [h id leaf] at hgone
    cases hgone

/-! ### What can be done -/

/-- What can be done to a workspace. It is refreshed over a network, as part of a scene. -/
inductive Move where
  | load (c : Conversation)
  | withArtifacts (artifacts : List Artifact)
  | select (leaf : Option String)
  | switch (id : String) (offset : Int)
  | refresh (around : Scene) (id : String)
  | reset

/-- Carries a move out. A choice that is not possible is not made. -/
def step (w : Workspace) : Move → Workspace
  | .load c => w.load c
  | .withArtifacts artifacts => w.withArtifacts artifacts
  | .select leaf => (w.select? leaf).getD w
  | .switch id offset => ((w.switch? id offset).map Prod.fst).getD w
  | .refresh around id => ((around.onWorkspace fun _ => w).takeOver id).1.client.workspace
  | .reset => empty

/-- Carries moves out one after the other. -/
def run (w : Workspace) (moves : List Move) : Workspace :=
  moves.foldl step w

theorem isWellFormed_empty : empty.IsWellFormed where
  tree := rfl
  anchored := by intro id h; cases h

/-- What is left of the chosen branch in another copy of the conversation. -/
theorem leaf_load_eq_some_iff {c : Conversation} (same : w.id? = some c.id) :
    (w.load c).leaf = some id ↔
      w.leaf = some id ∧ (Tree.ofMessages c.messages).has id = true := by
  simp only [load, same, beq_self_eq_true, if_true]
  exact Option.filter_eq_some_iff

theorem load_of_other {c : Conversation} (other : w.id? ≠ some c.id) :
    w.load c = ⟨some c, .ofMessages c.messages, none, [], w.catalog⟩ := by
  simp [load, other]

/-- Loading brings the tree, and lets a branch stay only where its end is in it. -/
theorem isWellFormed_load (w : Workspace) (c : Conversation) : (w.load c).IsWellFormed where
  tree := rfl
  anchored := by
    intro id h
    by_cases same : w.id? = some c.id
    · exact ((leaf_load_eq_some_iff same).mp h).2
    · rw [load_of_other same] at h
      cases h

theorem select?_eq_some_iff {leaf : Option String} :
    w.select? leaf = some w' ↔ (∀ id ∈ leaf, w.tree.has id = true) ∧ { w with leaf } = w' := by
  cases leaf <;> simp [select?]

theorem select?_eq_none_iff {leaf : Option String} :
    w.select? leaf = none ↔ ∃ id, leaf = some id ∧ w.tree.has id = false := by
  cases leaf <;> simp [select?]

/-- Refreshing takes a conversation over with its artifacts, or changes nothing. -/
theorem step_refresh (w : Workspace) (around : Scene) (id : String) :
    w.step (.refresh around id) = w ∨
      ∃ c artifacts, w.step (.refresh around id) = w.refreshed c artifacts := by
  show Client.workspace (Scene.client (Scene.takeOver _ id).1) = w ∨ _
  cases h : (around.onWorkspace fun _ => w).takeOver id with
  | mk t answer =>
    cases answer with
    | error e => exact .inl (Scene.takeOver_eq_error h).workspace
    | ok _ =>
      obtain ⟨u, c, artifacts, hu, rfl⟩ := Scene.takeOver_eq_ok h
      refine .inr ⟨c, artifacts, ?_⟩
      simp only [step, h]
      show u.client.workspace.refreshed c artifacts = w.refreshed c artifacts
      rw [hu.workspace]
      rfl

/-- No operation takes the end of the chosen branch away, or the tree from its conversation. -/
theorem isWellFormed_step (h : w.IsWellFormed) (move : Move) : (w.step move).IsWellFormed := by
  cases move with
  | load c => exact w.isWellFormed_load c
  | withArtifacts artifacts => exact ⟨h.tree, h.anchored⟩
  | select leaf =>
    show ((w.select? leaf).getD w).IsWellFormed
    cases hselect : w.select? leaf with
    | none => exact h
    | some w' =>
      obtain ⟨hleaf, rfl⟩ := select?_eq_some_iff.mp hselect
      exact ⟨h.tree, hleaf⟩
  | switch id offset =>
    show (((w.switch? id offset).map Prod.fst).getD w).IsWellFormed
    cases hswitch : w.switch? id offset with
    | none => exact h
    | some reached =>
      -- The new end is a message below a sibling, and the tree is the same.
      obtain ⟨s, -, hleaf, hw⟩ := switch?_eq_some_iff.mp hswitch
      obtain ⟨m, hm, hid, -⟩ := Tree.newestUnder?_eq_some hleaf
      rw [Option.map_some, Option.getD_some, ← hw]
      refine ⟨h.tree, fun id hmem => ?_⟩
      obtain rfl := Option.some.inj (hid ▸ hmem : some m.id = some id)
      exact Tree.has_of_mem hm
  | refresh around id =>
    rcases w.step_refresh around id with hsame | ⟨c, artifacts, hnew⟩
    · rw [hsame]
      exact h
    · have hload := w.isWellFormed_load c
      rw [hnew]
      exact ⟨hload.tree, hload.anchored⟩
  | reset => exact isWellFormed_empty

theorem isWellFormed_run (h : w.IsWellFormed) (moves : List Move) :
    (w.run moves).IsWellFormed := by
  induction moves generalizing w with
  | nil => exact h
  | cons move moves ih => exact ih (isWellFormed_step h move)

/-- The workspace after any run. Its tree is that of its conversation, and there a chosen branch has
its end, which a new turn answers to; without a chosen branch this is the end of the newest path.
Only where the tree is empty nothing is shown and a new turn answers to nothing. Loading another
conversation gives the branch and the artifacts up. Another copy of the same one keeps the
artifacts, and it keeps the branch exactly if its end is still there. A choice that is not possible
changes nothing. -/
theorem browse_run (moves : List Move) :
    let w := empty.run moves
    (∀ c, w.conversation = some c → w.tree = .ofMessages c.messages) ∧
    (w.conversation = none → w.tree.messages = []) ∧
    (∀ id, w.leaf = some id → w.tree.has id = true ∧ w.newParent? = some id) ∧
    (w.leaf = none → w.path = w.tree.path w.tree.newest? ∧ w.newParent? = w.tree.newest? ∧
      w.newParent? = (w.tree.path w.tree.newest?).getLast?.map Message.id) ∧
    (w.path = [] ↔ w.tree.messages = []) ∧ (w.newParent? = none ↔ w.tree.messages = []) ∧
    (∀ c, (w.load c).conversation = some c ∧
      (w.id? ≠ some c.id → (w.load c).leaf = none ∧ (w.load c).artifacts = []) ∧
      (w.id? = some c.id → (w.load c).artifacts = w.artifacts ∧
        ∀ id, (w.load c).leaf = some id ↔
          w.leaf = some id ∧ (Tree.ofMessages c.messages).has id = true)) ∧
    (∀ leaf, (w.select? leaf = none ↔ ∃ id, leaf = some id ∧ w.tree.has id = false) ∧
      (w.select? leaf = none → w.step (.select leaf) = w)) ∧
    ∀ id offset, w.switch? id offset = none → w.step (.switch id offset) = w := by
  intro w
  obtain ⟨htree, h⟩ : w.IsWellFormed := isWellFormed_run isWellFormed_empty moves
  have hparent : w.newParent? = none ↔ w.tree.messages = [] :=
    newParent?_eq_none_iff.trans (path_eq_nil_iff h)
  refine ⟨fun c hc => ?_, fun hnone => ?_, fun id leaf => ⟨h id leaf, newParent?_of_leaf h leaf⟩,
    fun leaf => ?_, path_eq_nil_iff h, hparent, fun c => ⟨rfl, fun other => ?_, fun same => ?_⟩,
    fun leaf => ⟨select?_eq_none_iff, fun hnone => ?_⟩, fun id offset hnone => ?_⟩
  · rw [htree, hc]
    rfl
  · rw [htree, hnone]
    rfl
  · rw [newParent?_of_newest leaf, Tree.getLast?_path_newest?]
    exact ⟨path_of_newest leaf, rfl, rfl⟩
  · rw [load_of_other other]
    exact ⟨rfl, rfl⟩
  · refine ⟨?_, fun id => leaf_load_eq_some_iff same⟩
    simp [load, same]
  · rw [step, hnone]
    rfl
  · rw [step, hnone]
    rfl

/-- Another branch of the tangled conversation is chosen while it has an artifact. Then there are
choices that fail, and a refresh that nobody answers. -/
def browsing : List Move :=
  [.load ⟨"k", none, tangled⟩, .withArtifacts [⟨"plan", "Plan", none, 1, none⟩], .switch "b" 1,
    .select (some "nowhere"), .switch "b" (-1),
    .refresh (.start (.new ⟨"http://[::1]"⟩ (.unstored (some "token")) (.fresh 16)) default
      .offline) "k"]

theorem browse_run_tangled :
    let w := empty.run browsing
    w.conversation = some ⟨"k", none, tangled⟩ ∧ w.tree = .ofMessages tangled ∧
    w.leaf = some "d" ∧ w.newParent? = some "d" ∧
    (empty.run []).tree.messages = [] ∧ (empty.run []).newParent? = none ∧
    (empty.run [.load ⟨"k", none, tangled⟩]).newParent? = some "z" ∧
    (w.load ⟨"k", none, [.brief "d" none 1]⟩).leaf = some "d" ∧
    (w.load ⟨"k", none, [.brief "y" none 1]⟩).leaf ≠ some "d" ∧
    (w.load ⟨"k", none, []⟩).artifacts = w.artifacts ∧ w.artifacts ≠ [] ∧
    (w.load ⟨"l", none, tangled⟩).leaf = none ∧
    w.select? (some "nowhere") = none ∧ w.step (.select (some "nowhere")) = w ∧
    w.switch? "b" (-1) = none ∧ w.step (.switch "b" (-1)) = w := by
  intro w
  obtain ⟨htree, -, hleaf, -, -, -, hload, hselect, hswitch⟩ := browse_run browsing
  obtain ⟨-, hempty, -, -, -, hnone, -, -, -⟩ := browse_run []
  obtain ⟨-, -, -, hnewest, -, -, -, -, -⟩ := browse_run [.load ⟨"k", none, tangled⟩]
  have hconversation : w.conversation = some ⟨"k", none, tangled⟩ := by decide +kernel
  have hw : w.leaf = some "d" := by decide +kernel
  have hsame : w.id? = some "k" := by decide +kernel
  have hunknown : w.select? (some "nowhere") = none := by decide +kernel
  have hbeyond : w.switch? "b" (-1) = none := by decide +kernel
  refine ⟨hconversation, htree _ hconversation, hw, (hleaf "d" hw).2, hempty rfl,
    hnone.mpr (hempty rfl), ?_, ?_, ?_, ((hload _).2.2 hsame).1, by decide +kernel,
    ((hload _).2.1 ?_).1, hunknown, (hselect _).2 hunknown, hbeyond, hswitch _ _ hbeyond⟩
  · exact (hnewest rfl).2.1.trans (by decide +kernel)
  · exact (((hload _).2.2 hsame).2 "d").mpr ⟨hw, by decide +kernel⟩
  · intro hkept
    exact absurd ((((hload _).2.2 hsame).2 "d").mp hkept).2 (by decide +kernel)
  · rw [hsame]
    decide

end BranchChat.Workspace
