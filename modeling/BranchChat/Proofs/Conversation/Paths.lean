import BranchChat.Conversation.Workspace
import BranchChat.Proofs.Conversation.Ancestry

/-!
# Paths

The path to a message comes down to it link by link, from a root or out of a cycle. Without a cycle
the path to any message on it is its beginning.

## Main statements

- `path_of_noCycleAbove`: the beginnings of a path are paths
- `path_ofMessages`: the paths in the tree of any list of messages
-/

namespace BranchChat.Tree

open Relation (TransGen)

variable {t : Tree} {id : String}

theorem path_some (t : Tree) (id : String) : t.path (some id) = (t.ancestry id).reverse :=
  rfl

theorem reverse_map_id_path (t : Tree) (id : String) :
    ((t.path (some id)).map Message.id).reverse = (t.ancestry id).map Message.id := by
  rw [path_some, List.map_reverse, List.reverse_reverse]

/-- Read from its end, a path is a way up. -/
theorem isWayUp_path (h : t.has id = true) :
    t.IsWayUp (t.messages.map Message.id) id ((t.path (some id)).map Message.id).reverse := by
  rw [reverse_map_id_path]
  exact isWayUp_ancestry h

theorem mem_messages_of_mem_path {m : Message} (h : m ∈ t.path (some id)) : m ∈ t.messages :=
  mem_messages_of_mem_ancestry (List.mem_reverse.mp h)

/-- Without a cycle the path to a message on a path is its beginning. -/
theorem path_of_noCycleAbove (h : t.has id = true) (hcycle : t.NoCycleAbove id)
    {above below : List Message} {m : Message} (hpath : t.path (some id) = above ++ m :: below) :
    t.path (some m.id) = above ++ [m] := by
  have hup := isWayUp_path h
  rw [hpath] at hup
  have hbranch : above ++ m :: below ⊆ t.messages := by
    rw [← hpath]
    exact fun x hx => mem_messages_of_mem_path hx
  have hm : m ∈ t.messages := hbranch (by simp)
  have hway : t.IsWayUp (t.messages.map Message.id) m.id
      ((above ++ [m]).map Message.id).reverse := by
    have hsplit : ((above ++ m :: below).map Message.id).reverse =
        (below.map Message.id).reverse ++ m.id :: (above.map Message.id).reverse := by simp
    rw [hsplit] at hup
    simpa using hup.of_append hcycle
  have hids := hway.unique (isWayUp_path (has_of_mem hm))
  have habove : above ++ [m] ⊆ t.messages := by
    intro x hx
    apply hbranch
    simp only [List.mem_append, List.mem_cons] at hx ⊢
    tauto
  rw [← filterMap_find? habove, List.reverse_injective hids]
  exact (filterMap_find? fun x hx => mem_messages_of_mem_path hx).symm

/-- The paths in the tree of any list of messages. To an identifier that the tree does not have
there is no path. Any other path has no message twice and ends in the one asked for; each message on
it is linked to the one before it. The first one is a root, or else it is linked to a message of the
path and lies in a cycle. Without a cycle it is a root, and the path to each message on it, which is
what is seen while a turn below that message is under way, is its beginning. -/
theorem path_ofMessages (ms : List Message) :
    let t := ofMessages ms
    (∀ id, t.has id = false → t.path (some id) = []) ∧
    ∀ id, t.has id = true →
      let way := (t.path (some id)).map Message.id
      t.path (some id) ⊆ t.messages ∧ way ≠ [] ∧ way.Nodup ∧ way.getLast? = some id ∧
      way.IsChain (fun a b => t.parent? b = some a) ∧
      (∀ top ∈ way.head?, t.parent? top = none ∨
        ∃ p ∈ way, t.parent? top = some p ∧ TransGen t.Hangs top top) ∧
      (t.NoCycleAbove id →
        (∀ top ∈ way.head?, top ∈ t.roots) ∧
        ∀ above m below, t.path (some id) = above ++ m :: below →
          t.path (some m.id) = above ++ [m] ∧
          ∀ w : Workspace, w.tree = t → w.visible (some m.id) = above ++ [m]) := by
  intro t
  refine ⟨fun id h => ?_, fun id h => ?_⟩
  · rw [path_some, ancestry_eq_nil h, List.reverse_nil]
  intro way
  have hup : t.IsWayUp (t.messages.map Message.id) id way.reverse := isWayUp_path h
  have hhead : way.head? = way.reverse.getLast? := List.getLast?_reverse.symm
  refine ⟨fun m hm => mem_messages_of_mem_path hm, ?_, List.nodup_reverse.mp hup.distinct, ?_,
    List.isChain_reverse.mp hup.linked, ?_, fun hcycle => ⟨?_, ?_⟩⟩
  · intro hnil
    rw [hnil] at hup
    cases hup.starts
  · rw [← hup.starts, List.head?_reverse]
  · intro top htop
    rw [hhead] at htop
    rcases hup.last_cases htop with hroot | ⟨p, hp, hparent, hround⟩
    · exact .inl hroot
    · exact .inr ⟨p, List.mem_reverse.mp hp, hparent, hround⟩
  · intro top htop
    rw [hhead] at htop
    have hhas := has_iff.mpr (hup.within (List.mem_of_getLast? htop))
    exact mem_roots_iff.mpr ⟨hhas, (hup.noCycleAbove_iff htop).mp hcycle⟩
  · intro above m below hpath
    have hbeginning := path_of_noCycleAbove h hcycle hpath
    refine ⟨hbeginning, fun w hw => ?_⟩
    rw [Workspace.visible, hw, hbeginning]

theorem path_tangled :
    let t := ofMessages tangled
    (t.has "w" = false ∧ t.path (some "w") = []) ∧
    (t.has "z" = true ∧ (t.path (some "z")).map Message.id = ["y", "x", "z"] ∧
      TransGen t.Hangs "y" "y") ∧
    t.has "c" = true ∧ t.NoCycleAbove "c" ∧
      ((t.path (some "c")).map Message.id = ["a", "b", "c"] ∧ "a" ∈ t.roots) ∧
      (t.path (some "b")).map Message.id = ["a", "b"] := by
  intro t
  obtain ⟨hnone, hsome⟩ := path_ofMessages tangled
  have hw : t.has "w" = false := by decide +kernel
  have hz : t.has "z" = true := by decide +kernel
  have hc : t.has "c" = true := by decide +kernel
  have hcycle : t.NoCycleAbove "c" := by
    have hlast : "a" ∈ ((t.path (some "c")).map Message.id).reverse.getLast? := by decide +kernel
    exact ((isWayUp_path hc).noCycleAbove_iff hlast).mpr (by decide +kernel)
  obtain ⟨-, -, -, -, -, htop, -⟩ := hsome "z" hz
  obtain ⟨-, -, -, -, -, -, hbeginning⟩ := hsome "c" hc
  refine ⟨⟨hw, hnone "w" hw⟩, ⟨hz, by decide +kernel, ?_⟩, hc, hcycle, ⟨by decide +kernel, ?_⟩, ?_⟩
  · rcases htop "y" (by decide +kernel) with hroot | ⟨_, -, -, hround⟩
    · exact absurd hroot (by decide +kernel)
    · exact hround
  · exact (hbeginning hcycle).1 "a" (by decide +kernel)
  · have hpath : t.path (some "c") =
        [.brief "a" none 1] ++ .brief "b" (some "a") 2 :: [.brief "c" (some "b") 4] := by
      decide +kernel
    obtain ⟨hb, -⟩ := (hbeginning hcycle).2 _ _ _ hpath
    exact congrArg (List.map Message.id) hb

end BranchChat.Tree
