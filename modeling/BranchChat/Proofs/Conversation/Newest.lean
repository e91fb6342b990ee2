import BranchChat.Proofs.Conversation.Ancestry

/-!
# Newest leaves

The newest leaf at or below a message is found among those messages whose ancestry holds it.

## Main statements

- `isUnder_iff`: these are the messages that can be reached from it by the lists of children
- `newestUnder?_eq_none_iff`, `newestUnder?_eq_some`: there is a newest leaf, and it is one of them
-/

namespace BranchChat.Tree

open Relation (ReflTransGen)

variable {t : Tree} {id leaf : String} {m : Message} {ms : List Message}

/-! ### The newest of some messages -/

theorem newestOf_concat (ms : List Message) (m : Message) :
    newestOf (ms ++ [m]) = newer (newestOf ms) m := by
  rw [newestOf, List.foldl_append]
  rfl

theorem newer_eq (best : Option Message) (m : Message) :
    newer best m = some m ∨ newer best m = best ∧ best ≠ none := by
  unfold newer
  split
  · split
    · exact .inl rfl
    · exact .inr ⟨rfl, Option.some_ne_none _⟩
  · exact .inl rfl

theorem mem_of_newestOf (h : newestOf ms = some m) : m ∈ ms := by
  induction ms using List.reverseRecOn with
  | nil => cases h
  | append_singleton ms last ih =>
    rw [newestOf_concat] at h
    rcases newer_eq (newestOf ms) last with hlast | ⟨hbest, -⟩
    · rw [hlast] at h
      simp [Option.some.inj h]
    · rw [hbest] at h
      exact List.mem_append_left _ (ih h)

theorem newestOf_eq_none_iff : newestOf ms = none ↔ ms = [] := by
  constructor
  · intro h
    induction ms using List.reverseRecOn with
    | nil => rfl
    | append_singleton ms last _ =>
      rw [newestOf_concat] at h
      rcases newer_eq (newestOf ms) last with hlast | ⟨hbest, hne⟩
      · rw [hlast] at h
        cases h
      · exact absurd (hbest.symm.trans h) hne
  · rintro rfl
    rfl

theorem newestAmong_eq (t : Tree) (ms : List Message) :
    t.newestAmong ms = (newestOf (ms.filter t.isLeaf)).or (newestOf ms) :=
  Option.orElse_eq_or

theorem mem_of_newestAmong (h : t.newestAmong ms = some m) : m ∈ ms := by
  rw [newestAmong_eq, Option.or_eq_some_iff] at h
  rcases h with hleaf | ⟨-, hany⟩
  · exact (List.mem_filter.mp (mem_of_newestOf hleaf)).1
  · exact mem_of_newestOf hany

theorem newestAmong_eq_none_iff : t.newestAmong ms = none ↔ ms = [] := by
  rw [newestAmong_eq, Option.or_eq_none_iff, newestOf_eq_none_iff, newestOf_eq_none_iff]
  constructor
  · exact fun h => h.2
  · rintro rfl
    exact ⟨rfl, rfl⟩

/-! ### Branches -/

/-- The messages under another one are those that its lists of children lead to. -/
theorem isUnder_iff (hm : m ∈ t.messages) :
    t.isUnder id m = true ↔ ReflTransGen (fun a b => b ∈ t.children a) id m.id := by
  rw [reflTransGen_children_iff, ← mem_map_id_ancestry_iff (has_of_mem hm)]
  simp [isUnder]

theorem isUnder_self (hm : m ∈ t.messages) : t.isUnder m.id m = true :=
  (isUnder_iff hm).mpr .refl

/-- The end of a branch is found for every message of the tree. -/
theorem newestUnder?_eq_none_iff : t.newestUnder? id = none ↔ t.has id = false := by
  rw [newestUnder?]
  split
  · next hhas =>
    obtain ⟨m, hm, rfl⟩ := List.mem_map.mp (has_iff.mp hhas)
    rw [Option.map_eq_none_iff, newestAmong_eq_none_iff, hhas]
    refine iff_of_false (fun hempty => ?_) (by decide)
    have hself : m ∈ t.messages.filter (t.isUnder m.id) :=
      List.mem_filter.mpr ⟨hm, isUnder_self hm⟩
    rw [hempty] at hself
    cases hself
  · next hhas => simp [hhas]

theorem newestUnder?_eq_some (h : t.newestUnder? id = some leaf) :
    ∃ m ∈ t.messages, m.id = leaf ∧ t.isUnder id m = true := by
  rw [newestUnder?] at h
  split at h
  · obtain ⟨m, hm, rfl⟩ := Option.map_eq_some_iff.mp h
    obtain ⟨hmem, hunder⟩ := List.mem_filter.mp (mem_of_newestAmong hm)
    exact ⟨m, hmem, rfl, hunder⟩
  · cases h

end BranchChat.Tree
