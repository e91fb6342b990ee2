import BranchChat.Proofs.Conversation.Links

/-!
# The groups of a tree

A tree is made from any list of messages and loses none of their identifiers. The roots and the
lists of children are groups: every message stands in exactly one of them, at its place among its
siblings. The answers that a message lists by itself play no part in this.

## Main definitions

- `firstOccurrences`: the messages of a list whose identifier no earlier one has
- `Tree.groups`: the roots and the lists of children
- `Message.unlisted`, `Tree.unlisted`: without the answers that a message lists
- `Tree.SameShape`: two trees that put their messages in the same places

## Main statements

- `flatten_groups_perm`: every message stands in exactly one group
- `ofMessages_partition`: this, and what the groups are, for the tree of any list of messages
-/

namespace BranchChat

/-! ### First occurrences -/

/-- The messages of a list whose identifier no earlier one has. -/
def firstOccurrences (ms : List Message) : List Message :=
  (ms.zipIdx.filter fun (m, i) => (ms.take i).all (·.id != m.id)).map Prod.fst

theorem firstOccurrences_cons (m : Message) (ms : List Message) :
    firstOccurrences (m :: ms) = m :: (firstOccurrences ms).filter (·.id != m.id) := by
  have hlater : ∀ p : Message × Nat,
      ((m :: ms).take (p.2 + 1)).all (·.id != p.1.id) =
        (p.1.id != m.id && (ms.take p.2).all (·.id != p.1.id)) := by
    intro p
    rw [List.take_succ_cons, List.all_cons, bne_comm]
  unfold firstOccurrences
  rw [List.zipIdx_cons', List.filter_cons_of_pos (by simp), List.map_cons, List.filter_map,
    List.map_map, List.filter_map, List.filter_filter]
  congr 2
  exact List.filter_congr fun p _ => hlater p

/-- A tree keeps the first occurrence of each identifier. -/
theorem firstOfEach_eq_firstOccurrences (ms : List Message) :
    firstOfEach ms = firstOccurrences ms := by
  induction ms with
  | nil => rfl
  | cons m ms ih => rw [firstOccurrences_cons, ← ih, firstOfEach]

theorem exists_mem_firstOfEach_iff {ms : List Message} {id : String} :
    (∃ m ∈ firstOfEach ms, m.id = id) ↔ ∃ m ∈ ms, m.id = id := by
  induction ms with
  | nil => simp [firstOfEach]
  | cons m ms ih =>
    by_cases h : m.id = id
    · simp [firstOfEach, h]
    · have hother : ∀ x : Message, x.id = id → x.id ≠ m.id := by
        intro x hx
        rw [hx]
        exact Ne.symm h
      simp only [firstOfEach, List.exists_mem_cons_iff, h, false_or, ← ih, List.mem_filter,
        bne_iff_ne]
      constructor
      · rintro ⟨x, ⟨hx, -⟩, hid⟩
        exact ⟨x, hx, hid⟩
      · rintro ⟨x, hx, hid⟩
        exact ⟨x, ⟨hx, hother x hid⟩, hid⟩

theorem Tree.has_ofMessages {ms : List Message} {id : String} :
    (Tree.ofMessages ms).has id = true ↔ ∃ m ∈ ms, m.id = id := by
  rw [Tree.has_iff, List.mem_map]
  exact exists_mem_firstOfEach_iff

namespace Tree

variable {t : Tree} {m : Message}

/-! ### Groups -/

/-- The roots and the lists of children. -/
def groups (t : Tree) : List (List String) :=
  t.roots :: t.messages.map (t.children ·.id)

theorem eq_group_of_mem_groups {g : List String} (h : g ∈ t.groups) :
    ∃ parent, g = t.group parent := by
  rcases List.mem_cons.mp h with rfl | hchildren
  · exact ⟨none, rfl⟩
  · obtain ⟨m, -, rfl⟩ := List.mem_map.mp hchildren
    exact ⟨some m.id, rfl⟩

theorem siblings_mem_groups (h : m ∈ t.messages) : t.siblings m.id ∈ t.groups := by
  rw [siblings_of_has (has_of_mem h)]
  cases hparent : t.parent? m.id with
  | none => exact List.mem_cons_self
  | some p =>
    obtain ⟨n, hn, rfl⟩ := List.mem_map.mp (has_iff.mp (has_of_parent?_eq_some hparent).2)
    exact List.mem_cons_of_mem _ (List.mem_map_of_mem hn)

/-- A message stands in the group of its siblings and in no other. -/
theorem eq_siblings_of_mem {g : List String} (hg : g ∈ t.groups) (h : m.id ∈ g) :
    g = t.siblings m.id := by
  obtain ⟨parent, rfl⟩ := eq_group_of_mem_groups hg
  obtain ⟨hhas, rfl⟩ := mem_group_iff.mp h
  rw [siblings_of_has hhas]

theorem nodup_flatten_groups (t : Tree) : t.groups.flatten.Nodup := by
  rw [groups, List.flatten_cons, ← List.flatMap_def, List.nodup_append', List.nodup_flatMap]
  refine ⟨t.nodup_group none, ⟨fun m _ => t.nodup_group (some m.id), ?_⟩, ?_⟩
  · -- Messages with distinct identifiers have distinct children.
    refine (List.pairwise_map.mp t.distinct).imp ?_
    intro a b hne c ha hb
    have hab := (mem_children_iff.mp ha).symm.trans (mem_children_iff.mp hb)
    exact hne (Option.some.inj hab)
  · intro c hroot hchild
    obtain ⟨m, -, hm⟩ := List.mem_flatMap.mp hchild
    have hnone := (mem_roots_iff.mp hroot).2
    rw [mem_children_iff.mp hm] at hnone
    cases hnone

theorem mem_flatten_groups_iff {c : String} : c ∈ t.groups.flatten ↔ t.has c = true := by
  constructor
  · intro h
    obtain ⟨g, hg, hc⟩ := List.mem_flatten.mp h
    obtain ⟨parent, rfl⟩ := eq_group_of_mem_groups hg
    exact (mem_group_iff.mp hc).1
  · intro h
    obtain ⟨m, hm, rfl⟩ := List.mem_map.mp (has_iff.mp h)
    exact List.mem_flatten.mpr ⟨_, siblings_mem_groups hm, mem_siblings_self h⟩

/-- Every message stands in exactly one group. -/
theorem flatten_groups_perm (t : Tree) : t.groups.flatten.Perm (t.messages.map Message.id) := by
  rw [List.perm_ext_iff_of_nodup t.nodup_flatten_groups t.distinct]
  intro c
  rw [mem_flatten_groups_iff, has_iff]

/-! ### Places among siblings -/

theorem group_linkOf (h : m ∈ t.messages) : t.group (t.linkOf m) = t.siblings m.id := by
  rw [siblings_of_has (has_of_mem h), parent?_of_mem h]

theorem siblingCount_eq (h : m ∈ t.messages) : t.siblingCount m = (t.siblings m.id).length := by
  rw [siblingCount, group_linkOf h]

theorem siblingIndex_eq (h : m ∈ t.messages) : t.siblingIndex m = (t.siblings m.id).idxOf m.id := by
  rw [siblingIndex, group_linkOf h]

theorem siblingIndex_lt (h : m ∈ t.messages) : t.siblingIndex m < t.siblingCount m := by
  rw [siblingCount_eq h, siblingIndex_eq h]
  exact List.idxOf_lt_length_of_mem (mem_siblings_self (has_of_mem h))

theorem getElem?_siblingIndex (h : m ∈ t.messages) :
    (t.siblings m.id)[t.siblingIndex m]? = some m.id := by
  rw [siblingIndex_eq h]
  exact List.getElem?_idxOf (mem_siblings_self (has_of_mem h))

end Tree

/-! ### Listed answers -/

/-- The message without the answers that it lists. -/
def Message.unlisted (m : Message) : Message :=
  { m with listedChildren := [] }

theorem firstOfEach_unlisted (ms : List Message) :
    firstOfEach (ms.map Message.unlisted) = (firstOfEach ms).map Message.unlisted := by
  induction ms with
  | nil => rfl
  | cons m ms ih =>
    rw [List.map_cons, firstOfEach, firstOfEach, ih, List.map_cons, List.filter_map]
    rfl

namespace Tree

variable {t t' : Tree}

/-- Two trees put their messages in the same places. -/
structure SameShape (t t' : Tree) : Prop where
  messages : t.messages.map Message.unlisted = t'.messages.map Message.unlisted
  parent? : t.parent? = t'.parent?
  group : t.group = t'.group
  siblings : t.siblings = t'.siblings
  siblingIndex : t.messages.map t.siblingIndex = t'.messages.map t'.siblingIndex
  siblingCount : t.messages.map t.siblingCount = t'.messages.map t'.siblingCount

theorem SameShape.symm (h : SameShape t t') : SameShape t' t :=
  ⟨h.messages.symm, h.parent?.symm, h.group.symm, h.siblings.symm, h.siblingIndex.symm,
    h.siblingCount.symm⟩

theorem SameShape.trans {t'' : Tree} (h : SameShape t t') (h' : SameShape t' t'') :
    SameShape t t'' :=
  ⟨h.messages.trans h'.messages, h.parent?.trans h'.parent?, h.group.trans h'.group,
    h.siblings.trans h'.siblings, h.siblingIndex.trans h'.siblingIndex,
    h.siblingCount.trans h'.siblingCount⟩

/-- The tree without the answers that its messages list. -/
def unlisted (t : Tree) : Tree :=
  ⟨t.messages.map Message.unlisted, by
    rw [List.map_map]
    exact t.distinct⟩

@[simp]
theorem messages_unlisted (t : Tree) :
    t.unlisted.messages = t.messages.map Message.unlisted :=
  rfl

theorem unlisted_ofMessages (ms : List Message) :
    (ofMessages ms).unlisted = ofMessages (ms.map Message.unlisted) := by
  simp only [unlisted, ofMessages, firstOfEach_unlisted]

/-- The places of messages do not depend on the answers that they list. -/
theorem sameShape_unlisted (t : Tree) : SameShape t.unlisted t := by
  have hhas (id : String) : t.unlisted.has id = t.has id := by
    rw [has, has, messages_unlisted, List.any_map]
    rfl
  have hlink (m : Message) : t.unlisted.linkOf m.unlisted = t.linkOf m := by
    simp only [linkOf, hhas]
    rfl
  have hfind (id : String) : t.unlisted.find? id = (t.find? id).map Message.unlisted := by
    rw [find?, messages_unlisted, List.find?_map]
    rfl
  have hgroup : t.unlisted.group = t.group := by
    funext parent
    rw [group, group, messages_unlisted, List.filter_map, List.map_map]
    refine congrArg (List.map Message.id) (List.filter_congr fun m _ => ?_)
    rw [Function.comp_apply, hlink]
  have hindex (m : Message) : t.unlisted.siblingIndex m.unlisted = t.siblingIndex m := by
    rw [siblingIndex, hlink, hgroup]
    rfl
  have hcount (m : Message) : t.unlisted.siblingCount m.unlisted = t.siblingCount m := by
    rw [siblingCount, hlink, hgroup]
    rfl
  refine ⟨?_, ?_, hgroup, ?_, ?_, ?_⟩
  · rw [messages_unlisted, List.map_map]
    rfl
  · funext id
    rw [parent?, parent?, hfind]
    cases t.find? id with
    | none => rfl
    | some m => exact hlink m
  · funext id
    rw [siblings, siblings, hfind]
    cases t.find? id with
    | none => rfl
    | some m =>
      show t.unlisted.group (t.unlisted.linkOf m.unlisted) = t.group (t.linkOf m)
      rw [hlink, hgroup]
  · rw [messages_unlisted, List.map_map]
    exact List.map_congr_left fun m _ => hindex m
  · rw [messages_unlisted, List.map_map]
    exact List.map_congr_left fun m _ => hcount m

/-- The tree of any list of messages. It has the first message of each identifier, in order. A
message is linked to the one that it names, if that one is another and stands anywhere in the list.
The groups hold every message exactly once, the roots those without a link and the children those
that are linked to a message, all in order; the siblings of a message are its group, in which it
stands at its index. The answers that messages list do not matter. -/
theorem ofMessages_partition (ms : List Message) :
    let t := ofMessages ms
    t.messages = firstOccurrences ms ∧
    (∀ m ∈ t.messages, ∀ p,
      t.parent? m.id = some p ↔ m.parent = some p ∧ p ≠ m.id ∧ ∃ m' ∈ ms, m'.id = p) ∧
    t.groups.flatten.Perm (t.messages.map Message.id) ∧
    (∀ c, (c ∈ t.roots ↔ t.has c = true ∧ t.parent? c = none) ∧
      ∀ p, c ∈ t.children p ↔ t.parent? c = some p) ∧
    (∀ g ∈ t.groups, g.Sublist (t.messages.map Message.id)) ∧
    (∀ m ∈ t.messages,
      t.siblings m.id ∈ t.groups ∧ m.id ∈ t.siblings m.id ∧
      (∀ g ∈ t.groups, m.id ∈ g → g = t.siblings m.id) ∧
      (t.siblings m.id).length = t.siblingCount m ∧ t.siblingIndex m < t.siblingCount m ∧
      (t.siblings m.id)[t.siblingIndex m]? = some m.id) ∧
    ∀ ms', ms'.map Message.unlisted = ms.map Message.unlisted → SameShape (ofMessages ms') t := by
  intro t
  refine ⟨firstOfEach_eq_firstOccurrences ms, ?_, t.flatten_groups_perm, ?_, ?_, ?_, ?_⟩
  · intro m hm p
    rw [parent?_of_mem hm, linkOf_eq_some_iff, has_ofMessages]
  · exact fun c => ⟨mem_roots_iff, fun p => mem_children_iff⟩
  · intro g hg
    obtain ⟨parent, rfl⟩ := eq_group_of_mem_groups hg
    exact t.group_sublist parent
  · intro m hm
    exact ⟨siblings_mem_groups hm, mem_siblings_self (has_of_mem hm),
      fun g hg hmem => eq_siblings_of_mem hg hmem, (siblingCount_eq hm).symm, siblingIndex_lt hm,
      getElem?_siblingIndex hm⟩
  · intro ms' hsame
    have hunlisted : (ofMessages ms').unlisted = t.unlisted := by
      rw [unlisted_ofMessages, unlisted_ofMessages, hsame]
    exact (sameShape_unlisted _).symm.trans (hunlisted ▸ sameShape_unlisted t)

theorem ofMessages_partition_tangled :
    let t := ofMessages tangled
    t.messages.map Message.id = ["c", "a", "b", "d", "self", "lost", "x", "y", "z"] ∧
    t.groups =
      [["a", "self", "lost"], [], ["b", "d"], ["c"], [], [], [], ["y", "z"], ["x"], []] ∧
    (Message.brief "d" (some "a") 3 ∈ t.messages ∧ (t.siblings "d")[1]? = some "d") ∧
    SameShape (ofMessages (tangled.map ({ · with listedChildren := ["c"] }))) t := by
  intro t
  obtain ⟨-, -, -, -, -, hplaces, hlisted⟩ := ofMessages_partition tangled
  have hd : Message.brief "d" (some "a") 3 ∈ t.messages := by decide +kernel
  obtain ⟨-, -, -, -, -, hplace⟩ := hplaces _ hd
  refine ⟨by decide +kernel, by decide +kernel, ⟨hd, ?_⟩, hlisted _ (by decide +kernel)⟩
  have hindex : t.siblingIndex (.brief "d" (some "a") 3) = 1 := by decide +kernel
  rwa [hindex] at hplace

end Tree

end BranchChat
