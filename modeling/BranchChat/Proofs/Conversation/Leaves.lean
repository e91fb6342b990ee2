import BranchChat.Proofs.Calendar.Order
import BranchChat.Proofs.Conversation.Newest
import BranchChat.Proofs.Conversation.Paths

/-!
# The newest leaf

Of messages of the same time the one that is listed later counts as the newer one, so that any two
messages of a tree can be compared. A branch, and the whole tree, ends at the newest of its leaves;
where links go round in a cycle and there is no leaf, it ends at its newest message.

## Main definitions

- `Message.OlderIn`: the order of the messages of a list
- `Tree.IsEnd`: the end of some messages of a tree
- `Tree.IsAcyclic`: no message lies above itself

## Main statements

- `isEnd_of_newestAmong`: what is chosen among some messages is their end
- `isUnder_root`: where there is one root and no cycle, all messages hang below the root
- `newest_ends`: the ends of all branches, and of the path through the whole tree
-/

namespace BranchChat

open BranchChat.Calendar (Timestamp)
open Relation (ReflTransGen TransGen)

/-! ### The order of messages -/

/-- The place at which the identifier of a message comes first in a list. -/
def placeIn (ms : List Message) (m : Message) : Nat :=
  ms.findIdx (·.id == m.id)

/-- The message `a` is of an earlier time than `b`, or of the same time and listed before it. -/
def Message.OlderIn (ms : List Message) (a b : Message) : Prop :=
  a.createdAt.IsBefore b.createdAt ∨
    a.createdAt = b.createdAt ∧ placeIn ms a < placeIn ms b

theorem placeIn_cons_self (m : Message) (ms : List Message) : placeIn (m :: ms) m = 0 := by
  simp [placeIn, List.findIdx_cons]

theorem placeIn_cons_of_ne {m n : Message} (h : n.id ≠ m.id) (ms : List Message) :
    placeIn (m :: ms) n = placeIn ms n + 1 := by
  have hne : (m.id == n.id) = false := beq_eq_false_iff_ne.mpr (Ne.symm h)
  rw [placeIn, List.findIdx_cons, hne]
  rfl

/-- A tree has its messages in the order in which their identifiers come first. -/
theorem pairwise_placeIn (ms : List Message) :
    (firstOfEach ms).Pairwise fun a b => placeIn ms a < placeIn ms b := by
  induction ms with
  | nil => exact .nil
  | cons m ms ih =>
    have hother : ∀ n ∈ (firstOfEach ms).filter (·.id != m.id), n.id ≠ m.id := by
      intro n hn
      simpa using (List.mem_filter.mp hn).2
    -- All that come after the first message have other identifiers: they are one place further on.
    rw [firstOfEach, List.pairwise_cons]
    constructor
    · intro n hn
      rw [placeIn_cons_self, placeIn_cons_of_ne (hother n hn)]
      exact Nat.succ_pos _
    · refine (ih.filter _).imp_of_mem fun ha hb hlt => ?_
      rw [placeIn_cons_of_ne (hother _ ha), placeIn_cons_of_ne (hother _ hb)]
      exact Nat.succ_lt_succ hlt

namespace Tree

variable {t : Tree} {id root : String} {m n : Message} {ms : List Message}

/-! ### Ends of paths -/

theorem has_eq_false_of_empty (h : t.messages = []) (id : String) : t.has id = false := by
  simp [has, h]

/-- The path to a message ends there. -/
theorem getLast?_path (h : t.has id = true) :
    (t.path (some id)).getLast?.map Message.id = some id := by
  rw [← List.getLast?_map, ← List.head?_reverse]
  exact (isWayUp_path h).starts

theorem has_of_newest? (h : t.newest? = some id) : t.has id = true := by
  obtain ⟨m, hm, rfl⟩ := Option.map_eq_some_iff.mp h
  exact has_of_mem (mem_of_newestAmong hm)

theorem newest?_eq_none_iff : t.newest? = none ↔ t.messages = [] := by
  rw [newest?, Option.map_eq_none_iff, newestAmong_eq_none_iff]

/-- Without a chosen end the path goes to the newest leaf. -/
theorem path_none (t : Tree) : t.path none = t.path t.newest? := by
  cases h : t.newest? <;> simp [path, h]

theorem getLast?_path_newest? (t : Tree) :
    (t.path t.newest?).getLast?.map Message.id = t.newest? := by
  cases h : t.newest? with
  | none =>
    rw [path_none, h]
    simp [path, h]
  | some id => exact getLast?_path (has_of_newest? h)

/-! ### The newest of some messages -/

/-- Nothing before the newest message is of a later time, and everything after it is of an earlier
one. -/
theorem exists_split_of_newestOf {among : List Message} (h : newestOf among = some m) :
    ∃ before after, among = before ++ m :: after ∧
      (∀ n ∈ before, n.createdAt.rank ≤ m.createdAt.rank) ∧
      ∀ n ∈ after, n.createdAt.rank < m.createdAt.rank := by
  -- The newest of a list is found from its front, so the induction takes the last message away.
  induction among using List.reverseRecOn generalizing m with
  | nil => cases h
  | append_singleton among last ih =>
    rw [newestOf_concat] at h
    cases hbest : newestOf among with
    | none =>
      rw [newestOf_eq_none_iff.mp hbest]
      rw [hbest] at h
      obtain rfl := Option.some.inj h
      exact ⟨[], [], rfl, by simp, by simp⟩
    | some best =>
      obtain ⟨before, after, rfl, hbefore, hafter⟩ := ih hbest
      rw [hbest, newer] at h
      split at h
      · next hle =>
        obtain rfl := Option.some.inj h
        refine ⟨before ++ best :: after, [], rfl, ?_, by simp⟩
        intro n hn
        rcases List.mem_append.mp hn with hn | hn
        · exact Int.le_trans (hbefore n hn) hle
        · rcases List.mem_cons.mp hn with rfl | hn
          · exact hle
          · exact Int.le_trans (Int.le_of_lt (hafter n hn)) hle
      · next hlt =>
        obtain rfl := Option.some.inj h
        refine ⟨before, after ++ [last], by simp, hbefore, ?_⟩
        intro n hn
        rcases List.mem_append.mp hn with hn | hn
        · exact hafter n hn
        · rw [List.mem_singleton.mp hn]
          exact Int.not_le.mp hlt

/-- All others among some messages of a tree are older than the newest one. -/
theorem olderIn_of_newestOf {among : List Message} (hsub : among.Sublist (firstOfEach ms))
    (h : newestOf among = some m) (hn : n ∈ among) (hne : n ≠ m) : n.OlderIn ms m := by
  obtain ⟨before, after, rfl, hbefore, hafter⟩ := exists_split_of_newestOf h
  obtain ⟨-, -, hplace⟩ := List.pairwise_append.mp ((pairwise_placeIn ms).sublist hsub)
  -- Only a message that is listed before the newest one can be of the same time.
  rcases List.mem_append.mp hn with hn | hn
  · rcases Int.lt_or_eq_of_le (hbefore n hn) with hlt | heq
    · exact .inl (Timestamp.rank_lt_rank_iff.mp hlt)
    · exact .inr ⟨Timestamp.rank_eq_rank_iff.mp heq, hplace n hn m List.mem_cons_self⟩
  · have hn := (List.mem_cons.mp hn).resolve_left hne
    exact .inl (Timestamp.rank_lt_rank_iff.mp (hafter n hn))

/-! ### Ends -/

/-- The end of the messages of `t` with the property `p`, in the order of `ms`: the newest leaf
among them, or the newest of all where none is a leaf. -/
structure IsEnd (t : Tree) (ms : List Message) (p : Message → Prop) (m : Message) : Prop where
  mem : m ∈ t.messages
  holds : p m
  leaf : (∃ n ∈ t.messages, p n ∧ t.children n.id = []) → t.children m.id = []
  newestLeaf : ∀ n ∈ t.messages, p n → t.children n.id = [] → n ≠ m → n.OlderIn ms m
  newest : (∀ n ∈ t.messages, p n → t.children n.id ≠ []) →
    ∀ n ∈ t.messages, p n → n ≠ m → n.OlderIn ms m

theorem isLeaf_iff : t.isLeaf m = true ↔ t.children m.id = [] := by
  rw [isLeaf, List.isEmpty_iff]

/-- What is chosen among some messages of a tree is their end. -/
theorem isEnd_of_newestAmong {p : Message → Prop} {q : Message → Bool}
    (hq : ∀ n ∈ (ofMessages ms).messages, q n = true ↔ p n)
    (h : (ofMessages ms).newestAmong ((ofMessages ms).messages.filter q) = some m) :
    (ofMessages ms).IsEnd ms p m := by
  generalize ht : ofMessages ms = t at hq h
  have hmessages : t.messages = firstOfEach ms := by rw [← ht]; rfl
  have hmem {n : Message} : n ∈ t.messages.filter q ↔ n ∈ t.messages ∧ p n := by
    rw [List.mem_filter]
    exact and_congr_right (hq n)
  have hleaves {n : Message} :
      n ∈ (t.messages.filter q).filter t.isLeaf ↔
        (n ∈ t.messages ∧ p n) ∧ t.children n.id = [] := by
    rw [List.mem_filter, hmem, isLeaf_iff]
  have hsub : (t.messages.filter q).Sublist (firstOfEach ms) := by
    rw [← hmessages]
    exact List.filter_sublist
  rw [newestAmong_eq, Option.or_eq_some_iff] at h
  rcases h with hnewest | ⟨hnone, hnewest⟩
  · obtain ⟨⟨hm, hp⟩, hleaf⟩ := hleaves.mp (mem_of_newestOf hnewest)
    refine ⟨hm, hp, fun _ => hleaf, ?_, fun hnoLeaf => absurd hleaf (hnoLeaf m hm hp)⟩
    intro n hn hpn hleafn hne
    exact olderIn_of_newestOf (List.filter_sublist.trans hsub) hnewest
      (hleaves.mpr ⟨⟨hn, hpn⟩, hleafn⟩) hne
  · -- There is no leaf among them.
    have hnoLeaf : ∀ n ∈ t.messages, p n → t.children n.id ≠ [] := by
      intro n hn hpn hleafn
      have hmemLeaf := hleaves.mpr ⟨⟨hn, hpn⟩, hleafn⟩
      rw [newestOf_eq_none_iff.mp hnone] at hmemLeaf
      cases hmemLeaf
    obtain ⟨hm, hp⟩ := hmem.mp (mem_of_newestOf hnewest)
    refine ⟨hm, hp, ?_, ?_, ?_⟩
    · rintro ⟨n, hn, hpn, hleafn⟩
      exact absurd hleafn (hnoLeaf n hn hpn)
    · intro n hn hpn hleafn
      exact absurd hleafn (hnoLeaf n hn hpn)
    · intro _ n hn hpn hne
      exact olderIn_of_newestOf hsub hnewest (hmem.mpr ⟨hn, hpn⟩) hne

/-- The message that ends the branch below another one. -/
theorem exists_newestUnder? (h : t.has id = true) :
    ∃ m, t.newestAmong (t.messages.filter (t.isUnder id)) = some m ∧
      t.newestUnder? id = some m.id := by
  cases hm : t.newestAmong (t.messages.filter (t.isUnder id)) with
  | none =>
    have hnone : t.newestUnder? id = none := by rw [newestUnder?, if_pos h, hm]; rfl
    rw [newestUnder?_eq_none_iff, h] at hnone
    cases hnone
  | some m => exact ⟨m, rfl, by rw [newestUnder?, if_pos h, hm]; rfl⟩

/-- The message that ends the path for which no end is chosen. -/
theorem newestAmong_of_getLast?_path (h : m ∈ (t.path none).getLast?) :
    t.newestAmong t.messages = some m := by
  have hlast : some m.id = t.newest? := by
    rw [← getLast?_path_newest?, ← path_none, Option.mem_def.mp h]
    rfl
  obtain ⟨n, hn, hid⟩ := Option.map_eq_some_iff.mp hlast.symm
  have hm : m ∈ t.messages := by
    rw [path_none, ← hlast] at h
    exact mem_messages_of_mem_path (List.mem_of_getLast? h)
  rw [hn, List.inj_on_of_nodup_map t.distinct (mem_of_newestAmong hn) hm hid]

theorem path_none_eq_nil_iff : t.path none = [] ↔ t.messages = [] := by
  rw [← newest?_eq_none_iff, ← getLast?_path_newest?, ← path_none, Option.map_eq_none_iff,
    List.getLast?_eq_none_iff]

/-! ### One root -/

/-- No message lies above itself. -/
def IsAcyclic (t : Tree) : Prop :=
  ∀ id, ¬ TransGen t.Hangs id id

/-- The way up from a message has a last one. -/
theorem exists_top (h : t.has id = true) :
    ∃ top, top ∈ ((t.ancestry id).map Message.id).getLast? := by
  cases hlast : ((t.ancestry id).map Message.id).getLast? with
  | none =>
    have hstart := (isWayUp_ancestry h).mem_start
    rw [List.getLast?_eq_none_iff.mp hlast] at hstart
    cases hstart
  | some top => exact ⟨top, rfl⟩

/-- Where all ways up end at roots there is no cycle. -/
theorem isAcyclic_of_tops
    (h : ∀ m ∈ t.messages, ∀ top ∈ ((t.ancestry m.id).map Message.id).getLast?,
      t.parent? top = none) : t.IsAcyclic := by
  intro id hround
  obtain ⟨p, hhangs, -⟩ := TransGen.head'_iff.mp hround
  obtain ⟨m, hm, rfl, -⟩ := parent?_eq_some_iff.mp hhangs
  obtain ⟨top, htop⟩ := exists_top (has_of_mem hm)
  have hroot := (isWayUp_ancestry (has_of_mem hm)).noCycleAbove_iff htop
  exact hroot.mpr (h m hm top htop) m.id .refl hround

/-- Where there is one root and no cycle, all messages hang below the root. -/
theorem isUnder_root (acyclic : t.IsAcyclic) (hroot : t.roots = [root]) (hm : m ∈ t.messages) :
    t.isUnder root m = true := by
  have hhas := has_of_mem hm
  obtain ⟨top, htop⟩ := exists_top hhas
  have hup := isWayUp_ancestry hhas
  have hparent : t.parent? top = none := (hup.noCycleAbove_iff htop).mp fun a _ => acyclic a
  have hmem := List.mem_of_getLast? htop
  -- The way up from the message ends at a root, and there is only one.
  have hroots : top ∈ t.roots := mem_roots_iff.mpr ⟨has_iff.mpr (hup.within hmem), hparent⟩
  rw [hroot, List.mem_singleton] at hroots
  rw [isUnder_iff hm, reflTransGen_children_iff, ← mem_map_id_ancestry_iff hhas, ← hroots]
  exact hmem

theorem newestUnder?_root (acyclic : t.IsAcyclic) (hroot : t.roots = [root]) :
    t.newestUnder? root = t.newest? := by
  have hhas : t.has root = true := by
    have hmem : root ∈ t.roots := by rw [hroot]; exact List.mem_cons_self
    exact (mem_roots_iff.mp hmem).1
  have hall : t.messages.filter (t.isUnder root) = t.messages :=
    List.filter_eq_self.mpr fun m hm => isUnder_root acyclic hroot hm
  rw [newestUnder?, if_pos hhas, hall, newest?]

/-! ### All ends -/

/-- The ends of the branches in the tree of any list of messages. For every message of the tree, and
for no other identifier, the end of the branch below it is found among the messages that the lists
of children lead to from there: it is a leaf if there is one among them, and then newer than all
other leaves, and else it is newer than all others. Of two messages the newer one is that of the
later time, or the one listed later. The path for which no end is chosen goes to the end, in the
same sense, of all messages, and it is empty only where the tree is. Where no message lies above
itself and there is one root, this is the end of the branch below the root. -/
theorem newest_ends (ms : List Message) :
    let t := ofMessages ms
    (∀ id, t.has id = false → t.newestUnder? id = none) ∧
    (∀ id, t.has id = true → ∃ m, t.newestUnder? id = some m.id ∧
      t.IsEnd ms (fun n => ReflTransGen (fun a b => b ∈ t.children a) id n.id) m) ∧
    (t.path none = [] ↔ t.messages = []) ∧
    (∀ m ∈ (t.path none).getLast?, t.IsEnd ms (fun _ => True) m) ∧
    (t.IsAcyclic → ∀ root, t.roots = [root] →
      (t.path none).getLast?.map Message.id = t.newestUnder? root) := by
  intro t
  refine ⟨fun id h => newestUnder?_eq_none_iff.mpr h, fun id h => ?_, ?_, fun m hm => ?_,
    fun acyclic root hroot => ?_⟩
  · obtain ⟨m, hm, hend⟩ := exists_newestUnder? h
    exact ⟨m, hend, isEnd_of_newestAmong (fun n hn => isUnder_iff hn) hm⟩
  · exact path_none_eq_nil_iff
  · refine isEnd_of_newestAmong (q := fun _ => true) (fun n _ => iff_of_true rfl trivial) ?_
    rw [List.filter_true]
    exact newestAmong_of_getLast?_path hm
  · rw [newestUnder?_root acyclic hroot, path_none, getLast?_path_newest?]

/-- The branch below a message in a cycle leads out of it to a leaf. Where there is nothing but a
cycle, the message that is listed later ends it. The first messages alone hang below one root. -/
theorem newest_ends_tangled :
    let t := ofMessages tangled
    let first := ofMessages (tangled.take 5)
    (t.has "w" = false ∧ t.newestUnder? "w" = none) ∧
    (t.has "y" = true ∧ t.newestUnder? "y" = some "z" ∧
      ∃ m, m.id = "z" ∧
        t.IsEnd tangled (fun n => ReflTransGen (fun a b => b ∈ t.children a) "y" n.id) m) ∧
    ((t.path none).getLast? = some (.brief "z" (some "x") 8) ∧
      t.IsEnd tangled (fun _ => True) (.brief "z" (some "x") 8)) ∧
    (((ofMessages circle).path none).getLast? = some (.brief "y" (some "x") 7) ∧
      (Message.brief "x" (some "y") 7).OlderIn circle (.brief "y" (some "x") 7)) ∧
    first.IsAcyclic ∧ first.roots = ["a"] ∧ first.newestUnder? "a" = some "c" ∧
      (first.path none).getLast?.map Message.id = some "c" := by
  intro t first
  obtain ⟨hnone, hsome, -, hall, -⟩ := newest_ends tangled
  obtain ⟨-, -, -, hring, -⟩ := newest_ends circle
  obtain ⟨-, -, -, -, hroot⟩ := newest_ends (tangled.take 5)
  have hw : t.has "w" = false := by decide +kernel
  have hy : t.has "y" = true := by decide +kernel
  have hz : t.newestUnder? "y" = some "z" := by decide +kernel
  have hlast : (t.path none).getLast? = some (.brief "z" (some "x") 8) := by decide +kernel
  have hlast' : ((ofMessages circle).path none).getLast? = some (.brief "y" (some "x") 7) := by
    decide +kernel
  have hacyclic : first.IsAcyclic := isAcyclic_of_tops (by decide +kernel)
  have hroots : first.roots = ["a"] := by decide +kernel
  have hc : first.newestUnder? "a" = some "c" := by decide +kernel
  obtain ⟨m, hm, hend⟩ := hsome "y" hy
  refine ⟨⟨hw, hnone "w" hw⟩, ⟨hy, hz, m, Option.some.inj (hm.symm.trans hz), hend⟩,
    ⟨hlast, hall _ hlast⟩, ⟨hlast', ?_⟩, hacyclic, hroots, hc, (hroot hacyclic "a" hroots).trans hc⟩
  have hleafless : ∀ n ∈ (ofMessages circle).messages, True →
      (ofMessages circle).children n.id ≠ [] := by
    decide +kernel
  exact (hring _ hlast').newest hleafless _ (by decide +kernel) trivial (by decide +kernel)

end Tree

end BranchChat
