import BranchChat.Proofs.Conversation.Links
import Mathlib.Data.List.Chain

/-!
# Ancestries

Going up from a message by the links visits every message above it once. It stops at a root, or
where it would come back. There is only one such way up, so what lies above a message on a way up is
the way up from there, unless a cycle is gone round.

## Main definitions

- `Tree.IsWayUp`: a list of identifiers goes up as far as it can

## Main statements

- `isWayUp_ancestry`: an ancestry is a way up
- `IsWayUp.unique`: there is only one from a message
- `IsWayUp.mem_iff`: it holds exactly what can be reached
- `IsWayUp.noCycleAbove_iff`: it ends at a root unless there is a cycle
- `IsWayUp.of_append`: what follows an ancestor is its own way up
-/

namespace BranchChat.Tree

open Relation (ReflTransGen TransGen)

variable {t : Tree} {id a b c p : String} {among way : List String}

theorem Hangs.unique (ha : t.Hangs c a) (hb : t.Hangs c b) : a = b :=
  Option.some.inj (ha.symm.trans hb)

/-- A list of identifiers goes up from `id` by the links, through no message twice. It stays within
`among`, and only stops where it would have to leave it or to come back. -/
structure IsWayUp (t : Tree) (among : List String) (id : String) (way : List String) : Prop where
  starts : way.head? = some id
  within : way ⊆ among
  linked : way.IsChain t.Hangs
  distinct : way.Nodup
  ends : ∀ last ∈ way.getLast?, ∀ p ∈ among, t.Hangs last p → p ∈ way

/-! ### Climbing -/

theorem IsWayUp.singleton (h : c ∈ among) (hends : ∀ p ∈ among, t.Hangs c p → p = c) :
    t.IsWayUp among c [c] := by
  refine ⟨rfl, by simpa using h, .singleton c, List.nodup_singleton c, ?_⟩
  intro last hlast p hp hhangs
  obtain rfl : c = last := by simpa using hlast
  rw [hends p hp hhangs]
  exact List.mem_cons_self

/-- A way up from above, among the messages that are left, becomes a longer one. -/
theorem IsWayUp.cons {left : List String} (h : t.IsWayUp left p way)
    (hleft : ∀ a, a ∈ left ↔ a ∈ among ∧ a ≠ c) (hc : c ∈ among) (hhangs : t.Hangs c p) :
    t.IsWayUp among c (c :: way) := by
  have hfresh : c ∉ way := fun hmem => ((hleft c).mp (h.within hmem)).2 rfl
  refine ⟨rfl, ?_, ?_, List.nodup_cons.mpr ⟨hfresh, h.distinct⟩, ?_⟩
  · intro a ha
    rcases List.mem_cons.mp ha with rfl | ha
    · exact hc
    · exact ((hleft a).mp (h.within ha)).1
  · refine List.isChain_cons.mpr ⟨?_, h.linked⟩
    intro next hnext
    obtain rfl : p = next := by
      rw [h.starts] at hnext
      exact Option.some.inj hnext
    exact hhangs
  · intro last hlast q hq hhangs'
    have hlast' : last ∈ way.getLast? := by
      cases way with
      | nil => cases h.starts
      | cons => rwa [List.getLast?_cons_cons] at hlast
    by_cases hqc : q = c
    · rw [hqc]
      exact List.mem_cons_self
    · exact List.mem_cons_of_mem _ (h.ends last hlast' q ((hleft q).mpr ⟨hq, hqc⟩) hhangs')

theorem mem_map_id_erase_iff {ms : List Message} {m : Message}
    (distinct : (ms.map Message.id).Nodup) (hm : m ∈ ms) :
    a ∈ (ms.erase m).map Message.id ↔ a ∈ ms.map Message.id ∧ a ≠ m.id := by
  simp only [List.mem_map, distinct.of_map.mem_erase_iff]
  constructor
  · rintro ⟨x, ⟨hne, hx⟩, rfl⟩
    exact ⟨⟨x, hx, rfl⟩, fun heq => hne (List.inj_on_of_nodup_map distinct hx hm heq)⟩
  · rintro ⟨⟨x, hx, rfl⟩, hne⟩
    exact ⟨x, ⟨fun heq => hne (congrArg Message.id heq), hx⟩, rfl⟩

theorem climb_eq_nil {ms : List Message} (h : id ∉ ms.map Message.id) : t.climb ms id = [] := by
  rw [climb]
  split
  · rfl
  · next m hfound =>
    have hm : m.id = id := by simpa using List.find?_some hfound
    exact absurd (hm ▸ List.mem_map_of_mem (List.mem_of_find?_eq_some hfound)) h

theorem mem_of_mem_climb {ms : List Message} {m : Message} (h : m ∈ t.climb ms id) : m ∈ ms := by
  fun_induction t.climb ms id with
  | case1 => cases h
  | case2 ms id m' hfound hlink =>
    obtain rfl := List.mem_singleton.mp h
    exact List.mem_of_find?_eq_some hfound
  | case3 ms id m' hfound p hlink ih =>
    rcases List.mem_cons.mp h with rfl | h
    · exact List.mem_of_find?_eq_some hfound
    · exact List.mem_of_mem_erase (ih h)

/-- Climbing goes up as far as it can among the messages that are not visited yet. -/
theorem isWayUp_climb {ms : List Message} (hms : ms.Sublist t.messages)
    (h : id ∈ ms.map Message.id) :
    t.IsWayUp (ms.map Message.id) id ((t.climb ms id).map Message.id) := by
  have hdistinct := (hms.map Message.id).nodup t.distinct
  fun_induction t.climb ms id with
  | case1 ms id hnone =>
    obtain ⟨m, hm, rfl⟩ := List.mem_map.mp h
    exact absurd (List.find?_eq_none.mp hnone m hm) (by simp)
  | case2 ms id m hfound hlink =>
    obtain ⟨hm, rfl⟩ := (find?_id_eq_some_iff hdistinct).mp hfound
    refine .singleton h ?_
    intro p _ hhangs
    rw [Hangs, parent?_of_mem (hms.subset hm), hlink] at hhangs
    cases hhangs
  | case3 ms id m hfound p hlink ih =>
    obtain ⟨hm, rfl⟩ := (find?_id_eq_some_iff hdistinct).mp hfound
    have hhangs : t.Hangs m.id p := (parent?_of_mem (hms.subset hm)).trans hlink
    have hleft (a : String) := mem_map_id_erase_iff (a := a) hdistinct hm
    by_cases hp : p ∈ (ms.erase m).map Message.id
    · have hsub : (ms.erase m).Sublist t.messages := List.erase_sublist.trans hms
      exact (ih hsub hp ((hsub.map Message.id).nodup t.distinct)).cons hleft h hhangs
    · rw [climb_eq_nil hp]
      refine .singleton h ?_
      intro q hq hhangs'
      obtain rfl := hhangs.unique hhangs'
      by_contra hne
      exact hp ((hleft p).mpr ⟨hq, hne⟩)

theorem isWayUp_ancestry (h : t.has id = true) :
    t.IsWayUp (t.messages.map Message.id) id ((t.ancestry id).map Message.id) :=
  isWayUp_climb (List.Sublist.refl _) (has_iff.mp h)

theorem ancestry_eq_nil (h : t.has id = false) : t.ancestry id = [] :=
  climb_eq_nil fun hmem => Bool.false_ne_true (h.symm.trans (has_iff.mpr hmem))

theorem mem_messages_of_mem_ancestry {m : Message} (h : m ∈ t.ancestry id) : m ∈ t.messages :=
  mem_of_mem_climb h

/-! ### There is only one way up -/

/-- Of two chains of links from the same message one continues the other. -/
theorem prefix_or_prefix_of_isChain {way' : List String} (h : way.IsChain t.Hangs)
    (h' : way'.IsChain t.Hangs) (hstart : way.head? = way'.head?) :
    way <+: way' ∨ way' <+: way := by
  induction way generalizing way' with
  | nil => exact .inl List.nil_prefix
  | cons a way ih =>
    cases way' with
    | nil => exact .inr List.nil_prefix
    | cons a' way' =>
      obtain rfl : a = a' := by simpa using hstart
      rw [List.isChain_cons] at h h'
      cases way with
      | nil => exact .inl (by simp)
      | cons b way =>
        cases way' with
        | nil => exact .inr (by simp)
        | cons b' way' =>
          have hb : b = b' := (h.1 b rfl).unique (h'.1 b' rfl)
          exact (ih h.2 h'.2 (congrArg some hb)).imp
            (List.prefix_cons_inj a).mpr (List.prefix_cons_inj a).mpr

/-- A way up cannot be continued. -/
theorem IsWayUp.eq_of_prefix {way' : List String} (h : t.IsWayUp among id way)
    (h' : t.IsWayUp among id way') (hp : way <+: way') : way = way' := by
  obtain ⟨more, rfl⟩ := hp
  cases more with
  | nil => rw [List.append_nil]
  | cons next more =>
    obtain ⟨-, -, hlink⟩ := List.isChain_append.mp h'.linked
    cases hlast : way.getLast? with
    | none =>
      rw [List.getLast?_eq_none_iff.mp hlast] at h
      cases h.starts
    | some last =>
      have hnext : next ∈ among := h'.within (by simp)
      have hback := h.ends last hlast next hnext (hlink last hlast next rfl)
      exact (List.disjoint_of_nodup_append h'.distinct hback List.mem_cons_self).elim

theorem IsWayUp.unique {way' : List String} (h : t.IsWayUp among id way)
    (h' : t.IsWayUp among id way') : way = way' := by
  rcases prefix_or_prefix_of_isChain h.linked h'.linked (h.starts.trans h'.starts.symm) with hp | hp
  · exact h.eq_of_prefix h' hp
  · exact (h'.eq_of_prefix h hp).symm

/-! ### What a way up holds -/

theorem IsWayUp.mem_start (h : t.IsWayUp among id way) : id ∈ way :=
  List.mem_of_head? h.starts

theorem IsWayUp.mem_of_hangs (h : t.IsWayUp among id way) (ha : a ∈ way) (hb : b ∈ among)
    (hhangs : t.Hangs a b) : b ∈ way := by
  obtain ⟨below, above, rfl⟩ := List.append_of_mem ha
  cases above with
  | nil => exact h.ends a (by simp) b hb hhangs
  | cons next above =>
    have hlinked := h.linked.right_of_append
    rw [List.isChain_cons_cons] at hlinked
    rw [hhangs.unique hlinked.1]
    simp

theorem reflTransGen_of_isChain (h : (a :: way).IsChain t.Hangs) (hb : b ∈ a :: way) :
    ReflTransGen t.Hangs a b := by
  rcases List.mem_cons.mp hb with rfl | hb
  · exact .refl
  · have hpairwise := List.isChain_iff_pairwise.mp (h.imp fun _ _ => ReflTransGen.single)
    exact (List.pairwise_cons.mp hpairwise).1 b hb

theorem IsWayUp.reaches_last {last : String} (h : t.IsWayUp among id way) (ha : a ∈ way)
    (hlast : last ∈ way.getLast?) : ReflTransGen t.Hangs a last := by
  obtain ⟨below, above, rfl⟩ := List.append_of_mem ha
  refine reflTransGen_of_isChain h.linked.right_of_append ?_
  rw [List.getLast?_append_of_ne_nil _ (List.cons_ne_nil a above)] at hlast
  exact List.mem_of_getLast? hlast

/-- A way up through the whole tree holds what can be reached, and nothing else. -/
theorem IsWayUp.mem_iff (h : t.IsWayUp (t.messages.map Message.id) id way) :
    a ∈ way ↔ ReflTransGen t.Hangs id a := by
  constructor
  · intro ha
    cases way with
    | nil => cases h.starts
    | cons first way =>
      obtain rfl : first = id := Option.some.inj h.starts
      exact reflTransGen_of_isChain h.linked ha
  · intro hreach
    induction hreach with
    | refl => exact h.mem_start
    | tail _ hhangs ih =>
      exact h.mem_of_hangs ih (has_iff.mp (has_of_parent?_eq_some hhangs).2) hhangs

/-- The message at the end of a way up is a root, or it lies in a cycle, above itself. -/
theorem IsWayUp.last_cases {last : String} (h : t.IsWayUp (t.messages.map Message.id) id way)
    (hlast : last ∈ way.getLast?) :
    t.parent? last = none ∨
      ∃ p ∈ way, t.parent? last = some p ∧ TransGen t.Hangs last last := by
  cases hparent : t.parent? last with
  | none => exact .inl rfl
  | some p =>
    have hp := h.ends last hlast p (has_iff.mp (has_of_parent?_eq_some hparent).2) hparent
    exact .inr ⟨p, hp, rfl, .head' hparent (h.reaches_last hp hlast)⟩

/-- Whatever lies above a message in a cycle is in the cycle, too. -/
theorem transGen_of_reflTransGen (hround : TransGen t.Hangs a a) (h : ReflTransGen t.Hangs a b) :
    TransGen t.Hangs b b := by
  induction h with
  | refl => exact hround
  | tail _ hhangs ih =>
    obtain ⟨next, hnext, hback⟩ := TransGen.head'_iff.mp ih
    rw [hhangs.unique hnext]
    exact TransGen.tail' hback hnext

/-- There is no cycle above a message if and only if its way up ends at a root. -/
theorem IsWayUp.noCycleAbove_iff {last : String}
    (h : t.IsWayUp (t.messages.map Message.id) id way) (hlast : last ∈ way.getLast?) :
    t.NoCycleAbove id ↔ t.parent? last = none := by
  constructor
  · intro hcycle
    rcases h.last_cases hlast with hroot | ⟨p, -, -, hround⟩
    · exact hroot
    · exact absurd hround (hcycle last (h.mem_iff.mp (List.mem_of_getLast? hlast)))
  · intro hroot a ha hround
    have hreach := h.reaches_last (h.mem_iff.mpr ha) hlast
    obtain ⟨p, hhangs, -⟩ := TransGen.head'_iff.mp (transGen_of_reflTransGen hround hreach)
    rw [Hangs, hroot] at hhangs
    cases hhangs

/-- Without a cycle, what follows a message on a way up is the way up from there. -/
theorem IsWayUp.of_append {below above : List String}
    (h : t.IsWayUp (t.messages.map Message.id) id (below ++ p :: above))
    (hcycle : t.NoCycleAbove id) :
    t.IsWayUp (t.messages.map Message.id) p (p :: above) := by
  refine ⟨rfl, ?_, h.linked.right_of_append, h.distinct.of_append_right, ?_⟩
  · exact List.Subset.trans (List.subset_append_right below (p :: above)) h.within
  · intro last hlast q _ hhangs
    have hwhole : last ∈ (below ++ p :: above).getLast? := by
      rwa [List.getLast?_append_of_ne_nil _ (List.cons_ne_nil p above)]
    rw [Hangs, (h.noCycleAbove_iff hwhole).mp hcycle] at hhangs
    cases hhangs

/-! ### Ancestries -/

theorem mem_map_id_ancestry_iff (h : t.has id = true) :
    a ∈ (t.ancestry id).map Message.id ↔ ReflTransGen t.Hangs id a :=
  (isWayUp_ancestry h).mem_iff

end BranchChat.Tree
