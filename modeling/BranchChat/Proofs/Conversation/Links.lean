import BranchChat.Conversation.Tree
import Mathlib.Data.List.Nodup
import Mathlib.Logic.Relation

/-!
# Links of a tree of messages

All structure of a tree comes from one link for each message. The groups of messages with the same
link are read off it, and so is what lies above and below a message.

## Main definitions

- `Tree.Hangs`: a message hangs directly below another one
- `Tree.NoCycleAbove`: whoever goes up from a message comes to an end
- `tangled`, `circle`: a conversation with links of every kind, and one that is nothing but a cycle

## Main statements

- `linkOf_eq_some_iff`: which messages are linked
- `mem_roots_iff`, `mem_children_iff`: the groups are read off the links
-/

namespace BranchChat.Tree

variable {t : Tree} {m : Message} {id p c : String}

/-! ### Finding messages -/

theorem find?_id_eq_some_iff {ms : List Message} (distinct : (ms.map Message.id).Nodup) :
    ms.find? (·.id == id) = some m ↔ m ∈ ms ∧ m.id = id := by
  constructor
  · intro h
    exact ⟨List.mem_of_find?_eq_some h, by simpa using List.find?_some h⟩
  · rintro ⟨hm, rfl⟩
    cases hfound : ms.find? (·.id == m.id) with
    | none => exact absurd (List.find?_eq_none.mp hfound m hm) (by simp)
    | some m' =>
      have hid : m'.id = m.id := by simpa using List.find?_some hfound
      have hm' := List.mem_of_find?_eq_some hfound
      rw [List.inj_on_of_nodup_map distinct hm' hm hid]

theorem find?_eq_some_iff : t.find? id = some m ↔ m ∈ t.messages ∧ m.id = id :=
  find?_id_eq_some_iff t.distinct

theorem has_iff : t.has id = true ↔ id ∈ t.messages.map Message.id := by
  simp [has]

theorem has_of_mem (h : m ∈ t.messages) : t.has m.id = true :=
  has_iff.mpr (List.mem_map_of_mem h)

theorem find?_eq_none_iff : t.find? id = none ↔ t.has id = false := by
  simp [find?, has]

/-- Messages of a tree are told apart by their identifiers. -/
theorem filterMap_find? {ms : List Message} (h : ms ⊆ t.messages) :
    (ms.map Message.id).filterMap t.find? = ms := by
  induction ms with
  | nil => rfl
  | cons m ms ih =>
    obtain ⟨hm, hms⟩ := List.cons_subset.mp h
    rw [List.map_cons, List.filterMap_cons_some (find?_eq_some_iff.mpr ⟨hm, rfl⟩), ih hms]

/-! ### Links -/

/-- A message is linked to the one that it names, if this is another one of the tree. -/
theorem linkOf_eq_some_iff :
    t.linkOf m = some p ↔ m.parent = some p ∧ p ≠ m.id ∧ t.has p = true := by
  simp [linkOf, Option.filter_eq_some_iff]

theorem parent?_of_mem (h : m ∈ t.messages) : t.parent? m.id = t.linkOf m := by
  rw [parent?, find?_eq_some_iff.mpr ⟨h, rfl⟩]
  rfl

theorem parent?_eq_some_iff :
    t.parent? c = some p ↔ ∃ m ∈ t.messages, m.id = c ∧ t.linkOf m = some p := by
  simp only [parent?, Option.bind_eq_some_iff, find?_eq_some_iff, and_assoc]

theorem has_of_parent?_eq_some (h : t.parent? c = some p) : t.has c = true ∧ t.has p = true := by
  obtain ⟨m, hm, rfl, hlink⟩ := parent?_eq_some_iff.mp h
  exact ⟨has_of_mem hm, (linkOf_eq_some_iff.mp hlink).2.2⟩

/-! ### Groups -/

theorem mem_group_iff {parent : Option String} :
    c ∈ t.group parent ↔ t.has c = true ∧ t.parent? c = parent := by
  rw [group, List.mem_map]
  constructor
  · rintro ⟨m, hm, rfl⟩
    obtain ⟨hmem, hlink⟩ := List.mem_filter.mp hm
    exact ⟨has_of_mem hmem, by simpa [parent?_of_mem hmem] using hlink⟩
  · rintro ⟨hhas, hparent⟩
    obtain ⟨m, hm, rfl⟩ := List.mem_map.mp (has_iff.mp hhas)
    rw [parent?_of_mem hm] at hparent
    exact ⟨m, List.mem_filter.mpr ⟨hm, by simp [hparent]⟩, rfl⟩

theorem mem_roots_iff : c ∈ t.roots ↔ t.has c = true ∧ t.parent? c = none :=
  mem_group_iff

/-- The messages below one are those that are linked to it. -/
theorem mem_children_iff : c ∈ t.children p ↔ t.parent? c = some p := by
  rw [children, mem_group_iff, and_iff_right_iff_imp]
  exact fun h => (has_of_parent?_eq_some h).1

theorem group_sublist (t : Tree) (parent : Option String) :
    (t.group parent).Sublist (t.messages.map Message.id) :=
  List.filter_sublist.map _

theorem nodup_group (t : Tree) (parent : Option String) : (t.group parent).Nodup :=
  (t.group_sublist parent).nodup t.distinct

theorem siblings_of_has (h : t.has id = true) : t.siblings id = t.group (t.parent? id) := by
  obtain ⟨m, hm, rfl⟩ := List.mem_map.mp (has_iff.mp h)
  rw [siblings, find?_eq_some_iff.mpr ⟨hm, rfl⟩, parent?_of_mem hm]

theorem siblings_of_not_has (h : t.has id = false) : t.siblings id = [] := by
  rw [siblings, find?_eq_none_iff.mpr h]

theorem nodup_siblings (t : Tree) (id : String) : (t.siblings id).Nodup := by
  rw [siblings]
  split
  · exact nodup_group ..
  · exact List.nodup_nil

theorem mem_siblings_self (h : t.has id = true) : id ∈ t.siblings id := by
  rw [siblings_of_has h, mem_group_iff]
  exact ⟨h, rfl⟩

theorem has_of_mem_siblings (h : c ∈ t.siblings id) : t.has c = true := by
  rw [siblings] at h
  split at h
  · exact (mem_group_iff.mp h).1
  · cases h

/-- Siblings have the same siblings. -/
theorem siblings_eq_of_mem (h : c ∈ t.siblings id) : t.siblings c = t.siblings id := by
  cases hhas : t.has id with
  | false =>
    rw [siblings_of_not_has hhas] at h
    exact absurd h List.not_mem_nil
  | true =>
    rw [siblings_of_has hhas] at h ⊢
    obtain ⟨hc, hparent⟩ := mem_group_iff.mp h
    rw [siblings_of_has hc, hparent]

/-! ### Above and below -/

/-- The message `c` hangs directly below `p`. -/
def Hangs (t : Tree) (c p : String) : Prop :=
  t.parent? c = some p

/-- No message that is `id` or lies above it lies above itself. -/
def NoCycleAbove (t : Tree) (id : String) : Prop :=
  ∀ a, Relation.ReflTransGen t.Hangs id a → ¬ Relation.TransGen t.Hangs a a

/-- Going up from a message and going down to it by the lists of children are the same. -/
theorem reflTransGen_children_iff :
    Relation.ReflTransGen (fun a b => b ∈ t.children a) id c ↔
      Relation.ReflTransGen t.Hangs c id := by
  have hswap : (fun a b => b ∈ t.children a) = Function.swap t.Hangs := by
    funext a b
    exact propext mem_children_iff
  rw [hswap]
  exact Relation.reflTransGen_swap

end BranchChat.Tree

/-! ### Tangled conversations -/

namespace BranchChat

/-- A message of the first minute of 1970. -/
def Message.brief (id : String) (parent : Option String) (second : Fin 60) : Message :=
  { id, parent, content := "", response := none
    createdAt := ⟨⟨1970, 1, 1, by decide⟩, 0, second, 0, by decide, by omega, by decide⟩
    listedChildren := [] }

/-- A conversation with links of every kind: a branch of two answers, an identifier that comes
twice, a message listed before the one that it answers, one that names itself, one that names none
of the others, and a cycle with a message below it. -/
def tangled : List Message :=
  [.brief "c" (some "b") 4, .brief "a" none 1, .brief "b" (some "a") 2, .brief "b" none 9,
    .brief "d" (some "a") 3, .brief "self" (some "self") 5, .brief "lost" (some "nowhere") 6,
    .brief "x" (some "y") 7, .brief "y" (some "x") 8, .brief "z" (some "x") 8]

/-- Two messages of the same time, each of which answers to the other. -/
def circle : List Message :=
  [.brief "x" (some "y") 7, .brief "y" (some "x") 7]

end BranchChat
