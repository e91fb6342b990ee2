import Mathlib.Data.List.TakeDrop
import Mathlib.Data.List.TakeWhile
import BranchChat.Text.Split

/-!
# Pieces between separators

The pieces of a list are read off its first element, and off its first separator.
-/

namespace BranchChat.Text

variable {α : Type} {p : α → Bool}

theorem cut_ne_nil (xs : List α) : cut p xs ≠ [] := by
  simp [cut]

/-- A separator at the front cuts an empty piece off. -/
theorem cut_cons_of_pos {x : α} (h : p x = true) (xs : List α) :
    cut p (x :: xs) = [] :: cut p xs := by
  simp [cut, h]

/-- Any other element at the front belongs to the first piece. -/
theorem cut_cons_of_neg {x : α} (h : p x = false) (xs : List α) :
    ∃ piece pieces, cut p xs = piece :: pieces ∧ cut p (x :: xs) = (x :: piece) :: pieces := by
  refine ⟨_, _, rfl, ?_⟩
  simp [cut, h]

/-- A list without separators is one piece. -/
theorem cut_of_forall {xs : List α} (h : ∀ x ∈ xs, p x = false) : cut p xs = [xs] := by
  induction xs with
  | nil => rfl
  | cons x xs ih =>
    obtain ⟨piece, pieces, hxs, hx⟩ := cut_cons_of_neg (h x List.mem_cons_self) xs
    rw [ih fun y hy => h y (List.mem_cons_of_mem _ hy)] at hxs
    obtain ⟨rfl, rfl⟩ := List.cons.inj hxs
    exact hx

/-- The pieces on both sides of a separator. -/
theorem cut_append_separator {s : α} (hs : p s = true) (xs ys : List α) :
    cut p (xs ++ s :: ys) = cut p xs ++ cut p ys := by
  induction xs with
  | nil => exact cut_cons_of_pos hs ys
  | cons x xs ih =>
    cases hx : p x with
    | true =>
      rw [List.cons_append, cut_cons_of_pos hx, cut_cons_of_pos hx, ih, List.cons_append]
    | false =>
      obtain ⟨piece, pieces, hxs, hcut⟩ := cut_cons_of_neg hx xs
      obtain ⟨piece', pieces', hxs', hcut'⟩ := cut_cons_of_neg hx (xs ++ s :: ys)
      rw [ih, hxs, List.cons_append] at hxs'
      obtain ⟨rfl, rfl⟩ := List.cons.inj hxs'
      rw [List.cons_append, hcut', hcut, List.cons_append]

/-- The elements before the first separator are the first piece. -/
theorem cut_append_cons {xs : List α} (h : ∀ x ∈ xs, p x = false) {s : α} (hs : p s = true)
    (ys : List α) : cut p (xs ++ s :: ys) = xs :: cut p ys := by
  rw [cut_append_separator hs, cut_of_forall h]
  rfl

/-- A piece has elements of the list, and no separator. -/
theorem of_mem_cut {xs piece : List α} (h : piece ∈ cut p xs) {x : α} (hx : x ∈ piece) :
    x ∈ xs ∧ p x = false := by
  induction xs generalizing piece with
  | nil =>
    obtain rfl : piece = [] := List.mem_singleton.mp h
    exact absurd hx List.not_mem_nil
  | cons y xs ih =>
    have hrest {piece : List α} (h : piece ∈ cut p xs) (hx : x ∈ piece) :
        x ∈ y :: xs ∧ p x = false :=
      (ih h hx).imp_left (List.mem_cons_of_mem y)
    cases hy : p y with
    | true =>
      rw [cut_cons_of_pos hy] at h
      rcases List.mem_cons.mp h with rfl | h
      · exact absurd hx List.not_mem_nil
      · exact hrest h hx
    | false =>
      obtain ⟨first, pieces, hxs, hcut⟩ := cut_cons_of_neg hy xs
      rw [hcut] at h
      have hfirst : first ∈ cut p xs := by rw [hxs]; exact List.mem_cons_self
      rcases List.mem_cons.mp h with rfl | h
      · rcases List.mem_cons.mp hx with rfl | hx
        · exact ⟨List.mem_cons_self, hy⟩
        · exact hrest hfirst hx
      · exact hrest (by rw [hxs]; exact List.mem_cons_of_mem _ h) hx

theorem glue_cons (separator piece : List α) {pieces : List (List α)} (h : pieces ≠ []) :
    glue separator (piece :: pieces) = piece ++ separator ++ glue separator pieces := by
  cases pieces with
  | nil => exact absurd rfl h
  | cons second pieces => rfl

/-- What was joined comes from a piece, or it is a separator. -/
theorem of_mem_glue {separator : List α} {pieces : List (List α)} {x : α}
    (h : x ∈ glue separator pieces) : x ∈ separator ∨ ∃ piece ∈ pieces, x ∈ piece := by
  induction pieces with
  | nil => exact absurd h List.not_mem_nil
  | cons piece pieces ih =>
    cases pieces with
    | nil => exact .inr ⟨piece, List.mem_cons_self, h⟩
    | cons second pieces =>
      rw [glue_cons _ _ (List.cons_ne_nil second pieces), List.append_assoc] at h
      rcases List.mem_append.mp h with hpiece | h
      · exact .inr ⟨piece, List.mem_cons_self, hpiece⟩
      · rcases List.mem_append.mp h with hseparator | hrest
        · exact .inl hseparator
        · exact (ih hrest).imp_right fun ⟨q, hq, hx⟩ => ⟨q, List.mem_cons_of_mem piece hq, hx⟩

/-- Pieces without separators are found again after they were joined. -/
theorem cut_glue {s : α} (hs : p s = true) {pieces : List (List α)} (hne : pieces ≠ [])
    (h : ∀ piece ∈ pieces, ∀ x ∈ piece, p x = false) : cut p (glue [s] pieces) = pieces := by
  induction pieces with
  | nil => exact absurd rfl hne
  | cons piece pieces ih =>
    have hpiece := h piece List.mem_cons_self
    cases pieces with
    | nil => exact cut_of_forall hpiece
    | cons second pieces =>
      have hrest := ih (List.cons_ne_nil second pieces) fun q hq => h q (List.mem_cons_of_mem _ hq)
      rw [glue, List.append_assoc, List.singleton_append, cut_append_cons hpiece hs, hrest]
      exact List.cons_ne_nil second pieces

/-- A separator at the end begins a new piece. -/
theorem cut_concat_of_pos {x : α} (h : p x = true) (xs : List α) :
    cut p (xs ++ [x]) = cut p xs ++ [[]] := by
  induction xs with
  | nil => exact cut_cons_of_pos h []
  | cons y xs ih =>
    cases hy : p y with
    | true => rw [List.cons_append, cut_cons_of_pos hy, cut_cons_of_pos hy, ih, List.cons_append]
    | false =>
      obtain ⟨piece, pieces, hxs, hcut⟩ := cut_cons_of_neg hy xs
      obtain ⟨piece', pieces', hxs', hcut'⟩ := cut_cons_of_neg hy (xs ++ [x])
      rw [ih, hxs, List.cons_append] at hxs'
      obtain ⟨rfl, rfl⟩ := List.cons.inj hxs'
      rw [List.cons_append, hcut', hcut, List.cons_append]

/-- Any other element at the end belongs to the last piece. -/
theorem cut_concat_of_neg {x : α} (h : p x = false) {xs : List α} {pieces : List (List α)}
    {piece : List α} (hxs : cut p xs = pieces ++ [piece]) :
    cut p (xs ++ [x]) = pieces ++ [piece ++ [x]] := by
  induction xs generalizing pieces piece with
  | nil =>
    cases pieces with
    | nil =>
      obtain rfl : piece = [] := (List.cons.inj hxs).1.symm
      exact cut_of_forall fun y hy => by rwa [List.mem_singleton.mp hy]
    | cons first pieces =>
      have hnil : [] = pieces ++ [piece] := (List.cons.inj hxs).2
      simp at hnil
  | cons y xs ih =>
    cases hy : p y with
    | true =>
      rw [cut_cons_of_pos hy] at hxs
      rw [List.cons_append, cut_cons_of_pos hy]
      cases pieces with
      | nil => exact absurd (List.cons.inj hxs).2 (cut_ne_nil xs)
      | cons first pieces =>
        obtain ⟨rfl, htail⟩ := List.cons.inj hxs
        rw [ih htail, List.cons_append]
    | false =>
      -- The new first element joins the first piece on both sides.
      obtain ⟨front, rest, hfront, hcut⟩ := cut_cons_of_neg hy xs
      obtain ⟨front', rest', hfront', hcut'⟩ := cut_cons_of_neg hy (xs ++ [x])
      rw [hcut] at hxs
      rw [List.cons_append, hcut']
      -- That piece is also the last one, or it stands before the last one.
      cases pieces with
      | nil =>
        obtain ⟨rfl, rfl⟩ := List.cons.inj hxs
        have hlast : cut p xs = [] ++ [front] := hfront
        rw [ih hlast] at hfront'
        obtain ⟨rfl, rfl⟩ := List.cons.inj hfront'
        rfl
      | cons first pieces =>
        obtain ⟨rfl, rfl⟩ := List.cons.inj hxs
        have hlast : cut p xs = (front :: pieces) ++ [piece] := hfront
        rw [ih hlast] at hfront'
        obtain ⟨rfl, rfl⟩ := List.cons.inj hfront'
        rfl

/-! ### The first separator -/

/-- The sides of the first separator. -/
theorem cutFirst_append_cons {before : List α} (h : ∀ x ∈ before, p x = false) {s : α}
    (hs : p s = true) (after : List α) :
    cutFirst p (before ++ s :: after) = some (before, after) := by
  have hkeep : ∀ x ∈ before, (!p x) = true := fun x hx => by rw [h x hx]; rfl
  have hstop : ¬(!p s) = true := by rw [hs]; decide
  rw [cutFirst, List.span_eq_takeWhile_dropWhile, List.takeWhile_append_of_pos hkeep,
    List.dropWhile_append_of_pos hkeep, List.takeWhile_cons_of_neg (p := fun x => !p x) hstop,
    List.dropWhile_cons_of_neg (p := fun x => !p x) hstop, List.append_nil]

/-- A list without separators has no sides. -/
theorem cutFirst_of_forall {xs : List α} (h : ∀ x ∈ xs, p x = false) : cutFirst p xs = none := by
  have hdrop : xs.dropWhile (fun x => !p x) = [] :=
    List.dropWhile_eq_nil_iff.mpr fun x hx => by rw [h x hx]; rfl
  rw [cutFirst, List.span_eq_takeWhile_dropWhile, hdrop]

/-- A list has no separator, or it has a first one. -/
theorem exists_first (p : α → Bool) (xs : List α) :
    (∀ x ∈ xs, p x = false) ∨
      ∃ before s after, xs = before ++ s :: after ∧ (∀ x ∈ before, p x = false) ∧ p s = true := by
  induction xs with
  | nil => exact .inl fun x hx => absurd hx List.not_mem_nil
  | cons x xs ih =>
    cases hx : p x with
    | true => exact .inr ⟨[], x, xs, rfl, fun y hy => absurd hy List.not_mem_nil, hx⟩
    | false =>
      rcases ih with hnone | ⟨before, s, after, rfl, hbefore, hs⟩
      · exact .inl (List.forall_mem_cons.mpr ⟨hx, hnone⟩)
      · exact .inr ⟨x :: before, s, after, rfl, List.forall_mem_cons.mpr ⟨hx, hbefore⟩, hs⟩

theorem forall_of_cutFirst_eq_none {xs : List α} (h : cutFirst p xs = none) :
    ∀ x ∈ xs, p x = false := by
  rcases exists_first p xs with hnone | ⟨before, s, after, rfl, hbefore, hs⟩
  · exact hnone
  · rw [cutFirst_append_cons hbefore hs] at h
    cases h

theorem exists_of_cutFirst_eq_some {xs before after : List α}
    (h : cutFirst p xs = some (before, after)) :
    ∃ s, xs = before ++ s :: after ∧ (∀ x ∈ before, p x = false) ∧ p s = true := by
  rcases exists_first p xs with hnone | ⟨front, s, rest, rfl, hfront, hs⟩
  · rw [cutFirst_of_forall hnone] at h
    cases h
  · rw [cutFirst_append_cons hfront hs] at h
    obtain ⟨rfl, rfl⟩ := Prod.mk.inj (Option.some.inj h)
    exact ⟨s, rfl, hfront, hs⟩

end BranchChat.Text
