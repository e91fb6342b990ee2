import Mathlib.Data.List.Basic

/-!
# Entries under keys

Lists of entries, each with its key, of which the first one for a key counts. Where the entries for
a key are taken away or replaced, the others are found as before.

## Main statements

- `lookup_filter_ne`, `lookup_filter_self`: looking up after the entries for a key are taken away
- `lookup_put`: looking up after one entry has taken their place
-/

namespace BranchChat.Entries

variable {κ α : Type} [BEq κ] [LawfulBEq κ] {key other : κ}

theorem lookup_filter_ne (entries : List (κ × α)) (h : other ≠ key) :
    (entries.filter (·.1 != key)).lookup other = entries.lookup other := by
  induction entries with
  | nil => rfl
  | cons entry entries ih =>
    obtain ⟨first, a⟩ := entry
    by_cases hfirst : first = key
    · have hne : (other == key) = false := beq_eq_false_iff_ne.mpr h
      simp [List.lookup_cons, hfirst, hne, ih]
    · simp [List.lookup_cons, hfirst, ih]

theorem lookup_filter_self (entries : List (κ × α)) (key : κ) :
    (entries.filter (·.1 != key)).lookup key = none := by
  rw [List.lookup_eq_none_iff]
  intro entry hentry
  have hne := (List.mem_filter.mp hentry).2
  simp only [bne_iff_ne, ne_eq] at hne
  simpa using fun h => hne h.symm

/-- A new entry takes the place of the older ones for its key, and of no others. -/
theorem lookup_put [DecidableEq κ] (entries : List (κ × α)) (key other : κ) (a : α) :
    ((key, a) :: entries.filter (·.1 != key)).lookup other =
      if other = key then some a else entries.lookup other := by
  by_cases h : other = key
  · rw [if_pos h, h, List.lookup_cons_self]
  · rw [if_neg h, List.lookup_cons, beq_eq_false_iff_ne.mpr h]
    exact lookup_filter_ne entries h

end BranchChat.Entries
