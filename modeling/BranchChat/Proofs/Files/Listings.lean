import BranchChat.Proofs.Files.Folders

/-!
# What a folder lists

Where each place has one entry, a folder lists what is found at the places directly below it. No
operation gives a place a second entry.

## Main definitions

- `Store.Distinct`: each place has at most one entry

## Main statements

- `Store.Distinct.mem_inFolder_iff`: what a folder lists
- `Store.entry?_foldl_delete`: what is left after entries were taken away
- `Store.Distinct.createFolders`: creating folders gives no place a second entry
-/

namespace BranchChat.Files.Store

variable {s s' : Store} {p : Path} {place folder : Place} {name : String} {e : Entry}

/-- Each place has at most one entry. -/
def Distinct (s : Store) : Prop :=
  (s.entries.map Prod.fst).Nodup

instance (s : Store) : Decidable s.Distinct :=
  inferInstanceAs (Decidable (List.Nodup _))

theorem Distinct.put (h : s.Distinct) (place : Place) (e : Entry) : (s.put place e).Distinct := by
  show (place :: (s.entries.filter (·.1 != place)).map Prod.fst).Nodup
  rw [List.nodup_cons]
  constructor
  · simp
  · exact (List.filter_sublist.map Prod.fst).nodup h

theorem Distinct.lookup_iff (h : s.Distinct) :
    s.entries.lookup place = some e ↔ (place, e) ∈ s.entries := by
  constructor
  · intro hlookup
    obtain ⟨before, after, hentries, -⟩ := List.lookup_eq_some_iff.mp hlookup
    rw [hentries]
    simp
  · intro hmem
    obtain ⟨before, after, hentries⟩ := List.append_of_mem hmem
    refine List.lookup_eq_some_iff.mpr ⟨before, after, hentries, fun other hother => ?_⟩
    -- An entry for the same place before this one would be a second one.
    rw [Distinct, hentries, List.map_append, List.nodup_append] at h
    have hne := h.2.2 other.1 (List.mem_map_of_mem hother) place (by simp)
    simpa using fun heq => hne heq.symm

/-- A folder lists the entries at the places directly below it. -/
theorem mem_inFolder (h : (name, e) ∈ s.inFolder folder) : (folder ++ [name], e) ∈ s.entries := by
  obtain ⟨⟨place, found⟩, hmem, hsome⟩ := List.mem_filterMap.mp h
  dsimp only at hsome
  split at hsome
  · next last hlast =>
    split at hsome
    · next hfolder =>
      cases hsome
      have hplace := List.dropLast_append_getLast? _ hlast
      rw [← hfolder, hplace]
      exact hmem
    · cases hsome
  · cases hsome

theorem mem_inFolder_of_mem (h : (folder ++ [name], e) ∈ s.entries) :
    (name, e) ∈ s.inFolder folder := by
  refine List.mem_filterMap.mpr ⟨_, h, ?_⟩
  simp

/-- A folder lists what is found at the places directly below it. -/
theorem Distinct.mem_inFolder_iff (h : s.Distinct) :
    (name, e) ∈ s.inFolder folder ↔ s.entry? (folder ++ [name]) = some e := by
  rw [entry?_of_ne_nil s (by simp), h.lookup_iff]
  exact ⟨mem_inFolder, mem_inFolder_of_mem⟩

/-- Where entries are taken away one after the other, all others stay. -/
theorem entry?_foldl_delete (s : Store) {places : List Place} (h : ∀ p ∈ places, p ≠ [])
    (place : Place) :
    entry? (places.foldl delete s) place = if place ∈ places then none else s.entry? place := by
  induction places generalizing s with
  | nil => simp
  | cons first places ih =>
    rw [List.foldl_cons, ih _ fun p hp => h p (List.mem_cons_of_mem first hp)]
    by_cases hrest : place ∈ places
    · rw [if_pos hrest, if_pos (List.mem_cons_of_mem first hrest)]
    · rw [if_neg hrest]
      by_cases hfirst : place = first
      · subst hfirst
        rw [if_pos List.mem_cons_self]
        exact s.entry?_delete_self (h place List.mem_cons_self)
      · rw [if_neg (by simp [hfirst, hrest])]
        exact s.entry?_delete_of_ne hfirst

/-! ### New folders -/

theorem Distinct.createFolder (h : s.Distinct) (hcreate : s.createFolder p = .ok s') :
    s'.Distinct := by
  rcases s.createFolder_cases p with ⟨place, -, hok⟩ | ⟨fault, herror⟩
  · rw [hok] at hcreate
    cases hcreate
    exact h.put place .folder
  · rw [herror] at hcreate
    exact absurd hcreate (by simp)

theorem Distinct.attempt (h : s.Distinct) (p : Path) : (attempt p s).1.Distinct := by
  unfold Store.attempt
  split
  case h_1 s' hcreate => exact h.createFolder hcreate
  case h_2 => exact h

theorem Distinct.createChain (h : s.Distinct) (wanted : List Path) :
    (createChain wanted s).1.Distinct := by
  induction wanted with
  | nil => exact h
  | cons p above ih =>
    rw [createChain_cons]
    split
    case h_1 =>
      split
      case h_1 s' habove =>
        rw [habove] at ih
        exact ih.attempt p
      case h_2 => exact ih
    case h_2 => exact h.attempt p

theorem Distinct.createFolders (h : s.Distinct) (p : Path) : (s.createFolders p).1.Distinct := by
  unfold Store.createFolders
  split
  · exact h
  · exact h.createChain _

theorem grows_createFolders (s : Store) (p : Path) : Grows s (s.createFolders p).1 := by
  unfold Store.createFolders
  split
  · exact .refl s
  · exact (created_createChain _ s).grows

end BranchChat.Files.Store
