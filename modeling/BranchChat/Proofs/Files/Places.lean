import BranchChat.Files.Store
import BranchChat.Proofs.Entries

/-!
# Where paths lead

A path leads to a place through folders. So it leads to the same place after any change that leaves
the folders alone, such as writing or removing a file.

## Main definitions

- `Store.LeadsTo`: a path leads to a place
- `Store.content?`: the bytes of the plain file that a path leads to
- `Store.Grows`: folders have been created, and nothing else has changed

## Main statements

- `Store.locate_eq_ok_iff`, `Store.folderAt_eq_ok_iff`, `Store.content?_eq_some_iff`: what
  following a path gives
- `Store.content?_of_write`, `Store.at?_of_remove`: a file after it was written, or removed
- `Store.Grows.content?_eq_some`: a file that a path leads to is the same after folders were created
-/

namespace BranchChat.Files.Store

variable {s s' : Store} {p : Path} {place other : Place} {e : Entry} {found : Option Entry}

/-! ### Entries -/

theorem entry?_nil (s : Store) : s.entry? [] = some .folder := rfl

theorem entry?_of_ne_nil (s : Store) (h : place ≠ []) :
    s.entry? place = s.entries.lookup place := by
  unfold entry?
  rw [if_neg (by simpa using h)]

theorem ne_nil_of_entry?_ne (h : s.entry? place ≠ some .folder) : place ≠ [] := by
  rintro rfl
  exact h s.entry?_nil

theorem entry?_put_self (s : Store) (h : place ≠ []) (e : Entry) :
    entry? (s.put place e) place = some e := by
  rw [entry?_of_ne_nil _ h]
  exact List.lookup_cons_self

theorem entry?_put_of_ne (s : Store) (h : other ≠ place) (e : Entry) :
    entry? (s.put place e) other = s.entry? other := by
  by_cases hnil : other = []
  · rw [hnil, entry?_nil, entry?_nil]
  · rw [entry?_of_ne_nil _ hnil, entry?_of_ne_nil _ hnil, put, Entries.lookup_put, if_neg h]

theorem entry?_delete_self (s : Store) (h : place ≠ []) : entry? (s.delete place) place = none := by
  rw [entry?_of_ne_nil _ h]
  exact Entries.lookup_filter_self s.entries place

theorem entry?_delete_of_ne (s : Store) (h : other ≠ place) :
    entry? (s.delete place) other = s.entry? other := by
  by_cases hnil : other = []
  · rw [hnil, entry?_nil, entry?_nil]
  · rw [entry?_of_ne_nil _ hnil, entry?_of_ne_nil _ hnil]
    exact Entries.lookup_filter_ne s.entries h

/-! ### Following paths -/

/-- The folders of one store are folders of another one, and relative paths start in the same
place. -/
structure KeepsFolders (s s' : Store) : Prop where
  workingPlace : s'.workingPlace = s.workingPlace
  folder (place : Place) : s.entry? place = some .folder → s'.entry? place = some .folder

theorem keepsFolders_put (h : s.entry? place ≠ some .folder) (e : Entry) :
    KeepsFolders s (s.put place e) where
  workingPlace := rfl
  folder other hother := by
    rwa [entry?_put_of_ne s (by rintro rfl; exact h hother)]

theorem keepsFolders_delete (h : s.entry? place ≠ some .folder) :
    KeepsFolders s (s.delete place) where
  workingPlace := rfl
  folder other hother := by
    rwa [entry?_delete_of_ne s (by rintro rfl; exact h hother)]

/-- A way that goes on leads through a folder. -/
theorem follow_cons_eq_ok_iff {here : Place} {name : String} {more : List String}
    (hmore : more ≠ []) :
    s.follow here (name :: more) = .ok place ↔
      ∃ next, step here name = .ok next ∧ s.entry? next = some .folder ∧
        s.follow next more = .ok place := by
  obtain ⟨second, rest, rfl⟩ := List.exists_cons_of_ne_nil hmore
  rw [follow.eq_3 s here name _ (List.cons_ne_nil second rest)]
  cases hstep : step here name with
  | error fault => simp [bind, Except.bind]
  | ok next =>
    cases hentry : s.entry? next with
    | none => simp [bind, Except.bind, hentry, throw, throwThe, MonadExceptOf.throw]
    | some found =>
      cases found <;> simp [bind, Except.bind, hentry, throw, throwThe, MonadExceptOf.throw]

theorem KeepsFolders.follow (h : KeepsFolders s s') {here : Place} {steps : List String}
    (hfollow : s.follow here steps = .ok place) : s'.follow here steps = .ok place := by
  induction steps generalizing here with
  | nil => exact hfollow
  | cons name more ih =>
    cases more with
    | nil => exact hfollow
    | cons second rest =>
      have hmore : second :: rest ≠ [] := List.cons_ne_nil second rest
      obtain ⟨next, hstep, hfolder, hrest⟩ := (follow_cons_eq_ok_iff hmore).mp hfollow
      exact (follow_cons_eq_ok_iff hmore).mpr ⟨next, hstep, h.folder next hfolder, ih hrest⟩

/-- The place from which a path is followed. -/
def start (s : Store) (p : Path) : Place :=
  if p.isAbsolute then [] else s.workingPlace

/-- A path leads to a place through folders. -/
structure LeadsTo (s : Store) (p : Path) (place : Place) : Prop where
  noZero : p.contains '\x00' = false
  ne_empty : p ≠ ""
  short : p.utf8ByteSize ≤ maxPathLength
  follows : s.follow (s.start p) p.steps = .ok place

/-- The end of a path allows for what is there. -/
def Suits (p : Path) : Option Entry → Prop
  | some (.file ..) => p.wantsFolder = false
  | none => p.endsInPlace = false
  | some .folder => True

theorem ite_error_eq_ok_iff {α : Type} {c : Prop} [Decidable c] {fault : Fault}
    {rest : Except Fault α} {a : α} :
    (if c then .error fault else rest) = Except.ok a ↔ ¬ c ∧ rest = .ok a := by
  by_cases h : c
  · simp [h]
  · simp [h]

theorem locate_eq_ok_iff :
    s.locate p = .ok (place, found) ↔
      s.LeadsTo p place ∧ s.entry? place = found ∧ Suits p found := by
  unfold locate
  simp only [bind, Except.bind, pure, Except.pure, throw, throwThe, MonadExceptOf.throw,
    ite_error_eq_ok_iff]
  constructor
  · rintro ⟨hzero, hempty, hshort, h⟩
    split at h
    case h_1 => exact absurd h (by simp)
    case h_2 there hfollow =>
    have hleads : s.LeadsTo p there :=
      ⟨by simpa using hzero, hempty, Nat.not_lt.mp hshort, hfollow⟩
    split at h
    case h_1 hentry =>
      obtain ⟨hfolder, h⟩ := ite_error_eq_ok_iff.mp h
      cases h
      exact ⟨hleads, hentry, Bool.eq_false_iff.mpr hfolder⟩
    case h_2 hentry =>
      obtain ⟨hends, h⟩ := ite_error_eq_ok_iff.mp h
      cases h
      exact ⟨hleads, hentry, Bool.eq_false_iff.mpr hends⟩
    case h_3 hfile hnone =>
      cases h
      refine ⟨hleads, rfl, ?_⟩
      cases hentry : s.entry? place with
      | none => exact absurd hentry hnone
      | some e =>
        cases e with
        | folder => trivial
        | file content changed => exact absurd hentry (hfile content changed)
  · rintro ⟨⟨hzero, hempty, hshort, hfollow⟩, rfl, hsuits⟩
    have hfollow' : s.follow (if p.isAbsolute = true then [] else s.workingPlace) p.steps =
        .ok place := hfollow
    refine ⟨by simp [hzero], hempty, Nat.not_lt.mpr hshort, ?_⟩
    rw [hfollow']
    cases hentry : s.entry? place with
    | none =>
      rw [hentry] at hsuits
      simp only [Suits] at hsuits
      simp [hentry, hsuits]
    | some e =>
      rw [hentry] at hsuits
      cases e with
      | folder => simp [hentry]
      | file content changed =>
        simp only [Suits] at hsuits
        simp [hentry, hsuits]

theorem LeadsTo.kept (h : s.LeadsTo p place) (hfolders : KeepsFolders s s') :
    s'.LeadsTo p place where
  noZero := h.noZero
  ne_empty := h.ne_empty
  short := h.short
  follows := by
    have hstart : s'.start p = s.start p := by rw [start, start, hfolders.workingPlace]
    rw [hstart]
    exact hfolders.follow h.follows

theorem at?_eq_some_iff :
    s.at? p = some e ↔ ∃ place, s.LeadsTo p place ∧ s.entry? place = some e ∧ Suits p (some e) := by
  constructor
  · intro h
    unfold at? at h
    split at h
    case h_1 place found hlocate =>
      subst h
      exact ⟨place, locate_eq_ok_iff.mp hlocate⟩
    case h_2 => exact absurd h (by simp)
  · rintro ⟨place, h⟩
    rw [at?, locate_eq_ok_iff.mpr h]

theorem folderAt_eq_ok_iff :
    s.folderAt p = .ok place ↔ s.LeadsTo p place ∧ s.entry? place = some .folder := by
  have hlocate : s.folderAt p = .ok place ↔ s.locate p = .ok (place, some .folder) := by
    unfold folderAt
    cases s.locate p with
    | error fault => simp [bind, Except.bind]
    | ok there =>
      obtain ⟨top, _ | ⟨content, changed⟩ | _⟩ := there <;>
        simp [bind, Except.bind, pure, Except.pure, throw, throwThe, MonadExceptOf.throw]
  rw [hlocate, locate_eq_ok_iff]
  simp [Suits]

theorem at?_of_leadsTo_none (h : s.LeadsTo p place) (hentry : s.entry? place = none) :
    s.at? p = none := by
  unfold at?
  split
  case h_1 there found hlocate =>
    obtain ⟨hleads, hfound, -⟩ := locate_eq_ok_iff.mp hlocate
    have hthere : Except.ok (ε := Fault) there = .ok place := hleads.follows.symm.trans h.follows
    cases hthere
    rw [← hfound, hentry]
  case h_2 => rfl

/-! ### Plain files -/

/-- The bytes of the plain file that a path leads to. -/
def content? (s : Store) (p : Path) : Option (List UInt8) :=
  match s.at? p with
  | some (.file content _) => some content
  | _ => none

theorem content?_eq_some_iff {content : List UInt8} :
    s.content? p = some content ↔ ∃ changed, s.at? p = some (.file content changed) := by
  unfold content?
  split
  case h_1 bytes changed h => simp [h]
  case h_2 h =>
    constructor
    · intro hnone
      exact absurd hnone (by simp)
    · rintro ⟨changed, hfile⟩
      exact absurd hfile (h content changed)

/-- The text of a file is that of its bytes. -/
theorem readText_eq_ok_iff {text : List Char} :
    s.readText p = .ok text ↔ ∃ content, s.content? p = some content ∧
      Text.Utf8.text? content = some text := by
  simp only [content?, at?, readText, bind, Except.bind, pure, Except.pure, throw, throwThe,
    MonadExceptOf.throw]
  cases s.locate p with
  | error fault => simp
  | ok there =>
    obtain ⟨place, found⟩ := there
    cases found with
    | none => simp
    | some e =>
      cases e with
      | folder => simp
      | file content changed =>
        cases htext : Text.Utf8.text? content <;> simp [htext]

theorem content?_of_locate_error {fault : Fault} (h : s.locate p = .error fault) :
    s.content? p = none := by
  rw [content?, at?, h]

theorem content?_of_not_file (h : s.locate p = .ok (place, found))
    (hfound : ∀ content changed, found ≠ some (.file content changed)) : s.content? p = none := by
  rw [content?, at?, h]
  cases found with
  | none => rfl
  | some e =>
    cases e with
    | folder => rfl
    | file content changed => exact absurd rfl (hfound content changed)

/-! ### Operations -/

/-- A file is written where a path leads to a file or to nothing. Where it cannot be written, there
is no file. -/
theorem write_cases (s : Store) (p : Path) (content : List UInt8) (now : Int) :
    (∃ place, s.LeadsTo p place ∧ s.entry? place ≠ some .folder ∧ p.wantsFolder = false ∧
      s.write p content now = .ok (s.put place (.file content now))) ∨
    s.content? p = none ∧ ∃ fault, s.write p content now = .error fault := by
  simp only [write, bind, Except.bind, pure, Except.pure, throw, throwThe, MonadExceptOf.throw]
  cases hlocate : s.locate p with
  | error fault => exact .inr ⟨content?_of_locate_error hlocate, fault, rfl⟩
  | ok there =>
    obtain ⟨place, found⟩ := there
    obtain ⟨hleads, hentry, hsuits⟩ := locate_eq_ok_iff.mp hlocate
    cases found with
    | none =>
      cases hwants : p.wantsFolder with
      | true => exact .inr ⟨content?_of_not_file hlocate (by simp), .isAFolder, rfl⟩
      | false => exact .inl ⟨place, hleads, by simp [hentry], rfl, rfl⟩
    | some e =>
      cases e with
      | folder => exact .inr ⟨content?_of_not_file hlocate (by simp), .isAFolder, rfl⟩
      | file old changed =>
        have hwants : p.wantsFolder = false := hsuits
        exact .inl ⟨place, hleads, by simp [hentry], hwants, by simp [hwants]⟩

/-- A plain file can be removed. Where there is none, nothing is. -/
theorem remove_cases (s : Store) (p : Path) :
    (∃ place content changed, s.LeadsTo p place ∧ s.entry? place = some (.file content changed) ∧
      s.remove p = .ok (s.delete place)) ∨
    s.content? p = none ∧ ∃ fault, s.remove p = .error fault := by
  simp only [remove, bind, Except.bind, pure, Except.pure, throw, throwThe, MonadExceptOf.throw]
  cases hlocate : s.locate p with
  | error fault => exact .inr ⟨content?_of_locate_error hlocate, fault, rfl⟩
  | ok there =>
    obtain ⟨place, found⟩ := there
    obtain ⟨hleads, hentry, -⟩ := locate_eq_ok_iff.mp hlocate
    cases found with
    | none => exact .inr ⟨content?_of_not_file hlocate (by simp), .notFound, rfl⟩
    | some e =>
      cases e with
      | folder => exact .inr ⟨content?_of_not_file hlocate (by simp), .isAFolder, rfl⟩
      | file content changed => exact .inl ⟨place, content, changed, hleads, hentry, rfl⟩

/-- A folder is created where there is nothing. -/
theorem createFolder_cases (s : Store) (p : Path) :
    (∃ place, s.entry? place = none ∧ s.createFolder p = .ok (s.put place .folder)) ∨
    ∃ fault, s.createFolder p = .error fault := by
  simp only [createFolder, bind, Except.bind, pure, Except.pure, throw, throwThe,
    MonadExceptOf.throw]
  cases hlocate : s.locate p.withoutSlashes with
  | error fault => exact .inr ⟨fault, rfl⟩
  | ok there =>
    obtain ⟨place, found⟩ := there
    obtain ⟨-, hentry, -⟩ := locate_eq_ok_iff.mp hlocate
    cases found with
    | none => exact .inl ⟨place, hentry, rfl⟩
    | some e => exact .inr ⟨.alreadyExists, rfl⟩

/-- A file that was written holds what was written. -/
theorem content?_of_write {content : List UInt8} {now : Int} (h : s.write p content now = .ok s') :
    s'.content? p = some content := by
  rcases s.write_cases p content now with ⟨place, hleads, hentry, hwants, hok⟩ | ⟨-, fault, herror⟩
  · rw [hok] at h
    cases h
    refine content?_eq_some_iff.mpr ⟨now, at?_eq_some_iff.mpr ⟨place, ?_, ?_, hwants⟩⟩
    · exact hleads.kept (keepsFolders_put hentry _)
    · exact s.entry?_put_self (ne_nil_of_entry?_ne hentry) _
  · rw [herror] at h
    exact absurd h (by simp)

/-- After a file was removed its path leads to nothing. -/
theorem at?_of_remove (h : s.remove p = .ok s') : s'.at? p = none := by
  rcases s.remove_cases p with ⟨place, content, changed, hleads, hentry, hok⟩ | ⟨-, fault, herror⟩
  · rw [hok] at h
    cases h
    have hne : s.entry? place ≠ some .folder := by simp [hentry]
    exact at?_of_leadsTo_none (hleads.kept (keepsFolders_delete hne))
      (s.entry?_delete_self (ne_nil_of_entry?_ne hne))
  · rw [herror] at h
    exact absurd h (by simp)

/-! ### New folders -/

/-- Folders have been created where there was nothing, and nothing else has changed. -/
structure Grows (s s' : Store) : Prop where
  workingPlace : s'.workingPlace = s.workingPlace
  entry (place : Place) : s'.entry? place = s.entry? place ∨
    s.entry? place = none ∧ s'.entry? place = some .folder

theorem Grows.refl (s : Store) : Grows s s :=
  ⟨rfl, fun _ => .inl rfl⟩

theorem Grows.trans {s'' : Store} (h : Grows s s') (h' : Grows s' s'') : Grows s s'' where
  workingPlace := h'.workingPlace.trans h.workingPlace
  entry place := by
    rcases h'.entry place with hsame | ⟨hnone, hfolder⟩
    · rw [hsame]
      exact h.entry place
    · rcases h.entry place with hsame | ⟨-, hfolder'⟩
      · exact .inr ⟨hsame ▸ hnone, hfolder⟩
      · rw [hfolder'] at hnone
        exact absurd hnone (by simp)

/-- What is there stays. -/
theorem Grows.entry?_eq_some (h : Grows s s') (hentry : s.entry? place = some e) :
    s'.entry? place = some e := by
  rcases h.entry place with hsame | ⟨hnone, -⟩
  · rw [hsame, hentry]
  · rw [hentry] at hnone
    exact absurd hnone (by simp)

/-- A file that a path leads to is still there after folders were created. -/
theorem Grows.content?_eq_some (h : Grows s s') {content : List UInt8}
    (hcontent : s.content? p = some content) : s'.content? p = some content := by
  obtain ⟨changed, hat⟩ := content?_eq_some_iff.mp hcontent
  obtain ⟨place, hleads, hentry, hsuits⟩ := at?_eq_some_iff.mp hat
  have hfolders : KeepsFolders s s' := ⟨h.workingPlace, fun _ => h.entry?_eq_some⟩
  exact content?_eq_some_iff.mpr ⟨changed, at?_eq_some_iff.mpr
    ⟨place, hleads.kept hfolders, h.entry?_eq_some hentry, hsuits⟩⟩

theorem grows_createFolder (h : s.createFolder p = .ok s') : Grows s s' := by
  rcases s.createFolder_cases p with ⟨place, hentry, hok⟩ | ⟨fault, herror⟩
  · rw [hok] at h
    cases h
    refine ⟨rfl, fun other => ?_⟩
    by_cases hother : other = place
    · subst hother
      exact .inr ⟨hentry, s.entry?_put_self (ne_nil_of_entry?_ne (s := s) (by simp [hentry])) _⟩
    · exact .inl (s.entry?_put_of_ne hother _)
  · rw [herror] at h
    exact absurd h (by simp)

end BranchChat.Files.Store
