import BranchChat.Proofs.LogFolder.Retention

/-!
# What is left after logging has started

When logging starts, folders are created, stale files are taken out of the folder of logs, and the
log of the day is begun where there is none. So an entry that was there before is still there unless
it is a stale file of this folder. A file is stale by its name and its age, and the name need not be
that of a daily log: it is enough that it starts like one. Where the retention in seconds does not
fit its word, nothing is removed, and the program ends.

## Main definitions

- `LiesAt`: the place of the folder of logs

## Main statements

- `entry?_openToday`: opening a log touches nothing else
- `prepare_cases`: what starting to log can come to
- `overflow_prepare_iff`: when it overflows
- `entry?_prepare_ne_iff`: what is removed
- `prepare_spares_iff`: only daily logs are removed where no other stale file starts like one
-/

namespace BranchChat.LogFolder

open BranchChat.Files (Fault Path Place Store Entry)

variable {s : Store} {folder : Path} {retention : Option UInt64} {now : Int} {place top : Place}
  {e : Entry}

/-- The folder of logs can be created, and this is its place. -/
def LiesAt (s : Store) (folder : Path) (top : Place) : Prop :=
  (s.createFolders folder).2 = .ok () ∧ (s.createFolders folder).1.folderAt folder = .ok top

/-! ### The log of the day -/

/-- A log is begun only where nothing was, and opening one that is there changes nothing. -/
theorem entry?_openToday {s' : Store} (h : openToday s folder now = .ok s') (place : Place) :
    s'.entry? place = s.entry? place ∨
      s.entry? place = none ∧ s'.entry? place = some (.file [] now) := by
  unfold openToday at h
  dsimp only at h
  split at h
  case h_1 =>
    cases h
    exact .inl rfl
  case h_2 habsent =>
  rcases s.write_cases (folder.join (dailyName now)) [] now with
    ⟨there, hleads, hfolder, hwants, hok⟩ | ⟨-, fault, herror⟩
  · rw [hok] at h
    cases h
    by_cases hplace : place = there
    · subst hplace
      refine .inr ⟨?_, s.entry?_put_self (Store.ne_nil_of_entry?_ne hfolder) _⟩
      -- A file that the path leads to would have been opened as it is.
      cases hentry : s.entry? place with
      | none => rfl
      | some found =>
        cases found with
        | folder => exact absurd hentry hfolder
        | file content changed =>
          exact absurd (Store.at?_eq_some_iff.mpr ⟨place, hleads, hentry, hwants⟩)
            (habsent content changed)
    · exact .inl (s.entry?_put_of_ne hplace _)
  · rw [herror] at h
    cases h

/-! ### What is removed -/

/-- The folder cannot be created, or sweeping it overflows, or the log of the day cannot be opened,
or all is ready. -/
theorem prepare_cases (s : Store) (folder : Path) (retention : Option UInt64) (now : Int) :
    let created := s.createFolders folder
    let swept := sweep created.1 folder (retention.getD defaultRetention) now
    (∃ fault, created.2 = .error fault ∧
      prepare s folder retention now = (created.1, .error (.files fault))) ∨
    created.2 = .ok () ∧
      ((swept.2 = .error .overflow ∧ prepare s folder retention now = (swept.1, .error .overflow)) ∨
        swept.2 ≠ .error .overflow ∧
          ((∃ fault, openToday swept.1 folder now = .error fault ∧
              prepare s folder retention now = (swept.1, .error (.unopened fault))) ∨
            ∃ s', openToday swept.1 folder now = .ok s' ∧
              prepare s folder retention now = (s', .ok ()))) := by
  intro created swept
  unfold prepare
  split
  case h_1 s₁ fault hcreate =>
    have hcreated : created = (s₁, .error fault) := hcreate
    refine .inl ⟨fault, ?_, ?_⟩ <;> rw [hcreated]
  case h_2 s₁ hcreate =>
    have hcreated : created = (s₁, .ok ()) := hcreate
    have hsweep : swept = sweep s₁ folder (retention.getD defaultRetention) now := by
      show sweep created.1 folder _ now = _
      rw [hcreated]
    rw [hcreated, hsweep]
    refine .inr ⟨rfl, ?_⟩
    split
    case h_1 s₂ hover =>
      rw [hover]
      exact .inl ⟨rfl, rfl⟩
    case h_2 s₂ ended hends hswept =>
      rw [hswept]
      refine .inr ⟨hends, ?_⟩
      cases openToday s₂ folder now with
      | error fault => exact .inl ⟨fault, rfl, rfl⟩
      | ok s' => exact .inr ⟨s', rfl, rfl⟩

/-- Starting to log overflows exactly if there is a folder for it, or one is created, but no word
holds the retention in seconds. -/
theorem overflow_prepare_iff :
    (prepare s folder retention now).2 = .error .overflow ↔
      (s.createFolders folder).2 = .ok () ∧
        UInt64.size ≤ 86400 * (retention.getD defaultRetention).toNat := by
  rcases prepare_cases s folder retention now with ⟨fault, hcreate, hprepare⟩ |
    ⟨hcreate, ⟨hover, hprepare⟩ |
      ⟨hends, ⟨fault, -, hprepare⟩ | ⟨s', -, hprepare⟩⟩⟩
  · simp [hprepare, hcreate]
  · simpa [hprepare, hcreate] using overflow_sweep_iff.mp hover
  · simpa [hprepare, hcreate] using mt overflow_sweep_iff.mpr hends
  · simpa [hprepare, hcreate] using mt overflow_sweep_iff.mpr hends

/-- What is removed is older than a log that is begun now. -/
theorem IsSwept.ne_today {retention : UInt64} (h : IsSwept s folder retention now place e) :
    e ≠ .file [] now := by
  obtain ⟨-, top, name, content, changed, -, -, rfl, -, hdue⟩ := h
  intro heq
  cases heq
  unfold IsOverdue dayLength at hdue
  omega

/-- What sweeping the created folder removes, by the place of the folder of logs. -/
theorem isSwept_created_iff {days : UInt64} :
    (s.createFolders folder).2 = .ok () ∧
        IsSwept (s.createFolders folder).1 folder days now place e ↔
      86400 * days.toNat < UInt64.size ∧ ∃ top name content changed, LiesAt s folder top ∧
        place = top ++ [name] ∧ e = .file content changed ∧ stem.toList <+: name.toList ∧
        IsOverdue days now changed := by
  constructor
  · rintro ⟨hcreate, hfits, top, name, content, changed, hfolder, hrest⟩
    exact ⟨hfits, top, name, content, changed, ⟨hcreate, hfolder⟩, hrest⟩
  · rintro ⟨hfits, top, name, content, changed, ⟨hcreate, hfolder⟩, hrest⟩
    exact ⟨hcreate, hfits, top, name, content, changed, hfolder, hrest⟩

/-- An entry is removed exactly if it is an overdue file directly in the folder of logs that is
named like a log, and the retention in seconds fits its word. -/
theorem entry?_prepare_ne_iff (hs : s.Distinct) (he : s.entry? place = some e) :
    Store.entry? (prepare s folder retention now).1 place ≠ some e ↔
      86400 * (retention.getD defaultRetention).toNat < UInt64.size ∧
        ∃ top name content changed, LiesAt s folder top ∧ place = top ++ [name] ∧
          e = .file content changed ∧ stem.toList <+: name.toList ∧
          IsOverdue (retention.getD defaultRetention) now changed := by
  rw [← isSwept_created_iff]
  have hgrown := Store.Grows.entry?_eq_some (s.grows_createFolders folder) he
  have hdistinct := hs.createFolders folder
  -- An overflow and a log that cannot be opened leave what the sweep has left.
  have hunopened : Store.entry? (sweep (s.createFolders folder).1 folder
      (retention.getD defaultRetention) now).1 place ≠ some e ↔ IsSwept (s.createFolders folder).1
        folder (retention.getD defaultRetention) now place e := by
    rw [ne_eq, entry?_sweep_eq_some_iff hdistinct hgrown, not_not]
  rcases prepare_cases s folder retention now with ⟨fault, hcreate, hprepare⟩ |
    ⟨hcreate, ⟨-, hprepare⟩ | ⟨-, ⟨fault, -, hprepare⟩ | ⟨s', hopen, hprepare⟩⟩⟩
  · rw [hprepare, hcreate]
    simpa using hgrown
  · rw [hprepare, hcreate, hunopened, eq_self, true_and]
  · rw [hprepare, hcreate, hunopened, eq_self, true_and]
  · rw [hprepare, hcreate, ← hunopened, eq_self, true_and]
    rcases entry?_sweep hdistinct hgrown folder (retention.getD defaultRetention) now with
      ⟨hswept, hgone⟩ | ⟨-, hleft⟩
    · rcases entry?_openToday hopen place with hsame | ⟨-, hbegun⟩
      · rw [hsame]
      · rw [hbegun, hgone]
        simpa using hswept.ne_today.symm
    · rcases entry?_openToday hopen place with hsame | ⟨hnone, -⟩
      · rw [hsame]
      · rw [hleft] at hnone
        cases hnone

/-! ### Whose files are removed -/

/-- Starting to log removes the files directly in the folder of logs that have a name starting with
the stem and are overdue, and nothing else; it removes nothing where the retention in seconds does
not fit its word. So only daily logs are removed exactly where the retention does not fit or no
other file of the folder starts like one and is overdue. -/
theorem prepare_spares_iff (hs : s.Distinct) (folder : Path) (retention : Option UInt64)
    (now : Int) :
    let after := (prepare s folder retention now).1
    let days := retention.getD defaultRetention
    (∀ place e, s.entry? place = some e →
      (after.entry? place ≠ some e ↔ 86400 * days.toNat < UInt64.size ∧
        ∃ top name content changed, LiesAt s folder top ∧ place = top ++ [name] ∧
          e = .file content changed ∧ stem.toList <+: name.toList ∧
          IsOverdue days now changed)) ∧
    ((∀ place e, s.entry? place = some e → after.entry? place ≠ some e →
        (∃ content changed, e = .file content changed) ∧
          ∃ top name, LiesAt s folder top ∧ place = top ++ [name] ∧ IsDaily name) ↔
      (86400 * days.toNat < UInt64.size → ∀ top, LiesAt s folder top →
        ∀ name content changed, s.entry? (top ++ [name]) = some (.file content changed) →
          stem.toList <+: name.toList → IsOverdue days now changed → IsDaily name)) := by
  intro after days
  refine ⟨fun place e he => entry?_prepare_ne_iff hs he,
    fun hdaily hfits top hlies name content changed he hname hdue => ?_,
    fun hdaily place e he hne => ?_⟩
  · have hne := (entry?_prepare_ne_iff hs he).mpr
      ⟨hfits, top, name, content, changed, hlies, rfl, rfl, hname, hdue⟩
    obtain ⟨-, top', name', -, hplace, hname'⟩ := hdaily _ _ he hne
    obtain ⟨-, hlast⟩ := List.append_inj' hplace rfl
    cases hlast
    exact hname'
  · obtain ⟨hfits, top, name, content, changed, hlies, rfl, rfl, hname, hdue⟩ :=
      (entry?_prepare_ne_iff hs he).mp hne
    exact ⟨⟨content, changed, rfl⟩, top, name, hlies, rfl,
      hdaily hfits top hlies name content changed he hname hdue⟩

/-- A working folder with a file of settings, a daily log and some notes, all of them from 1970. -/
def workshop : Store :=
  ⟨["work"], [(["work"], .folder), (["work", "canopy.toml"], .file [] 0),
    (["work", "canopy.2023-10-01"], .file [] 0), (["work", "notes.txt"], .file [] 0)]⟩

theorem distinct_workshop : workshop.Distinct := by
  decide

theorem isDaily_workshop : IsDaily "canopy.2023-10-01" :=
  ⟨⟨2023, 10, 1, by decide⟩, by decide, by decide⟩

theorem not_isDaily_settings : ¬ IsDaily "canopy.toml" := fun h =>
  absurd h.hyphen_mem (by decide)

theorem isOverdue_workshop : IsOverdue defaultRetention 1700000000000 0 := by
  unfold IsOverdue
  decide

/-- The working folder is a folder of logs by its own path. -/
theorem liesAt_workshop : LiesAt workshop "." ["work"] := by
  have hcreate : workshop.createFolders "." = (workshop, .ok ()) := by
    rw [Store.createFolders, if_pos (by decide)]
  have hleads : workshop.LeadsTo "." ["work"] := by
    refine ⟨by simp, by decide, by decide, ?_⟩
    have hstart : workshop.start "." = ["work"] := by
      rw [Store.start, if_neg (by decide +kernel)]
      rfl
    have hsteps : Files.Path.steps "." = [] := by decide
    rw [hstart, hsteps]
    rfl
  rw [LiesAt, hcreate]
  exact ⟨rfl, Store.folderAt_eq_ok_iff.mpr ⟨hleads, rfl⟩⟩

/-- In the working folder the daily log and the settings are removed, and the notes are kept. -/
theorem prepare_spares_workshop :
    let after := (prepare workshop "." none 1700000000000).1
    workshop.Distinct ∧ IsDaily "canopy.2023-10-01" ∧
      after.entry? ["work", "canopy.2023-10-01"] ≠ some (.file [] 0) ∧
      after.entry? ["work", "canopy.toml"] ≠ some (.file [] 0) ∧
      after.entry? ["work", "notes.txt"] = some (.file [] 0) := by
  intro after
  obtain ⟨hremoved, -⟩ := prepare_spares_iff distinct_workshop "." none 1700000000000
  have hgone (name : String) (he : workshop.entry? (["work"] ++ [name]) = some (.file [] 0))
      (hname : stem.toList <+: name.toList) :
      after.entry? (["work"] ++ [name]) ≠ some (.file [] 0) :=
    (hremoved _ _ he).mpr
      ⟨by decide, ["work"], name, [], 0, liesAt_workshop, rfl, rfl, hname, isOverdue_workshop⟩
  refine ⟨distinct_workshop, isDaily_workshop, hgone _ rfl (by decide), hgone _ rfl (by decide), ?_⟩
  by_contra hne
  obtain ⟨-, top, name, content, changed, -, hplace, -, hname, -⟩ :=
    (hremoved ["work", "notes.txt"] _ rfl).mp hne
  -- No name that starts like a log is that of the notes.
  have hparts : ["work"] ++ ["notes.txt"] = top ++ [name] := hplace
  obtain ⟨-, hlast⟩ := List.append_inj' hparts rfl
  cases hlast
  exact absurd hname (by decide)

/-- A file of settings that is kept in the folder of logs is removed once it is old enough, though
its name is not that of a daily log. -/
theorem prepare_removes_settings :
    workshop.Distinct ∧ ¬ IsDaily "canopy.toml" ∧
      workshop.entry? ["work", "canopy.toml"] = some (.file [] 0) ∧
      Store.entry? (prepare workshop "." none 1700000000000).1 ["work", "canopy.toml"] ≠
        some (.file [] 0) := by
  refine ⟨distinct_workshop, not_isDaily_settings, rfl, ?_⟩
  refine (entry?_prepare_ne_iff distinct_workshop rfl).mpr ⟨by decide, ?_⟩
  exact ⟨["work"], "canopy.toml", [], 0, liesAt_workshop, rfl, rfl, by decide, isOverdue_workshop⟩

end BranchChat.LogFolder
