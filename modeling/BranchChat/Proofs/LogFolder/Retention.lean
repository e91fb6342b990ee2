import BranchChat.Proofs.Files.Listings
import BranchChat.Proofs.LogFolder.DailyNames
import Mathlib.Data.UInt

/-!
# When logs are removed

Old files are taken out of the folder of logs one after the other, and nothing else is touched. The
greatest age is a number of seconds in a 64-bit word. Up to about 213 trillion days the word holds
the whole retention, and a file is removed exactly if it is overdue. Beyond that the product
overflows before the folder is read: nothing is removed, and the program ends.

## Main definitions

- `IsOverdue`: a file is older than a number of days
- `IsSwept`: an entry is removed
- `IsPunctual`: a sweep removes nothing early, and every daily log in time

## Main statements

- `maxAge?_eq_some_iff`, `maxAge?_eq_none_iff`: where there is a greatest age
- `sweep_cases`: what a sweep can come to
- `entry?_sweep_eq_some_iff`: what is left
- `sweep_punctual_iff`: a sweep is punctual exactly where the word holds the retention
-/

namespace BranchChat.LogFolder

open BranchChat.Files (Path Place Store Entry)

variable {s : Store} {folder : Path} {place top : Place} {retention limit : UInt64} {now : Int}
  {name : String} {e : Entry}

/-- A file that was changed last at a time is older than a number of days. -/
def IsOverdue (retention : UInt64) (now changed : Int) : Prop :=
  retention.toNat * dayLength < now - changed

/-! ### The greatest age -/

/-- Where there is a greatest age, it is the whole retention in seconds. -/
theorem maxAge?_eq_some_iff :
    maxAge? retention = some limit ↔ limit.toNat = 86400 * retention.toNat := by
  unfold maxAge?
  dsimp only
  split
  case isTrue hfits =>
    have hlimit : (UInt64.ofNat (60 * 60 * 24 * retention.toNat)).toNat = 86400 * retention.toNat :=
      UInt64.toNat_ofNat_of_lt' hfits
    rw [Option.some_inj, ← UInt64.toNat_inj, hlimit]
    exact eq_comm
  case isFalse hwide =>
    have hlimit := limit.toNat_lt_size
    constructor
    · intro hnone
      cases hnone
    · intro heq
      omega

theorem maxAge?_eq_none_iff :
    maxAge? retention = none ↔ UInt64.size ≤ 86400 * retention.toNat := by
  unfold maxAge?
  dsimp only
  split <;> simp <;> omega

/-- 213503982334601 days is the longest retention with a greatest age. -/
example : (maxAge? 213503982334601).isSome ∧ maxAge? 213503982334602 = none := by
  decide

theorem isStale_iff :
    isStale limit now name e = true ↔
      ∃ content changed, e = .file content changed ∧ stem.toList <+: name.toList ∧
        (limit.toNat * 1000 : Int) < now - changed := by
  cases e with
  | folder => simp [isStale]
  | file content changed => simp [isStale, String.startsWith_string_iff]

/-- With the greatest age for a limit, what is stale is overdue. -/
theorem isStale_iff_isOverdue (hlimit : limit.toNat = 86400 * retention.toNat) :
    isStale limit now name e = true ↔
      ∃ content changed, e = .file content changed ∧ stem.toList <+: name.toList ∧
        IsOverdue retention now changed := by
  have hage (changed : Int) :
      (limit.toNat * 1000 : Int) < now - changed ↔ IsOverdue retention now changed := by
    unfold IsOverdue dayLength
    omega
  simp only [isStale_iff, hage]

/-! ### What is left -/

/-- The places of the stale entries of a folder. -/
def stalePlaces (s : Store) (top : Place) (limit : UInt64) (now : Int) : List Place :=
  ((s.inFolder top).filter fun listed => isStale limit now listed.1 listed.2).map
    fun listed => top ++ [listed.1]

theorem clear_eq (s : Store) (top : Place) (limit : UInt64) (now : Int) :
    clear s top limit now = (stalePlaces s top limit now).foldl Store.delete s := by
  rw [stalePlaces, List.foldl_map, List.foldl_filter]
  rfl

theorem mem_stalePlaces_iff (hs : s.Distinct) (he : s.entry? place = some e) :
    place ∈ stalePlaces s top limit now ↔
      ∃ name, place = top ++ [name] ∧ isStale limit now name e = true := by
  simp only [stalePlaces, List.mem_map, List.mem_filter]
  constructor
  · rintro ⟨⟨name, found⟩, ⟨hlisted, hstale⟩, rfl⟩
    -- What the folder lists under this name is what is found at the place.
    rw [hs.mem_inFolder_iff, he] at hlisted
    cases hlisted
    exact ⟨name, rfl, hstale⟩
  · rintro ⟨name, rfl, hstale⟩
    exact ⟨(name, e), ⟨hs.mem_inFolder_iff.mpr he, hstale⟩, rfl⟩

theorem entry?_clear (s : Store) (top : Place) (limit : UInt64) (now : Int) (place : Place) :
    Store.entry? (clear s top limit now) place =
      if place ∈ stalePlaces s top limit now then none else s.entry? place := by
  rw [clear_eq]
  refine s.entry?_foldl_delete (fun p hp => ?_) place
  obtain ⟨listed, -, rfl⟩ := List.mem_map.mp hp
  simp

theorem sweep_of_le (h : UInt64.size ≤ 86400 * retention.toNat) :
    sweep s folder retention now = (s, .error .overflow) := by
  rw [sweep, maxAge?_eq_none_iff.mpr h]

/-- A sweep overflows, or it cannot read the folder, and in both cases leaves everything alone. Or
it clears the folder with the whole retention for a limit. -/
theorem sweep_cases (s : Store) (folder : Path) (retention : UInt64) (now : Int) :
    (UInt64.size ≤ 86400 * retention.toNat ∧
      sweep s folder retention now = (s, .error .overflow)) ∨
    (86400 * retention.toNat < UInt64.size ∧ ∃ fault, s.folderAt folder = .error fault ∧
      sweep s folder retention now = (s, .error (.files fault))) ∨
    ∃ limit top, limit.toNat = 86400 * retention.toNat ∧ s.folderAt folder = .ok top ∧
      sweep s folder retention now = (clear s top limit now, .ok ()) := by
  unfold sweep
  cases hage : maxAge? retention with
  | none => exact .inl ⟨maxAge?_eq_none_iff.mp hage, rfl⟩
  | some limit =>
    have hlimit := maxAge?_eq_some_iff.mp hage
    cases hfolder : s.folderAt folder with
    | error fault => exact .inr (.inl ⟨hlimit ▸ limit.toNat_lt_size, fault, rfl, rfl⟩)
    | ok top => exact .inr (.inr ⟨limit, top, hlimit, rfl, rfl⟩)

/-- A sweep overflows exactly where no word holds the retention in seconds. -/
theorem overflow_sweep_iff :
    (sweep s folder retention now).2 = .error .overflow ↔
      UInt64.size ≤ 86400 * retention.toNat := by
  rcases sweep_cases s folder retention now with
    ⟨hwide, hsweep⟩ | ⟨hfits, fault, -, hsweep⟩ | ⟨limit, top, hlimit, -, hsweep⟩
  · simp [hsweep, hwide]
  · simp [hsweep, hfits]
  · simp [hsweep, ← hlimit, limit.toNat_lt_size]

/-- The entry at a place is removed: the product does not overflow, and the entry is a file directly
in the folder that is named like a log and overdue. -/
def IsSwept (s : Store) (folder : Path) (retention : UInt64) (now : Int) (place : Place)
    (e : Entry) : Prop :=
  86400 * retention.toNat < UInt64.size ∧
    ∃ top name content changed, s.folderAt folder = .ok top ∧ place = top ++ [name] ∧
      e = .file content changed ∧ stem.toList <+: name.toList ∧ IsOverdue retention now changed

/-- What is removed is what is stale in the folder that is cleared. -/
theorem isSwept_iff (hs : s.Distinct) (he : s.entry? place = some e)
    (hlimit : limit.toNat = 86400 * retention.toNat) (hfolder : s.folderAt folder = .ok top) :
    IsSwept s folder retention now place e ↔ place ∈ stalePlaces s top limit now := by
  simp only [mem_stalePlaces_iff hs he, isStale_iff_isOverdue hlimit]
  constructor
  · rintro ⟨-, top', name, content, changed, hfolder', hplace, hfile, hname, hdue⟩
    rw [hfolder] at hfolder'
    cases hfolder'
    exact ⟨name, hplace, content, changed, hfile, hname, hdue⟩
  · rintro ⟨name, hplace, content, changed, hfile, hname, hdue⟩
    exact ⟨hlimit ▸ limit.toNat_lt_size, top, name, content, changed, hfolder, hplace, hfile, hname,
      hdue⟩

/-- A sweep takes an entry away, or it leaves it as it was. -/
theorem entry?_sweep (hs : s.Distinct) (he : s.entry? place = some e) (folder : Path)
    (retention : UInt64) (now : Int) :
    IsSwept s folder retention now place e ∧
        Store.entry? (sweep s folder retention now).1 place = none ∨
      ¬ IsSwept s folder retention now place e ∧
        Store.entry? (sweep s folder retention now).1 place = some e := by
  rcases sweep_cases s folder retention now with
    ⟨hwide, hsweep⟩ | ⟨-, fault, herror, hsweep⟩ | ⟨limit, top, hlimit, hfolder, hsweep⟩
  · rw [hsweep]
    exact .inr ⟨fun hswept => absurd hswept.1 (Nat.not_lt.mpr hwide), he⟩
  · rw [hsweep]
    refine .inr ⟨?_, he⟩
    rintro ⟨-, top, name, content, changed, hfolder, -⟩
    rw [herror] at hfolder
    cases hfolder
  · rw [hsweep, isSwept_iff hs he hlimit hfolder, entry?_clear]
    by_cases hmem : place ∈ stalePlaces s top limit now
    · exact .inl ⟨hmem, if_pos hmem⟩
    · exact .inr ⟨hmem, (if_neg hmem).trans he⟩

/-- An entry is left in its place unless it is removed. -/
theorem entry?_sweep_eq_some_iff (hs : s.Distinct) (he : s.entry? place = some e) :
    Store.entry? (sweep s folder retention now).1 place = some e ↔
      ¬ IsSwept s folder retention now place e := by
  rcases entry?_sweep hs he folder retention now with ⟨hswept, hgone⟩ | ⟨hfresh, hleft⟩
  · simp [hswept, hgone]
  · simp [hfresh, hleft]

theorem entry?_sweep_eq_none (hs : s.Distinct) (he : s.entry? place = some e)
    (h : IsSwept s folder retention now place e) :
    Store.entry? (sweep s folder retention now).1 place = none := by
  rcases entry?_sweep hs he folder retention now with ⟨-, hgone⟩ | ⟨hfresh, -⟩
  · exact hgone
  · exact absurd h hfresh

/-! ### Early and late -/

/-- A sweep does not overflow, keeps every file that is not overdue, and takes every daily log away
that is. -/
structure IsPunctual (s : Store) (folder : Path) (retention : UInt64) (now : Int) : Prop where
  ends : (sweep s folder retention now).2 ≠ .error .overflow
  keeps : ∀ place content changed, s.entry? place = some (.file content changed) →
    ¬ IsOverdue retention now changed →
    Store.entry? (sweep s folder retention now).1 place = some (.file content changed)
  clears : ∀ top name content changed, s.folderAt folder = .ok top →
    s.entry? (top ++ [name]) = some (.file content changed) → IsDaily name →
    IsOverdue retention now changed →
    Store.entry? (sweep s folder retention now).1 (top ++ [name]) = none

/-- A sweep of any folder at any time is punctual exactly where the retention in seconds fits a word
of 64 bits. Where it does not, the sweep overflows and leaves everything alone. -/
theorem sweep_punctual_iff (hs : s.Distinct) (folder : Path) (retention : UInt64) (now : Int) :
    (IsPunctual s folder retention now ↔ 86400 * retention.toNat < UInt64.size) ∧
      (UInt64.size ≤ 86400 * retention.toNat →
        sweep s folder retention now = (s, .error .overflow)) := by
  refine ⟨⟨fun hpunctual => ?_, fun hfits => ⟨?_, ?_, ?_⟩⟩, fun hwide => ?_⟩
  · exact Nat.not_le.mp (mt overflow_sweep_iff.mpr hpunctual.ends)
  · exact mt overflow_sweep_iff.mp (Nat.not_le.mpr hfits)
  · intro place content changed he hyoung
    refine (entry?_sweep_eq_some_iff hs he).mpr ?_
    rintro ⟨-, top, name, content', changed', -, -, hfile, -, hdue⟩
    cases hfile
    exact hyoung hdue
  · intro top name content changed hfolder he hdaily hdue
    exact entry?_sweep_eq_none hs he
      ⟨hfits, top, name, content, changed, hfolder, rfl, rfl, hdaily.stem_prefix, hdue⟩
  · exact sweep_of_le hwide

/-- The folder of logs of the top folder, with one log that was changed last at a given time. -/
def oneLog (changed : Int) : Store :=
  ⟨[], [(["logs"], .folder), (["logs", "canopy.2023-11-13"], .file [] changed)]⟩

theorem isDaily_oneLog : IsDaily "canopy.2023-11-13" :=
  ⟨⟨2023, 11, 13, by decide⟩, by decide, by decide⟩

theorem distinct_oneLog (changed : Int) : (oneLog changed).Distinct := by
  show [["logs"], ["logs", "canopy.2023-11-13"]].Nodup
  decide

theorem folderAt_oneLog (changed : Int) : (oneLog changed).folderAt "logs" = .ok ["logs"] := by
  have hstart : (oneLog changed).start "logs" = [] := by unfold Store.start; split <;> rfl
  have hsteps : Files.Path.steps "logs" = ["logs"] := by decide
  have hleads : (oneLog changed).LeadsTo "logs" ["logs"] := by
    refine ⟨by simp, by decide, by decide, ?_⟩
    rw [hstart, hsteps]
    rfl
  exact Store.folderAt_eq_ok_iff.mpr ⟨hleads, rfl⟩

/-- With a retention of 14 days a log of just this age is kept, and a millisecond later it is
removed. -/
theorem sweep_punctual_fortnight :
    (oneLog 0).Distinct ∧ 86400 * (14 : UInt64).toNat < UInt64.size ∧
      IsPunctual (oneLog 0) "logs" 14 (14 * dayLength) ∧
      Store.entry? (sweep (oneLog 0) "logs" 14 (14 * dayLength)).1 ["logs", "canopy.2023-11-13"] =
        some (.file [] 0) ∧
      Store.entry? (sweep (oneLog 0) "logs" 14 (14 * dayLength + 1)).1
        ["logs", "canopy.2023-11-13"] = none := by
  have hfits : 86400 * (14 : UInt64).toNat < UInt64.size := by decide
  have hyoung : ¬ IsOverdue 14 (14 * dayLength) 0 := by unfold IsOverdue; decide
  have hdue : IsOverdue 14 (14 * dayLength + 1) 0 := by unfold IsOverdue; decide
  have hdistinct := distinct_oneLog 0
  have hearly := (sweep_punctual_iff hdistinct "logs" 14 (14 * dayLength)).1.mpr hfits
  have hlate := (sweep_punctual_iff hdistinct "logs" 14 (14 * dayLength + 1)).1.mpr hfits
  refine ⟨hdistinct, hfits, hearly, hearly.keeps _ _ _ rfl hyoung, ?_⟩
  exact hlate.clears ["logs"] "canopy.2023-11-13" [] 0 (folderAt_oneLog 0) rfl isDaily_oneLog hdue

/-- A retention of 2 ^ 57 days does not fit its word in seconds, so a sweep overflows, whatever it
would have found: here one log that is a day old and not overdue. -/
theorem sweep_overflows_vast :
    let retention : UInt64 := 144115188075855872
    let written : Int := 1699913600000
    let now : Int := 1700000000000
    now - written = dayLength ∧ ¬ IsOverdue retention now written ∧
      (oneLog written).folderAt "logs" = .ok ["logs"] ∧
      sweep (oneLog written) "logs" retention now = (oneLog written, .error .overflow) ∧
      ¬ IsPunctual (oneLog written) "logs" retention now := by
  intro retention written now
  have hsweep : sweep (oneLog written) "logs" retention now =
      (oneLog written, .error .overflow) := sweep_of_le (by decide)
  refine ⟨by decide, by unfold IsOverdue; decide, folderAt_oneLog written, hsweep, ?_⟩
  exact fun hpunctual => hpunctual.ends (congrArg Prod.snd hsweep)

end BranchChat.LogFolder
