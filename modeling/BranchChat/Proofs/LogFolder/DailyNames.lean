import BranchChat.LogFolder
import BranchChat.Proofs.Calendar.Days
import Mathlib.Data.List.Basic

/-!
# The names of daily logs

A daily log has the name of the program and a date with a year of four digits.

## Main definitions

- `IsDaily`: the name of a daily log

## Main statements

- `isDaily_dailyName`: a log that is begun has such a name
-/

namespace BranchChat.LogFolder

open BranchChat.Calendar

variable {name : String}

/-- The name of a daily log: the stem and, after a dot, a date of the calendar with a year of four
digits, a month of two and a day of two. -/
def IsDaily (name : String) : Prop :=
  ∃ d : Date, (0 ≤ d.year ∧ d.year ≤ 9999) ∧ name = stem ++ "." ++ d.text

/-- A daily log has the name that marks the files of the program. -/
theorem IsDaily.stem_prefix (h : IsDaily name) : stem.toList <+: name.toList := by
  obtain ⟨d, -, rfl⟩ := h
  simp only [String.toList_append, List.append_assoc]
  exact List.prefix_append _ _

/-- The log that is begun at some time has the name of a daily log, in years of four digits. -/
theorem isDaily_dailyName {now : Int}
    (h : 0 ≤ (civilDay (now.fdiv dayLength)).1 ∧ (civilDay (now.fdiv dayLength)).1 ≤ 9999) :
    IsDaily (dailyName now) := by
  have hyears : firstYear ≤ (0 : Int) ∧ (9999 : Int) ≤ lastYear := by decide
  obtain ⟨date, hdate⟩ := exists_date (now.fdiv dayLength)
    ⟨Int.le_trans hyears.1 h.1, Int.le_trans h.2 hyears.2⟩
  have hyear : (civilDay (now.fdiv dayLength)).1 = date.year := congrArg Prod.fst hdate
  refine ⟨date, hyear ▸ h, ?_⟩
  rw [dailyName, dayText, hdate]
  rfl

theorem IsDaily.hyphen_mem (h : IsDaily name) : '-' ∈ name.toList := by
  obtain ⟨d, -, rfl⟩ := h
  simp [Date.text, dateText]

end BranchChat.LogFolder
