import BranchChat.Calendar.Date

/-!
# Days by their number

Whatever the number of a day is, the year, the month and the day found for it are in the calendar.
The days of an era of 400 years are divided into centuries, cycles of four years, and years. Only
the last year of a cycle has a leap day, unless the cycle is the last one of a century. The leap day
at the end of the era stands by itself.

## Main definitions

- `IsSplit`: a day of an era in its century, cycle and year

## Main statements

- `yearOfEra_eq`: the year of a day
- `exists_date`: the numbers found for a day are a date
-/

namespace BranchChat.Calendar

variable {n c q k d : Nat}

/-- Day `d` of year `k` of cycle `q` of century `c` of an era. Years begin in March, so that a leap
day is the last one of its year. -/
structure IsSplit (n c q k d : Nat) : Prop where
  sum : n = 36524 * c + 1461 * q + 365 * k + d
  century : c ≤ 3
  cycle : q ≤ 24
  year : k ≤ 3
  day : d ≤ 365
  leap : d = 365 → k = 3 ∧ q ≤ 23

/-- Any day but the last one of the era can be split. -/
theorem exists_isSplit (h : n < 146096) : ∃ c q k d, IsSplit n c q k d := by
  by_cases hleap : n % 36524 % 1461 = 1460
  · refine ⟨n / 36524, n % 36524 / 1461, 3, 365, ?_, ?_, ?_, ?_, ?_, ?_⟩ <;> omega
  · refine ⟨n / 36524, n % 36524 / 1461, n % 36524 % 1461 / 365, n % 36524 % 1461 % 365,
      ?_, ?_, ?_, ?_, ?_, ?_⟩ <;> omega

/-- The year of the era. -/
def yearOfEra (n : Nat) : Nat :=
  (n - n / 1460 + n / 36524 - n / 146096) / 365

/-- The day of the year. -/
def dayOfYear (n : Nat) : Nat :=
  n - (365 * yearOfEra n + yearOfEra n / 4 - yearOfEra n / 100)

/-- The year of a day is that of its century and its cycle. -/
theorem yearOfEra_eq (h : IsSplit n c q k d) : yearOfEra n = 100 * c + 4 * q + k := by
  obtain ⟨hsum, hc, hq, hk, hd, hleap⟩ := h
  have hcentury : n / 36524 = c := by omega
  have hera : n / 146096 = 0 := by omega
  have hcycle : n / 1460 = 25 * c + q + (24 * c + q + 365 * k + d) / 1460 := by omega
  rw [yearOfEra, hcentury, hera, hcycle]
  -- The days that whole cycles leave over are those of one more year at most.
  generalize ht : (24 * c + q + 365 * k + d) / 1460 = t
  have hone : t ≤ 1 := by omega
  have hlate : t = 1 → k = 3 ∧ 1 ≤ d := by omega
  have hfull : d = 365 → t = 1 := by omega
  omega

theorem dayOfYear_eq (h : IsSplit n c q k d) : dayOfYear n = d := by
  have hyear := yearOfEra_eq h
  obtain ⟨hsum, hc, hq, hk, hd, hleap⟩ := h
  rw [dayOfYear, hyear]
  omega

theorem dayOfYear_le (h : n < 146097) : dayOfYear n ≤ 365 := by
  rcases Nat.lt_succ_iff_lt_or_eq.mp h with hlt | rfl
  · obtain ⟨c, q, k, d, hsplit⟩ := exists_isSplit hlt
    rw [dayOfYear_eq hsplit]
    exact hsplit.day
  · decide

/-- A year with a day more ends in the February of a leap year. -/
theorem isLeapYear_of_dayOfYear (h : n < 146097) (hlast : dayOfYear n = 365) (era : Int) :
    isLeapYear (era * 400 + yearOfEra n + 1) = true := by
  rcases Nat.lt_succ_iff_lt_or_eq.mp h with hlt | rfl
  · obtain ⟨c, q, k, d, hsplit⟩ := exists_isSplit hlt
    rw [dayOfYear_eq hsplit] at hlast
    obtain ⟨hk, hq⟩ := hsplit.leap hlast
    have hyear := yearOfEra_eq hsplit
    have hfour : (era * 400 + yearOfEra n + 1) % 4 = 0 := by omega
    have hhundred : (era * 400 + yearOfEra n + 1) % 100 ≠ 0 := by omega
    simp [isLeapYear, hfour, hhundred]
  · have hyear : yearOfEra 146096 = 399 := by decide
    have hfour : (era * 400 + yearOfEra 146096 + 1) % 4 = 0 := by omega
    have hwhole : (era * 400 + yearOfEra 146096 + 1) % 400 = 0 := by omega
    simp [isLeapYear, hfour, hwhole]

/-- The month of a day of the year, where the first one is March. -/
def monthOf (day : Nat) : Nat :=
  let fromMarch := (5 * day + 2) / 153
  if fromMarch < 10 then fromMarch + 3 else fromMarch - 9

/-- The day of the month. -/
def dayOf (day : Nat) : Nat :=
  day - (153 * ((5 * day + 2) / 153) + 2) / 5 + 1

theorem monthOf_dayOf : ∀ day ≤ 365, (1 ≤ monthOf day ∧ monthOf day ≤ 12) ∧ 1 ≤ dayOf day ∧
    (dayOf day ≤ daysIn 1 (monthOf day) ∨
      day = 365 ∧ monthOf day = 2 ∧ dayOf day = 29) := by
  decide +kernel

theorem daysIn_one_le (year : Int) (month : Nat) : daysIn 1 month ≤ daysIn year month := by
  unfold daysIn
  by_cases hmonth : month = 2
  · rw [if_pos hmonth, if_pos hmonth, if_neg (by decide)]
    split <;> omega
  · exact Nat.le_of_eq (by rw [if_neg hmonth, if_neg hmonth])

theorem civilDay_eq (days : Int) :
    civilDay days =
      let n := ((days + 719468).fmod 146097).toNat
      let year := (days + 719468).fdiv 146097 * 400 + yearOfEra n
      (if monthOf (dayOfYear n) ≤ 2 then year + 1 else year, monthOf (dayOfYear n),
        dayOf (dayOfYear n)) := rfl

/-- The numbers found for a day are those of a date. -/
theorem exists_date (days : Int)
    (h : firstYear ≤ (civilDay days).1 ∧ (civilDay days).1 ≤ lastYear) :
    ∃ date : Date, civilDay days = (date.year, date.month, date.day) := by
  have hera : ((days + 719468).fmod 146097).toNat < 146097 := by
    have hlt := Int.fmod_lt_of_pos (days + 719468) (b := 146097) (by decide)
    omega
  rw [civilDay_eq] at h ⊢
  generalize ((days + 719468).fmod 146097).toNat = n at hera h ⊢
  generalize (days + 719468).fdiv 146097 = era at h ⊢
  obtain ⟨hmonth, hday, hlast⟩ := monthOf_dayOf _ (dayOfYear_le hera)
  refine ⟨⟨_, _, _, h, hmonth, hday, ?_⟩, rfl⟩
  rcases hlast with hlast | ⟨hlast, htwo, htwentyNine⟩
  · exact Nat.le_trans hlast (daysIn_one_le _ _)
  · apply Nat.le_of_eq
    dsimp only
    rw [htwo, htwentyNine, if_pos (by decide), daysIn, if_pos rfl,
      isLeapYear_of_dayOfYear hera hlast era, if_pos rfl]

end BranchChat.Calendar
