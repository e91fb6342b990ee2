import BranchChat.Calendar.Timestamp

/-!
# The order of instants

Instants are ordered by the year, then by the month, and so on down to the nanosecond. The rank of
an instant puts all of this into one number.

## Main definitions

- `Timestamp.IsBefore`: one instant comes before another

## Main statements

- `rank_lt_rank_iff`, `rank_eq_rank_iff`: the order of ranks is this order
-/

namespace BranchChat.Calendar.Timestamp

variable {a b : Timestamp}

/-- The numbers of an instant, from the year down to the nanosecond. -/
def parts (t : Timestamp) : List Int :=
  [t.date.year, t.date.month, t.date.day, t.minute, t.second, t.nanosecond]

/-- The first number in which the two instants differ is smaller in `a`. -/
def IsBefore (a b : Timestamp) : Prop :=
  a.parts < b.parts

/-- Each number but the year is smaller than the factor that stands before it in the rank. -/
theorem parts_lt (t : Timestamp) :
    t.date.month < 13 ∧ t.date.day < 32 ∧ t.minute < 1440 ∧ t.second < 61 ∧
      t.nanosecond < 1000000000 := by
  obtain ⟨-, ⟨-, hmonth⟩, -, hday⟩ := t.date.inCalendar
  have hdays : daysIn t.date.year t.date.month ≤ 31 := by
    unfold daysIn
    split
    · split <;> omega
    · split <;> omega
  have htime := t.inDay
  omega

theorem rank_lt_rank_iff : a.rank < b.rank ↔ a.IsBefore b := by
  have ha := a.parts_lt
  have hb := b.parts_lt
  simp only [IsBefore, parts, List.cons_lt_cons_iff, List.lt_irrefl, and_false, or_false]
  -- What comes after the first difference stays below one unit of it, by the bounds of its numbers.
  unfold rank
  omega

/-- Different instants have different ranks. -/
theorem rank_eq_rank_iff : a.rank = b.rank ↔ a = b := by
  constructor
  · intro h
    have ha := a.parts_lt
    have hb := b.parts_lt
    obtain ⟨⟨year, month, day, _⟩, minute, second, nanosecond, _⟩ := a
    obtain ⟨⟨year', month', day', _⟩, minute', second', nanosecond', _⟩ := b
    dsimp only at ha hb
    simp only [rank] at h
    simp only [mk.injEq, Date.mk.injEq]
    omega
  · rintro rfl
    rfl

end BranchChat.Calendar.Timestamp
