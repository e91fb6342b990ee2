import BranchChat.Calendar.Date

/-!
# Timestamps

An instant in universal time: a date, a minute of the day, a second and a nanosecond. Second 60 is
a leap second. Offsets are whole minutes, so the change from local to universal time leaves second
and nanosecond alone.

## Main definitions

- `Timestamp`: an instant
- `Timestamp.rank`: its place in time
- `Timestamp.ofLocal?`: the instant of a local time
- `Timestamp.text`, `Timestamp.minuteText`: its long and its short form
-/

namespace BranchChat.Calendar

/-- An instant in universal time. -/
structure Timestamp where
  date : Date
  minute : Nat
  second : Nat
  nanosecond : Nat
  inDay : minute < 1440 ∧ second ≤ 60 ∧ nanosecond < 1000000000
deriving DecidableEq

namespace Timestamp

/-- The place of an instant in time: of two instants the later one has the greater rank. -/
def rank (t : Timestamp) : Int :=
  ((((t.date.year * 13 + t.date.month) * 32 + t.date.day) * 1440 + t.minute) * 61 + t.second) *
    1000000000 + t.nanosecond

/-- The instant at a minute of a date, where a minute beyond either end of the day belongs to the
neighbouring date. -/
def ofLocal? (date : Date) (minute : Int) (second nanosecond : Nat) : Option Timestamp := do
  let (date, minute) ←
    if minute < 0 then date.previous?.map fun d => (d, minute + 1440)
    else if 1440 ≤ minute then date.next?.map fun d => (d, minute - 1440)
    else some (date, minute)
  if h : minute.toNat < 1440 ∧ second ≤ 60 ∧ nanosecond < 1000000000 then
    some ⟨date, minute.toNat, second, nanosecond, h⟩
  else none

/-- The fraction of a second in the fewest of 0, 3, 6 or 9 digits. -/
def fractionText (nanosecond : Nat) : String :=
  if nanosecond = 0 then ""
  else if nanosecond % 1000000 = 0 then "." ++ padded 3 (nanosecond / 1000000)
  else if nanosecond % 1000 = 0 then "." ++ padded 6 (nanosecond / 1000)
  else "." ++ padded 9 nanosecond

/-- Hours and minutes of the day. -/
def clockText (t : Timestamp) : String :=
  padded 2 (t.minute / 60) ++ ":" ++ padded 2 (t.minute % 60)

/-- Date and time in universal time, as in `2026-01-01T00:00:00Z`. -/
def text (t : Timestamp) : String :=
  t.date.text ++ "T" ++ t.clockText ++ ":" ++ padded 2 t.second ++ fractionText t.nanosecond ++ "Z"

/-- Date, hour and minute, as in `2026-01-01 00:00`. -/
def minuteText (t : Timestamp) : String :=
  t.date.text ++ " " ++ t.clockText

end Timestamp

end BranchChat.Calendar
