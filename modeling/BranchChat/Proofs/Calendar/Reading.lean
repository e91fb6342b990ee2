import BranchChat.Calendar.Reader

/-!
# Reading a timestamp that was printed

The printed form of an instant is read as that instant. Each number in it is followed by a character
that is no digit, so the reader takes just the digits that were printed.

## Main definitions

- `IsNumeral`: digits of a number, with zeros in front

## Main statements

- `isNumeral_padded`, `bounded?_append`, `unbounded?_append`: one number
- `year?_yearText`, `nanoseconds?_fractionText`: the parts that have several forms
- `Timestamp.read?_text`: a whole instant
-/

namespace BranchChat.Calendar

open BranchChat.Text (isBlank trimStart)

/-! ### Numbers -/

/-- The digits of a number, with any zeros in front. -/
structure IsNumeral (n : Nat) (cs : List Char) : Prop where
  ne_nil : cs ≠ []
  digits : ∀ c ∈ cs, c.isDigit = true
  value : valueOf cs = n

/-- A text that does not go on with a digit. -/
def EndsNumeral (cs : List Char) : Prop :=
  ∀ c, cs.head? = some c → c.isDigit = false

theorem endsNumeral_cons {c : Char} (h : c.isDigit = false) (cs : List Char) :
    EndsNumeral (c :: cs) := by
  rintro _ ⟨⟩
  exact h

section

variable {n width : Nat} {cs rest : List Char}

theorem toList_padded (width n : Nat) :
    (padded width n).toList =
      List.replicate (width - (Nat.toDigits 10 n).length) '0' ++ Nat.toDigits 10 n := by
  simp [padded, Nat.repr_eq_ofList_toDigits]

theorem valueOf_append (cs ds : List Char) :
    valueOf (cs ++ ds) = Nat.ofDigitChars 10 ds (valueOf cs) := by
  rw [valueOf, List.foldl_append, Nat.ofDigitChars_eq_foldl]
  simp only [Nat.mul_comm 10]
  rfl

theorem valueOf_zeros (k : Nat) : valueOf (List.replicate k '0') = 0 := by
  induction k with
  | zero => rfl
  | succ k ih => rw [List.replicate_succ', valueOf_append, ih]; rfl

theorem isNumeral_padded (width n : Nat) : IsNumeral n (padded width n).toList := by
  rw [toList_padded]
  refine ⟨?_, fun c hc => ?_, ?_⟩
  · have hpos : 0 < (Nat.toDigits 10 n).length := Nat.length_toDigits_pos
    simp only [ne_eq, List.append_eq_nil_iff, not_and]
    exact fun _ => List.ne_nil_of_length_pos hpos
  · rcases List.mem_append.mp hc with hzero | hdigit
    · rw [(List.mem_replicate.mp hzero).2]
      rfl
    · exact Nat.isDigit_of_mem_toDigits (by decide) (by decide) hdigit
  · rw [valueOf_append, valueOf_zeros]
    exact Nat.ofDigitChars_toDigits (by decide) (by decide)

/-- A number that fits the width is printed in just this width. -/
theorem length_padded (hwidth : 0 < width) (h : n < Nat.pow 10 width) :
    (padded width n).toList.length = width := by
  have hle : (Nat.toDigits 10 n).length ≤ width :=
    (Nat.length_toDigits_le_iff (by decide) hwidth).mpr h
  rw [toList_padded, List.length_append, List.length_replicate]
  omega

theorem IsNumeral.head_isDigit (h : IsNumeral n cs) :
    ∃ c cs', cs = c :: cs' ∧ c.isDigit = true := by
  obtain ⟨c, cs', rfl⟩ := List.exists_cons_of_ne_nil h.ne_nil
  exact ⟨c, cs', rfl, h.digits c List.mem_cons_self⟩

theorem IsNumeral.takeWhile_append (h : IsNumeral n cs) (hrest : EndsNumeral rest) :
    (cs ++ rest).takeWhile Char.isDigit = cs := by
  rw [List.takeWhile_append_of_pos h.digits]
  cases rest with
  | nil => simp
  | cons c rest => rw [List.takeWhile_cons_of_neg (by simp [hrest c rfl]), List.append_nil]

theorem IsNumeral.dropWhile_append (h : IsNumeral n cs) (hrest : EndsNumeral rest) :
    (cs ++ rest).dropWhile Char.isDigit = rest := by
  rw [List.dropWhile_append_of_pos h.digits]
  cases rest with
  | nil => rfl
  | cons c rest => rw [List.dropWhile_cons_of_neg (by simp [hrest c rfl])]

theorem unbounded?_append (h : IsNumeral n cs) (hrest : EndsNumeral rest) :
    unbounded? (cs ++ rest) = some (n, rest) := by
  have hne : cs.isEmpty = false := List.isEmpty_eq_false_iff.mpr h.ne_nil
  simp [unbounded?, h.takeWhile_append hrest, h.dropWhile_append hrest, h.value, hne]

theorem bounded?_append (h : IsNumeral n cs) (hlength : cs.length ≤ width)
    (hrest : EndsNumeral rest) : bounded? width (cs ++ rest) = some (n, rest) := by
  have hne : cs.isEmpty = false := List.isEmpty_eq_false_iff.mpr h.ne_nil
  -- what the width leaves of the text behind the number does not go on with a digit either
  have htake : EndsNumeral (rest.take (width - cs.length)) := by
    cases rest with
    | nil => simp [EndsNumeral]
    | cons c rest =>
      cases width - cs.length with
      | zero => simp [EndsNumeral]
      | succ k => exact endsNumeral_cons (hrest c rfl) _
  rw [bounded?, List.take_append, List.take_of_length_le hlength, h.takeWhile_append htake]
  simp [hne, h.value]

theorem isBlank_of_isDigit {c : Char} (h : c.isDigit = true) : isBlank c = false := by
  have hc : 48 ≤ c.toNat ∧ c.toNat ≤ 57 := Char.isDigit_iff_toNat.mp h
  rw [Bool.eq_false_iff]
  intro hblank
  simp only [isBlank, Bool.or_eq_true, Bool.and_eq_true, decide_eq_true_eq, beq_iff_eq] at hblank
  omega

theorem IsNumeral.trimStart_append (h : IsNumeral n cs) : trimStart (cs ++ rest) = cs ++ rest := by
  obtain ⟨c, cs', rfl, hc⟩ := h.head_isDigit
  exact List.dropWhile_cons_of_neg (by simp [isBlank_of_isDigit hc])

end

/-! ### The parts of an instant -/

theorem two?_padded {n : Nat} (h : n < 100) {rest : List Char} (hrest : EndsNumeral rest) :
    two? ((padded 2 n).toList ++ rest) = some (n, rest) := by
  have hn := isNumeral_padded 2 n
  rw [two?, hn.trimStart_append]
  exact bounded?_append hn (Nat.le_of_eq (length_padded (by decide) h)) hrest

theorem mark?_cons {c : Char} (h : isBlank c = false) (rest : List Char) :
    mark? c (c :: rest) = some rest := by
  rw [mark?, trimStart, List.dropWhile_cons_of_neg (by simp [h])]
  simp

theorem year?_minus (rest : List Char) :
    year? ('-' :: rest) = (unbounded? rest).map fun (n, after) => (-(n : Int), after) := rfl

theorem year?_plus (rest : List Char) :
    year? ('+' :: rest) = (unbounded? rest).map fun (n, after) => ((n : Int), after) := rfl

/-- Without a sign a year starts with a digit. -/
theorem year?_append {n : Nat} {cs rest : List Char} (h : IsNumeral n cs) :
    year? (cs ++ rest) = (bounded? 4 (cs ++ rest)).map fun (n, after) => ((n : Int), after) := by
  obtain ⟨c, cs', hcs, hc⟩ := h.head_isDigit
  rw [year?, h.trimStart_append]
  split
  case h_1 hminus =>
    rw [hcs] at hminus
    cases hminus
    exact absurd hc (by decide)
  case h_2 hplus =>
    rw [hcs] at hplus
    cases hplus
    exact absurd hc (by decide)
  case h_3 => rfl

/-- A year is read up to the hyphen after it, with or without a sign. -/
theorem year?_yearText (year : Int) (rest : List Char) :
    year? ((yearText year).toList ++ '-' :: rest) = some (year, '-' :: rest) := by
  have hend : EndsNumeral ('-' :: rest) := endsNumeral_cons (by decide) rest
  by_cases hplain : 0 ≤ year ∧ year ≤ 9999
  · have hn := isNumeral_padded 4 year.toNat
    have hsmall : year.toNat < 10000 := by omega
    have hlength : (padded 4 year.toNat).toList.length = 4 := length_padded (by decide) hsmall
    have hvalue : (year.toNat : Int) = year := by omega
    rw [yearText, if_pos hplain, year?_append hn, bounded?_append hn (Nat.le_of_eq hlength) hend,
      Option.map_some]
    exact congrArg (fun y => some (y, '-' :: rest)) hvalue
  · have hread := unbounded?_append (isNumeral_padded 4 year.natAbs) hend
    rw [yearText, if_neg hplain]
    by_cases hneg : year < 0
    · have hvalue : -(year.natAbs : Int) = year := by omega
      have htext : (("-" : String) ++ padded 4 year.natAbs).toList ++ '-' :: rest =
          '-' :: ((padded 4 year.natAbs).toList ++ '-' :: rest) := by simp
      rw [if_pos hneg, htext, year?_minus, hread, Option.map_some]
      exact congrArg (fun y => some (y, '-' :: rest)) hvalue
    · have hvalue : (year.natAbs : Int) = year := by omega
      have htext : (("+" : String) ++ padded 4 year.natAbs).toList ++ '-' :: rest =
          '+' :: ((padded 4 year.natAbs).toList ++ '-' :: rest) := by simp
      rw [if_neg hneg, htext, year?_plus, hread, Option.map_some]
      exact congrArg (fun y => some (y, '-' :: rest)) hvalue

/-- A fraction of `width` digits after the point. -/
theorem nanoseconds?_point {n width : Nat} (hwidth : 0 < width ∧ width ≤ 9) (h : n < Nat.pow 10 width)
    {rest : List Char} (hrest : EndsNumeral rest) :
    nanoseconds? ('.' :: ((padded width n).toList ++ rest)) =
      some (n * Nat.pow 10 (9 - width), rest) := by
  have hn := isNumeral_padded width n
  have hlength : (padded width n).toList.length = width := length_padded hwidth.1 h
  have hdrop : rest.dropWhile Char.isDigit = rest := by
    cases rest with
    | nil => rfl
    | cons c rest => rw [List.dropWhile_cons_of_neg (by simp [hrest c rfl])]
  rw [nanoseconds?, bounded?_append hn (by omega) hrest, Option.map_some]
  dsimp only
  rw [hdrop, List.length_append, hlength, Nat.add_sub_cancel_right]

/-- A fraction of a second is left out, or it has as many digits as are needed in groups of
three. -/
theorem fractionText_cases {n : Nat} (h : n < 1000000000) :
    (n = 0 ∧ Timestamp.fractionText n = "") ∨
      ∃ width k, (0 < width ∧ width ≤ 9) ∧ k < Nat.pow 10 width ∧
        k * Nat.pow 10 (9 - width) = n ∧ Timestamp.fractionText n = "." ++ padded width k := by
  unfold Timestamp.fractionText
  split
  case isTrue hzero => exact .inl ⟨hzero, rfl⟩
  case isFalse =>
  refine .inr ?_
  split
  case isTrue hmillis =>
    have hk : n / 1000000 < 1000 := by omega
    have hn : n / 1000000 * 1000000 = n := by omega
    exact ⟨3, n / 1000000, by decide, hk, hn, rfl⟩
  case isFalse =>
  split
  case isTrue hmicros =>
    have hk : n / 1000 < 1000000 := by omega
    have hn : n / 1000 * 1000 = n := by omega
    exact ⟨6, n / 1000, by decide, hk, hn, rfl⟩
  case isFalse => exact ⟨9, n, by decide, h, Nat.mul_one n, rfl⟩

theorem toList_point_append (digits : String) (rest : List Char) :
    ("." ++ digits).toList ++ rest = '.' :: (digits.toList ++ rest) := by
  simp

/-- A fraction of a second is read up to the letter after it. -/
theorem nanoseconds?_fractionText {n : Nat} (h : n < 1000000000) (rest : List Char) :
    nanoseconds? ((Timestamp.fractionText n).toList ++ 'Z' :: rest) = some (n, 'Z' :: rest) := by
  have hend : EndsNumeral ('Z' :: rest) := endsNumeral_cons (by decide) rest
  rcases fractionText_cases h with ⟨rfl, -⟩ | ⟨width, k, hwidth, hk, hvalue, htext⟩
  · rfl
  · rw [htext, toList_point_append, nanoseconds?_point hwidth hk hend, hvalue]

theorem endsNumeral_fractionText {n : Nat} (h : n < 1000000000) (rest : List Char) :
    EndsNumeral ((Timestamp.fractionText n).toList ++ 'Z' :: rest) := by
  rcases fractionText_cases h with ⟨rfl, -⟩ | ⟨width, k, -, -, -, htext⟩
  · exact endsNumeral_cons (by decide) rest
  · rw [htext, toList_point_append]
    exact endsNumeral_cons (by decide) _

/-! ### Instants -/

theorem of?_date (d : Date) : Date.of? d.year d.month d.day = some d :=
  dif_pos d.inCalendar

/-- An instant is the one at its own minute of universal time. -/
theorem ofLocal?_minute (t : Timestamp) :
    Timestamp.ofLocal? t.date t.minute t.second t.nanosecond = some t := by
  have hlow : ¬ (t.minute : Int) < 0 := by omega
  have hhigh : ¬ 1440 ≤ (t.minute : Int) := by have := t.inDay.1; omega
  simp only [Timestamp.ofLocal?, if_neg hlow, if_neg hhigh, Option.bind_eq_bind, Option.bind_some,
    Int.toNat_natCast]
  exact dif_pos t.inDay

/-- The printed form of an instant is read as that instant. -/
theorem Timestamp.read?_text (t : Timestamp) : Timestamp.read? t.text.toList = some t := by
  have hminute := t.inDay.1
  have hmonth : t.date.month < 100 := by have := t.date.inCalendar.2.1; omega
  have hday : t.date.day < 100 := by
    have hd := t.date.inCalendar.2.2.2
    have hmax : daysIn t.date.year t.date.month ≤ 31 := by
      unfold daysIn
      repeat' split
      all_goals decide
    omega
  have hhour : t.minute / 60 < 100 := by omega
  have hclockMinute : t.minute % 60 < 100 := by omega
  have hsecond : t.second < 100 := by have := t.inDay.2.1; omega
  have htext : t.text.toList = (yearText t.date.year).toList ++ '-' ::
      ((padded 2 t.date.month).toList ++ '-' :: ((padded 2 t.date.day).toList ++ 'T' ::
      ((padded 2 (t.minute / 60)).toList ++ ':' :: ((padded 2 (t.minute % 60)).toList ++ ':' ::
      ((padded 2 t.second).toList ++ ((fractionText t.nanosecond).toList ++ ['Z'])))))) := by
    simp [Timestamp.text, Date.text, dateText, clockText]
  have hhyphen (cs : List Char) : EndsNumeral ('-' :: cs) := endsNumeral_cons (by decide) cs
  have hcolon (cs : List Char) : EndsNumeral (':' :: cs) := endsNumeral_cons (by decide) cs
  have htee (cs : List Char) : EndsNumeral ('T' :: cs) := endsNumeral_cons (by decide) cs
  have hclock : ((t.minute / 60 : Nat) : Int) * 60 + ((t.minute % 60 : Nat) : Int) - 0 =
      t.minute := by omega
  have hoffset : offset? (trimStart ['Z']) = some (0, []) := rfl
  -- The parts are read one after the other.
  rw [htext, read?]
  dsimp only [bind]
  rw [year?_yearText, Option.bind_some]
  dsimp only
  rw [mark?_cons rfl, Option.bind_some, two?_padded hmonth (hhyphen _), Option.bind_some]
  dsimp only
  rw [mark?_cons rfl, Option.bind_some, two?_padded hday (htee _), Option.bind_some]
  show Option.bind (some _) _ = _
  rw [Option.bind_some, two?_padded hhour (hcolon _), Option.bind_some]
  dsimp only
  rw [mark?_cons rfl, Option.bind_some, two?_padded hclockMinute (hcolon _), Option.bind_some]
  dsimp only
  rw [mark?_cons rfl, Option.bind_some,
    two?_padded hsecond (endsNumeral_fractionText t.inDay.2.2 []), Option.bind_some]
  dsimp only
  rw [nanoseconds?_fractionText t.inDay.2.2, Option.bind_some]
  dsimp only
  rw [hoffset, Option.bind_some]
  dsimp only
  rw [of?_date, Option.bind_some]
  rw [if_pos ⟨rfl, by omega, by omega, by decide⟩, hclock, ofLocal?_minute]

end BranchChat.Calendar
