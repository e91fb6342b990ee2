import BranchChat.Text.Utf8

/-!
# Reading what was encoded

The encoding of a text is read as that text, without gaps. A character is one to four bytes; the
reader opens a sequence with the first of them and closes it with the last one.

## Main statements

- `foldl_step_utf8EncodeChar`: one character
- `symbols_bytes`, `text?_bytes`: a whole text
-/

namespace BranchChat.Text.Utf8

variable {read : List Symbol} {o : Open} {b : UInt8}

/-! ### One byte -/

/-- A first byte that opens a sequence. -/
theorem step_of_start? (high : ¬ b < 0x80) (h : Open.start? b = some o) :
    Reader.step ⟨read, none⟩ b = ⟨read, some o⟩ := by
  rw [Reader.step, Reader.begin, if_neg high, h]

/-- A byte in the middle of a sequence. -/
theorem step_of_lt_needed {value needed : Nat} {low high : UInt8} (h : low ≤ b ∧ b ≤ high)
    (more : 1 < needed) :
    Reader.step ⟨read, some ⟨value, needed, low, high⟩⟩ b =
      ⟨read, some ⟨value * 64 + (b.toNat - 0x80), needed - 1, 0x80, 0xBF⟩⟩ := by
  simp only [Reader.step, if_pos h, if_neg (Nat.not_le.mpr more)]

/-- The last byte of a sequence. -/
theorem step_of_needed_eq_one {value : Nat} {low high : UInt8} (h : low ≤ b ∧ b ≤ high) :
    Reader.step ⟨read, some ⟨value, 1, low, high⟩⟩ b =
      ⟨some (Char.ofNat (value * 64 + (b.toNat - 0x80))) :: read, none⟩ := by
  simp only [Reader.step, if_pos h, if_pos (Nat.le_refl 1)]

/-! ### First bytes -/

theorem start?_two (h : 0xC2 ≤ b.toNat ∧ b.toNat ≤ 0xDF) :
    Open.start? b = some ⟨b.toNat - 0xC0, 1, 0x80, 0xBF⟩ := by
  rw [Open.start?, if_pos h]

theorem start?_three (h : 0xE0 ≤ b.toNat ∧ b.toNat ≤ 0xEF) :
    Open.start? b = some ⟨b.toNat - 0xE0, 2, if b.toNat = 0xE0 then 0xA0 else 0x80,
      if b.toNat = 0xED then 0x9F else 0xBF⟩ := by
  unfold Open.start?
  generalize b.toNat = v at h
  have htwo : ¬ (0xC2 ≤ v ∧ v ≤ 0xDF) := by omega
  by_cases hfirst : v = 0xE0
  · simp [hfirst]
  · by_cases hlast : v = 0xED
    · simp [hlast]
    · simp only [if_neg htwo, if_neg hfirst, if_neg hlast]
      rw [if_pos (by omega)]

theorem start?_four (h : 0xF0 ≤ b.toNat ∧ b.toNat ≤ 0xF4) :
    Open.start? b = some ⟨b.toNat - 0xF0, 3, if b.toNat = 0xF0 then 0x90 else 0x80,
      if b.toNat = 0xF4 then 0x8F else 0xBF⟩ := by
  unfold Open.start?
  generalize b.toNat = v at h
  have htwo : ¬ (0xC2 ≤ v ∧ v ≤ 0xDF) := by omega
  have hthree : v ≠ 0xE0 ∧ v ≠ 0xED ∧ ¬ (0xE1 ≤ v ∧ v ≤ 0xEF) := by omega
  by_cases hfirst : v = 0xF0
  · simp [hfirst]
  · by_cases hlast : v = 0xF4
    · simp [hlast]
    · simp only [if_neg htwo, if_neg hthree.1, if_neg hthree.2.1, if_neg hthree.2.2, if_neg hfirst,
        if_neg hlast]
      rw [if_pos (by omega)]

/-! ### One character -/

theorem toNat_ofNat_of_lt {n : Nat} (h : n < 256) : (UInt8.ofNat n).toNat = n :=
  UInt8.toNat_ofNat_of_lt h

theorem not_lt_of_le_toNat (h : 0x80 ≤ b.toNat) : ¬ b < 0x80 := by
  rw [UInt8.lt_iff_toNat_lt]
  exact Nat.not_lt.mpr h

/-- A byte that goes on with a sequence, in the range that any but the second one may have. -/
theorem tail_between (n : Nat) :
    (0x80 : UInt8) ≤ UInt8.ofNat (n % 64 + 128) ∧ UInt8.ofNat (n % 64 + 128) ≤ 0xBF := by
  rw [UInt8.le_iff_toNat_le, UInt8.le_iff_toNat_le, toNat_ofNat_of_lt (by omega)]
  show 128 ≤ n % 64 + 128 ∧ n % 64 + 128 ≤ 191
  omega

/-- A byte that goes on with a sequence, in the range that the first byte has set. -/
theorem second_between (n : Nat) (low high : UInt8) (hlow : low.toNat ≤ n % 64 + 128)
    (hhigh : n % 64 + 128 ≤ high.toNat) :
    low ≤ UInt8.ofNat (n % 64 + 128) ∧ UInt8.ofNat (n % 64 + 128) ≤ high := by
  rw [UInt8.le_iff_toNat_le, UInt8.le_iff_toNat_le, toNat_ofNat_of_lt (by omega)]
  exact ⟨hlow, hhigh⟩

/-- The bytes of one character are read as that character. -/
theorem foldl_step_utf8EncodeChar (read : List Symbol) (c : Char) :
    (String.utf8EncodeChar c).foldl Reader.step ⟨read, none⟩ = ⟨some c :: read, none⟩ := by
  have hvalid : c.val.toNat < 0xD800 ∨ 0xDFFF < c.val.toNat ∧ c.val.toNat < 0x110000 := c.valid
  have hchar : Char.ofNat c.val.toNat = c := Char.ofNat_toNat c
  unfold String.utf8EncodeChar
  generalize c.val.toNat = v at hvalid hchar
  dsimp only
  split
  case isTrue hone =>
    have hb : (UInt8.ofNat v).toNat = v := toNat_ofNat_of_lt (by omega)
    have hlow : UInt8.ofNat v < 0x80 := by
      rw [UInt8.lt_iff_toNat_lt, hb]
      show v < 128
      omega
    simp only [List.foldl_cons, List.foldl_nil, Reader.step, Reader.begin, if_pos hlow, hb, hchar]
  case isFalse hone =>
  have tail (n : Nat) : (UInt8.ofNat (n % 64 + 128)).toNat - 0x80 = n % 64 := by
    rw [toNat_ofNat_of_lt (by omega)]
    omega
  split
  case isTrue htwo =>
    have hb : (UInt8.ofNat (v / 64 % 32 + 192)).toNat = v / 64 % 32 + 192 :=
      toNat_ofNat_of_lt (by omega)
    rw [List.foldl_cons, step_of_start? (not_lt_of_le_toNat (by omega)) (start?_two (by omega)),
      List.foldl_cons, step_of_needed_eq_one (tail_between v), List.foldl_nil, hb, tail]
    have hv : (v / 64 % 32 + 192 - 0xC0) * 64 + v % 64 = v := by omega
    rw [hv, hchar]
  case isFalse htwo =>
  split
  case isTrue hthree =>
    have hb : (UInt8.ofNat (v / 4096 % 16 + 224)).toNat = v / 4096 % 16 + 224 :=
      toNat_ofNat_of_lt (by omega)
    have hsecond := second_between (v / 64)
      (if (UInt8.ofNat (v / 4096 % 16 + 224)).toNat = 0xE0 then 0xA0 else 0x80)
      (if (UInt8.ofNat (v / 4096 % 16 + 224)).toNat = 0xED then 0x9F else 0xBF)
      (by rw [hb]; split <;> simp; omega) (by rw [hb]; split <;> simp <;> omega)
    rw [List.foldl_cons, step_of_start? (not_lt_of_le_toNat (by omega)) (start?_three (by omega)),
      List.foldl_cons, step_of_lt_needed hsecond (by decide),
      List.foldl_cons, step_of_needed_eq_one (tail_between v), List.foldl_nil, hb, tail,
      tail]
    have hv : ((v / 4096 % 16 + 224 - 0xE0) * 64 + v / 64 % 64) * 64 + v % 64 = v := by omega
    rw [hv, hchar]
  case isFalse hthree =>
    have hb : (UInt8.ofNat (v / 262144 % 8 + 240)).toNat = v / 262144 % 8 + 240 :=
      toNat_ofNat_of_lt (by omega)
    have hsecond := second_between (v / 4096)
      (if (UInt8.ofNat (v / 262144 % 8 + 240)).toNat = 0xF0 then 0x90 else 0x80)
      (if (UInt8.ofNat (v / 262144 % 8 + 240)).toNat = 0xF4 then 0x8F else 0xBF)
      (by rw [hb]; split <;> simp; omega) (by rw [hb]; split <;> simp <;> omega)
    rw [List.foldl_cons, step_of_start? (not_lt_of_le_toNat (by omega)) (start?_four (by omega)),
      List.foldl_cons, step_of_lt_needed hsecond (by decide),
      List.foldl_cons, step_of_lt_needed (tail_between (v / 64)) (by decide),
      List.foldl_cons, step_of_needed_eq_one (tail_between v), List.foldl_nil, hb, tail,
      tail, tail]
    have hv : (((v / 262144 % 8 + 240 - 0xF0) * 64 + v / 4096 % 64) * 64 + v / 64 % 64) * 64 +
        v % 64 = v := by omega
    rw [hv, hchar]

/-! ### Texts -/

theorem foldl_step_bytes (read : List Symbol) (cs : List Char) :
    (bytes cs).foldl Reader.step ⟨read, none⟩ = ⟨(cs.map some).reverse ++ read, none⟩ := by
  induction cs generalizing read with
  | nil => rfl
  | cons c cs ih =>
    have hbytes : bytes (c :: cs) = String.utf8EncodeChar c ++ bytes cs := rfl
    rw [hbytes, List.foldl_append, foldl_step_utf8EncodeChar, ih]
    simp

/-- The encoding of a text is read as that text. -/
theorem symbols_bytes (cs : List Char) : symbols (bytes cs) = cs.map some := by
  rw [symbols, foldl_step_bytes]
  simp [Reader.finish]

theorem text?_bytes (cs : List Char) : text? (bytes cs) = some cs := by
  rw [text?, symbols_bytes]
  induction cs with
  | nil => rfl
  | cons c cs ih => simp [ih]

theorem lenient_bytes (cs : List Char) : lenient (bytes cs) = cs := by
  rw [lenient, symbols_bytes, fillGaps, List.map_map]
  exact List.map_id'' (fun c => rfl) cs

end BranchChat.Text.Utf8
