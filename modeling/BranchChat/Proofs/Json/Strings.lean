import BranchChat.Json.Meaning
import BranchChat.Json.Printer

/-!
# Strings that were printed

A printed string is read back as it was. Each of its characters stands for itself, or it has an
escape of its own, by a letter or by a number.

## Main definitions

- `Escapes`: the written forms of a character
- `Raw.bodyOf`: the body of a printed string

## Main statements

- `escapes_escape`: what is printed is such a form
- `Raw.body?_bodyOf`, `Raw.stringOf?_bodyOf`: a printed string is read by the grammar, and means
  what it was
-/

namespace BranchChat.Json

open BranchChat.Text.Utf8 (Symbol)

/-! ### Written forms of a character -/

/-- The written forms of a character that are printed: a letter after a backslash, the number of a
control character, or the character itself. -/
inductive Escapes (c : Char) : List Char → Prop where
  | letter (e : Char) (valid : Raw.isEscape e = true) (means : escaped e = c) :
      Escapes c ['\\', e]
  | number (control : c.toNat < 0x20) :
      Escapes c ['\\', 'u', '0', '0', escape.hexLower (c.toNat / 16),
        escape.hexLower (c.toNat % 16)]
  | itself (quote : c ≠ '"') (backslash : c ≠ '\\') (printable : ¬ c.toNat < 0x20) : Escapes c [c]

theorem escapes_escape (c : Char) : Escapes c (escape c) := by
  unfold escape
  split
  case h_1 => exact .letter '"' rfl rfl
  case h_2 => exact .letter '\\' rfl rfl
  case h_3 => exact .letter 'n' rfl rfl
  case h_4 => exact .letter 'r' rfl rfl
  case h_5 => exact .letter 't' rfl rfl
  case h_6 => exact .letter 'b' rfl rfl
  case h_7 => exact .letter 'f' rfl rfl
  case h_8 quote backslash _ _ _ _ _ =>
    split
    case isTrue control => exact .number control
    case isFalse printable => exact .itself quote backslash printable

/-- A printed hexadecimal digit is one, and has its value. -/
theorem hexDigit_hexLower {n : Nat} (h : n < 16) :
    Raw.isHex (some (escape.hexLower n)) = true ∧ hexDigit (some (escape.hexLower n)) = n := by
  revert n
  decide

theorem ne_of_isEscape {e : Char} (h : Raw.isEscape e = true) : e ≠ 'u' := by
  rintro rfl
  exact absurd h (by decide)

namespace Raw

/-- The body of a string literal that was printed. -/
def bodyOf (cs : List Char) : List Symbol :=
  (cs.flatMap escape).map some

theorem bodyOf_cons (c : Char) (cs : List Char) :
    bodyOf (c :: cs) = (escape c).map some ++ bodyOf cs := by
  simp [bodyOf]

/-! ### The grammar -/

theorem body?_escape (done rest : List Symbol) (c : Char) :
    body? done ((escape c).map some ++ rest) =
      body? (((escape c).map some).reverse ++ done) rest := by
  have hescapes := escapes_escape c
  generalize escape c = written at hescapes
  cases hescapes with
  | letter e valid =>
    have hu := ne_of_isEscape valid
    simp only [List.map_cons, List.map_nil, List.cons_append, List.nil_append]
    rw [body?.eq_def]
    simp [hu, valid]
  | number control =>
    obtain ⟨hhigh, -⟩ := hexDigit_hexLower (n := c.toNat / 16) (by omega)
    obtain ⟨hlow, -⟩ := hexDigit_hexLower (n := c.toNat % 16) (by omega)
    have hzero : isHex (some '0') = true := rfl
    simp only [List.map_cons, List.map_nil, List.cons_append, List.nil_append]
    rw [body?.eq_def]
    simp [hzero, hhigh, hlow]
  | itself quote backslash printable =>
    simp only [List.map_cons, List.map_nil, List.cons_append, List.nil_append]
    rw [body?.eq_def]
    simp [quote, backslash, isControl, printable]

/-- The body of a printed string ends where the string ends. -/
theorem body?_bodyOf (cs : List Char) (done rest : List Symbol) :
    body? done (bodyOf cs ++ some '"' :: rest) = some (done.reverse ++ bodyOf cs, rest) := by
  induction cs generalizing done with
  | nil =>
    rw [body?.eq_def]
    simp [bodyOf]
  | cons c cs ih =>
    rw [bodyOf_cons, List.append_assoc, body?_escape, ih]
    simp

/-! ### The meaning -/

theorem text?_escape (done : List Char) (rest : List Symbol) (c : Char) :
    text? done ((escape c).map some ++ rest) = text? (c :: done) rest := by
  have hescapes := escapes_escape c
  generalize escape c = written at hescapes
  cases hescapes with
  | letter e valid means =>
    have hu := ne_of_isEscape valid
    simp [text?, hu, means]
  | number control =>
    obtain ⟨-, hhigh⟩ := hexDigit_hexLower (n := c.toNat / 16) (by omega)
    obtain ⟨-, hlow⟩ := hexDigit_hexLower (n := c.toNat % 16) (by omega)
    have hzero : hexDigit (some '0') = 0 := rfl
    have hunit : hexUnit (some '0') (some '0') (some (escape.hexLower (c.toNat / 16)))
        (some (escape.hexLower (c.toNat % 16))) = c.toNat := by
      rw [hexUnit, hzero, hhigh, hlow]
      omega
    have hpair : ¬ (0xD800 ≤ c.toNat ∧ c.toNat ≤ 0xDBFF) := by omega
    have hlone : ¬ (0xDC00 ≤ c.toNat ∧ c.toNat ≤ 0xDFFF) := by omega
    simp only [List.map_cons, List.map_nil, List.cons_append, List.nil_append]
    rw [text?.eq_def]
    simp only [hunit, if_neg hpair, if_neg hlone, Char.ofNat_toNat]
  | itself quote backslash printable => simp [text?, backslash]

theorem text?_bodyOf (cs done : List Char) :
    text? done (bodyOf cs) = some (done.reverse ++ cs) := by
  induction cs generalizing done with
  | nil => simp [bodyOf, text?]
  | cons c cs ih =>
    rw [bodyOf_cons, text?_escape, ih]
    simp

/-- The body of a printed string means the string. -/
theorem stringOf?_bodyOf (s : String) : stringOf? (bodyOf s.toList) = some s := by
  rw [stringOf?, text?_bodyOf]
  simp

end Raw

theorem map_quoted (s : String) :
    (quoted s).map some = some '"' :: (Raw.bodyOf s.toList ++ [some '"']) := by
  simp [quoted, Raw.bodyOf]

end BranchChat.Json
