import BranchChat.Proofs.Text.Encoding
import BranchChat.Text.Percent

/-!
# Percent-encoded text

What was percent-encoded stands for the bytes of the text that it was made of, unless the percent
sign itself is kept. So different texts have different written forms.

## Main statements

- `decode_encode`: the bytes of an encoded text
- `encode_injective`: the text of an encoded text
- `of_mem_encode_unreserved`: the characters of a text of which only unreserved ones are kept
-/

namespace BranchChat.Text

/-- A text is found again in its bytes. -/
theorem Utf8.bytes_injective : Function.Injective Utf8.bytes := by
  intro cs ds h
  have hread := congrArg Utf8.text? h
  rw [Utf8.text?_bytes, Utf8.text?_bytes] at hread
  exact Option.some.inj hread

namespace Percent

variable {keep : Char → Bool} {c : Char} {cs : List Char}

/-! ### Digits -/

theorem hexValue?_hexDigit {n : Nat} (h : n < 16) : hexValue? (hexDigit n) = some n := by
  revert n
  decide

theorem unreserved_hexDigit {n : Nat} (h : n < 16) : unreserved (hexDigit n) = true := by
  revert n
  decide

/-! ### Reading -/

/-- A triple stands for its byte. -/
theorem decode_triple (b : UInt8) (rest : List Char) :
    decode (triple b ++ rest) = b :: decode rest := by
  have hb : b.toNat < 256 := b.toNat_lt
  have hbyte : UInt8.ofNat (b.toNat / 16 * 16 + b.toNat % 16) = b := by
    have hsum : b.toNat / 16 * 16 + b.toNat % 16 = b.toNat := by omega
    rw [hsum, UInt8.ofNat_toNat]
  show decode ('%' :: hexDigit (b.toNat / 16) :: hexDigit (b.toNat % 16) :: rest) = _
  rw [decode, hexValue?_hexDigit (by omega), hexValue?_hexDigit (by omega)]
  dsimp only
  rw [hbyte]

theorem decode_flatMap_triple (bs : List UInt8) (rest : List Char) :
    decode (bs.flatMap triple ++ rest) = bs ++ decode rest := by
  induction bs with
  | nil => rfl
  | cons b bs ih => rw [List.flatMap_cons, List.append_assoc, decode_triple, ih, List.cons_append]

/-- Any character but the percent sign stands for itself. -/
theorem decode_cons_of_ne (h : c ≠ '%') (rest : List Char) :
    decode (c :: rest) = String.utf8EncodeChar c ++ decode rest := by
  rw [decode]
  intro high low more heq
  exact absurd heq h

/-- An encoded text stands for the bytes of the text. -/
theorem decode_encode (hkeep : keep '%' = false) (cs : List Char) :
    decode (encode keep cs) = Utf8.bytes cs := by
  induction cs with
  | nil => rfl
  | cons c cs ih =>
    show decode (encodeChar keep c ++ encode keep cs) = String.utf8EncodeChar c ++ Utf8.bytes cs
    unfold encodeChar
    by_cases hc : keep c = true
    · have hne : c ≠ '%' := by
        rintro rfl
        rw [hkeep] at hc
        exact absurd hc (by decide)
      rw [if_pos hc, List.singleton_append, decode_cons_of_ne hne, ih]
    · rw [if_neg hc, decode_flatMap_triple, ih]

/-- Different texts are encoded differently. -/
theorem encode_injective (hkeep : keep '%' = false) : Function.Injective (encode keep) := by
  intro cs ds h
  apply Utf8.bytes_injective
  rw [← decode_encode hkeep, ← decode_encode hkeep, h]

/-! ### Characters -/

/-- A text is its own encoding where all of it is kept. -/
theorem encode_of_forall (h : ∀ c ∈ cs, keep c = true) : encode keep cs = cs := by
  induction cs with
  | nil => rfl
  | cons c cs ih =>
    show encodeChar keep c ++ encode keep cs = c :: cs
    rw [encodeChar, if_pos (h c List.mem_cons_self),
      ih fun d hd => h d (List.mem_cons_of_mem c hd)]
    rfl

/-- Where only unreserved characters are kept, the encoded text has these and percent signs. -/
theorem of_mem_encode_unreserved (h : c ∈ encode unreserved cs) :
    unreserved c = true ∨ c = '%' := by
  obtain ⟨d, -, hc⟩ := List.mem_flatMap.mp h
  unfold encodeChar at hc
  split at hc
  · next hd =>
    rw [List.mem_singleton.mp hc]
    exact .inl hd
  · obtain ⟨b, -, hc⟩ := List.mem_flatMap.mp hc
    have hb : b.toNat < 256 := b.toNat_lt
    simp only [triple, List.mem_cons, List.not_mem_nil, or_false] at hc
    rcases hc with rfl | rfl | rfl
    · exact .inr rfl
    · exact .inl (unreserved_hexDigit (by omega))
    · exact .inl (unreserved_hexDigit (by omega))

end Percent

end BranchChat.Text
