import BranchChat.Proofs.Text.Percent
import BranchChat.Proofs.Web.Trails
import BranchChat.Web.Backend

/-!
# Texts as steps of an address

A text is made one step of an address by encoding all but unreserved characters. What comes out has
no slash, nothing in it is encoded once more, and it stands for the text. But a dot is unreserved,
so one dot and two dots come out as they are. These are the only texts that make a dot segment.

## Main statements

- `decode_of_isDoubleDot`, `decode_of_isSingleDot`: what dot segments stand for
- `isPlainSegment_step`: texts that make a plain segment
- `decode_step`, `step_injective`: the text of a step
-/

namespace BranchChat.Web

open BranchChat.Text.Utf8 (bytes)
open BranchChat.Text.Percent (decode encode unreserved)

namespace Url

variable {c d : Char} {segment : List Char}

/-! ### Characters of a step -/

theorem toNat_lt_of_isAlphanum (h : c.isAlphanum = true) : c.toNat < 128 := by
  have hlt {last : UInt32} (hlast : last.toNat < 128) (hle : c.val ≤ last) : c.toNat < 128 :=
    Nat.lt_of_le_of_lt (UInt32.le_iff_toNat_le.mp hle) hlast
  rcases Bool.or_eq_true_iff.mp h with hletter | hdigit
  · rcases Bool.or_eq_true_iff.mp hletter with hupper | hlower
    · exact hlt (by decide) (of_decide_eq_true hupper).2
    · exact hlt (by decide) (of_decide_eq_true (Bool.and_eq_true_iff.mp hlower).2)
  · exact hlt (by decide) (of_decide_eq_true (Bool.and_eq_true_iff.mp hdigit).2)

theorem toNat_lt_of_unreserved (h : unreserved c = true) : c.toNat < 128 := by
  simp only [unreserved, Bool.or_eq_true, beq_iff_eq] at h
  rcases h with (((hletter | rfl) | rfl) | rfl) | rfl
  · exact toNat_lt_of_isAlphanum hletter
  all_goals decide

/-- What is written into a step: unreserved characters and percent signs. -/
def IsStepChar (c : Char) : Prop :=
  unreserved c = true ∨ c = '%'

instance : DecidablePred IsStepChar := fun _ => inferInstanceAs (Decidable (_ ∨ _))

/-- The characters of a step divide no path, stay as they are, and cannot be dropped. -/
structure IsInert (c : Char) : Prop where
  noSlash : isSlash true c = false
  kept : keepInPath c = true
  visible : 0x20 < c.toNat
  noMark : c ≠ '#' ∧ c ≠ '?'

theorem IsStepChar.isInert (h : IsStepChar c) : IsInert c := by
  have hascii : ∀ n < 128, IsStepChar (Char.ofNat n) →
      isSlash true (Char.ofNat n) = false ∧ keepInPath (Char.ofNat n) = true ∧
        0x20 < (Char.ofNat n).toNat ∧ Char.ofNat n ≠ '#' ∧ Char.ofNat n ≠ '?' := by
    decide
  have hlt : c.toNat < 128 := by
    rcases h with h | rfl
    · exact toNat_lt_of_unreserved h
    · decide
  have hc := hascii c.toNat hlt
  rw [Char.ofNat_toNat] at hc
  obtain ⟨hslash, hkept, hvisible, hmarks⟩ := hc h
  exact ⟨hslash, hkept, hvisible, hmarks⟩

theorem isInert_of_mem_encode {cs : List Char} (h : c ∈ encode unreserved cs) : IsInert c :=
  IsStepChar.isInert (Text.Percent.of_mem_encode_unreserved h)

/-! ### Dot segments -/

theorem isUpper_or_toLower_eq (c : Char) : (65 ≤ c.toNat ∧ c.toNat ≤ 90) ∨ c.toLower = c := by
  unfold Char.toLower
  split
  · next h => exact .inl ⟨UInt32.le_iff_toNat_le.mp h.1, UInt32.le_iff_toNat_le.mp h.2⟩
  · exact .inr rfl

/-- Only lower-case letters are the lower case of others. -/
theorem eq_of_toLower_eq (h : c.toLower = d) (hd : d.isLower = false) : c = d := by
  have hupper : ∀ n ≤ 90, 65 ≤ n → (Char.ofNat n).toLower.isLower = true := by decide
  rcases isUpper_or_toLower_eq c with ⟨hlow, hhigh⟩ | hsame
  · have hlower := hupper c.toNat hhigh hlow
    rw [Char.ofNat_toNat, h, hd] at hlower
    cases hlower
  · rw [← h, hsame]

theorem eq_e_of_toLower_eq (h : c.toLower = 'e') : c = 'e' ∨ c = 'E' := by
  have hupper : ∀ n ≤ 90, 65 ≤ n → (Char.ofNat n).toLower = 'e' → Char.ofNat n = 'E' := by decide
  rcases isUpper_or_toLower_eq c with ⟨hlow, hhigh⟩ | hsame
  · have he := hupper c.toNat hhigh hlow
    rw [Char.ofNat_toNat] at he
    exact .inr (he h)
  · exact .inl (hsame.symm.trans h)

/-- The spellings of a dot, in lower case. -/
def dotForms : List (List Char) :=
  [['.'], ['%', '2', 'e']]

/-- A dot in any spelling, with more after it. -/
theorem exists_of_map_toLower_eq {form more : List Char} (hform : form ∈ dotForms)
    (h : segment.map Char.toLower = form ++ more) :
    ∃ rest, rest.map Char.toLower = more ∧ decode segment = 0x2E :: decode rest := by
  obtain ⟨dot, rest, rfl, hdot, hrest⟩ := List.map_eq_append_iff.mp h
  refine ⟨rest, hrest, ?_⟩
  rcases List.mem_cons.mp hform with rfl | hform
  · obtain ⟨c, _, rfl, hc, hnil⟩ := List.map_eq_cons_iff.mp hdot
    obtain rfl := List.map_eq_nil_iff.mp hnil
    obtain rfl := eq_of_toLower_eq hc (by decide)
    rw [List.singleton_append, Text.Percent.decode_cons_of_ne (by decide)]
    rfl
  · obtain rfl := List.mem_singleton.mp hform
    obtain ⟨percent, _, rfl, hpercent, hdigits⟩ := List.map_eq_cons_iff.mp hdot
    obtain ⟨two, _, rfl, htwo, hlast⟩ := List.map_eq_cons_iff.mp hdigits
    obtain ⟨e, _, rfl, he, hnil⟩ := List.map_eq_cons_iff.mp hlast
    obtain rfl := List.map_eq_nil_iff.mp hnil
    obtain rfl := eq_of_toLower_eq hpercent (by decide)
    obtain rfl := eq_of_toLower_eq htwo (by decide)
    rcases eq_e_of_toLower_eq he with rfl | rfl
    · exact Text.Percent.decode_triple 0x2E rest
    · exact Text.Percent.decode_triple 0x2E rest

/-- Any spelling of one dot stands for one dot. -/
theorem decode_of_isSingleDot (h : isSingleDot segment = true) : decode segment = [0x2E] := by
  have hform : segment.map Char.toLower ∈ dotForms := by
    have hmem := List.mem_map_of_mem (f := String.toList) (List.contains_iff_mem.mp h)
    rwa [String.toList_ofList] at hmem
  obtain ⟨rest, hrest, hdot⟩ := exists_of_map_toLower_eq hform (List.append_nil _).symm
  obtain rfl := List.map_eq_nil_iff.mp hrest
  exact hdot

/-- Any spelling of two dots stands for two dots. -/
theorem decode_of_isDoubleDot (h : isDoubleDot segment = true) : decode segment = [0x2E, 0x2E] := by
  have hforms : ∃ first ∈ dotForms, ∃ second ∈ dotForms,
      segment.map Char.toLower = first ++ second := by
    have hmem := List.mem_map_of_mem (f := String.toList) (List.contains_iff_mem.mp h)
    rw [String.toList_ofList] at hmem
    have hall : ∀ form ∈ ["..", ".%2e", "%2e.", "%2e%2e"].map String.toList,
        ∃ first ∈ dotForms, ∃ second ∈ dotForms, form = first ++ second := by
      decide
    exact hall _ hmem
  obtain ⟨first, hfirst, second, hsecond, heq⟩ := hforms
  obtain ⟨rest, hrest, hdot⟩ := exists_of_map_toLower_eq hfirst heq
  rw [← List.append_nil second] at hrest
  obtain ⟨last, hlast, hdot'⟩ := exists_of_map_toLower_eq hsecond hrest
  obtain rfl := List.map_eq_nil_iff.mp hlast
  rw [hdot, hdot']
  rfl

end Url

/-! ### Steps -/

namespace Backend

open Url

variable {id other : String}

theorem toList_step (id : String) : (step id).toList = encode unreserved id.toList :=
  String.toList_ofList

/-- A step stands for its text. -/
theorem decode_step (id : String) : decode (step id).toList = bytes id.toList := by
  rw [toList_step, Text.Percent.decode_encode rfl]

theorem step_injective : Function.Injective step := by
  intro id other h
  have hlist := congrArg String.toList h
  rw [toList_step, toList_step] at hlist
  exact String.toList_inj.mp (Text.Percent.encode_injective rfl hlist)

theorem step_ne_empty (h : id ≠ "") : step id ≠ "" := by
  intro hempty
  have hnone : step "" = "" := rfl
  exact h (step_injective (hempty.trans hnone.symm))

/-- A step is divided nowhere. -/
theorem slash_not_mem_step (id : String) : '/' ∉ (step id).toList := by
  intro hmem
  rw [toList_step] at hmem
  have hslash := (isInert_of_mem_encode hmem).noSlash
  cases hslash

/-- A step is not encoded once more. -/
theorem encode_step (id : String) : .ofList (encode keepInPath (step id).toList) = step id := by
  have hkeep : ∀ c ∈ (step id).toList, keepInPath c = true := by
    intro c hc
    rw [toList_step] at hc
    exact (isInert_of_mem_encode hc).kept
  rw [Text.Percent.encode_of_forall hkeep, String.ofList_toList]

/-- Only dots make a dot segment. -/
theorem isPlainSegment_step (hsingle : id ≠ ".") (hdouble : id ≠ "..") :
    IsPlainSegment (step id).toList := by
  have hid {other : String} (h : decode (step id).toList = bytes other.toList) : id = other := by
    rw [decode_step] at h
    exact String.toList_inj.mp (Text.Utf8.bytes_injective h)
  refine ⟨fun c hc => ?_, ?_, ?_⟩
  · rw [toList_step] at hc
    exact (isInert_of_mem_encode hc).noSlash
  · by_contra hdots
    exact hdouble (hid (decode_of_isDoubleDot (Bool.not_eq_false _ |>.mp hdots)))
  · by_contra hdot
    exact hsingle (hid (decode_of_isSingleDot (Bool.not_eq_false _ |>.mp hdot)))

end Backend

end BranchChat.Web
