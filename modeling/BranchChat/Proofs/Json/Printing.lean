import BranchChat.Json.Record
import BranchChat.Proofs.Json.Strings
import Mathlib.Data.List.Forall2

/-!
# Values that were printed

The compact text of a value is read by the grammar as the tree that the value has. Strings, nulls,
arrays and objects are told here; each is shown for its own text with any text behind it, so that
the parts of a value can be put together.

## Main definitions

- `Raw.WrittenAs`: a text that is read as a tree, whatever follows

## Main statements

- `Raw.writtenAs_quoted`, `Raw.writtenAs_array`, `Raw.writtenAs_object`: the kinds of values
- `Raw.WrittenAs.read?`: a whole text
- `Raw.record?_object`: the fields of a printed record
-/

namespace BranchChat.Json

open BranchChat.Text.Utf8 (Symbol)

namespace Raw

/-- A text that is read as a tree, whatever follows. It starts with a token, which does not close an
array. -/
structure WrittenAs (raw : Raw) (cs : List Char) : Prop where
  token : ∃ c cs', cs = c :: cs' ∧ isSpace (some c) = false ∧ c ≠ ']'
  read (fuel : Nat) (rest : List Symbol) (h : cs.length ≤ fuel) :
    readValue? fuel (cs.map some ++ rest) = some (raw, rest)

variable {raw : Raw} {cs : List Char}

theorem skip_cons {c : Char} (h : isSpace (some c) = false) (ss : List Symbol) :
    skip (some c :: ss) = some c :: ss :=
  List.dropWhile_cons_of_neg (by simp [h])

theorem WrittenAs.skip_append (h : WrittenAs raw cs) (rest : List Symbol) :
    skip (cs.map some ++ rest) = cs.map some ++ rest := by
  obtain ⟨c, cs', rfl, hspace, -⟩ := h.token
  exact skip_cons hspace _

theorem WrittenAs.length_pos (h : WrittenAs raw cs) : 0 < cs.length := by
  obtain ⟨c, cs', rfl, -⟩ := h.token
  exact Nat.zero_lt_succ _

/-! ### Strings and nulls -/

theorem writtenAs_null : WrittenAs .null Value.null.print where
  token := ⟨'n', _, rfl, rfl, by decide⟩
  read fuel rest h := by
    obtain _ | fuel := fuel
    · exact absurd h (by decide)
    · rfl

theorem writtenAs_quoted (s : String) :
    WrittenAs (.string (bodyOf s.toList)) (Value.string s).print where
  token := ⟨'"', _, rfl, rfl, by decide⟩
  read fuel rest h := by
    have hprint : (Value.string s).print = quoted s := by rw [Value.print]
    rw [hprint] at h ⊢
    obtain _ | fuel := fuel
    · exact absurd h (Nat.not_succ_le_zero _)
    · rw [map_quoted]
      simp only [List.cons_append, List.append_assoc, List.nil_append, readValue?, body?_bodyOf,
        Option.map_some, List.reverse_nil]

/-! ### Arrays -/

/-- The items of an array, from the next one on. -/
theorem readItems?_print {v : Value} {vs : List Value} {raw : Raw} {raws : List Raw}
    (hv : WrittenAs raw v.print)
    (hvs : List.Forall₂ (fun (v : Value) r => WrittenAs r v.print) vs raws) (fuel : Nat)
    (rest : List Symbol) (h : (v.print ++ Value.printItems vs).length ≤ fuel) :
    readItems? fuel ((v.print ++ Value.printItems vs).map some ++ rest) =
      some (raw :: raws, rest) := by
  induction hvs generalizing v raw fuel with
  | nil =>
    rw [Value.printItems] at h ⊢
    obtain _ | fuel := fuel
    · exact absurd h (by simp)
    rw [List.length_append, List.length_singleton] at h
    rw [readItems?, List.map_append, List.append_assoc, hv.read fuel _ (by omega)]
    rfl
  | @cons v' raw' vs raws hv' hvs ih =>
    rw [Value.printItems] at h ⊢
    obtain _ | fuel := fuel
    · exact absurd h (by simp)
    rw [List.length_append, List.length_cons] at h
    have hpos := hv.length_pos
    have hmore := ih hv' fuel (by omega)
    rw [readItems?, List.map_append, List.append_assoc, hv.read fuel _ (by omega)]
    simp only [Option.bind_eq_bind, Option.bind_some, List.map_cons, List.cons_append]
    rw [skip_cons rfl]
    simp only [List.map_append, List.append_assoc, hv'.skip_append] at hmore ⊢
    rw [hmore]
    rfl

theorem readValue?_array {v : Value} {raw : Raw} (hv : WrittenAs raw v.print) (fuel : Nat)
    (rest : List Symbol) :
    readValue? (fuel + 1) (some '[' :: (v.print.map some ++ rest)) =
      (readItems? fuel (v.print.map some ++ rest)).map fun (items, after) =>
        (.array items, after) := by
  rw [readValue?, hv.skip_append]
  obtain ⟨c, cs', hcs, -, hc⟩ := hv.token
  rw [hcs]
  split
  case h_1 h => cases h; exact absurd rfl hc
  case h_2 => rfl

/-- An array of values that are read is read. -/
theorem writtenAs_array {vs : List Value} {raws : List Raw}
    (h : List.Forall₂ (fun (v : Value) r => WrittenAs r v.print) vs raws) :
    WrittenAs (.array raws) (Value.array vs).print := by
  cases h with
  | nil =>
    refine ⟨⟨'[', _, rfl, rfl, by decide⟩, fun fuel rest h => ?_⟩
    obtain _ | fuel := fuel
    · exact absurd h (by decide)
    · rfl
  | @cons v raw vs raws hv hvs =>
    have hprint : (Value.array (v :: vs)).print = '[' :: (v.print ++ Value.printItems vs) := by
      rw [Value.print]
    rw [hprint]
    refine ⟨⟨'[', _, rfl, rfl, by decide⟩, fun fuel rest h => ?_⟩
    obtain _ | fuel := fuel
    · exact absurd h (Nat.not_succ_le_zero _)
    have hitems := readItems?_print hv hvs fuel rest (Nat.le_of_succ_le_succ h)
    rw [List.map_append, List.append_assoc] at hitems
    rw [List.map_cons, List.map_append, List.cons_append, List.append_assoc,
      readValue?_array hv, hitems]
    rfl

/-! ### Objects -/

/-- A member of an object, by the text of its key and its value. -/
def WrittenMember (m : String × Value) (r : List Symbol × Raw) : Prop :=
  r.1 = bodyOf m.1.toList ∧ WrittenAs r.2 m.2.print

/-- The text of a member. -/
def memberText (m : String × Value) : List Char :=
  quoted m.1 ++ ':' :: m.2.print

theorem readMember?_print {m : String × Value} {r : List Symbol × Raw} (hm : WrittenMember m r)
    (fuel : Nat) (rest : List Symbol) (h : m.2.print.length ≤ fuel) :
    readMembers? (fuel + 1) ((memberText m).map some ++ rest) =
      match skip rest with
      | some '\x7d' :: after => some ([r], after)
      | some ',' :: rest => do
        let (members, after) ← readMembers? fuel (skip rest)
        some (r :: members, after)
      | _ => none := by
  obtain ⟨key, raw⟩ := r
  obtain ⟨rfl, hvalue⟩ := hm
  rw [memberText, List.map_append, map_quoted]
  simp only [List.map_cons, List.cons_append, List.append_assoc, List.nil_append, readMembers?,
    body?_bodyOf, Option.bind_eq_bind, Option.bind_some, List.reverse_nil]
  rw [skip_cons rfl]
  show (readValue? fuel (skip (m.2.print.map some ++ rest))).bind _ = _
  rw [hvalue.skip_append]
  exact congrArg (Option.bind · _) (hvalue.read fuel rest h)

theorem printMembers_cons (m : String × Value) (ms : List (String × Value)) :
    Value.printMembers (m :: ms) = ',' :: (memberText m ++ Value.printMembers ms) := by
  rw [Value.printMembers, memberText, List.append_assoc, List.cons_append]

theorem print_object_cons (m : String × Value) (ms : List (String × Value)) :
    (Value.object (m :: ms)).print = '\x7b' :: (memberText m ++ Value.printMembers ms) := by
  rw [Value.print, memberText, List.append_assoc, List.cons_append]

theorem memberText_eq_cons (m : String × Value) : ∃ cs, memberText m = '"' :: cs :=
  ⟨_, rfl⟩

theorem skip_memberText (m : String × Value) (rest : List Symbol) :
    skip ((memberText m).map some ++ rest) = (memberText m).map some ++ rest := by
  obtain ⟨cs, hcs⟩ := memberText_eq_cons m
  rw [hcs]
  exact skip_cons rfl _

theorem length_print_lt_length_memberText (m : String × Value) :
    m.2.print.length < (memberText m).length := by
  rw [memberText, List.length_append, List.length_cons]
  omega

/-- The members of an object, from the next one on. -/
theorem readMembers?_print {m : String × Value} {ms : List (String × Value)}
    {r : List Symbol × Raw} {rs : List (List Symbol × Raw)} (hm : WrittenMember m r)
    (hms : List.Forall₂ WrittenMember ms rs) (fuel : Nat) (rest : List Symbol)
    (h : (memberText m ++ Value.printMembers ms).length ≤ fuel) :
    readMembers? fuel ((memberText m ++ Value.printMembers ms).map some ++ rest) =
      some (r :: rs, rest) := by
  have hvalue := length_print_lt_length_memberText m
  induction hms generalizing m r fuel with
  | nil =>
    obtain _ | fuel := fuel
    · rw [List.length_append] at h
      omega
    rw [List.length_append] at h
    rw [List.map_append, List.append_assoc, readMember?_print hm fuel _ (by omega)]
    rfl
  | @cons m' r' ms rs hm' hms ih =>
    obtain _ | fuel := fuel
    · rw [List.length_append] at h
      omega
    rw [printMembers_cons, List.length_append, List.length_cons] at h
    have hmore := ih hm' fuel (by omega) (length_print_lt_length_memberText m')
    rw [printMembers_cons, List.map_append, List.append_assoc,
      readMember?_print hm fuel _ (by omega), List.map_cons, List.cons_append, skip_cons rfl]
    simp only [List.map_append, List.append_assoc, skip_memberText] at hmore ⊢
    rw [hmore]
    rfl

theorem readValue?_object (m : String × Value) (fuel : Nat) (rest : List Symbol) :
    readValue? (fuel + 1) (some '\x7b' :: ((memberText m).map some ++ rest)) =
      (readMembers? fuel ((memberText m).map some ++ rest)).map fun (ms, after) =>
        (.object ms, after) := by
  rw [readValue?, skip_memberText]
  obtain ⟨cs, hcs⟩ := memberText_eq_cons m
  rw [hcs]
  rfl

/-- An object whose members are read is read. -/
theorem writtenAs_object {ms : List (String × Value)} {rs : List (List Symbol × Raw)}
    (h : List.Forall₂ WrittenMember ms rs) : WrittenAs (.object rs) (Value.object ms).print := by
  cases h with
  | nil =>
    refine ⟨⟨'\x7b', _, rfl, rfl, by decide⟩, fun fuel rest h => ?_⟩
    obtain _ | fuel := fuel
    · exact absurd h (by decide)
    · rfl
  | @cons m r ms rs hm hms =>
    rw [print_object_cons]
    refine ⟨⟨'\x7b', _, rfl, rfl, by decide⟩, fun fuel rest h => ?_⟩
    obtain _ | fuel := fuel
    · exact absurd h (Nat.not_succ_le_zero _)
    have hmembers := readMembers?_print hm hms fuel rest (Nat.le_of_succ_le_succ h)
    rw [List.map_append, List.append_assoc] at hmembers
    rw [List.map_cons, List.map_append, List.cons_append, List.append_assoc,
      readValue?_object m, hmembers]
    rfl

/-! ### Whole texts -/

/-- A text of its own is read as its tree. -/
theorem WrittenAs.read? (h : WrittenAs raw cs) : read? (cs.map some) = some raw := by
  have hskip := h.skip_append []
  have hread := h.read ((cs.map some).length + 1) [] (by rw [List.length_map]; omega)
  rw [List.append_nil] at hskip hread
  rw [Raw.read?, hskip, hread]
  rfl

end Raw

theorem namedFields?_of_mem {names : List String} {fields : List (String × Raw)}
    (h : ∀ f ∈ fields, f.1 ∈ names) :
    namedFields? names (fields.map fun f => (Raw.bodyOf f.1.toList, f.2)) = some fields := by
  induction fields with
  | nil => rfl
  | cons f fields ih =>
    have hname : f.1 ∈ names := h f List.mem_cons_self
    rw [List.map_cons, namedFields?, Raw.stringOf?_bodyOf,
      ih fun g hg => h g (List.mem_cons_of_mem f hg)]
    simp [hname]

/-- A record that was printed with fields of its own, each once, has these fields. -/
theorem Raw.record?_object {names : List String} {fields : List (String × Raw)}
    (h : ∀ f ∈ fields, f.1 ∈ names)
    (once : (fields.map Prod.fst).eraseDups.length = fields.length) :
    Raw.record? names (.object (fields.map fun f => (Raw.bodyOf f.1.toList, f.2))) =
      some ⟨fields, false⟩ := by
  rw [Raw.record?, namedFields?_of_mem h]
  simp [once]

end BranchChat.Json
