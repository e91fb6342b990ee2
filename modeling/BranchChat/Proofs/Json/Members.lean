import BranchChat.Json.Meaning

/-!
# Members of objects

An object is asked for its members by key. A written member with a key of its own adds that member
and changes nothing else, and a value that nests deep enough is the same for every deeper limit.

## Main statements

- `get?_set`, `get?_without`: look-up after insertion and removal
- `exists_memberValues?_insert`: one more written member
- `value?_succ`: a deeper limit
-/

namespace BranchChat.Json

open BranchChat.Text (Utf8.Symbol)

/-! ### Look-up -/

namespace Members

variable {ms : Members} {key other : String} {value : Value}

theorem get?_cons (k : String) (v : Value) (ms : Members) (other : String) :
    get? ((k, v) :: ms) other = if other = k then some v else ms.get? other := by
  unfold get?
  rw [List.lookup_cons]
  by_cases h : other = k
  · rw [if_pos h, beq_iff_eq.mpr h]
  · rw [if_neg h, beq_false_of_ne h]

theorem get?_map_of_ne (h : other ≠ key) (ms : Members) :
    get? (ms.map fun m => if m.1 == key then (key, value) else m) other = ms.get? other := by
  induction ms with
  | nil => rfl
  | cons m ms ih =>
    obtain ⟨k, v⟩ := m
    by_cases hk : k = key
    · rw [List.map_cons, if_pos (beq_iff_eq.mpr hk), get?_cons, get?_cons, ih, hk, if_neg h,
        if_neg h]
    · rw [List.map_cons, if_neg (mt beq_iff_eq.mp hk), get?_cons, get?_cons, ih]

theorem get?_map_of_any (h : ms.any (·.1 == key) = true) :
    get? (ms.map fun m => if m.1 == key then (key, value) else m) key = some value := by
  induction ms with
  | nil => cases h
  | cons m ms ih =>
    obtain ⟨k, v⟩ := m
    by_cases hk : k = key
    · rw [List.map_cons, if_pos (beq_iff_eq.mpr hk), get?_cons, if_pos rfl]
    · have hrest : ms.any (·.1 == key) = true := by
        rw [List.any_cons, beq_false_of_ne hk, Bool.false_or] at h
        exact h
      rw [List.map_cons, if_neg (mt beq_iff_eq.mp hk), get?_cons, if_neg (Ne.symm hk), ih hrest]

theorem get?_concat_of_not_any (h : ¬ms.any (·.1 == key) = true) (other : String) :
    get? (ms ++ [(key, value)]) other = if other = key then some value else ms.get? other := by
  induction ms with
  | nil => exact get?_cons ..
  | cons m ms ih =>
    obtain ⟨k, v⟩ := m
    rw [List.any_cons, Bool.or_eq_true, not_or, beq_iff_eq] at h
    rw [List.cons_append, get?_cons, get?_cons, ih h.2]
    by_cases hother : other = k
    · subst hother
      rw [if_pos rfl, if_pos rfl, if_neg h.1]
    · rw [if_neg hother, if_neg hother]

theorem get?_set (ms : Members) (key other : String) (value : Value) :
    (ms.set key value).get? other = if other = key then some value else ms.get? other := by
  unfold set
  split
  · next hany =>
    by_cases h : other = key
    · subst h
      rw [if_pos rfl, get?_map_of_any hany]
    · rw [if_neg h, get?_map_of_ne h]
  · next hany => exact get?_concat_of_not_any hany other

theorem get?_without (ms : Members) (key other : String) :
    (ms.without key).get? other = if other = key then none else ms.get? other := by
  unfold without
  induction ms with
  | nil => split <;> rfl
  | cons m ms ih =>
    obtain ⟨k, v⟩ := m
    by_cases hk : k = key
    · rw [List.filter_cons_of_neg (by simpa using hk), ih, get?_cons, hk]
      split <;> rfl
    · rw [List.filter_cons_of_pos (by simpa using hk), get?_cons, get?_cons, ih]
      by_cases hother : other = k
      · rw [if_pos hother, if_neg (hother ▸ hk), if_pos hother]
      · rw [if_neg hother, if_neg hother]

end Members

/-! ### Written members -/

namespace Raw

variable {depth : Nat} {found ms : Members} {key : String}

theorem value?_string {body : List Utf8.Symbol} {text : String} (h : stringOf? body = some text) :
    (string body).value? depth = some (.string text) := by
  rw [value?, h]
  rfl

theorem memberValues?_cons_eq_some_iff {written : List Utf8.Symbol} {item : Raw}
    {members : List (List Utf8.Symbol × Raw)} :
    memberValues? depth found ((written, item) :: members) = some ms ↔
      ∃ k v, stringOf? written = some k ∧ item.value? depth = some v ∧
        memberValues? depth (found.set k v) members = some ms := by
  simp only [memberValues?, Option.bind_eq_bind, Option.bind_eq_some_iff]
  constructor
  · rintro ⟨k, hk, v, hv, hms⟩
    exact ⟨k, v, hk, hv, hms⟩
  · rintro ⟨k, v, hk, hv, hms⟩
    exact ⟨k, hk, v, hv, hms⟩

theorem memberValues?_append (before after : List (List Utf8.Symbol × Raw)) :
    memberValues? depth found (before ++ after) =
      (memberValues? depth found before).bind (memberValues? depth · after) := by
  induction before generalizing found with
  | nil => rfl
  | cons m before ih =>
    obtain ⟨written, item⟩ := m
    rw [List.cons_append, memberValues?, memberValues?]
    cases stringOf? written with
    | none => rfl
    | some k =>
      cases item.value? depth with
      | none => rfl
      | some v => exact ih

/-- A key that was found stays. -/
theorem isSome_get?_of_memberValues? {members : List (List Utf8.Symbol × Raw)}
    (h : memberValues? depth found members = some ms) (hkey : (found.get? key).isSome = true) :
    (ms.get? key).isSome = true := by
  induction members generalizing found with
  | nil =>
    obtain rfl := Option.some.inj h
    exact hkey
  | cons m members ih =>
    obtain ⟨written, item⟩ := m
    obtain ⟨k, v, -, -, hms⟩ := memberValues?_cons_eq_some_iff.mp h
    refine ih hms ?_
    rw [Members.get?_set]
    split
    · rfl
    · exact hkey

/-- Members with other keys do not touch what was found under a key. -/
theorem exists_memberValues?_congr (found' : Members) {members : List (List Utf8.Symbol × Raw)}
    (h : memberValues? depth found members = some ms) (hkey : ms.get? key = none)
    (agree : ∀ other, other ≠ key → found'.get? other = found.get? other) :
    ∃ ms', memberValues? depth found' members = some ms' ∧ ms'.get? key = found'.get? key ∧
      ∀ other, other ≠ key → ms'.get? other = ms.get? other := by
  induction members generalizing found found' with
  | nil =>
    obtain rfl := Option.some.inj h
    exact ⟨found', rfl, rfl, agree⟩
  | cons m members ih =>
    obtain ⟨written, item⟩ := m
    obtain ⟨k, v, hk, hv, hms⟩ := memberValues?_cons_eq_some_iff.mp h
    have hne : key ≠ k := by
      rintro rfl
      have hsome := isSome_get?_of_memberValues? hms
        (by rw [Members.get?_set, if_pos rfl]; rfl : ((found.set key v).get? key).isSome = true)
      rw [hkey] at hsome
      cases hsome
    obtain ⟨ms', hms', hsame, hothers⟩ := ih (found'.set k v) hms fun other hother => by
      rw [Members.get?_set, Members.get?_set, agree other hother]
    refine ⟨ms', memberValues?_cons_eq_some_iff.mpr ⟨k, v, hk, hv, hms'⟩, ?_, hothers⟩
    rw [hsame, Members.get?_set, if_neg hne]

/-- One more written member adds its value under its key and changes nothing else. -/
theorem exists_memberValues?_insert {before after : List (List Utf8.Symbol × Raw)}
    {written : List Utf8.Symbol} {item : Raw} {value : Value}
    (h : memberValues? depth [] (before ++ after) = some ms) (hkey : ms.get? key = none)
    (hwritten : stringOf? written = some key) (hitem : item.value? depth = some value) :
    ∃ ms', memberValues? depth [] (before ++ (written, item) :: after) = some ms' ∧
      ms'.get? key = some value ∧ ∀ other, other ≠ key → ms'.get? other = ms.get? other := by
  rw [memberValues?_append, Option.bind_eq_some_iff] at h
  obtain ⟨found, hfound, hms⟩ := h
  obtain ⟨ms', hms', hsame, hothers⟩ :=
    exists_memberValues?_congr (found.set key value) hms hkey fun other hother => by
      rw [Members.get?_set, if_neg hother]
  refine ⟨ms', ?_, ?_, hothers⟩
  · rw [memberValues?_append, hfound]
    exact memberValues?_cons_eq_some_iff.mpr ⟨key, value, hwritten, hitem, hms'⟩
  · rw [hsame, Members.get?_set, if_pos rfl]

/-! ### Nesting -/

mutual

/-- A value that nests deep enough is the same for a deeper limit. -/
theorem value?_succ {depth : Nat} {raw : Raw} {v : Value} (h : raw.value? depth = some v) :
    raw.value? (depth + 1) = some v := by
  match raw with
  | .null => exact h
  | .bool b => exact h
  | .number l => exact h
  | .string body => exact h
  | .array items =>
    cases depth with
    | zero => cases h
    | succ depth =>
      obtain ⟨vs, hvs, rfl⟩ := Option.map_eq_some_iff.mp h
      exact Option.map_eq_some_iff.mpr ⟨vs, itemValues?_succ hvs, rfl⟩
  | .object members =>
    cases depth with
    | zero => cases h
    | succ depth =>
      obtain ⟨ms, hms, rfl⟩ := Option.map_eq_some_iff.mp h
      exact Option.map_eq_some_iff.mpr ⟨ms, memberValues?_succ hms, rfl⟩

theorem itemValues?_succ {depth : Nat} {items : List Raw} {vs : List Value}
    (h : itemValues? depth items = some vs) : itemValues? (depth + 1) items = some vs := by
  match items with
  | [] => exact h
  | item :: items =>
    simp only [itemValues?, Option.bind_eq_bind, Option.bind_eq_some_iff] at h ⊢
    obtain ⟨v, hv, rest, hrest, heq⟩ := h
    exact ⟨v, value?_succ hv, rest, itemValues?_succ hrest, heq⟩

theorem memberValues?_succ {depth : Nat} {found ms : Members}
    {members : List (List Utf8.Symbol × Raw)} (h : memberValues? depth found members = some ms) :
    memberValues? (depth + 1) found members = some ms := by
  match members with
  | [] => exact h
  | (written, item) :: members =>
    obtain ⟨k, v, hk, hv, hms⟩ := memberValues?_cons_eq_some_iff.mp h
    exact memberValues?_cons_eq_some_iff.mpr
      ⟨k, v, hk, value?_succ hv, memberValues?_succ hms⟩

end

end Raw

end BranchChat.Json
