import BranchChat.Json.Meaning

/-!
# Reading records

A record is written as an object with the fields by name, or as an array with the fields in their
declared order. Members that are no field are ignored. A field must not be written twice.

An object may leave out an optional or a defaulted field. An array may leave out defaulted fields
at its end only.

## Main definitions

- `Record`: the written fields of a record
- `Raw.record?`: the fields of a tree
- `Record.required`, `Record.optional`, `Record.defaulted`: one field
-/

namespace BranchChat.Json

/-- The fields of a record that are written, and whether they were written by position. -/
structure Record where
  written : List (String × Raw)
  positional : Bool

/-- The members of an object whose keys are names of fields. Every key must be a string. -/
def namedFields? (names : List String) :
    List (List Text.Utf8.Symbol × Raw) → Option (List (String × Raw))
  | [] => some []
  | (key, value) :: members => do
    let name ← Raw.stringOf? key
    let fields ← namedFields? names members
    if names.contains name then some ((name, value) :: fields) else some fields

/-- The fields of a tree under the given names. -/
def Raw.record? (names : List String) : Raw → Option Record
  | .object members => do
    let fields ← namedFields? names members
    if (fields.map Prod.fst).eraseDups.length = fields.length then some ⟨fields, false⟩ else none
  | .array items =>
    if items.length ≤ names.length then some ⟨names.zip items, true⟩ else none
  | _ => none

/-- A reader gives the meaning of a tree, if it has one of the wanted kind. -/
abbrev ReaderOf (α : Type) := Raw → Option α

namespace Record

variable {α : Type}

/-- The tree of a field. -/
def raw? (r : Record) (name : String) : Option Raw :=
  r.written.lookup name

/-- A field that must be there. -/
def required (r : Record) (name : String) (read : ReaderOf α) : Option α :=
  (r.raw? name).bind read

/-- A field that, when it is left out, has a given value. -/
def defaulted (r : Record) (name : String) (read : ReaderOf α) (default : α) : Option α :=
  match r.raw? name with
  | some raw => read raw
  | none => some default

/-- A field that an object may leave out, but an array may not. -/
def optional (r : Record) (name : String) (read : ReaderOf (Option α)) : Option (Option α) :=
  match r.raw? name with
  | some raw => read raw
  | none => if r.positional then none else some none

end Record

/-- Reads a string. -/
def readString : ReaderOf String
  | .string body => Raw.stringOf? body
  | _ => none

/-- Reads null as nothing, and all else with `read`. -/
def readOption {α : Type} (read : ReaderOf α) : ReaderOf (Option α)
  | .null => some none
  | raw => (read raw).map some

/-- Reads an array of which every item is read with `read`. -/
def readList {α : Type} (read : ReaderOf α) : ReaderOf (List α)
  | .array items => items.mapM read
  | _ => none

/-- Reads an integer below `2 ^ 32`. -/
def readWord32 : ReaderOf UInt32
  | .number literal =>
    match literal.number? with
    | some (.integer (.ofNat n)) => if n < Nat.pow 2 32 then some (UInt32.ofNat n) else none
    | _ => none
  | _ => none

/-- The meaning of a whole text. -/
def decode? {α : Type} (read : ReaderOf α) (ss : List Text.Utf8.Symbol) : Option α :=
  (Raw.read? ss).bind read

end BranchChat.Json
