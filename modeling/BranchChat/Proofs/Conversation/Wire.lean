import BranchChat.Conversation.Message
import BranchChat.Proofs.Calendar.Reading
import BranchChat.Proofs.Json.Printing
import BranchChat.Proofs.Text.Encoding

/-!
# Messages on the wire

A message is read in many spellings, and printed in one. What is printed is read as the same
message, so printing settles the spelling: whatever text a message was read from, its printed text
stands for the same message, and is printed the same again.

## Main definitions

- `Message.printed`: the bytes of a message
- `Message.fields`: the fields of a printed message

## Main statements

- `Message.decode?_printed`: a printed message is read as that message
- `Message.reprinted_of_decode?`: the same after any spelling
-/

namespace BranchChat

open BranchChat.Json
open BranchChat.Calendar (Timestamp)
open BranchChat.Text.Utf8 (bytes symbols symbols_bytes)

namespace Message

/-- The bytes that a message is printed as. -/
def printed (m : Message) : List UInt8 :=
  bytes m.text.toList

/-! ### The printed fields -/

/-- A string as it is read. -/
def stringTree (s : String) : Raw :=
  .string (Raw.bodyOf s.toList)

/-- A string or null, as it is read. -/
def optionTree : Option String → Raw
  | some s => stringTree s
  | none => .null

/-- The fields of a printed message, as they are read. -/
def fields (m : Message) : List (String × Raw) :=
  [("id", stringTree m.id), ("parent_id", optionTree m.parent), ("content", stringTree m.content),
    ("response", optionTree m.response), ("created_at", stringTree m.createdAt.text),
    ("children", .array (m.listedChildren.map stringTree))]

theorem writtenAs_optionTree (s : Option String) :
    Raw.WrittenAs (optionTree s) (optionValue s).print := by
  cases s with
  | none => exact Raw.writtenAs_null
  | some s => exact Raw.writtenAs_quoted s

theorem writtenAs_strings (ss : List String) :
    Raw.WrittenAs (.array (ss.map stringTree)) (Value.array (ss.map .string)).print := by
  refine Raw.writtenAs_array ?_
  rw [List.forall₂_map_left_iff, List.forall₂_map_right_iff, List.forall₂_same]
  exact fun s _ => Raw.writtenAs_quoted s

/-- The grammar finds the fields in the printed text. -/
theorem writtenAs_fields (m : Message) :
    Raw.WrittenAs (.object (m.fields.map fun f => (Raw.bodyOf f.1.toList, f.2)))
      m.toValue.print := by
  refine Raw.writtenAs_object ?_
  refine .cons ⟨rfl, Raw.writtenAs_quoted m.id⟩ (.cons ⟨rfl, writtenAs_optionTree m.parent⟩
    (.cons ⟨rfl, Raw.writtenAs_quoted m.content⟩ (.cons ⟨rfl, writtenAs_optionTree m.response⟩
    (.cons ⟨rfl, Raw.writtenAs_quoted m.createdAt.text⟩
    (.cons ⟨rfl, writtenAs_strings m.listedChildren⟩ .nil)))))

/-! ### Their meaning -/

theorem readString_stringTree (s : String) : readString (stringTree s) = some s :=
  Raw.stringOf?_bodyOf s

theorem readOption_optionTree (s : Option String) :
    readOption readString (optionTree s) = some s := by
  cases s with
  | none => rfl
  | some s => exact congrArg (Option.map some) (readString_stringTree s)

theorem readList_strings (ss : List String) :
    readList readString (.array (ss.map stringTree)) = some ss := by
  induction ss with
  | nil => rfl
  | cons s ss ih =>
    simp only [readList] at ih
    simp [readList, readString_stringTree, ih]

theorem read_stringTree_text (t : Timestamp) : Timestamp.read (stringTree t.text) = some t := by
  rw [stringTree, Timestamp.read, Raw.text?_bodyOf, List.reverse_nil, List.nil_append,
    Option.bind_some, t.read?_text]

/-- The printed fields mean the message. -/
theorem read_fields (m : Message) :
    read (.object (m.fields.map fun f => (Raw.bodyOf f.1.toList, f.2))) = some m := by
  have honce : (m.fields.map Prod.fst).eraseDups.length = m.fields.length := by
    have hnames : m.fields.map Prod.fst = fieldNames := rfl
    have hlength : m.fields.length = fieldNames.length := rfl
    rw [hnames, hlength]
    decide
  have hnames : ∀ f ∈ m.fields, f.1 ∈ fieldNames := by simp [fields, fieldNames]
  rw [read, Raw.record?_object hnames honce]
  simp [Record.required, Record.defaulted, Record.raw?, fields, List.lookup_cons, readString_stringTree,
    readOption_optionTree, readList_strings, read_stringTree_text]

/-! ### Round trips -/

/-- A printed message is read as that message. -/
theorem decode?_printed (m : Message) : decode? read (symbols m.printed) = some m := by
  have htext : m.text.toList = m.toValue.print := String.toList_ofList
  rw [printed, symbols_bytes, htext, decode?, m.writtenAs_fields.read?, Option.bind_some,
    read_fields]

/-- The printed form of the message that a text is read as. -/
def reprint? (bs : List UInt8) : Option (List UInt8) :=
  (decode? read (symbols bs)).map printed

/-- Whatever text a message was read from, in whichever of its spellings: what is printed for it is
read as this very message, and is printed the same again. -/
theorem reprinted_of_decode? {bs : List UInt8} {m : Message}
    (h : decode? read (symbols bs) = some m) :
    reprint? bs = some m.printed ∧ decode? read (symbols m.printed) = some m ∧
      reprint? m.printed = some m.printed := by
  have hprinted := m.decode?_printed
  refine ⟨?_, hprinted, ?_⟩
  · rw [reprint?, h, Option.map_some]
  · rw [reprint?, hprinted, Option.map_some]

/-- A message by position, with an escape, an offset and a fraction of a leap second. -/
def leapText : List UInt8 :=
  bytes "[\"m\\u00e9\", null, \"Hi\\n\", null, \"2016-12-31T23:59:60.5+05:30\"]".toList

/-- The message of this text. -/
def leapMessage : Message :=
  ⟨"mé", none, "Hi\n", none,
    ⟨⟨2016, 12, 31, by decide⟩, 18 * 60 + 29, 60, 500000000, by decide⟩, []⟩

theorem reprinted_of_decode?_leapText :
    decode? read (symbols leapText) = some leapMessage ∧
      reprint? leapText = some leapMessage.printed ∧
      decode? read (symbols leapMessage.printed) = some leapMessage ∧
      reprint? leapMessage.printed = some leapMessage.printed := by
  have h : decode? read (symbols leapText) = some leapMessage := by decide +kernel
  exact ⟨h, reprinted_of_decode? h⟩

end Message

end BranchChat
