import BranchChat.Proofs.Stream.Lines
import BranchChat.Proofs.Stream.Spellings
import Mathlib.Data.List.Basic
import Mathlib.Data.List.Induction
import Mathlib.Data.List.TakeDrop
import Mathlib.Logic.Relation

/-!
# Bad lines are contained

All that a line can do to later ones is to announce a kind, and a blank line takes that back. So what
a data line gives depends on the line itself and on the line that announces for it. Any other line may
be put in or taken out anywhere, whatever bytes it is made of, as may data that gives no event where
it stands.

## Main definitions

- `RawLine`: the bytes of a line, with its text, the name of its field and its value
- `announcer`: the line that announces the kind of what follows some lines
- `IsIdle`: a line that gives nothing after others and announces nothing
- `PutIn`: one idle line is put between others

## Main statements

- `start_feed_joined`: what is read after some lines depends on the announced kind only
- `eventsOf_eq_flatMap`: each line is read by itself, or after its announcer
- `start_feed_joined_cons`: a line that announces nothing is taken out
- `eventsOf_contained`: lines of any bytes are contained
-/

namespace BranchChat.Stream.Framing

open BranchChat.Json (Members Value)
open BranchChat.Text (cutFirst trim)

/-- The bytes of a line without its end. -/
structure RawLine where
  bytes : List UInt8
  unbroken : newline ∉ bytes

namespace RawLine

/-- The text of a line. One carriage return at its end belongs to the line end, and whatever is not
text is replaced. -/
def text (line : RawLine) : List Char :=
  let text := Text.Utf8.lenient line.bytes
  if text.getLast? = some '\r' then text.dropLast else text

/-- The name of the field, which is all that is before the first colon. That of a comment is empty. -/
def field (line : RawLine) : List Char :=
  line.text.takeWhile (· != ':')

/-- What is after the first colon. -/
def value (line : RawLine) : List Char :=
  (line.text.dropWhile (· != ':')).tail

/-- A line without a text ends a block. -/
def isBlank (line : RawLine) : Bool :=
  line.text.isEmpty

def isEvent (line : RawLine) : Bool :=
  line.field == "event".toList

def isData (line : RawLine) : Bool :=
  line.field == "data".toList

/-- The kind that an `event` line announces, if it is not empty. -/
def name? (line : RawLine) : Option String :=
  let name := trim line.value
  if name.isEmpty then none else some (.ofList name)

end RawLine

variable {lines lines' before after : List RawLine} {line : RawLine}

/-- The bytes of lines, each ended by a newline. -/
def joined (lines : List RawLine) : List UInt8 :=
  lines.flatMap (·.bytes ++ [newline])

/-- The events that a new framing gives for lines. -/
def eventsOf (lines : List RawLine) : List WireEvent :=
  (start.feed (joined lines)).2

/-- The line that announces the kind of what follows: the last `event` line since the last blank
line. -/
def announcer (lines : List RawLine) : Option RawLine :=
  (lines.reverse.takeWhile (!·.isBlank)).find? (·.isEvent)

/-- The kind that is announced for what follows. -/
def kindAfter (lines : List RawLine) : Option String :=
  (announcer lines).bind (·.name?)

/-- A line that is not blank and no `event` line, and which gives no event after others. This may be
a comment, an unknown field, or data. -/
structure IsIdle (before : List RawLine) (line : RawLine) : Prop where
  not_blank : line.isBlank = false
  not_event : line.isEvent = false
  silent : line.isData = true → eventsOf (before ++ [line]) = eventsOf before

/-- One idle line is put between others. -/
inductive PutIn : List RawLine → List RawLine → Prop where
  | intro {before : List RawLine} {line : RawLine} (idle : IsIdle before line)
      (after : List RawLine) : PutIn (before ++ after) (before ++ line :: after)

/-! ### Reading one line -/

theorem RawLine.isBlank_iff : line.isBlank = true ↔ line.text = [] :=
  List.isEmpty_iff

theorem RawLine.isEvent_iff : line.isEvent = true ↔ line.field = "event".toList :=
  beq_iff_eq

theorem RawLine.isData_iff : line.isData = true ↔ line.field = "data".toList :=
  beq_iff_eq

/-- A line has one field only. -/
theorem RawLine.of_isData (h : line.isData = true) :
    line.isBlank = false ∧ line.isEvent = false := by
  have hfield := RawLine.isData_iff.mp h
  constructor
  · cases hblank : line.isBlank with
    | false => rfl
    | true =>
      rw [RawLine.field, RawLine.isBlank_iff.mp hblank] at hfield
      cases hfield
  · cases hevent : line.isEvent with
    | false => rfl
    | true =>
      rw [RawLine.isEvent_iff.mp hevent] at hfield
      cases hfield

theorem cutFirst_colon (text : List Char) :
    cutFirst (· == ':') text =
      match text.dropWhile (· != ':') with
      | [] => none
      | _ :: after => some (text.takeWhile (· != ':'), after) := by
  have hspan : (text.span fun c => !(c == ':')) =
      (text.takeWhile (· != ':'), text.dropWhile (· != ':')) := List.span_eq_takeWhile_dropWhile _ _
  unfold cutFirst
  rw [hspan]
  cases text.dropWhile (· != ':') <;> rfl

/-- A text that is not empty is a field and its value, also where it is a comment. -/
theorem ofChars_of_ne_nil {text : List Char} (h : text ≠ []) :
    Line.ofChars text =
      .ofField (text.takeWhile (· != ':')) (fieldValue (text.dropWhile (· != ':')).tail) := by
  unfold Line.ofChars
  split
  · exact absurd rfl h
  · -- A comment has an empty name, which is that of no known field.
    rfl
  · rw [cutFirst_colon]
    cases hdrop : text.dropWhile (· != ':') with
    | nil =>
      have hall : text.takeWhile (· != ':') = text := by
        have hwhole := List.takeWhile_append_dropWhile (p := (· != ':')) (l := text)
        rwa [hdrop, List.append_nil] at hwhole
      rw [hall]
      rfl
    | cons colon after => rfl

/-- What a line says, read off its text. -/
theorem ofBytes_raw (line : RawLine) :
    Line.ofBytes line.bytes =
      if line.isBlank then .blank
      else if line.isEvent then .kind line.name?
      else if line.isData then .data (fieldValue line.value)
      else .other := by
  show Line.ofChars line.text = _
  simp only [RawLine.isBlank_iff, RawLine.isEvent_iff, RawLine.isData_iff]
  by_cases hblank : line.text = []
  · rw [if_pos hblank, hblank]
    rfl
  · rw [if_neg hblank, ofChars_of_ne_nil hblank]
    show Line.ofField line.field (fieldValue line.value) = _
    unfold Line.ofField
    rw [trim_fieldValue]
    rfl

/-- What is announced after a line. -/
theorem readLine_raw_fst (announced : Option String) (line : RawLine) :
    (readLine announced (.ofBytes line.bytes)).1 =
      if line.isBlank then none else if line.isEvent then line.name? else announced := by
  rw [ofBytes_raw]
  repeat' split
  all_goals rfl

/-- Only data gives an event. -/
theorem readLine_raw_snd (announced : Option String) (line : RawLine) :
    (readLine announced (.ofBytes line.bytes)).2 =
      if line.isData then WireEvent.ofPayload? announced line.value else none := by
  by_cases hdata : line.isData = true
  · obtain ⟨not_blank, not_event⟩ := RawLine.of_isData hdata
    rw [ofBytes_raw, not_blank, not_event, if_pos hdata]
    simp only [Bool.false_eq_true, if_false, if_pos hdata]
    exact ofPayload?_fieldValue announced line.value
  · rw [ofBytes_raw, if_neg hdata, if_neg hdata]
    repeat' split
    all_goals rfl

/-- Data gives no event if it is no object, or if no kind is told by the object or announced. -/
theorem ofPayload?_eq_none_iff {announced : Option String} {payload : List Char} :
    WireEvent.ofPayload? announced payload = none ↔
      ∀ ms, Value.parse? ((trim payload).map some) = some (.object ms) →
        (Value.object ms).textAt? "type" = none ∧ announced = none := by
  unfold WireEvent.ofPayload?
  split
  · next ms hparse =>
    rw [hparse]
    simp [WireEvent.ofMembers?, takeText_fst]
  · next hparse => exact iff_of_true rfl fun ms hms => absurd hms (hparse ms)

/-! ### Reading lines -/

theorem readLines_append (announced : Option String) (l m : List (List UInt8)) :
    readLines announced (l ++ m) =
      ((readLines (readLines announced l).1 m).1,
        (readLines announced l).2 ++ (readLines (readLines announced l).1 m).2) := by
  induction l generalizing announced with
  | nil => rfl
  | cons line l ih => simp only [List.cons_append, readLines, ih, List.append_assoc]

theorem joined_append (lines lines' : List RawLine) :
    joined (lines ++ lines') = joined lines ++ joined lines' :=
  List.flatMap_append

theorem wholeLines_joined (lines : List RawLine) (more : List UInt8) :
    wholeLines (joined lines ++ more) = lines.map (·.bytes) ++ wholeLines more := by
  induction lines with
  | nil => rfl
  | cons line lines ih =>
    have hcons : joined (line :: lines) ++ more = line.bytes ++ newline :: (joined lines ++ more) := by
      simp [joined]
    rw [hcons, wholeLines_append_newline line.unbroken, ih]
    rfl

theorem openLine_joined (lines : List RawLine) : openLine (joined lines) = [] := by
  induction lines with
  | nil => rfl
  | cons line lines ih =>
    have hcons : joined (line :: lines) = line.bytes ++ newline :: joined lines := by simp [joined]
    rw [hcons, openLine_append_newline line.unbroken, ih]

theorem announcer_concat (lines : List RawLine) (line : RawLine) :
    announcer (lines ++ [line]) =
      if line.isBlank then none else if line.isEvent then some line else announcer lines := by
  unfold announcer
  rw [List.reverse_append, List.reverse_singleton, List.singleton_append, List.takeWhile_cons]
  cases line.isBlank with
  | true => rfl
  | false => cases hevent : line.isEvent <;> simp [hevent]

/-- The line that announces is an `event` line. -/
theorem of_announcer_eq_some {a : RawLine} (h : announcer lines = some a) :
    a.isEvent = true ∧ a.isBlank = false := by
  refine ⟨List.find?_some h, ?_⟩
  have hall := List.all_takeWhile (l := lines.reverse) (p := (!·.isBlank))
  simpa using List.all_eq_true.mp hall a (List.mem_of_find?_eq_some h)

/-- Whole lines leave nothing but what they have announced. -/
theorem start_feed_joined_eq (lines : List RawLine) :
    start.feed (joined lines) =
      (⟨[], (readLines none (lines.map (·.bytes))).1⟩, (readLines none (lines.map (·.bytes))).2) := by
  have hwhole := wholeLines_joined lines []
  rw [List.append_nil, wholeLines_of_not_mem List.not_mem_nil, List.append_nil] at hwhole
  rw [start_feed, hwhole, openLine_joined]
  rfl

theorem eventsOf_eq_readLines (lines : List RawLine) :
    eventsOf lines = (readLines none (lines.map (·.bytes))).2 :=
  congrArg Prod.snd (start_feed_joined_eq lines)

/-- What has been announced when lines have been read is the kind of their announcer. -/
theorem kindAfter_eq_readLines (lines : List RawLine) :
    kindAfter lines = (readLines none (lines.map (·.bytes))).1 := by
  induction lines using List.reverseRecOn with
  | nil => rfl
  | append_singleton lines line ih =>
    rw [List.map_append, readLines_append, ← ih]
    show _ = (readLine (kindAfter lines) (.ofBytes line.bytes)).1
    rw [readLine_raw_fst, kindAfter, announcer_concat]
    repeat' split
    all_goals rfl

/-- One more line adds the event that it gives. -/
theorem eventsOf_concat (lines : List RawLine) (line : RawLine) :
    eventsOf (lines ++ [line]) = eventsOf lines ++
      if line.isData then (WireEvent.ofPayload? (kindAfter lines) line.value).toList else [] := by
  rw [eventsOf_eq_readLines, List.map_append, readLines_append, ← kindAfter_eq_readLines,
    ← eventsOf_eq_readLines]
  show _ ++ ((readLine (kindAfter lines) (.ofBytes line.bytes)).2.toList ++ []) = _
  rw [readLine_raw_snd, List.append_nil]
  split <;> rfl

/-- What follows lines is read by a framing that has kept their kind and nothing else. -/
theorem start_feed_joined (lines : List RawLine) (more : List UInt8) :
    start.feed (joined lines ++ more) =
      let rest := (Framing.mk [] (kindAfter lines)).feed more
      (rest.1, eventsOf lines ++ rest.2) := by
  rw [feed_append, start_feed_joined_eq, ← kindAfter_eq_readLines, ← eventsOf_eq_readLines]

/-! ### What the events of a line depend on -/

/-- The announcer of lines announces by itself what it announces there. -/
theorem announcer_toList (lines : List RawLine) :
    announcer (announcer lines).toList = announcer lines := by
  cases h : announcer lines with
  | none => rfl
  | some a =>
    obtain ⟨hevent, hblank⟩ := of_announcer_eq_some h
    have hconcat := announcer_concat [] a
    rwa [if_neg (by simp [hblank]), if_pos hevent] at hconcat

/-- A line gives the same after its announcer as after all lines. -/
theorem eventsOf_announcer_concat (lines : List RawLine) (line : RawLine) :
    eventsOf (lines ++ [line]) =
      eventsOf lines ++ eventsOf ((announcer lines).toList ++ [line]) := by
  have hkind : kindAfter (announcer lines).toList = kindAfter lines := by
    rw [kindAfter, announcer_toList, kindAfter]
  have hnone : eventsOf (announcer lines).toList = [] := by
    cases h : announcer lines with
    | none => rfl
    | some a =>
      -- An `event` line is no data, so that it gives nothing itself.
      have hdata : ¬a.isData = true := by
        intro hdata
        have hevent := (of_announcer_eq_some h).1
        rw [(RawLine.of_isData hdata).2] at hevent
        cases hevent
      have hconcat := eventsOf_concat [] a
      rwa [if_neg hdata] at hconcat
  rw [eventsOf_concat, eventsOf_concat (announcer lines).toList, hkind, hnone, List.nil_append]

theorem eventsOf_eq_flatMap (lines : List RawLine) :
    eventsOf lines = (List.range lines.length).flatMap fun i =>
      eventsOf ((announcer (lines.take i)).toList ++ lines[i]?.toList) := by
  induction lines using List.reverseRecOn with
  | nil => rfl
  | append_singleton lines line ih =>
    -- One more line at the end changes nothing for the lines before it.
    have hearlier : ∀ i ∈ List.range lines.length,
        eventsOf ((announcer ((lines ++ [line]).take i)).toList ++ (lines ++ [line])[i]?.toList) =
          eventsOf ((announcer (lines.take i)).toList ++ lines[i]?.toList) := by
      intro i hi
      have hlt := List.mem_range.mp hi
      rw [List.take_append_of_le_length (Nat.le_of_lt hlt), List.getElem?_append_left hlt]
    rw [eventsOf_announcer_concat, List.length_append, List.length_singleton, List.range_succ,
      List.flatMap_append, List.flatMap_congr hearlier, ← ih]
    simp

/-! ### Taking lines out -/

/-- A line that announces nothing adds what it gives, and is not noticed otherwise. -/
theorem start_feed_joined_cons (before after : List RawLine) (more : List UInt8)
    (not_blank : line.isBlank = false) (not_event : line.isEvent = false) :
    let rest := (Framing.mk [] (kindAfter before)).feed (joined after ++ more)
    start.feed (joined (before ++ line :: after) ++ more) =
        (rest.1, eventsOf (before ++ [line]) ++ rest.2) ∧
      start.feed (joined (before ++ after) ++ more) = (rest.1, eventsOf before ++ rest.2) := by
  have hkind : kindAfter (before ++ [line]) = kindAfter before := by
    rw [kindAfter, announcer_concat, if_neg (by simp [not_blank]), if_neg (by simp [not_event]),
      kindAfter]
  have hsplit : before ++ line :: after = (before ++ [line]) ++ after := by simp
  intro rest
  constructor
  · rw [hsplit, joined_append, List.append_assoc, start_feed_joined, hkind]
  · rw [joined_append, List.append_assoc, start_feed_joined]

theorem PutIn.feed_eq (h : PutIn lines lines') (more : List UInt8) :
    start.feed (joined lines ++ more) = start.feed (joined lines' ++ more) := by
  cases h with
  | @intro before line idle after =>
    obtain ⟨hwith, hwithout⟩ :=
      start_feed_joined_cons before after more idle.not_blank idle.not_event
    have hsilent : eventsOf (before ++ [line]) = eventsOf before := by
      by_cases hdata : line.isData = true
      · exact idle.silent hdata
      · rw [eventsOf_concat, if_neg hdata, List.append_nil]
    rw [hwith, hwithout, hsilent]

theorem feed_eq_of_eqvGen (h : Relation.EqvGen PutIn lines lines') (more : List UInt8) :
    start.feed (joined lines ++ more) = start.feed (joined lines' ++ more) := by
  induction h with
  | rel lines lines' h => exact h.feed_eq more
  | refl lines => rfl
  | symm lines lines' h ih => exact ih.symm
  | trans lines lines' lines'' h h' ih ih' => exact ih.trans ih'

/-- Lines of any bytes are contained. What a line gives is what it gives when it is read by itself,
or just after the last `event` line since the last blank line. Data gives no event just if it is no
object, or if no kind is told by the object or announced. Lines that are idle where they stand may be
put in and taken out, one after the other, and whatever comes then is read the same. To take out a line
that gives an event takes out this event only. What follows a blank line is read as if nothing had
come before. -/
theorem eventsOf_contained :
    (∀ lines, eventsOf lines = (List.range lines.length).flatMap fun i =>
      eventsOf ((announcer (lines.take i)).toList ++ lines[i]?.toList)) ∧
    (∀ before line, line.isData = true → (eventsOf (before ++ [line]) = eventsOf before ↔
      ∀ ms, Value.parse? ((trim line.value).map some) = some (.object ms) →
        (Value.object ms).textAt? "type" = none ∧ kindAfter before = none)) ∧
    (∀ lines lines', Relation.EqvGen PutIn lines lines' → ∀ more,
      start.feed (joined lines ++ more) = start.feed (joined lines' ++ more)) ∧
    (∀ before line after e, eventsOf (before ++ [line]) = eventsOf before ++ [e] → ∀ more,
      ∃ f rest,
        start.feed (joined (before ++ line :: after) ++ more) = (f, eventsOf before ++ e :: rest) ∧
          start.feed (joined (before ++ after) ++ more) = (f, eventsOf before ++ rest)) ∧
    ∀ before line more, line.isBlank = true →
      start.feed (joined (before ++ [line]) ++ more) =
        ((start.feed more).1, eventsOf (before ++ [line]) ++ (start.feed more).2) := by
  refine ⟨eventsOf_eq_flatMap, ?_, fun lines lines' h more => feed_eq_of_eqvGen h more, ?_, ?_⟩
  · intro before line hdata
    rw [eventsOf_concat, if_pos hdata, List.append_right_eq_self, Option.toList_eq_nil_iff]
    exact ofPayload?_eq_none_iff
  · intro before line after e gives more
    have hdata : line.isData = true := by
      by_contra hdata
      rw [eventsOf_concat, if_neg hdata] at gives
      simp at gives
    obtain ⟨not_blank, not_event⟩ := RawLine.of_isData hdata
    obtain ⟨hwith, hwithout⟩ := start_feed_joined_cons before after more not_blank not_event
    rw [gives, List.append_assoc] at hwith
    exact ⟨_, _, hwith, hwithout⟩
  · intro before line more hblank
    have hkind : kindAfter (before ++ [line]) = none := by
      rw [kindAfter, announcer_concat, if_pos hblank]
      rfl
    rw [start_feed_joined, hkind]
    rfl

/-- A comment that is no UTF-8. -/
def commentLine : RawLine := ⟨[0x3A, 0xFF, 0x0D], by decide⟩

def eventLine : RawLine := ⟨Text.Utf8.bytes "event: a".toList, by decide +kernel⟩

/-- Data that is cut off within a character. -/
def cutLine : RawLine := ⟨Text.Utf8.bytes "data: \x7b\"".toList ++ [0xC3], by decide +kernel⟩

def dataLine : RawLine := ⟨Text.Utf8.bytes "data: \x7b\x7d".toList, by decide +kernel⟩

theorem eventsOf_contained_cutLine :
    let clean := [eventLine, dataLine]
    let noisy := [commentLine, eventLine, cutLine, dataLine]
    Relation.EqvGen PutIn clean noisy ∧ (eventsOf clean).map (·.kind) = ["a"] ∧
      (∀ more, start.feed (joined clean ++ more) = start.feed (joined noisy ++ more)) ∧
      ∃ e, eventsOf [eventLine, dataLine, dataLine] = e :: eventsOf clean := by
  intro clean noisy
  obtain ⟨-, hsilent, hput, htake, -⟩ := eventsOf_contained
  have hcut : IsIdle [commentLine, eventLine] cutLine := by
    refine ⟨by decide +kernel, by decide +kernel, fun hdata => (hsilent _ _ hdata).mpr ?_⟩
    intro ms hms
    have hnone : Value.parse? ((trim cutLine.value).map some) = none := by decide +kernel
    rw [hnone] at hms
    cases hms
  have hcomment : IsIdle [] commentLine := by
    refine ⟨by decide +kernel, by decide +kernel, fun hdata => ?_⟩
    exact absurd hdata (by decide +kernel)
  have hnoisy : Relation.EqvGen PutIn clean noisy :=
    .trans _ _ _ (.rel _ _ (.intro hcomment clean)) (.rel _ _ (.intro hcut [dataLine]))
  have hkinds : (eventsOf clean).map (·.kind) = ["a"] := by decide +kernel
  refine ⟨hnoisy, hkinds, hput clean noisy hnoisy, ?_⟩
  obtain ⟨e, he, -⟩ := List.map_eq_singleton_iff.mp hkinds
  have hnil : eventsOf [eventLine] = [] := List.isEmpty_iff.mp (by decide +kernel)
  have hgives : eventsOf ([eventLine] ++ [dataLine]) = eventsOf [eventLine] ++ [e] := by
    rw [hnil]
    exact he
  obtain ⟨f, rest, htwo, hone⟩ := htake [eventLine] dataLine [dataLine] e hgives []
  rw [List.append_nil, hnil] at htwo hone
  have hrest : eventsOf clean = rest := congrArg Prod.snd hone
  rw [hrest]
  exact ⟨e, congrArg Prod.snd htwo⟩

end BranchChat.Stream.Framing
