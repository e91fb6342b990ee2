import BranchChat.Proofs.Json.Equality
import BranchChat.Proofs.Json.Members
import BranchChat.Proofs.Stream.Kinds
import BranchChat.Stream.Framing

/-!
# The two spellings of an event

An event may be spelled as one object that holds its kind among its data, or as an object with the
kind and the data under keys of their own. The flat spelling takes the names of the agent and the
tool out of the data, and there they only count where the data does not name them otherwise. So the
two spellings mean the same but for one case: data that names an agent or a tool twice, and
differently, means the second name when it is flat and the first one when it is not.

## Main definitions

- `Ambiguous`: the data names something twice that its kind asks for
- `IsFlat`, `IsNested`: the two spellings of an event
- `WireEvent.SpellsFlat`, `WireEvent.SpellsNested`: the events that they stand for

## Main statements

- `meaning_congr`: what the meaning of an event is read off
- `SpellsFlat.meaning_eq_iff`: when two such events mean the same
- `spellings_agree_iff`: when the two spellings of an event mean the same
-/

namespace BranchChat.Stream

open BranchChat.Json (Members Raw Value maxNesting)
open BranchChat.Text (trim)
open BranchChat.Text.Utf8 (Symbol)

/-! ### What a meaning is read off -/

/-- The kinds of event that name an agent. -/
def agentKinds : List String := ["agent_start", "agent_complete", "tool_start"]

/-- The kinds of event that name a tool. -/
def toolKinds : List String := ["tool_start", "tool_complete", "permission_request"]

/-- The keys that the flat spelling of an event does not leave in its data. -/
def spellingKeys : List String := ["type", "agent_name", "tool_name"]

namespace WireEvent

variable {e e' : WireEvent} {ms : Members} {kind : String}

/-- The meaning of an event is read off its kind, the names of its agent and its tool, and the
members of its data. -/
theorem meaning_congr (hkind : e.kind = e'.kind)
    (data : ∀ key, key ∉ spellingKeys → e.data.field? key = e'.data.field? key)
    (agent : e.kind ∈ agentKinds → e.agent? = e'.agent?)
    (tool : e.kind ∈ toolKinds → e.tool = e'.tool) : e.meaning = e'.meaning := by
  have htext (key : String) (h : key ∉ spellingKeys) : e.data.textAt? key = e'.data.textAt? key :=
    congrArg (·.bind Value.text?) (data key h)
  have hparams : e.params = e'.params := by
    rw [params, params, data "params" (by decide), data "input" (by decide)]
  have houtput : e.output = e'.output := by
    rw [output, output, htext "reasoning" (by decide), htext "content" (by decide),
      htext "chunk_type" (by decide)]
  unfold meaning
  rw [← hkind]
  split
  · rw [htext "conversation_id" (by decide), htext "message_id" (by decide),
      htext "thread_id" (by decide)]
  · next h => rw [agent (by rw [h]; decide)]
  · exact houtput
  · rw [htext "content" (by decide)]
  · next h => rw [agent (by rw [h]; decide)]
  · next h => rw [tool (by rw [h]; decide), agent (by rw [h]; decide), hparams]
  · next h =>
    rw [tool (by rw [h]; decide), data "success" (by decide), data "result" (by decide),
      data "duration_ms" (by decide)]
  · next h =>
    rw [tool (by rw [h]; decide), hparams, htext "thread_id" (by decide),
      htext "message_id" (by decide)]
  · rw [data "approved" (by decide)]
  · rw [htext "message_id" (by decide)]
  · rw [htext "message" (by decide), htext "error" (by decide)]
  · rfl

/-- Both spellings of an event have the kind and, but for the names of the agent and the tool, the
data. In the flat spelling these names stand beside the data if they are texts. -/
structure SpellsFlat (e : WireEvent) (kind : String) (ms : Members) : Prop where
  kind : e.kind = kind
  data : ∀ key, key ∉ spellingKeys → e.data.field? key = ms.get? key
  agent : e.agent? = ((Value.object ms).textAt? "agent" <|> (Value.object ms).textAt? "agent_name")
  tool : e.tool =
    ((Value.object ms).textAt? "tool" <|> (Value.object ms).textAt? "tool_name").getD ""

/-- In the nested spelling nothing stands beside the data. -/
structure SpellsNested (e : WireEvent) (kind : String) (ms : Members) : Prop where
  kind : e.kind = kind
  data : e.data = .object ms
  agentName : e.agentName = none
  toolName : e.toolName = none

end WireEvent

/-- Two keys of an object have texts, and these are not the same. -/
def Differ (ms : Members) (key other : String) : Prop :=
  ∃ a b, (Value.object ms).textAt? key = some a ∧ (Value.object ms).textAt? other = some b ∧ a ≠ b

/-- The data names the agent or the tool twice, and differently, and the kind asks for that name. -/
def Ambiguous (kind : String) (ms : Members) : Prop :=
  kind ∈ agentKinds ∧ Differ ms "agent_name" "agent" ∨
    kind ∈ toolKinds ∧ Differ ms "tool_name" "tool"

theorem orElse_comm_of_not_differ {ms : Members} {key other : String} (h : ¬Differ ms key other) :
    ((Value.object ms).textAt? other <|> (Value.object ms).textAt? key) =
      ((Value.object ms).textAt? key <|> (Value.object ms).textAt? other) := by
  cases hkey : (Value.object ms).textAt? key with
  | none => cases (Value.object ms).textAt? other <;> rfl
  | some a =>
    cases hother : (Value.object ms).textAt? other with
    | none => rfl
    | some b =>
      have hsame : a = b := Decidable.byContradiction fun hne => h ⟨a, b, hkey, hother, hne⟩
      rw [hsame]

namespace WireEvent

variable {e e' : WireEvent} {ms : Members} {kind : String}

theorem SpellsNested.agent (h : e.SpellsNested kind ms) : e.agent? =
    ((Value.object ms).textAt? "agent_name" <|> (Value.object ms).textAt? "agent") := by
  rw [agent?, h.data, h.agentName]
  cases (Value.object ms).textAt? "agent_name" <;> cases (Value.object ms).textAt? "agent" <;> rfl

theorem SpellsNested.tool (h : e.SpellsNested kind ms) : e.tool =
    ((Value.object ms).textAt? "tool_name" <|> (Value.object ms).textAt? "tool").getD "" := by
  rw [WireEvent.tool, h.data, h.toolName]
  cases (Value.object ms).textAt? "tool_name" <;> cases (Value.object ms).textAt? "tool" <;> rfl

/-- The meaning of an event of such a kind tells the agent, up to the name that stands for none. -/
theorem agent_of_meaning_eq (hkind : e.kind ∈ agentKinds) (hsame : e.kind = e'.kind)
    (h : e.meaning = e'.meaning) : e.agent?.getD "agent" = e'.agent?.getD "agent" := by
  simp only [agentKinds, List.mem_cons, List.not_mem_nil, or_false] at hkind
  rcases hkind with hk | hk | hk
  · rw [meaning_of_agentStart hk, meaning_of_agentStart (hsame.symm.trans hk)] at h
    exact TurnEvent.agentStarted.inj h
  · have hm {e : WireEvent} (hk : e.kind = "agent_complete") :
        e.meaning = .agentFinished e.agent? := by
      simp only [meaning, hk]
    rw [hm hk, hm (hsame.symm.trans hk)] at h
    rw [TurnEvent.agentFinished.inj h]
  · rw [meaning_of_toolStart hk, meaning_of_toolStart (hsame.symm.trans hk)] at h
    rw [(TurnEvent.toolStarted.inj h).2.1]

/-- The meaning of an event of such a kind tells the tool. -/
theorem tool_of_meaning_eq (hkind : e.kind ∈ toolKinds) (hsame : e.kind = e'.kind)
    (h : e.meaning = e'.meaning) : e.tool = e'.tool := by
  simp only [toolKinds, List.mem_cons, List.not_mem_nil, or_false] at hkind
  rcases hkind with hk | hk | hk
  · rw [meaning_of_toolStart hk, meaning_of_toolStart (hsame.symm.trans hk)] at h
    exact (TurnEvent.toolStarted.inj h).1
  · obtain ⟨_, _, _, hm⟩ := meaning_of_toolComplete hk
    obtain ⟨_, _, _, hm'⟩ := meaning_of_toolComplete (hsame.symm.trans hk)
    rw [hm, hm'] at h
    exact (TurnEvent.toolFinished.inj h).1
  · rw [meaning_of_asks (beq_iff_eq.mpr hk), meaning_of_asks (beq_iff_eq.mpr (hsame.symm.trans hk))]
      at h
    exact (TurnEvent.permissionAsked.inj h).1

/-- A flat and a nested event of the same kind and the same data mean the same unless the data is
ambiguous. -/
theorem SpellsFlat.meaning_eq_iff (h : e.SpellsFlat kind ms) (h' : e'.SpellsNested kind ms) :
    e.meaning = e'.meaning ↔ ¬Ambiguous kind ms := by
  have hsame : e.kind = e'.kind := h.kind.trans h'.kind.symm
  constructor
  · rintro hmeaning (⟨hkind, a, b, hname, hother, hne⟩ | ⟨hkind, a, b, hname, hother, hne⟩)
    · rw [← h.kind] at hkind
      have hagent := agent_of_meaning_eq hkind hsame hmeaning
      rw [h.agent, h'.agent, hname, hother] at hagent
      exact hne hagent.symm
    · rw [← h.kind] at hkind
      have htool := tool_of_meaning_eq hkind hsame hmeaning
      rw [h.tool, h'.tool, hname, hother] at htool
      exact hne htool.symm
  · intro plain
    refine meaning_congr hsame ?_ ?_ ?_
    · intro key hkey
      rw [h.data key hkey, h'.data]
      rfl
    · intro hkind
      rw [h.kind] at hkind
      rw [h.agent, h'.agent]
      exact orElse_comm_of_not_differ fun hdiffer => plain (.inl ⟨hkind, hdiffer⟩)
    · intro hkind
      rw [h.kind] at hkind
      rw [h.tool, h'.tool, orElse_comm_of_not_differ fun hdiffer => plain (.inr ⟨hkind, hdiffer⟩)]

end WireEvent

/-! ### Objects as events -/

theorem textAt?_object (ms : Members) (key : String) :
    (Value.object ms).textAt? key = (ms.get? key).bind Value.text? :=
  rfl

/-- A text is taken out of the members, and anything else is left in them. -/
theorem takeText_cases (ms : Members) (key : String) :
    (∃ s, (Value.object ms).textAt? key = some s ∧ takeText ms key = (some s, ms.without key)) ∨
      (Value.object ms).textAt? key = none ∧ takeText ms key = (none, ms) := by
  rw [textAt?_object]
  unfold takeText
  cases ms.get? key with
  | none => exact .inr ⟨rfl, rfl⟩
  | some v =>
    cases v with
    | string s => exact .inl ⟨s, rfl, rfl⟩
    | _ => exact .inr ⟨rfl, rfl⟩

theorem takeText_fst (ms : Members) (key : String) :
    (takeText ms key).1 = (Value.object ms).textAt? key := by
  rcases takeText_cases ms key with ⟨s, htext, htake⟩ | ⟨htext, htake⟩ <;> rw [htext, htake]

theorem get?_takeText {ms : Members} {key other : String} (h : other ≠ key) :
    (takeText ms key).2.get? other = ms.get? other := by
  rcases takeText_cases ms key with ⟨s, -, htake⟩ | ⟨-, htake⟩
  · rw [htake, Members.get?_without, if_neg h]
  · rw [htake]

/-- No text is left under the key. -/
theorem textAt?_takeText (ms : Members) (key : String) :
    (Value.object (takeText ms key).2).textAt? key = none := by
  rcases takeText_cases ms key with ⟨s, -, htake⟩ | ⟨htext, htake⟩
  · rw [htake, textAt?_object, Members.get?_without, if_pos rfl]
    rfl
  · rw [htake]
    exact htext

theorem textAt?_congr {ms ms' : Members} {key : String} (h : ms.get? key = ms'.get? key) :
    (Value.object ms).textAt? key = (Value.object ms').textAt? key :=
  congrArg (·.bind Value.text?) h

/-- The event of an object that holds its kind among its data. -/
theorem exists_ofMembers?_flat {announced : Option String} {kind : String} {ms fs : Members}
    (htype : fs.get? "type" = some (.string kind))
    (hothers : ∀ key, key ≠ "type" → fs.get? key = ms.get? key)
    (htimestamp : ms.get? "timestamp" = none) (hdata : ms.get? "data" = none) :
    ∃ e, WireEvent.ofMembers? announced fs = some e ∧ e.SpellsFlat kind ms := by
  have hnamed : takeText fs "type" = (some kind, fs.without "type") := by
    unfold takeText
    rw [htype]
  generalize hbase : (fs.without "type").without "timestamp" = base
  generalize hrest : (takeText (takeText base "agent_name").2 "tool_name").2 = rest
  -- But for the kind and the time, the names are taken from an object with the members of the data.
  have hplain (key : String) (h : key ≠ "type") : base.get? key = ms.get? key := by
    rw [← hbase, Members.get?_without, Members.get?_without, if_neg h, hothers key h]
    split
    · next htime => rw [htime, htimestamp]
    · rfl
  have hleft (key : String) (h : key ∉ spellingKeys) : rest.get? key = ms.get? key := by
    simp only [spellingKeys, List.mem_cons, List.not_mem_nil, or_false, not_or] at h
    obtain ⟨htype, hagent, htool⟩ := h
    rw [← hrest, get?_takeText htool, get?_takeText hagent, hplain key htype]
  have hagentName : (Value.object rest).textAt? "agent_name" = none := by
    have hsame : rest.get? "agent_name" = (takeText base "agent_name").2.get? "agent_name" := by
      rw [← hrest, get?_takeText (by decide)]
    rw [textAt?_congr hsame, textAt?_takeText]
  have htoolName : (Value.object rest).textAt? "tool_name" = none := by
    rw [← hrest, textAt?_takeText]
  have hagentTaken : (takeText base "agent_name").1 = (Value.object ms).textAt? "agent_name" := by
    rw [takeText_fst, textAt?_congr (hplain "agent_name" (by decide))]
  have htoolTaken : (takeText (takeText base "agent_name").2 "tool_name").1 =
      (Value.object ms).textAt? "tool_name" := by
    rw [takeText_fst, textAt?_congr (get?_takeText (by decide)),
      textAt?_congr (hplain "tool_name" (by decide))]
  refine ⟨⟨kind, timestamp? ((fs.without "type").get? "timestamp"),
    (takeText base "agent_name").1, (takeText (takeText base "agent_name").2 "tool_name").1,
    .object rest⟩, ?_, rfl, hleft, ?_, ?_⟩
  · unfold WireEvent.ofMembers?
    rw [hnamed]
    dsimp only
    rw [hbase, hrest, hleft "data" (by decide), hdata]
    rfl
  · rw [WireEvent.agent?, hagentName, textAt?_congr (hleft "agent" (by decide)), hagentTaken]
    rfl
  · rw [WireEvent.tool, htoolName, textAt?_congr (hleft "tool" (by decide)), htoolTaken]
    rfl

/-- The event of an object with the kind and the data under keys of their own. -/
theorem exists_ofMembers?_nested {announced : Option String} {kind : String} {ms ns : Members}
    (hns : ns = [("type", .string kind), ("data", .object ms)] ∨
      ns = [("data", .object ms), ("type", .string kind)]) :
    ∃ e, WireEvent.ofMembers? announced ns = some e ∧ e.SpellsNested kind ms := by
  rcases hns with rfl | rfl
  · exact ⟨⟨kind, none, none, none, .object ms⟩, rfl, rfl, rfl, rfl, rfl⟩
  · exact ⟨⟨kind, none, none, none, .object ms⟩, rfl, rfl, rfl, rfl, rfl⟩

/-! ### Spellings -/

/-- The text spells an event flat: it is an object that holds, in whatever order, the written
members of the data and the kind. -/
def IsFlat (kind : String) (data : List (List Symbol × Raw)) (payload : List Char) : Prop :=
  ∃ before after key body, data = before ++ after ∧ Raw.stringOf? key = some "type" ∧
    Raw.stringOf? body = some kind ∧
    Raw.read? ((trim payload).map some) = some (.object (before ++ (key, .string body) :: after))

/-- The text spells an event nested: it is an object of the kind and the data, in either order. -/
def IsNested (kind : String) (data : List (List Symbol × Raw)) (payload : List Char) : Prop :=
  ∃ key body dataKey members, Raw.stringOf? key = some "type" ∧ Raw.stringOf? body = some kind ∧
    Raw.stringOf? dataKey = some "data" ∧
    (members = [(key, .string body), (dataKey, .object data)] ∨
      members = [(dataKey, .object data), (key, .string body)]) ∧
    Raw.read? ((trim payload).map some) = some (.object members)

/-- The event of the data of a line, if it means an object. -/
theorem ofPayload?_of_read? {announced : Option String} {payload : List Char}
    {members : List (List Symbol × Raw)}
    (h : Raw.read? ((trim payload).map some) = some (.object members)) :
    WireEvent.ofPayload? announced payload =
      (Raw.memberValues? (maxNesting - 1) [] members).bind (WireEvent.ofMembers? announced) := by
  have hparse : Value.parse? ((trim payload).map some) =
      (Raw.memberValues? (maxNesting - 1) [] members).map .object := by
    rw [Value.parse?, h]
    rfl
  rw [WireEvent.ofPayload?, hparse]
  cases Raw.memberValues? (maxNesting - 1) [] members <;> rfl

theorem IsFlat.exists_event {kind : String} {data : List (List Symbol × Raw)} {ms : Members}
    {payload : List Char} (h : IsFlat kind data payload) (announced : Option String)
    (hms : Raw.memberValues? (maxNesting - 1) [] data = some ms) (htype : ms.get? "type" = none)
    (htimestamp : ms.get? "timestamp" = none) (hdata : ms.get? "data" = none) :
    ∃ e, WireEvent.ofPayload? announced payload = some e ∧ e.SpellsFlat kind ms := by
  obtain ⟨before, after, key, body, rfl, hkey, hbody, hread⟩ := h
  obtain ⟨fs, hfs, hkind, hothers⟩ :=
    Raw.exists_memberValues?_insert hms htype hkey (Raw.value?_string hbody)
  rw [ofPayload?_of_read? hread, hfs]
  exact exists_ofMembers?_flat hkind hothers htimestamp hdata

/-- What a nested spelling stands for depends on whether the data may nest one level deeper. -/
theorem IsNested.ofPayload?_eq {kind : String} {data : List (List Symbol × Raw)}
    {payload : List Char} (h : IsNested kind data payload) (announced : Option String) :
    (Raw.value? (maxNesting - 1) (.object data) = none →
      WireEvent.ofPayload? announced payload = none) ∧
    ∀ ms, Raw.value? (maxNesting - 1) (.object data) = some (.object ms) →
      ∃ e, WireEvent.ofPayload? announced payload = some e ∧ e.SpellsNested kind ms := by
  obtain ⟨key, body, dataKey, members, hkey, hbody, hdataKey, hmembers, hread⟩ := h
  have hkind : Raw.value? (maxNesting - 1) (.string body) = some (.string kind) :=
    Raw.value?_string hbody
  rw [ofPayload?_of_read? hread]
  constructor
  · intro hnone
    have hmembers' : Raw.memberValues? (maxNesting - 1) [] members = none := by
      rcases hmembers with rfl | rfl
      · simp only [Raw.memberValues?, hkey, hkind, hdataKey, hnone]
        rfl
      · simp only [Raw.memberValues?, hdataKey, hnone]
        rfl
    rw [hmembers']
    rfl
  · intro ms hms
    have hmembers' : ∃ ns, Raw.memberValues? (maxNesting - 1) [] members = some ns ∧
        (ns = [("type", .string kind), ("data", .object ms)] ∨
          ns = [("data", .object ms), ("type", .string kind)]) := by
      rcases hmembers with rfl | rfl
      · refine ⟨_, ?_, .inl rfl⟩
        simp only [Raw.memberValues?, hkey, hkind, hdataKey, hms]
        rfl
      · refine ⟨_, ?_, .inr rfl⟩
        simp only [Raw.memberValues?, hkey, hkind, hdataKey, hms]
        rfl
    obtain ⟨ns, hns, hshape⟩ := hmembers'
    rw [hns]
    exact exists_ofMembers?_nested hshape

/-! ### Lines -/

theorem trim_fieldValue (payload : List Char) : trim (fieldValue payload) = trim payload := by
  unfold fieldValue
  split
  · next rest =>
    have hblank : Text.isBlank ' ' = true := by decide
    unfold trim Text.trimStart
    rw [List.dropWhile_cons_of_pos hblank]
  · rfl

theorem ofPayload?_fieldValue (announced : Option String) (payload : List Char) :
    WireEvent.ofPayload? announced (fieldValue payload) = WireEvent.ofPayload? announced payload := by
  unfold WireEvent.ofPayload?
  rw [trim_fieldValue]

/-- The event of a data line, in a block that has announced a kind or has not. -/
def eventOfData? (announced : Option String) (payload : List Char) : Option WireEvent :=
  (Framing.readLine announced (.ofChars ("data:".toList ++ payload))).2

theorem eventOfData?_eq (announced : Option String) (payload : List Char) :
    eventOfData? announced payload = WireEvent.ofPayload? announced payload := by
  have hline : Line.ofChars ("data:".toList ++ payload) = .data (fieldValue payload) := rfl
  rw [eventOfData?, hline]
  exact ofPayload?_fieldValue announced payload

/-- Two data lines that spell the same kind and the same data, the one flat and the other nested.
The data holds none of the keys that belong to an event. The flat line gives an event; so does the
nested line, unless its data cannot nest any deeper. Both events mean the same unless the data names
the agent or the tool twice and differently, where the kind asks for that name. -/
theorem spellings_agree_iff {announced : Option String} {kind : String}
    {data : List (List Symbol × Raw)} {ms : Members} {flat nested : List Char}
    (hms : Raw.value? maxNesting (.object data) = some (.object ms))
    (hkeys : ∀ key ∈ ["type", "timestamp", "data"], ms.get? key = none)
    (hflat : IsFlat kind data flat) (hnested : IsNested kind data nested) :
    ∃ e, eventOfData? announced flat = some e ∧ e.kind = kind ∧
      (Raw.value? (maxNesting - 1) (.object data) = none → eventOfData? announced nested = none) ∧
      (Raw.value? (maxNesting - 1) (.object data) ≠ none →
        ∃ e', eventOfData? announced nested = some e' ∧ e'.kind = kind ∧
          (e.meaning = e'.meaning ↔ ¬Ambiguous kind ms)) := by
  have hmembers : Raw.memberValues? (maxNesting - 1) [] data = some ms := by
    obtain ⟨found, hfound, heq⟩ := Option.map_eq_some_iff.mp hms
    obtain rfl := Value.object.inj heq
    exact hfound
  obtain ⟨e, he, hspells⟩ := hflat.exists_event announced hmembers
    (hkeys "type" (by decide)) (hkeys "timestamp" (by decide)) (hkeys "data" (by decide))
  obtain ⟨hdeep, hshallow⟩ := hnested.ofPayload?_eq announced
  rw [eventOfData?_eq, eventOfData?_eq]
  refine ⟨e, he, hspells.kind, hdeep, fun hsome => ?_⟩
  obtain ⟨v, hv⟩ := Option.ne_none_iff_exists'.mp hsome
  have hsame : v = .object ms := Option.some.inj ((Raw.value?_succ hv).symm.trans hms)
  rw [hsame] at hv
  obtain ⟨e', he', hspells'⟩ := hshallow ms hv
  exact ⟨e', he', hspells'.kind, hspells.meaning_eq_iff hspells'⟩

/-- A string body without escapes. -/
def plainBody (text : String) : List Symbol :=
  text.toList.map some

/-- Data that names one agent. -/
def oneName : List (List Symbol × Raw) :=
  [(plainBody "agent", .string (plainBody "B"))]

/-- Data that names two agents. -/
def twoNames : List (List Symbol × Raw) :=
  (plainBody "agent_name", .string (plainBody "A")) :: oneName

/-- An object of the kind `agent_start` that holds the members of the data. -/
def startFlat (members : String) : List Char :=
  ("\x7b\"type\":\"agent_start\"," ++ members ++ "\x7d").toList

/-- An object of the kind `agent_start` and the data. -/
def startNested (members : String) : List Char :=
  startFlat ("\"data\":\x7b" ++ members ++ "\x7d")

theorem isFlat_of_read? {kind : String} {data : List (List Symbol × Raw)} {payload : List Char}
    (hkind : Raw.stringOf? (plainBody kind) = some kind)
    (hread : Raw.read? ((trim payload).map some) =
      some (.object ((plainBody "type", .string (plainBody kind)) :: data))) :
    IsFlat kind data payload :=
  ⟨[], data, plainBody "type", plainBody kind, rfl, by decide +kernel, hkind, hread⟩

theorem isNested_of_read? {kind : String} {data : List (List Symbol × Raw)} {payload : List Char}
    (hkind : Raw.stringOf? (plainBody kind) = some kind)
    (hread : Raw.read? ((trim payload).map some) =
      some (.object [(plainBody "type", .string (plainBody kind)),
        (plainBody "data", .object data)])) :
    IsNested kind data payload :=
  ⟨plainBody "type", plainBody kind, plainBody "data", _, by decide +kernel, hkind,
    by decide +kernel, .inl rfl, hread⟩

theorem stringOf?_plainBody_start :
    Raw.stringOf? (plainBody "agent_start") = some "agent_start" := by
  decide +kernel

theorem value?_oneName (depth : Nat) :
    Raw.value? (depth + 1) (.object oneName) = some (.object [("agent", .string "B")]) := by
  have hmembers : Raw.memberValues? depth [] oneName = some [("agent", .string "B")] :=
    Raw.memberValues?_cons_eq_some_iff.mpr
      ⟨"agent", .string "B", by decide +kernel, Raw.value?_string (by decide +kernel), rfl⟩
  rw [Raw.value?, hmembers]
  rfl

theorem spellings_agree_oneName :
    ∃ e e', eventOfData? none (startFlat "\"agent\":\"B\"") = some e ∧
      eventOfData? none (startNested "\"agent\":\"B\"") = some e' ∧ e.meaning = e'.meaning := by
  have hflat : IsFlat "agent_start" oneName (startFlat "\"agent\":\"B\"") :=
    isFlat_of_read? stringOf?_plainBody_start (by decide +kernel)
  have hnested : IsNested "agent_start" oneName (startNested "\"agent\":\"B\"") :=
    isNested_of_read? stringOf?_plainBody_start (by decide +kernel)
  have hplain : ¬Ambiguous "agent_start" [("agent", .string "B")] := by
    rintro (⟨-, a, b, hname, -⟩ | ⟨hkind, -⟩)
    · exact nomatch hname
    · exact absurd hkind (by decide)
  have hshallow : Raw.value? (maxNesting - 1) (.object oneName) ≠ none := by
    rw [show maxNesting - 1 = (maxNesting - 2) + 1 from rfl, value?_oneName]
    exact Option.some_ne_none _
  obtain ⟨e, he, -, -, hother⟩ :=
    spellings_agree_iff (value?_oneName (maxNesting - 1)) (by decide) hflat hnested
  obtain ⟨e', he', -, hmeaning⟩ := hother hshallow
  exact ⟨e, e', he, he', hmeaning.mpr hplain⟩

/-- Of data that names two agents, the flat line starts the second one and the nested line the first
one. -/
theorem spellings_differ_twoNames :
    IsFlat "agent_start" twoNames (startFlat "\"agent_name\":\"A\",\"agent\":\"B\"") ∧
    IsNested "agent_start" twoNames (startNested "\"agent_name\":\"A\",\"agent\":\"B\"") ∧
    (eventOfData? none (startFlat "\"agent_name\":\"A\",\"agent\":\"B\"")).map
      WireEvent.meaning = some (.agentStarted "B") ∧
    (eventOfData? none (startNested "\"agent_name\":\"A\",\"agent\":\"B\"")).map
      WireEvent.meaning = some (.agentStarted "A") := by
  have hstarts {line : List Char} {name : String}
      (h : (eventOfData? none line).map (fun e => (e.kind, e.agent?)) =
        some ("agent_start", some name)) :
      (eventOfData? none line).map WireEvent.meaning = some (.agentStarted name) := by
    obtain ⟨e, he, hnames⟩ := Option.map_eq_some_iff.mp h
    obtain ⟨hkind, hagent⟩ := Prod.mk.inj hnames
    rw [he, Option.map_some, WireEvent.meaning_of_agentStart hkind, hagent]
    rfl
  refine ⟨isFlat_of_read? stringOf?_plainBody_start ?_,
    isNested_of_read? stringOf?_plainBody_start ?_, hstarts ?_, hstarts ?_⟩
  all_goals decide +kernel

end BranchChat.Stream
