import BranchChat.Proofs.Execution.Archives
import BranchChat.Proofs.Execution.Histories
import Mathlib.Data.List.Induction

/-!
# Identifiers of tool calls

An identifier is made of the name of the tool, the time and the number of the call. Of these only the
number can be read off it: names may hold hyphens and digits, times may stand still or be negative.
But the number is enough, since it grows with every tool that starts, from turn to turn, until
everything is forgotten.

## Main definitions

- `calls`: the calls that an execution holds, of its turn and in its archive
- `Creates`: a move adds a call to the newest activation
- `Traced`: a call that is held stems from a move of the run
- `toolStarts`: the number of tools that have started in a run

## Main statements

- `toolCallId_count_eq`: the number is read off an identifier
- `calls_step`: where the calls come from
- `ids_run`: calls that stem from different moves have different identifiers
-/

namespace BranchChat.Execution

open BranchChat.Json (Value)
open BranchChat.Stream (TurnEvent WireEvent)

variable {x : Execution} {moment : Moment} {move : Move} {moves : List (Moment × Move)}
  {call c d : ToolCall} {l l' : List Activation} {i j : Nat}

/-! ### Reading an identifier -/

theorem toDigits_inj {m n : Nat} (h : Nat.toDigits 10 m = Nat.toDigits 10 n) : m = n := by
  have hread := congrArg (fun digits => Nat.ofDigitChars 10 digits 0) h
  simpa only [Nat.ofDigitChars_ten_toDigits] using hread

theorem hyphen_not_mem_toDigits (n : Nat) : '-' ∉ Nat.toDigits 10 n := by
  intro h
  have hdigit := Nat.isDigit_of_mem_toDigits (by decide) (by decide) h
  exact absurd hdigit (by decide)

/-- What follows the last hyphen is the part of a reversed text before its first one. -/
theorem takeWhile_reverse_append_hyphen (s : List Char) {t : List Char} (h : '-' ∉ t) :
    (s ++ '-' :: t).reverse.takeWhile (· != '-') = t.reverse := by
  have hall : ∀ ch ∈ t.reverse, (ch != '-') = true := by
    intro ch hch
    apply bne_iff_ne.mpr
    rintro rfl
    exact h (List.mem_reverse.mp hch)
  rw [List.reverse_append, List.reverse_cons, List.append_assoc, List.singleton_append,
    List.takeWhile_append_of_pos hall]
  simp

/-- Whatever the tool is called, and whatever the time is, the number of a call is read off its
identifier. The name and the time are not: the tool `a-` at 5 and the tool `a` at -5 are told alike. -/
theorem toolCallId_count_eq {tool tool' : String} {wall wall' : Int} {count count' : UInt64}
    (h : toolCallId tool wall count = toolCallId tool' wall' count') : count = count' := by
  have hread (tool : String) (wall : Int) (count : UInt64) :
      (toolCallId tool wall count).toList.reverse.takeWhile (· != '-') =
        (Nat.toDigits 10 count.toNat).reverse := by
    have hlist : (toolCallId tool wall count).toList =
        (tool ++ "-" ++ toString wall).toList ++ '-' :: Nat.toDigits 10 count.toNat := by
      simp [toolCallId, Nat.toString_eq_repr, Nat.toList_repr]
    rw [hlist]
    exact takeWhile_reverse_append_hyphen _ (hyphen_not_mem_toDigits _)
  have hdigits : (Nat.toDigits 10 count.toNat).reverse = (Nat.toDigits 10 count'.toNat).reverse := by
    rw [← hread tool wall count, ← hread tool' wall' count', h]
  exact UInt64.toNat_inj.mp (toDigits_inj (List.reverse_inj.mp hdigits))

/-! ### The number of a call -/

/-- The number of tools that start in a run, whether or not there is an activation to which the call
could belong. -/
def toolStarts (x : Execution) (moves : List (Moment × Move)) : Nat :=
  (x.folded moves).countP (·.2.kind == "tool_start")

theorem folded_append (x : Execution) (before after : List (Moment × Move)) :
    x.folded (before ++ after) = x.folded before ++ (x.run before).1.folded after := by
  induction before generalizing x with
  | nil => rfl
  | cons m before ih =>
    simp only [List.cons_append, folded, run, ih, List.append_assoc]

theorem toolCount_settle (x : Execution) (released : FrameGate × Option String) :
    (x.settle released).1.toolCount = x.toolCount := by
  rw [settle_eq]

theorem toolCount_absorb_of_ne (x : Execution) (moment : Moment) {t : TurnEvent}
    (h : ∀ tool agent params, t ≠ .toolStarted tool agent params) :
    (x.absorb moment t).1.toolCount = x.toolCount := by
  cases t with
  | toolStarted tool agent params => exact absurd rfl (h tool agent params)
  | agentStarted agent => exact x.toolCount_settle _
  | agentFinished agent => exact x.toolCount_settle _
  | permissionAsked tool params thread message => exact x.toolCount_settle _
  | answer text =>
    simp only [absorb]
    split
    · rfl
    · exact toolCount_settle _ _
  | completed message =>
    simp only [absorb, keep_eq]
    exact x.toolCount_settle _
  | identifiers conversation message thread => rfl
  | reasoning text => rfl
  | silence => rfl
  | wholeAnswer text => rfl
  | toolFinished tool success result duration => rfl
  | permissionSettled approved => rfl
  | failed reason => rfl
  | unknown kind => rfl

theorem toolCount_receive (x : Execution) (e : WireEvent) (moment : Moment) :
    (x.receive e moment).1.toolCount =
      if x.isUnderWay = true ∧ e.kind = "tool_start" then x.toolCount + 1 else x.toolCount := by
  by_cases under : x.isUnderWay = true
  · rw [receive, if_pos under]
    by_cases hkind : e.kind = "tool_start"
    · rw [if_pos ⟨under, hkind⟩, WireEvent.meaning_of_toolStart hkind]
      rfl
    · rw [if_neg fun h => hkind h.2]
      apply x.toolCount_absorb_of_ne moment
      intro tool agent params hmeaning
      exact hkind (WireEvent.of_meaning_eq_toolStarted hmeaning).1
  · rw [receive, if_neg under, if_neg fun h => under h.1]

/-- Only a tool that starts counts, and only forgetting everything begins the count anew. -/
theorem toolCount_step (x : Execution) (moment : Moment) (unwiped : move ≠ .wipe) :
    (x.step moment move).1.toolCount =
      x.toolCount + UInt64.ofNat (x.toolStarts [(moment, move)]) := by
  cases move with
  | wipe => exact absurd rfl unwiped
  | receive e =>
    show (x.receive e moment).1.toolCount = _
    rw [toolCount_receive]
    by_cases under : x.isUnderWay = true <;> by_cases hkind : e.kind = "tool_start" <;>
      simp [toolStarts, folded, folds?, under, hkind]
  | showDue => simp [toolStarts, folded, folds?, step, showDue, toolCount_settle]
  | showHeld => simp [toolStarts, folded, folds?, step, showHeld, toolCount_settle]
  | stop =>
    simp only [step, stop, withHeldShown_eq]
    split <;> simp [toolStarts, folded, folds?]
  | proceed =>
    simp only [step, proceed]
    split <;> simp [toolStarts, folded, folds?]
  | begin context draft => exact (UInt64.add_zero _).symm
  | learn context => exact (UInt64.add_zero _).symm
  | fail reason => exact (UInt64.add_zero _).symm
  | clear => exact (UInt64.add_zero _).symm
  | dropQuestion => exact (UInt64.add_zero _).symm

theorem toolStarts_append (x : Execution) (before after : List (Moment × Move)) :
    x.toolStarts (before ++ after) = x.toolStarts before + (x.run before).1.toolStarts after := by
  simp only [toolStarts, folded_append, List.countP_append]

theorem toolCount_run (x : Execution) (unwiped : ∀ m ∈ moves, m.2 ≠ .wipe) :
    (x.run moves).1.toolCount = x.toolCount + UInt64.ofNat (x.toolStarts moves) := by
  induction moves generalizing x with
  | nil => exact (UInt64.add_zero _).symm
  | cons m moves ih =>
    obtain ⟨hfirst, hrest⟩ := List.forall_mem_cons.mp unwiped
    have hsplit : x.toolStarts (m :: moves) =
        x.toolStarts [m] + (x.step m.1 m.2).1.toolStarts moves := x.toolStarts_append [m] moves
    show ((x.step m.1 m.2).1.run moves).1.toolCount = _
    rw [ih _ hrest, x.toolCount_step m.1 hfirst, hsplit, UInt64.ofNat_add, UInt64.add_assoc]

/-! ### The calls that are held -/

/-- The calls of activations. -/
def callsOf (l : List Activation) : List ToolCall :=
  l.flatMap (·.tools)

/-- The calls that an execution holds, of its turn and in its archive. -/
def calls (x : Execution) : List ToolCall :=
  callsOf x.activations ++ x.archive.flatMap (callsOf ·.2)

/-- A move adds a call to the newest activation, because a tool starts. -/
structure Creates (x : Execution) (moment : Moment) (move : Move) (call : ToolCall) : Prop where
  starts : ∃ e, x.folds? move = some e ∧ e.kind = "tool_start"
  added : ∃ older a, x.activations = older ++ [a] ∧
    (x.step moment move).1.activations = older ++ [{ a with tools := a.tools ++ [call], answer := "" }]

/-- A call that is held after the moves of a run stems from the move at a place of it: this move has
created the call, and each later move has left it as it was or put its outcome to it. -/
inductive Traced (x : Execution) : List (Moment × Move) → Nat → ToolCall → Prop where
  | created {before : List (Moment × Move)} {moment : Moment} {move : Move} {call : ToolCall}
      (creates : (x.run before).1.Creates moment move call) :
      Traced x (before ++ [(moment, move)]) before.length call
  | kept {moves : List (Moment × Move)} {m : Moment × Move} {i : Nat} {call later : ToolCall}
      (traced : Traced x moves i call) (held : later ∈ (x.run (moves ++ [m])).1.calls)
      (follows : call.Later later) : Traced x (moves ++ [m]) i later

@[simp]
theorem calls_wipe (x : Execution) : x.wipe.calls = [] := rfl

theorem callsOf_append (l m : List Activation) : callsOf (l ++ m) = callsOf l ++ callsOf m := by
  simp [callsOf]

theorem callsOf_subset (h : l ⊆ l') : callsOf l ⊆ callsOf l' := by
  intro call hcall
  obtain ⟨a, ha, hmem⟩ := List.mem_flatMap.mp hcall
  exact List.mem_flatMap.mpr ⟨a, h ha, hmem⟩

theorem Told.callsOf_eq (h : Told l l') : callsOf l' = callsOf l := by
  obtain ⟨f, hf, rfl⟩ := h
  rcases List.eq_nil_or_concat l with rfl | ⟨older, a, rfl⟩
  · rfl
  · simp [onLast_concat, callsOf, (hf a).tools_eq]

/-- A call that finishes is held in place of what it was. -/
theorem Finished.exists_later {tool : String} {success : Bool} {result : Option Value}
    {duration : Option Nat} (h : Finished tool success result duration l l') (hd : d ∈ callsOf l') :
    ∃ c ∈ callsOf l, c.Later d := by
  cases h with
  | @intro older newer a before after call newest tools first running =>
    have hcases : d = call.complete success result duration ∨ d ∈ callsOf (older ++ a :: newer) := by
      simp only [callsOf, List.flatMap_append, List.flatMap_cons, tools, List.mem_append,
        List.mem_cons] at hd ⊢
      grind
    rcases hcases with rfl | hsame
    · refine ⟨call, ?_, ToolCall.later_complete running success result duration⟩
      simp [callsOf, tools]
    · exact ⟨d, hsame, .refl d⟩

theorem Activation.exists_startTool_eq (a : Activation) (id tool : String) (agent : Option String)
    (params : Value) : ∃ call : ToolCall,
      a.startTool id tool agent params = { a with tools := a.tools ++ [call], answer := "" } :=
  ⟨_, rfl⟩

theorem exists_later_of_mem_callsOf (x : Execution) (moment : Moment)
    (hd : d ∈ callsOf (x.step moment move).1.activations) :
    (∃ c ∈ callsOf x.activations, c.Later d) ∨ x.Creates moment move d := by
  have told (h : Told x.activations (x.step moment move).1.activations) :
      ∃ c ∈ callsOf x.activations, c.Later d := by
    rw [h.callsOf_eq] at hd
    exact ⟨d, hd, .refl d⟩
  by_cases within : move.isWithinTurn = true
  · cases hfolds : x.folds? move with
    | none => exact .inl (told (x.told_step moment within hfolds))
    | some e =>
      have hworked := x.worked_step moment hfolds
      generalize hmeaning : e.meaning = t at hworked
      generalize hafter : (x.step moment move).1.activations = after at hworked hd told
      cases hworked with
      | told quiet htold => exact .inl (told htold)
      | @started agent serial l' htold =>
        rw [callsOf_append, htold.callsOf_eq] at hd
        exact .inl ⟨d, by simpa [callsOf, Activation.start] using hd, .refl d⟩
      | called tool agent params id =>
        rcases List.eq_nil_or_concat x.activations with hnil | ⟨older, a, hconcat⟩
        · rw [hnil] at hd
          cases hd
        · obtain ⟨new, hnew⟩ := a.exists_startTool_eq id tool agent params
          rw [List.concat_eq_append] at hconcat
          rw [hconcat, onLast_concat, hnew] at hd hafter
          have hcases : d ∈ callsOf (older ++ [a]) ∨ d = new := by
            simpa [callsOf, or_assoc] using hd
          rcases hcases with hsame | rfl
          · exact .inl ⟨d, hconcat ▸ hsame, .refl d⟩
          · right
            refine ⟨⟨e, hfolds, ?_⟩, older, a, hconcat, hafter⟩
            exact (WireEvent.of_meaning_eq_toolStarted hmeaning).1
      | finished tool success result duration hfinished => exact .inl (hfinished.exists_later hd)
      | unmatched => exact .inl ⟨d, hd, .refl d⟩
  · -- A turn that begins has no activations, and neither has none.
    have hnil : (x.step moment move).1.activations = [] := by
      cases move with
      | begin context draft => rfl
      | clear => rfl
      | wipe => rfl
      | _ => exact absurd rfl within
    rw [hnil] at hd
    cases hd

/-- A call that is archived after a move was archived before, or is one of the turn. -/
theorem mem_calls_of_mem_archive_step (x : Execution) (moment : Moment)
    (hd : d ∈ (x.step moment move).1.archive.flatMap (callsOf ·.2)) : d ∈ x.calls := by
  have harchived := x.archived_step moment move
  generalize (x.step moment move).1.archive = archive at harchived hd
  cases harchived with
  | same => exact List.mem_append_right _ hd
  | emptied => cases hd
  | @put e message kept archives =>
    obtain ⟨entry, hentry, hcall⟩ := List.mem_flatMap.mp hd
    rcases List.mem_cons.mp hentry with rfl | hold
    · -- What is archived is part of the turn, with held text shown.
      have hsubset : kept ⊆ (x.withHeldShown moment.now).activations := by
        rw [archives.kept_eq]
        exact fun a ha => (List.mem_filter.mp ha).1
      have hturn := callsOf_subset hsubset hcall
      rw [(x.told_withHeldShown moment.now).callsOf_eq] at hturn
      exact List.mem_append_left _ hturn
    · apply List.mem_append_right
      exact List.mem_flatMap.mpr ⟨entry, (List.mem_filter.mp hold).1, hcall⟩

/-- A call that is held was held before, where it may have been running, or it is new. -/
theorem calls_step (x : Execution) (moment : Moment) (hd : d ∈ (x.step moment move).1.calls) :
    (∃ c ∈ x.calls, c.Later d) ∨ x.Creates moment move d := by
  rcases List.mem_append.mp hd with hturn | harchive
  · refine (x.exists_later_of_mem_callsOf moment hturn).imp_left ?_
    rintro ⟨c, hc, hlater⟩
    exact ⟨c, List.mem_append_left _ hc, hlater⟩
  · exact .inl ⟨d, x.mem_calls_of_mem_archive_step moment harchive, .refl d⟩

/-! ### The calls of a run -/

theorem exists_traced (blank : x.calls = []) (hd : d ∈ (x.run moves).1.calls) :
    ∃ i, x.Traced moves i d := by
  induction moves using List.reverseRecOn generalizing d with
  | nil =>
    rw [run, blank] at hd
    cases hd
  | append_singleton moves m ih =>
    have hlast : (x.run (moves ++ [m])).1 = ((x.run moves).1.step m.1 m.2).1 := run_append x moves [m]
    -- A call that is held at the end was held before the last move, or that move has created it.
    rcases calls_step _ m.1 (hlast ▸ hd) with ⟨c, hc, hlater⟩ | hcreates
    · obtain ⟨i, hi⟩ := ih hc
      exact ⟨i, .kept hi hd hlater⟩
    · exact ⟨moves.length, .created hcreates⟩

/-- A call that is created gets the next number. -/
theorem Creates.id_eq (h : x.Creates moment move call) :
    ∃ e, move = .receive e ∧ x.toolStarts [(moment, move)] = 1 ∧
      call.id = toolCallId e.tool moment.wall (x.toolCount + 1) := by
  obtain ⟨e, hfolds, hkind⟩ := h.starts
  obtain ⟨older, a, hx, hadded⟩ := h.added
  have hone : x.toolStarts [(moment, move)] = 1 := by simp [toolStarts, folded, hfolds, hkind]
  obtain ⟨under, rfl⟩ := folds?_eq_some_iff.mp hfolds
  refine ⟨e, rfl, hone, ?_⟩
  have hstep : (x.step moment (.receive e)).1.activations =
      onLast (.startTool (toolCallId e.tool moment.wall (x.toolCount + 1)) e.tool e.agent? e.params)
        x.activations := by
    simp only [step, receive, if_pos under, WireEvent.meaning_of_toolStart hkind]
    rfl
  rw [hstep, hx, onLast_concat] at hadded
  have hlast := (List.cons.inj (List.append_cancel_left hadded)).1
  have htools := List.append_cancel_left (congrArg Activation.tools hlast)
  exact (congrArg ToolCall.id (List.cons.inj htools).1).symm

/-- The move at a place of a run starts a tool, and a call of it gets this identifier. -/
inductive Issued (x : Execution) (moves : List (Moment × Move)) : Nat → String → Prop where
  | intro {before : List (Moment × Move)} {moment : Moment} {e : WireEvent}
      (place : before ++ [(moment, .receive e)] <+: moves)
      (starts : x.toolStarts (before ++ [(moment, .receive e)]) = x.toolStarts before + 1) :
      Issued x moves before.length
        (toolCallId e.tool moment.wall ((x.run before).1.toolCount + 1))

theorem Issued.mono {moves' : List (Moment × Move)} {id : String} (h : x.Issued moves i id)
    (longer : moves <+: moves') : x.Issued moves' i id := by
  obtain ⟨place, starts⟩ := h
  exact .intro (place.trans longer) starts

theorem Issued.id_unique {id id' : String} (h : x.Issued moves i id) (h' : x.Issued moves i id') :
    id = id' := by
  generalize hj : i = j at h'
  obtain @⟨before, moment, e, place, -⟩ := h
  obtain @⟨before', moment', e', place', -⟩ := h'
  have hlength : (before ++ [(moment, Move.receive e)]).length =
      (before' ++ [(moment', Move.receive e')]).length := by
    rw [List.length_append, List.length_append, hj]
    rfl
  have hsame : before ++ [(moment, .receive e)] = before' ++ [(moment', .receive e')] :=
    (List.prefix_of_prefix_length_le place place' (Nat.le_of_eq hlength)).eq_of_length hlength
  cases (List.append_inj hsame hj).1
  cases (List.append_inj hsame hj).2
  rfl

/-- A call keeps the identifier that the move has given to it from which it stems. -/
theorem Traced.issued (h : x.Traced moves i call) : x.Issued moves i call.id := by
  induction h with
  | @created before moment move call creates =>
    obtain ⟨e, rfl, hone, hid⟩ := creates.id_eq
    rw [hid]
    refine .intro (List.prefix_refl _) ?_
    rw [toolStarts_append, hone]
  | @kept moves m i call later traced held follows ih =>
    rw [follows.id_eq]
    exact ih.mono (List.prefix_append moves [m])

section Few

variable (unwiped : ∀ m ∈ moves, m.2 ≠ .wipe) (few : x.toolStarts moves < UInt64.size)

include unwiped few

/-- A tool that starts later gets another number. -/
theorem toolCount_ne_of_prefix {before before' : List (Moment × Move)} {m : Moment × Move}
    (starts : x.toolStarts (before ++ [m]) = x.toolStarts before + 1)
    (earlier : before ++ [m] <+: before') (place : before' <+: moves) :
    (x.run before).1.toolCount ≠ (x.run before').1.toolCount := by
  obtain ⟨mid, rfl⟩ := earlier
  obtain ⟨after, rfl⟩ := place
  have hcount := toolStarts_append x (before ++ [m]) mid
  have hall := toolStarts_append x (before ++ [m] ++ mid) after
  have hbefore : ∀ n ∈ before, n.2 ≠ .wipe := by
    intro n hn
    exact unwiped n (by simp [hn])
  have hlonger : ∀ n ∈ before ++ [m] ++ mid, n.2 ≠ .wipe := by
    intro n hn
    exact unwiped n (List.mem_append_left _ hn)
  rw [toolCount_run x hbefore, toolCount_run x hlonger]
  intro hsame
  have hnumbers : UInt64.ofNat (x.toolStarts before) =
      UInt64.ofNat (x.toolStarts (before ++ [m] ++ mid)) := (UInt64.add_right_inj _).mp hsame
  -- Neither number has wrapped around.
  have hnat := congrArg UInt64.toNat hnumbers
  rw [UInt64.toNat_ofNat_of_lt' (by omega), UInt64.toNat_ofNat_of_lt' (by omega)] at hnat
  omega

theorem Issued.ne_of_lt {id id' : String} (h : x.Issued moves i id) (h' : x.Issued moves j id')
    (hlt : i < j) : id ≠ id' := by
  obtain @⟨before, moment, e, place, starts⟩ := h
  obtain @⟨before', moment', e', place', -⟩ := h'
  have hbefore' : before' <+: moves := (List.prefix_append before' _).trans place'
  have hearlier : before ++ [(moment, .receive e)] <+: before' := by
    apply List.prefix_of_prefix_length_le place hbefore'
    rw [List.length_append]
    exact hlt
  have hcounts := toolCount_ne_of_prefix unwiped few starts hearlier hbefore'
  intro hid
  exact hcounts ((UInt64.add_left_inj _).mp (toolCallId_count_eq hid))

theorem Issued.id_eq_iff {id id' : String} (h : x.Issued moves i id) (h' : x.Issued moves j id') :
    id = id' ↔ i = j := by
  rcases Nat.lt_trichotomy i j with hlt | rfl | hgt
  · exact iff_of_false (h.ne_of_lt unwiped few h' hlt) (Nat.ne_of_lt hlt)
  · exact iff_of_true (h.id_unique h') rfl
  · exact iff_of_false (h'.ne_of_lt unwiped few h hgt).symm (Nat.ne_of_gt hgt)

end Few

/-- From a point on at which no calls are held, as a new or a wiped execution holds none, let an
execution make any moves but wiping, at whatever times. As long as fewer than `2 ^ 64` tools have
started, each call that is held anywhere stems from one of the moves, and any two calls, held at
whatever points, have the same identifier just if they stem from the same move. -/
theorem ids_run (blank : x.calls = []) (unwiped : ∀ m ∈ moves, m.2 ≠ .wipe)
    (few : x.toolStarts moves < UInt64.size) :
    (∀ n, ∀ call ∈ (x.run (moves.take n)).1.calls, ∃ i, x.Traced (moves.take n) i call) ∧
      ∀ n n' i j c d, x.Traced (moves.take n) i c → x.Traced (moves.take n') j d →
        (c.id = d.id ↔ i = j) := by
  constructor
  · intro n call hcall
    exact exists_traced blank hcall
  · intro n n' i j c d hc hd
    have hissued := hc.issued.mono (List.take_prefix n moves)
    have hissued' := hd.issued.mono (List.take_prefix n' moves)
    exact hissued.id_eq_iff unwiped few hissued'

/-- Two turns with one call each, of tools and at times that are told alike in writing. -/
def alikeTurns : List (Moment × Move) :=
  let event (kind : String) (tool : Option String) (data : Value) : Move :=
    .receive ⟨kind, none, some "A", tool, data⟩
  let turn (tool : String) (wall : Int) : List (Moment × Move) :=
    [(⟨0, wall, 0⟩, .begin .none "q"), (⟨1, wall, 1⟩, event "agent_start" none .null),
      (⟨2, wall, 2⟩, event "tool_start" (some tool) .null),
      (⟨3, wall, 3⟩, event "complete" none (.object [("message_id", .string "m")]))]
  turn "X-" 5 ++ (turn "X" (-5)).take 3

theorem ids_run_alikeTurns :
    let x := ((new (.fresh 16)).run alikeTurns).1.wipe
    x.calls = [] ∧ (∀ m ∈ alikeTurns, m.2 ≠ .wipe) ∧ x.toolStarts alikeTurns < UInt64.size ∧
      ∃ i j c d, (x.run alikeTurns).1.calls = [c, d] ∧ c.id = "X--5-2" ∧ d.id = "X--5-1" ∧
        x.Traced alikeTurns i c ∧ x.Traced alikeTurns j d ∧ i ≠ j := by
  intro x
  have unwiped : ∀ m ∈ alikeTurns, m.2 ≠ .wipe := by simp [alikeTurns]
  have few : x.toolStarts alikeTurns < UInt64.size := by decide
  have blank : x.calls = [] := calls_wipe _
  obtain ⟨hall, hids⟩ := ids_run blank unwiped few
  obtain ⟨c, d, hcalls⟩ : ∃ c d, (x.run alikeTurns).1.calls = [c, d] := ⟨_, _, rfl⟩
  have hread : (x.run alikeTurns).1.calls.map (·.id) = ["X--5-2", "X--5-1"] := by decide
  rw [hcalls] at hread
  obtain ⟨hc, hd⟩ : c.id = "X--5-2" ∧ d.id = "X--5-1" := by simpa using hread
  obtain ⟨i, hi⟩ := hall alikeTurns.length c (by rw [List.take_length, hcalls]; simp)
  obtain ⟨j, hj⟩ := hall alikeTurns.length d (by rw [List.take_length, hcalls]; simp)
  have hne : i ≠ j := by
    intro hsame
    have hid := (hids _ _ _ _ _ _ hi hj).mpr hsame
    rw [hc, hd] at hid
    exact absurd hid (by decide)
  rw [List.take_length] at hi hj
  exact ⟨blank, unwiped, few, i, j, c, d, hcalls, hc, hd, hi, hj, hne⟩

end BranchChat.Execution
