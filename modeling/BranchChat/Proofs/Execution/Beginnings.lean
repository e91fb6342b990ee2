import BranchChat.Proofs.Execution.Archives
import BranchChat.Proofs.Execution.Coalescing

/-!
# A new turn forgets the old ones

Of everything that was before a turn, only the archive, the number of tool calls and the time at
which the gate last opened are left when it begins. The archive is not read, the number only gives
tool calls their identifiers, and the gate only puts off when text is shown. So two executions that
begin the same turn go through it alike, whatever each of them went through before.

## Main definitions

- `nameless`: the execution without its archive and without the names it has made up
- `turn`: the same, if its gate had held nothing back

## Main statements

- `turn_step`, `turn_run`: what becomes of a turn is read off the turn
- `view_run_begin`: two turns that begin alike look alike, and are archived alike
-/

namespace BranchChat.Execution

open BranchChat.Json (Value)
open BranchChat.Stream (TurnEvent WireEvent)

variable {x y : Execution} {moment moment' : Moment} {move : Move}
  {moves moves' : List (Moment × Move)} {e : WireEvent} {message : String} {now : Nat}

/-! ### Without names -/

/-- The call without its identifier. -/
def ToolCall.nameless (call : ToolCall) : ToolCall :=
  { call with id := "" }

/-- The activation without its serial number and without the identifiers of its calls. -/
def Activation.nameless (a : Activation) : Activation :=
  { a with serial := 0, tools := a.tools.map ToolCall.nameless }

/-- The execution without its archive, without serial numbers, and without identifiers of calls. -/
def nameless (x : Execution) : Execution :=
  { x with activations := x.activations.map Activation.nameless, archive := [], toolCount := 0 }

/-- What there is of a turn, if the gate had held nothing back. -/
def turn (x : Execution) : Execution :=
  x.ungated.nameless

@[simp]
theorem ToolCall.nameless_nameless (call : ToolCall) : call.nameless.nameless = call.nameless := rfl

@[simp]
theorem Activation.nameless_nameless (a : Activation) : a.nameless.nameless = a.nameless := by
  simp [nameless]

@[simp]
theorem Activation.isNoteworthy_nameless (a : Activation) :
    a.nameless.isNoteworthy = a.isNoteworthy := by
  simp [isNoteworthy, nameless]

theorem map_nameless_nameless (l : List Activation) :
    (l.map Activation.nameless).map Activation.nameless = l.map Activation.nameless := by
  simp

theorem nameless_nameless (x : Execution) : x.nameless.nameless = x.nameless := by
  simp only [nameless, map_nameless_nameless]

/-! ### One move without names -/

theorem nameless_onCurrent (x : Execution) {f g : Activation → Activation}
    (h : ∀ a, (f a).nameless = (g a.nameless).nameless) :
    (x.onCurrent f).nameless = (x.nameless.onCurrent g).nameless := by
  have hmap : (onLast f x.activations).map Activation.nameless =
      (onLast g (x.activations.map Activation.nameless)).map Activation.nameless := by
    rcases List.eq_nil_or_concat x.activations with hnil | ⟨older, a, hconcat⟩
    · rw [hnil]
      rfl
    · simp [hconcat, onLast_concat, h]
  simp only [nameless, onCurrent, hmap]

theorem nameless_settle (x : Execution) (released : FrameGate × Option String) :
    (x.settle released).1.nameless = (x.nameless.settle released).1.nameless ∧
      (x.settle released).2 = (x.nameless.settle released).2 := by
  obtain ⟨gate, _ | text⟩ := released
  · exact ⟨(nameless_nameless { x with gate }).symm, rfl⟩
  · refine ⟨nameless_onCurrent { x with gate } fun _ => ?_, ?_⟩
    · simp [Activation.nameless]
    · simp [settle, nameless]

theorem nameless_withHeldShown (x : Execution) (now : Nat) :
    (x.withHeldShown now).nameless = (x.nameless.withHeldShown now).nameless :=
  (x.nameless_settle (x.gate.release? now)).1

theorem Activation.nameless_completeTool (a : Activation) (tool : String) (success : Bool)
    (result : Option Value) (duration : Option Nat) :
    (a.completeTool tool success result duration).nameless =
      a.nameless.completeTool tool success result duration := by
  have hgo := map_onFirst (p := (·.isRunning tool)) (v := ToolCall.nameless)
    (f := (·.complete success result duration)) (fun _ => rfl) (fun _ => rfl) a.tools
  simp only [Activation.completeTool, nameless, completeTool_go_eq_onFirst, hgo]

theorem nameless_completeTool (x : Execution) (tool : String) (success : Bool)
    (result : Option Value) (duration : Option Nat) :
    (x.completeTool tool success result duration).nameless =
      (x.nameless.completeTool tool success result duration).nameless := by
  have running (a : Activation) :
      a.nameless.tools.any (·.isRunning tool) = a.tools.any (·.isRunning tool) := by
    simp only [Activation.nameless, List.any_map]
    rfl
  have hmap (l : List Activation) :
      (completeNewest tool (Activation.completeTool tool success result duration) l).map
          Activation.nameless =
        completeNewest tool (Activation.completeTool tool success result duration)
          (l.map Activation.nameless) :=
    map_completeNewest running (fun a => a.nameless_completeTool tool success result duration) l
  simp only [nameless, completeTool, List.map_reverse, hmap, map_nameless_nameless]

theorem shown_nameless (x : Execution) :
    x.nameless.shown = x.shown.map Activation.nameless := by
  unfold shown nameless
  dsimp only
  split
  · refine Eq.symm (map_onLast ?_ x.activations)
    intro a
    rfl
  · rfl

/-- No event looks at the names. -/
theorem nameless_absorb (x : Execution) (t : TurnEvent) (same : moment.now = moment'.now) :
    (x.absorb moment t).1.nameless = (x.nameless.absorb moment' t).1.nameless ∧
      (x.absorb moment t).2 = (x.nameless.absorb moment' t).2 := by
  have hshown := x.shown_nameless
  cases t with
  | identifiers conversation message thread => exact ⟨(nameless_nameless _).symm, rfl⟩
  | agentStarted agent =>
    refine ⟨?_, rfl⟩
    simp only [absorb, withHeldShown_eq, hshown, same]
    simp only [nameless, List.map_append, map_nameless_nameless]
    rfl
  | reasoning text => exact ⟨x.nameless_onCurrent fun _ => by simp [Activation.nameless], rfl⟩
  | answer text =>
    have hempty : x.nameless.activations.isEmpty = x.activations.isEmpty := by simp [nameless]
    simp only [absorb, hempty, same]
    split
    · exact ⟨(nameless_nameless x).symm, rfl⟩
    · have hquiet := x.nameless_onCurrent (f := ({ · with isThinking := false }))
        (g := ({ · with isThinking := false })) fun _ => by simp [Activation.nameless]
      refine ⟨?_, rfl⟩
      dsimp only
      rw [(nameless_settle _ _).1, hquiet, ← (nameless_settle _ _).1]
      rfl
  | silence => exact ⟨(nameless_nameless _).symm, rfl⟩
  | wholeAnswer text =>
    exact ⟨x.dropHeld.nameless_onCurrent fun _ => by simp [Activation.nameless], rfl⟩
  | agentFinished agent =>
    have hfinish (z : Execution) :
        (z.onCurrent ({ · with isComplete := true, isThinking := false })).nameless =
          (z.nameless.onCurrent ({ · with isComplete := true, isThinking := false })).nameless :=
      z.nameless_onCurrent fun _ => by simp [Activation.nameless]
    refine ⟨?_, rfl⟩
    simp only [absorb, same]
    rw [hfinish, x.nameless_withHeldShown, ← hfinish]
  | toolStarted tool agent params =>
    refine ⟨nameless_onCurrent { x.dropHeld with toolCount := x.toolCount + 1 } fun a => ?_, rfl⟩
    simp [Activation.nameless, Activation.startTool, ToolCall.nameless]
  | toolFinished tool success result duration =>
    exact ⟨x.nameless_completeTool tool success result duration, rfl⟩
  | permissionAsked tool params thread message =>
    refine ⟨?_, rfl⟩
    simp only [absorb, withHeldShown_eq, hshown, same]
    simp only [nameless, map_nameless_nameless]
  | permissionSettled approved => exact ⟨(nameless_nameless _).symm, rfl⟩
  | completed message =>
    simp only [absorb, withHeldShown_eq, keep_eq, hshown, same]
    refine ⟨?_, rfl⟩
    simp only [nameless, map_nameless_nameless]
  | failed reason => exact ⟨(nameless_nameless _).symm, rfl⟩
  | unknown kind => exact ⟨(nameless_nameless _).symm, rfl⟩

theorem nameless_step (x : Execution) (move : Move) (same : moment.now = moment'.now) :
    (x.step moment move).1.nameless = (x.nameless.step moment' move).1.nameless ∧
      (x.step moment move).2 = (x.nameless.step moment' move).2 := by
  have hu : x.nameless.isUnderWay = x.isUnderWay := rfl
  cases move with
  | receive e =>
    simp only [step, receive, hu]
    obtain ⟨hx, hs⟩ := x.nameless_absorb e.meaning same
    split
    · exact ⟨hx, congrArg Answer.signal hs⟩
    · exact ⟨(nameless_nameless x).symm, rfl⟩
  | showDue =>
    obtain ⟨hx, hs⟩ := x.nameless_settle (x.gate.releaseDue? moment'.now)
    simp only [step, showDue, same]
    exact ⟨hx, congrArg Answer.shown hs⟩
  | showHeld =>
    obtain ⟨hx, hs⟩ := x.nameless_settle (x.gate.release? moment'.now)
    simp only [step, showHeld, same]
    exact ⟨hx, congrArg Answer.shown hs⟩
  | stop =>
    simp only [step, stop, hu, withHeldShown_eq, shown_nameless, same]
    refine ⟨?_, trivial⟩
    split
    · simp only [nameless, map_nameless_nameless]
    · exact (nameless_nameless x).symm
  | proceed =>
    have hp : x.nameless.phase = x.phase := rfl
    simp only [step, proceed, hp]
    refine ⟨?_, trivial⟩
    split <;> exact (nameless_nameless _).symm
  | begin context draft => exact ⟨rfl, rfl⟩
  | learn context => exact ⟨(nameless_nameless _).symm, rfl⟩
  | fail reason => exact ⟨(nameless_nameless _).symm, rfl⟩
  | clear => exact ⟨rfl, rfl⟩
  | wipe => exact ⟨rfl, rfl⟩
  | dropQuestion => exact ⟨(nameless_nameless _).symm, rfl⟩

/-! ### One move of a turn -/

theorem ungated_nameless (x : Execution) : x.nameless.ungated = x.turn := by
  simp only [turn, ungated, shown_nameless]
  rfl

/-- What becomes of a turn is read off the turn, as long as it does not fail. -/
theorem turn_step (h : ¬ x.Failing move) (same : moment.now = moment'.now) :
    (x.step moment move).1.turn = (x.turn.step moment' move).1.turn ∧
      (x.step moment move).2.signal? = (x.turn.step moment' move).2.signal? := by
  obtain ⟨hungated, hsignal⟩ := x.ungated_step moment h
  obtain ⟨hnameless, hanswer⟩ := x.ungated.nameless_step move same
  constructor
  · calc (x.step moment move).1.turn
      _ = (x.ungated.step moment move).1.turn := by rw [turn, hungated, turn]
      _ = (x.ungated.step moment move).1.nameless.ungated := (ungated_nameless _).symm
      _ = (x.turn.step moment' move).1.nameless.ungated := by rw [hnameless, turn]
      _ = (x.turn.step moment' move).1.turn := ungated_nameless _
  · rw [hsignal, hanswer, turn]

theorem failing_turn (x : Execution) (move : Move) : x.turn.Failing move ↔ x.Failing move := by
  cases move <;> exact Iff.rfl

section Alike

variable (hxy : x.turn = y.turn)

include hxy

theorem failing_congr : x.Failing move ↔ y.Failing move := by
  rw [← failing_turn, hxy, failing_turn]

/-- Turns that are alike stay alike, and events of theirs are answered by the same signals. -/
theorem step_congr (h : ¬ x.Failing move) (same : moment.now = moment'.now) :
    (x.step moment move).1.turn = (y.step moment' move).1.turn ∧
      (x.step moment move).2.signal? = (y.step moment' move).2.signal? := by
  obtain ⟨hx, hsx⟩ := turn_step h same
  obtain ⟨hy, hsy⟩ := turn_step (mt (failing_congr hxy).mpr h) (rfl : moment'.now = moment'.now)
  rw [hx, hsx, hy, hsy, hxy]
  exact ⟨rfl, rfl⟩

/-! ### What is archived of a turn -/

/-- An event that archives one of two turns that are alike archives the other one alike. -/
theorem Archives.congr {kept : List Activation} (h : x.Archives now e message kept) :
    ∃ kept', y.Archives now e message kept' ∧
      kept.map Activation.nameless = kept'.map Activation.nameless := by
  have hphase : x.turn.phase = y.turn.phase := congrArg phase hxy
  have hcontext : x.turn.context = y.turn.context := congrArg context hxy
  have hshown : x.shown.map Activation.nameless = y.shown.map Activation.nameless :=
    congrArg activations hxy
  have hfilter (l : List Activation) :
      (l.filter Activation.isNoteworthy).map Activation.nameless =
        (l.map Activation.nameless).filter Activation.isNoteworthy := by
    rw [List.filter_map]
    congr 2
    funext a
    exact a.isNoteworthy_nameless.symm
  have hkept : (x.shown.filter Activation.isNoteworthy).map Activation.nameless =
      (y.shown.filter Activation.isNoteworthy).map Activation.nameless := by
    rw [hfilter, hfilter, hshown]
  refine ⟨_, ⟨?_, h.completes, ?_, ?_, rfl⟩, ?_⟩
  · exact (isUnderWay_congr hphase.symm).trans h.under
  · exact (congrArg (e.data.textAt? "message_id" <|> ·.message) hcontext.symm).trans h.named
  · have hne := (filter_shown_ne_nil_iff x).mpr h.noteworthy
    apply (filter_shown_ne_nil_iff y).mp
    intro hnil
    rw [hnil] at hkept
    exact hne (List.map_eq_nil_iff.mp hkept)
  · rw [h.kept_eq, withHeldShown_eq, withHeldShown_eq]
    exact hkept

theorem Touches.congr (same : moment.now = moment'.now) (h : x.Touches moment message move) :
    y.Touches moment' message move := by
  rcases h with hwipe | ⟨e, kept, hmove, harchives⟩
  · exact .inl hwipe
  · obtain ⟨kept', harchives', -⟩ := harchives.congr hxy
    exact .inr ⟨e, kept', hmove, same ▸ harchives'⟩

/-- An entry that a move has touched is the same afterwards, but for names. -/
theorem archived?_step_congr (same : moment.now = moment'.now)
    (h : x.Touches moment message move) :
    ((x.step moment move).1.archived? message).map (List.map Activation.nameless) =
      ((y.step moment' move).1.archived? message).map (List.map Activation.nameless) := by
  rcases h with rfl | ⟨e, kept, rfl, harchives⟩
  · rfl
  · obtain ⟨kept', harchives', hkept⟩ := harchives.congr hxy
    have hy : y.Archives moment'.now e message kept' := same ▸ harchives'
    rw [harchives.archived?_step, hy.archived?_step, Option.map_some, Option.map_some, hkept]

end Alike

/-! ### Runs -/

/-- Moves that differ in serial numbers only are made at the same time. -/
theorem exists_of_unnumbered_cons (same : unnumbered ((moment, move) :: moves) = unnumbered moves') :
    ∃ moment' rest, moves' = (moment', move) :: rest ∧ moment.now = moment'.now ∧
      unnumbered moves = unnumbered rest := by
  cases moves' with
  | nil => cases same
  | cons m' rest =>
    obtain ⟨moment', move'⟩ := m'
    obtain ⟨hfirst, hrest⟩ := List.cons.inj same
    obtain ⟨hmoment, rfl⟩ := Prod.mk.inj hfirst
    have hnow : moment.anonymous.now = moment'.anonymous.now := congrArg Moment.now hmoment
    exact ⟨moment', rest, rfl, hnow, hrest⟩

section Runs

variable (spared : x.RunsWithoutFailure moves) (same : unnumbered moves = unnumbered moves')
  (hxy : x.turn = y.turn)

include spared same hxy

theorem turn_run :
    (x.run moves).1.turn = (y.run moves').1.turn ∧
      signals (x.run moves).2 = signals (y.run moves').2 := by
  induction moves generalizing x y moves' with
  | nil =>
    obtain rfl : [] = moves' := Eq.symm (List.map_eq_nil_iff.mp same.symm)
    exact ⟨hxy, rfl⟩
  | cons m moves ih =>
    obtain ⟨moment, move⟩ := m
    obtain ⟨moment', rest, rfl, hnow, hrest⟩ := exists_of_unnumbered_cons same
    obtain ⟨hnext, hsignal⟩ := step_congr hxy spared.1 hnow
    obtain ⟨hend, hsignals⟩ := ih spared.2 hrest hnext
    refine ⟨hend, ?_⟩
    unfold signals at hsignals ⊢
    simp only [run, List.filterMap_cons, hsignal, hsignals]

/-- The moves of one of two turns that are alike touch the entries that those of the other do. -/
theorem spares_run_iff : x.Spares message moves ↔ y.Spares message moves' := by
  induction moves generalizing x y moves' with
  | nil =>
    obtain rfl : [] = moves' := Eq.symm (List.map_eq_nil_iff.mp same.symm)
    exact Iff.rfl
  | cons m moves ih =>
    obtain ⟨moment, move⟩ := m
    obtain ⟨moment', rest, rfl, hnow, hrest⟩ := exists_of_unnumbered_cons same
    have hfirst : x.Touches moment message move ↔ y.Touches moment' message move :=
      ⟨Touches.congr hxy hnow, Touches.congr hxy.symm hnow.symm⟩
    obtain ⟨hnext, -⟩ := step_congr hxy spared.1 hnow
    exact and_congr (not_congr hfirst) (ih spared.2 hrest hnext)

/-- The entries that were touched are the same in the end, but for names. -/
theorem archived?_run_congr (touched : ¬ x.Spares message moves) :
    ((x.run moves).1.archived? message).map (List.map Activation.nameless) =
      ((y.run moves').1.archived? message).map (List.map Activation.nameless) := by
  induction moves generalizing x y moves' with
  | nil => exact absurd trivial touched
  | cons m moves ih =>
    obtain ⟨moment, move⟩ := m
    obtain ⟨moment', rest, rfl, hnow, hrest⟩ := exists_of_unnumbered_cons same
    obtain ⟨hnext, -⟩ := step_congr hxy spared.1 hnow
    by_cases hspares : (x.step moment move).1.Spares message moves
    · -- The first move was the last one to touch the entry.
      have htouches : x.Touches moment message move := by
        by_contra hnot
        exact touched ⟨hnot, hspares⟩
      have hspares' := (spares_run_iff spared.2 hrest hnext).mp hspares
      calc ((x.run ((moment, move) :: moves)).1.archived? message).map (List.map Activation.nameless)
        _ = ((x.step moment move).1.archived? message).map (List.map Activation.nameless) :=
          congrArg _ (archived?_run_of_spares hspares)
        _ = ((y.step moment' move).1.archived? message).map (List.map Activation.nameless) :=
          archived?_step_congr hxy hnow htouches
        _ = ((y.run ((moment', move) :: rest)).1.archived? message).map
              (List.map Activation.nameless) :=
          congrArg _ (archived?_run_of_spares hspares').symm
    · have hend := ih spared.2 hrest hnext hspares
      exact hend

end Runs

theorem view_turn (x : Execution) (now : Nat) :
    (x.withHeldShown now).nameless.view = x.turn.view := by
  rw [withHeldShown_eq]
  rfl

/-- Let two executions begin the same turn, whatever each of them went through before, and however
long the frames of each are. If they then move alike, at the same times and without a failure, every
event is answered by the same signal, and once held text is shown both look the same but for the
names that they have made up. The entries of the archive that were touched since the turn began are
those of the same messages, and the same but for such names; all others are what they were before
the turn. -/
theorem view_run_begin (x y : Execution) (context : Context) (draft : String)
    {moves moves' : List (Moment × Move)} (same : unnumbered moves = unnumbered moves')
    (spared : (x.begin context draft).RunsWithoutFailure moves) :
    let x' := x.begin context draft
    let y' := y.begin context draft
    signals (x'.run moves).2 = signals (y'.run moves').2 ∧
      (∀ now, ((x'.run moves).1.withHeldShown now).nameless.view =
        ((y'.run moves').1.withHeldShown now).nameless.view) ∧
      ∀ message, (x'.Spares message moves ↔ y'.Spares message moves') ∧
        (¬ x'.Spares message moves →
          ((x'.run moves).1.archived? message).map (List.map Activation.nameless) =
            ((y'.run moves').1.archived? message).map (List.map Activation.nameless)) ∧
        (x'.Spares message moves → (x'.run moves).1.archived? message = x.archived? message ∧
          (y'.run moves').1.archived? message = y.archived? message) := by
  intro x' y'
  have hbegin : x'.turn = y'.turn := rfl
  obtain ⟨hturn, hsignals⟩ := turn_run spared same hbegin
  refine ⟨hsignals, fun now => ?_, fun message => ?_⟩
  · rw [view_turn, view_turn, hturn]
  · have hspares : x'.Spares message moves ↔ y'.Spares message moves' :=
      spares_run_iff spared same hbegin
    refine ⟨hspares, archived?_run_congr spared same hbegin, fun untouched => ?_⟩
    exact ⟨archived?_run_of_spares untouched, archived?_run_of_spares (hspares.mp untouched)⟩

/-- A turn in which an agent calls a tool, and that is completed while its last text is held back. -/
def callingTurn (serial : Nat) : List (Moment × Move) :=
  let event (kind key text : String) : Move :=
    .receive ⟨kind, none, some "A", some "X", .object [(key, .string text)]⟩
  [(⟨9, 0, serial⟩, event "agent_start" "" ""), (⟨10, 0, serial + 1⟩, event "tool_start" "" ""),
    (⟨11, 0, serial + 2⟩, event "llm_chunk" "content" "T"),
    (⟨12, 0, serial + 3⟩, event "llm_chunk" "content" "Tu"),
    (⟨13, 0, serial + 4⟩, event "complete" "message_id" "m")]

theorem view_run_begin_callingTurn :
    let failed := ((new (.fresh 16)).run ((hastyTurn 0).take 4 ++ [(⟨6, 0, 5⟩, .fail "lost")])).1
    let calling :=
      ((new (.fresh 1000)).run ((⟨0, 0, 0⟩, .begin .none "q") :: (callingTurn 1).take 2)).1
    let x := failed.begin .none "r"
    let y := calling.begin .none "r"
    let ids (z : Execution) := (z.archived? "m").map (·.map (·.tools.map (·.id)))
    unnumbered (callingTurn 5) = unnumbered (callingTurn 7) ∧
      x.RunsWithoutFailure (callingTurn 5) ∧ x.gate ≠ y.gate ∧
      ids (x.run (callingTurn 5)).1 = some [["X-0-1"]] ∧
      ids (y.run (callingTurn 7)).1 = some [["X-0-2"]] ∧
      ((x.run (callingTurn 5)).1.archived? "m").map (List.map Activation.nameless) =
        ((y.run (callingTurn 7)).1.archived? "m").map (List.map Activation.nameless) := by
  intro failed calling x y ids
  have same : unnumbered (callingTurn 5) = unnumbered (callingTurn 7) := rfl
  have spared : x.RunsWithoutFailure (callingTurn 5) := runsWithoutFailure_of_forall x (by decide)
  have touched : ¬ x.Spares "m" (callingTurn 5) := by
    intro spares
    have hsome := congrArg Option.isSome (archived?_run_of_spares spares)
    exact absurd hsome (by decide)
  obtain ⟨-, -, harchived⟩ := view_run_begin failed calling .none "r" same spared
  obtain ⟨-, hentries, -⟩ := harchived "m"
  exact ⟨same, spared, by decide, by decide, by decide, hentries touched⟩

end BranchChat.Execution

