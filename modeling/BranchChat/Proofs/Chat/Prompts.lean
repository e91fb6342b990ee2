import Mathlib.Data.List.Induction
import Mathlib.Data.List.Infix
import BranchChat.Proofs.Chat.Steps
import BranchChat.Proofs.Client.Decisions

/-!
# Prompts and decisions

A chat tells the backend a decision of the user only when it has shown a prompt, and it tells one
decision for each prompt. The decision is about the question whose tool the prompt has shown, and
the row of input that comes after the prompt settles it. Only the last prompt may be without a
decision.

## Main definitions

- `Chat.prompts`: the tools that the prompts of a chat have shown
- `Chat.Stepped`: what a move comes to, as far as prompts and decisions go
- `Chat.Decides`: a row of input settles the question that the last prompt has shown

## Main statements

- `stepped`: every move comes to one of these
- `decisions_run`: the decisions of a run, each with its prompt and its row
-/

namespace BranchChat

open BranchChat.Execution (Moment)
open BranchChat.Web

namespace Chat

variable {c d : Chat}

/-! ### Prompts -/

/-- The tool that a piece of output asks for. -/
def Entry.tool? : Entry → Option String
  | prompt tool => some tool
  | drawing _ | line _ => none

/-- The tools that the prompts of a chat have shown, in order. -/
def prompts (c : Chat) : List String :=
  c.written.filterMap Entry.tool?

/-- The decisions that the backend was told. -/
def decisions (c : Chat) : List Request :=
  c.scene.network.decisions

/-- A move has shown no prompt, told no decision and taken no row of input. -/
structure Quiet (c d : Chat) : Prop where
  prompts : d.prompts = c.prompts
  decisions : d.decisions = c.decisions
  rows : d.rows = c.rows

theorem prompts_write (c : Chat) (e : Entry) : (c.write e).prompts = c.prompts ++ e.tool?.toList := by
  unfold prompts write
  rw [List.filterMap_append]
  cases e <;> rfl

theorem quiet_line (c : Chat) (text : String) : Quiet c (c.write (.line text)) :=
  ⟨(c.prompts_write _).trans (List.append_nil _), rfl, rfl⟩

theorem quiet_drawLines (c : Chat) (lines : List String) : Quiet c (c.drawLines lines) :=
  ⟨(prompts_write _ _).trans (List.append_nil _), rfl, rfl⟩

theorem quiet_drawTurn (c : Chat) : Quiet c c.drawTurn :=
  c.quiet_drawLines _

theorem Quiet.trans {e : Chat} (h : Quiet c d) (h' : Quiet d e) : Quiet c e :=
  ⟨h'.prompts.trans h.prompts, h'.decisions.trans h.decisions, h'.rows.trans h.rows⟩

theorem Quiet.ended (h : Quiet c d) (result : Except Failure Unit) : Quiet c (d.ended result) :=
  ⟨h.prompts, h.decisions, h.rows⟩

theorem Quiet.watch (h : Quiet c d) (now : Nat) : Quiet c (d.watch now) :=
  ⟨h.prompts, h.decisions, h.rows⟩

/-! ### Moves -/

/-- A chat has just shown a prompt for the question that is open. -/
structure Asks (c : Chat) (q : Execution.Question) : Prop where
  stage : c.stage = .asking
  question : c.scene.client.execution.question = some q
  prompt : c.written.getLast? = some (.prompt q.tool)

/-- The request tells what the next row of input says about the question that is open. -/
def CarriesDecision (c : Chat) (r : Request) : Prop :=
  ∃ conversation thread message,
    Scene.decisionTarget? c.scene.client.execution = some (conversation, thread, message) ∧
    r.CarriesOut (c.scene.client.backend.continueTurn conversation thread message
      (isConsent (c.rows.head?.getD "")))

/-- What a move comes to, as far as prompts and decisions go. -/
inductive Stepped (c : Chat) (move : Move) (d : Chat) : Prop where
  /-- It was not possible. -/
  | refused (same : d = c)
  | ended (isOver : d.stage.isOver = true) (prompts : d.prompts = c.prompts)
      (decisions : d.decisions = c.decisions)
  | goesOn (busy : c.stage.isBusy = true) (busy' : d.stage.isBusy = true) (quiet : Quiet c d)
  /-- The question of the turn was shown. -/
  | asked (q : Execution.Question) (busy : c.stage.isBusy = true) (asks : d.Asks q)
      (prompts : d.prompts = c.prompts ++ [q.tool]) (decisions : d.decisions = c.decisions)
      (rows : d.rows = c.rows)
  /-- A row of input was taken as the decision. -/
  | answered (now : Nat) (r : Request) (input : move = .input now) (asking : c.stage = .asking)
      (prompts : d.prompts = c.prompts) (decisions : d.decisions = c.decisions ++ [r])
      (rows : d.rows = c.rows.tail) (carries : c.CarriesDecision r)
      (stage : d.stage.isBusy = true ∨ d.stage.isOver = true)

theorem Stepped.of_quiet {move : Move} (isOver : d.stage.isOver = true) (quiet : Quiet c d) :
    c.Stepped move d :=
  .ended isOver quiet.prompts quiet.decisions

/-- A row of input is told as the decision, or the chat is over. -/
theorem stepped_takeRow (c : Chat) (now : Nat) : c.Stepped (.input now) (c.takeRow now) := by
  unfold takeRow
  split
  · next hstage =>
    obtain ⟨decision, htold, hcarries, hok⟩ :=
      c.scene.decisions_resume (isConsent (c.rows.head?.getD ""))
    dsimp only
    split
    · next scene heq =>
      rw [heq] at htold hok
      obtain ⟨r, rfl⟩ := Option.isSome_iff_exists.mp (hok rfl)
      exact .answered now r rfl hstage rfl htold rfl (hcarries r rfl) (.inl rfl)
    · next scene e heq =>
      rw [heq] at htold
      cases decision with
      | none => exact .ended rfl rfl (htold.trans (List.append_nil _))
      | some r => exact .answered now r rfl hstage rfl htold rfl (hcarries r rfl) (.inr rfl)
  all_goals exact .refused rfl

/-- An update asks for a decision, or it shows no prompt. -/
theorem stepped_report {move : Move} {scene : Scene} (u : Update) (now : Nat)
    (busy : c.stage.isBusy = true) (decisions : scene.network.decisions = c.decisions)
    (question : u = .decisionNeeded → scene.client.execution.question.isSome = true) :
    c.Stepped move ({ c with scene }.report u now) := by
  have hscene : Quiet c { c with scene } := ⟨rfl, decisions, rfl⟩
  have hdrawn := hscene.trans (quiet_drawTurn _)
  cases u with
  | progress => exact .goesOn busy rfl (hdrawn.watch now)
  | paused => exact .goesOn busy rfl (hdrawn.watch now)
  | decisionNeeded =>
    obtain ⟨q, hq⟩ := Option.isSome_iff_exists.mp (question rfl)
    have htool : (scene.client.execution.question.map (·.tool)).getD "" = q.tool := by
      rw [hq]
      rfl
    refine .asked q busy ⟨rfl, hq, ?_⟩ ?_ hdrawn.decisions hdrawn.rows
    · rw [← htool]
      exact List.getLast?_concat
    · rw [← hdrawn.prompts, ← htool]
      exact prompts_write _ _
  | completed message =>
    have hclosing := hscene.trans (quiet_drawLines _ (closingLines { c with scene } message))
    refine .of_quiet rfl ?_
    unfold report
    dsimp only
    split
    · exact (hclosing.trans (quiet_line _ _)).ended (.ok ())
    · exact hclosing.ended (.ok ())
  | failed reason => exact .of_quiet rfl (hdrawn.ended _)
  | stopped => exact .of_quiet rfl (hdrawn.ended _)

/-- Taking what the network has comes to an update, or to nothing that is shown. -/
theorem stepped_advance (c : Chat) (moment : Moment) :
    c.Stepped (.advance moment) (c.advance moment) := by
  unfold advance
  split
  · next due hstage =>
    have busy : c.stage.isBusy = true := by rw [hstage]; rfl
    have hfold := congrArg Network.decisions (c.scene.network_fold moment)
    split
    · next scene heq =>
      rw [heq] at hfold
      refine .goesOn busy ?_ ⟨rfl, hfold, rfl⟩
      show c.stage.isBusy = true
      exact busy
    · next scene heq =>
      rw [heq] at hfold
      exact .ended rfl rfl hfold
    · next scene u heq =>
      rw [heq] at hfold
      have hcourse := c.scene.course_fold moment
      rw [heq] at hcourse
      refine stepped_report u moment.now busy hfold fun hu => ?_
      subst hu
      cases hcourse with
      | pending none _ => exact absurd rfl (none _)
      | asked question => exact question
    · next scene message id heq =>
      rw [heq] at hfold
      exact .goesOn busy rfl ⟨rfl, hfold, rfl⟩
  · next due message id hstage =>
    have busy : c.stage.isBusy = true := by rw [hstage]; rfl
    have hfetched := c.scene.decisions_obtainConversation id
    split
    · next scene e heq =>
      rw [heq] at hfetched
      refine stepped_report (.completed message) moment.now busy ?_ nofun
      rw [Scene.network_settle]
      exact hfetched
    · next scene conversation heq =>
      rw [heq] at hfetched
      exact .goesOn busy rfl ⟨rfl, hfetched, rfl⟩
  · next due message id conversation hstage =>
    have busy : c.stage.isBusy = true := by rw [hstage]; rfl
    refine stepped_report (.completed message) moment.now busy ?_ nofun
    rw [Scene.network_settle]
    exact c.scene.decisions_obtainArtifacts id
  · exact .refused rfl
  · exact .refused rfl

/-- Giving up what is fetched tells no decision. -/
theorem decisions_abandoned (c : Chat) : c.abandoned.network.decisions = c.decisions := by
  unfold abandoned
  split
  · exact c.scene.decisions_abandonCall rfl
  · exact c.scene.decisions_abandonCall rfl
  all_goals rfl

theorem stepped_frame (c : Chat) (now : Nat) : c.Stepped (.frame now) (c.frame now) := by
  unfold frame
  split
  · exact .refused rfl
  · next due hdue =>
    split
    · exact .refused rfl
    · have hframe : (c.abandoned.onFrame now).1.network.decisions = c.decisions :=
        c.decisions_abandoned
      generalize c.abandoned.onFrame now = result at hframe
      have hscene : Quiet c { c with scene := result.1 } := ⟨rfl, hframe, rfl⟩
      refine .goesOn (isBusy_of_due? hdue) rfl (Quiet.watch ?_ now)
      split
      · exact hscene.trans (quiet_drawTurn _)
      · exact hscene

theorem stepped_interrupt (c : Chat) (now : Nat) :
    c.Stepped (.interrupt now) (c.interrupt now) := by
  have hstop (s : Scene) : (s.stop now).network = s.network := Scene.abort_network s
  unfold interrupt
  split
  · exact .refused rfl
  · have hscene : Quiet c { c with scene := c.scene.stop now } :=
      ⟨rfl, congrArg Network.decisions (hstop c.scene), rfl⟩
    exact .of_quiet rfl (((hscene.trans (quiet_line _ _)).trans (quiet_line _ _)).ended (.ok ()))
  all_goals
    have hscene : Quiet c { c with scene := c.abandoned.stop now } :=
      ⟨rfl, (congrArg Network.decisions (hstop c.abandoned)).trans c.decisions_abandoned, rfl⟩
    exact .of_quiet rfl (((hscene.trans (quiet_drawTurn _)).trans (quiet_line _ _)).ended (.ok ()))

theorem stepped (c : Chat) (move : Move) : c.Stepped move (c.step move) := by
  cases move with
  | interrupt now => exact c.stepped_interrupt now
  | frame now => exact c.stepped_frame now
  | advance moment => exact c.stepped_advance moment
  | input now => exact c.stepped_takeRow now
  | unreadable =>
    show c.Stepped .unreadable c.refuseRow
    unfold refuseRow
    split
    · exact .ended rfl rfl rfl
    all_goals exact .refused rfl

/-! ### The beginning -/

/-- A chat that has shown no prompt and waits for none to be answered. -/
structure Unasked (c : Chat) (scene : Scene) (rows : List String) : Prop where
  prompts : c.prompts = []
  decisions : c.decisions = scene.network.decisions
  rows : c.rows = rows
  stage : c.stage.isBusy = true ∨ c.stage.isOver = true

/-- The row of input that is there at `now` settles the question `q`, which the last prompt has
shown, and the request `r` tells the backend so. -/
structure Decides (c : Chat) (q : Execution.Question) (now : Nat) (r : Request) : Prop where
  asks : c.Asks q
  sends : (c.step (.input now)).decisions = c.decisions ++ [r]
  about : ∃ conversation thread message approved,
    (q.conversation <|> c.scene.client.execution.context.conversation) = some conversation ∧
    (q.thread <|> c.scene.client.execution.context.thread) = some thread ∧
    (q.message <|> c.scene.client.execution.context.message) = some message ∧
    (approved = true ↔ Text.trimmed (c.rows.head?.getD "") ∈ ["y", "Y", "yes"]) ∧
    r.CarriesOut
      (c.scene.client.backend.continueTurn conversation thread message approved)

theorem isConsent_iff (row : String) :
    isConsent row = true ↔ Text.trimmed row ∈ ["y", "Y", "yes"] :=
  List.contains_iff_mem

/-- Only the question that is open is decided about. -/
theorem Asks.decides {q : Execution.Question} {now : Nat} {r : Request} (h : c.Asks q)
    (sends : (c.step (.input now)).decisions = c.decisions ++ [r]) (carries : c.CarriesDecision r) :
    c.Decides q now r := by
  obtain ⟨conversation, thread, message, htarget, hcarries⟩ := carries
  rw [Scene.decisionTarget?_eq_some_iff, h.question] at htarget
  obtain ⟨hconversation, hthread, hmessage⟩ := htarget
  exact ⟨h, sends, conversation, thread, message, _, hconversation, hthread, hmessage,
    isConsent_iff _, hcarries⟩

/-- The decision at place `i` belongs to the prompt and to the row of input at the same place. -/
def SettledAt (c : Chat) (moves : List Move) (told : List Request) (i : Nat) (r : Request) : Prop :=
  ∃ before now after q,
    moves = before ++ .input now :: after ∧ (c.run before).Decides q now r ∧
    (c.run before).decisions = c.decisions ++ told.take i ∧
    (c.run before).rows = c.rows.drop i ∧
    (c.run before).prompts <+: (c.run moves).prompts ∧ (c.run before).prompts.length = i + 1

/-- The requests `told` are the decisions of a run, each with its prompt and its row. While the chat
waits for the network there is a decision for every prompt; while it waits for a row of input, there
is one for every prompt but the last. -/
structure Account (c : Chat) (moves : List Move) (told : List Request) : Prop where
  decisions : (c.run moves).decisions = c.decisions ++ told
  settled : ∀ i r, told[i]? = some r → c.SettledAt moves told i r
  busy : (c.run moves).stage.isBusy = true → (c.run moves).prompts.length = told.length
  asking : (c.run moves).stage = .asking →
    (c.run moves).prompts.length = told.length + 1 ∧ ∃ q, (c.run moves).Asks q
  pace : told.length ≤ (c.run moves).prompts.length ∧
    (c.run moves).prompts.length ≤ told.length + 1
  rows : (c.run moves).stage.isOver = false → (c.run moves).rows = c.rows.drop told.length

variable {moves : List Move} {move : Move} {told : List Request}

theorem SettledAt.concat {i : Nat} {r : Request} (h : c.SettledAt moves told i r)
    (hi : i ≤ told.length) (more : List Request)
    (hprompts : (c.run moves).prompts <+: (c.run (moves ++ [move])).prompts) :
    c.SettledAt (moves ++ [move]) (told ++ more) i r := by
  obtain ⟨before, now, after, q, rfl, hdecides, htold, hrows, hprefix, hlength⟩ := h
  refine ⟨before, now, after ++ [move], q, ?_, hdecides, ?_, hrows, hprefix.trans hprompts, hlength⟩
  · rw [List.append_assoc, List.cons_append]
  · rw [List.take_append_of_le_length hi]
    exact htold

/-- A move that tells no decision leaves the account of the earlier ones as it is. -/
theorem Account.settled_concat (h : c.Account moves told)
    (hprompts : (c.run moves).prompts <+: (c.run (moves ++ [move])).prompts) :
    ∀ i r, told[i]? = some r → c.SettledAt (moves ++ [move]) told i r := by
  intro i r hr
  have hi := (List.getElem?_eq_some_iff.mp hr).1
  have hconcat := (h.settled i r hr).concat (Nat.le_of_lt hi) [] hprompts
  rwa [List.append_nil] at hconcat

theorem Account.refused (h : c.Account moves told)
    (same : c.run (moves ++ [move]) = c.run moves) : c.Account (moves ++ [move]) told where
  decisions := by
    rw [same]
    exact h.decisions
  settled := h.settled_concat (by rw [same])
  busy := by
    rw [same]
    exact h.busy
  asking := by
    rw [same]
    exact h.asking
  pace := by
    rw [same]
    exact h.pace
  rows := by
    rw [same]
    exact h.rows

theorem Account.ended (h : c.Account moves told)
    (isOver : (c.run (moves ++ [move])).stage.isOver = true)
    (prompts : (c.run (moves ++ [move])).prompts = (c.run moves).prompts)
    (decisions : (c.run (moves ++ [move])).decisions = (c.run moves).decisions) :
    c.Account (moves ++ [move]) told := by
  refine ⟨decisions.trans h.decisions, h.settled_concat ?_, fun hbusy => ?_, fun hasking => ?_, ?_,
    fun hgoing => ?_⟩
  · rw [prompts]
  · rw [Stage.isOver_of_isBusy hbusy] at isOver
    cases isOver
  · rw [hasking] at isOver
    cases isOver
  · rw [prompts]
    exact h.pace
  · rw [isOver] at hgoing
    cases hgoing

theorem Account.goesOn (h : c.Account moves told) (busy : (c.run moves).stage.isBusy = true)
    (busy' : (c.run (moves ++ [move])).stage.isBusy = true)
    (quiet : Quiet (c.run moves) (c.run (moves ++ [move]))) :
    c.Account (moves ++ [move]) told := by
  refine ⟨quiet.decisions.trans h.decisions, h.settled_concat ?_, fun _ => ?_, fun hasking => ?_, ?_,
    fun _ => ?_⟩
  · rw [quiet.prompts]
  · rw [quiet.prompts]
    exact h.busy busy
  · rw [hasking] at busy'
    cases busy'
  · rw [quiet.prompts]
    exact h.pace
  · rw [quiet.rows]
    exact h.rows (Stage.isOver_of_isBusy busy)

/-- A new prompt has no decision yet. -/
theorem Account.asked (h : c.Account moves told) {q : Execution.Question}
    (busy : (c.run moves).stage.isBusy = true) (asks : (c.run (moves ++ [move])).Asks q)
    (prompts : (c.run (moves ++ [move])).prompts = (c.run moves).prompts ++ [q.tool])
    (decisions : (c.run (moves ++ [move])).decisions = (c.run moves).decisions)
    (rows : (c.run (moves ++ [move])).rows = (c.run moves).rows) :
    c.Account (moves ++ [move]) told := by
  have hlength : (c.run (moves ++ [move])).prompts.length = told.length + 1 := by
    rw [prompts, List.length_append, h.busy busy]
    rfl
  refine ⟨decisions.trans h.decisions, h.settled_concat ?_, fun hbusy => ?_,
    fun _ => ⟨hlength, q, asks⟩, ?_, fun _ => ?_⟩
  · rw [prompts]
    exact List.prefix_append ..
  · rw [asks.stage] at hbusy
    cases hbusy
  · rw [hlength]
    exact ⟨Nat.le_succ _, Nat.le_refl _⟩
  · rw [rows]
    exact h.rows (Stage.isOver_of_isBusy busy)

/-- A decision is about the question that the last prompt has shown. -/
theorem Account.answered (h : c.Account moves told) {now : Nat} {r : Request}
    (asking : (c.run moves).stage = .asking)
    (prompts : (c.run (moves ++ [.input now])).prompts = (c.run moves).prompts)
    (decisions : (c.run (moves ++ [.input now])).decisions = (c.run moves).decisions ++ [r])
    (rows : (c.run (moves ++ [.input now])).rows = (c.run moves).rows.tail)
    (carries : (c.run moves).CarriesDecision r)
    (stage : (c.run (moves ++ [.input now])).stage.isBusy = true ∨
      (c.run (moves ++ [.input now])).stage.isOver = true) :
    c.Account (moves ++ [.input now]) (told ++ [r]) := by
  obtain ⟨hlength, q, hasks⟩ := h.asking asking
  have hrows : (c.run moves).rows = c.rows.drop told.length := h.rows (by rw [asking]; rfl)
  have hkept : (c.run moves).prompts <+: (c.run (moves ++ [.input now])).prompts := by
    rw [prompts]
  have hmore : (c.run (moves ++ [.input now])).prompts.length = (told ++ [r]).length := by
    rw [prompts, hlength, List.length_append, List.length_singleton]
  have hdecides : (c.run moves).Decides q now r := by
    refine hasks.decides ?_ carries
    rw [← run_concat]
    exact decisions
  refine ⟨?_, fun i r' hr => ?_, fun _ => hmore, fun hasking => ?_, ?_, fun _ => ?_⟩
  · rw [decisions, h.decisions, List.append_assoc]
  · rcases Nat.lt_trichotomy i told.length with hi | rfl | hi
    · rw [List.getElem?_append_left hi] at hr
      exact (h.settled i r' hr).concat (Nat.le_of_lt hi) [r] hkept
    · rw [List.getElem?_concat_length] at hr
      obtain rfl := Option.some.inj hr
      refine ⟨moves, now, [], q, rfl, hdecides, ?_, hrows, hkept, hlength⟩
      rw [List.take_left]
      exact h.decisions
    · rw [List.getElem?_eq_none (by rw [List.length_append]; exact hi)] at hr
      cases hr
  · rw [hasking] at stage
    rcases stage with hbusy | hover
    · cases hbusy
    · cases hover
  · rw [hmore]
    exact ⟨Nat.le_refl _, Nat.le_succ _⟩
  · rw [rows, hrows, List.tail_drop, List.length_append, List.length_singleton]

/-- A move tells at most one decision more. -/
theorem Account.step (h : c.Account moves told) (move : Move) :
    c.Account (moves ++ [move]) told ∨ ∃ r, c.Account (moves ++ [move]) (told ++ [r]) := by
  have hstepped := (c.run moves).stepped move
  rw [← run_concat] at hstepped
  cases hstepped with
  | refused same => exact .inl (h.refused same)
  | ended isOver prompts decisions => exact .inl (h.ended isOver prompts decisions)
  | goesOn busy busy' quiet => exact .inl (h.goesOn busy busy' quiet)
  | asked q busy asks prompts decisions rows =>
    exact .inl (h.asked busy asks prompts decisions rows)
  | answered now r input asking prompts decisions rows carries stage =>
    subst input
    exact .inr ⟨r, h.answered asking prompts decisions rows carries stage⟩

theorem Unasked.account {scene : Scene} {rows : List String} (h : c.Unasked scene rows) :
    c.Account [] [] where
  decisions := (List.append_nil _).symm
  settled _ _ hr := by cases hr
  busy _ := congrArg List.length h.prompts
  asking hasking := by
    have hstage := h.stage
    rw [show c.stage = .asking from hasking] at hstage
    rcases hstage with hbusy | hover
    · cases hbusy
    · cases hover
  pace := by
    rw [show (c.run []).prompts = [] from h.prompts]
    exact ⟨Nat.le_refl _, Nat.zero_le _⟩
  rows _ := rfl

/-- One prompt and one permission. -/
example :
    let c := (begin Scene.asking none none "Hi" false ["yes"] 0).run [.advance ⟨0, 0, 0⟩, .input 1]
    c.prompts = ["rm"] ∧ c.decisions.length = 1 := by
  decide +kernel

end Chat

end BranchChat
