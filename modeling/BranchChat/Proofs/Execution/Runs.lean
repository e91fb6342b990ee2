import BranchChat.Execution.Fold

/-!
# Runs of an execution

A run is a list of moves, each at its moment. Every move has an answer: an event that is received
is answered by a signal or by none, and showing held text is answered by whether there was some.

## Main definitions

- `Move`: what can be done to an execution
- `Answer`: what is answered to a move
- `step`, `run`: carry moves out
- `RunsWithoutFailure`: no turn of a run fails
- `Move.isWithinTurn`: whether a move leaves the turn the same one
- `folded`: the events of a run that are folded, each with the execution that folds it
-/

namespace BranchChat.Execution

open BranchChat.Stream (WireEvent)

/-- What can be done to an execution. -/
inductive Move where
  | begin (context : Context) (draft : String)
  | receive (e : WireEvent)
  | learn (context : Context)
  | showDue
  | showHeld
  | stop
  | fail (reason : String)
  | clear
  | wipe
  | dropQuestion
  | proceed

/-- What is answered to a move. -/
inductive Answer where
  | done
  | signal (s : Option Signal)
  | shown (wasHeld : Bool)
deriving DecidableEq

/-- Carries a move out. -/
def step (x : Execution) (moment : Moment) : Move → Execution × Answer
  | .begin context draft => (x.begin context draft, .done)
  | .receive e => ((x.receive e moment).1, .signal (x.receive e moment).2)
  | .learn context => (x.learn context, .done)
  | .showDue => ((x.showDue moment.now).1, .shown (x.showDue moment.now).2)
  | .showHeld => ((x.showHeld moment.now).1, .shown (x.showHeld moment.now).2)
  | .stop => (x.stop moment.now, .done)
  | .fail reason => (x.fail reason, .done)
  | .clear => (x.clear, .done)
  | .wipe => (x.wipe, .done)
  | .dropQuestion => (x.dropQuestion, .done)
  | .proceed => (x.proceed, .done)

/-- Carries moves out one after the other, and gives their answers in order. -/
def run (x : Execution) : List (Moment × Move) → Execution × List Answer
  | [] => (x, [])
  | (moment, move) :: moves =>
    let next := (x.step moment move).1.run moves
    (next.1, (x.step moment move).2 :: next.2)

theorem run_append (x : Execution) (before after : List (Moment × Move)) :
    (x.run (before ++ after)).1 = ((x.run before).1.run after).1 := by
  induction before generalizing x with
  | nil => rfl
  | cons m before ih => exact ih _

/-- What every move keeps true stays true in a run. -/
theorem holds_run {P : Execution → Prop}
    (kept : ∀ (x : Execution) (moment : Moment) (move : Move), P x → P (x.step moment move).1)
    {x : Execution} (h : P x) (moves : List (Moment × Move)) : P (x.run moves).1 := by
  induction moves generalizing x with
  | nil => exact h
  | cons m moves ih => exact ih (kept x m.1 m.2 h)

/-- The signal in an answer to an event. -/
def Answer.signal? : Answer → Option (Option Signal)
  | .signal s => some s
  | .done | .shown _ => none

/-- The signals that the events of a run were answered by. -/
def signals (answers : List Answer) : List (Option Signal) :=
  answers.filterMap Answer.signal?

/-- Whether a move makes the turn fail: by itself, or by an event that is folded and says so. -/
def Failing (x : Execution) : Move → Prop
  | .receive e => x.isUnderWay = true ∧ e.kind = "error"
  | .fail _ => True
  | _ => False

/-- No turn fails in a run. -/
def RunsWithoutFailure (x : Execution) : List (Moment × Move) → Prop
  | [] => True
  | (moment, move) :: moves =>
    ¬ x.Failing move ∧ (x.step moment move).1.RunsWithoutFailure moves

/-- No turn fails in the first moves of a run if none fails at all. -/
theorem RunsWithoutFailure.take {x : Execution} {moves : List (Moment × Move)} (n : Nat)
    (h : x.RunsWithoutFailure moves) : x.RunsWithoutFailure (moves.take n) := by
  induction moves generalizing x n with
  | nil => simpa using h
  | cons m moves ih =>
    cases n with
    | zero => exact trivial
    | succ n => exact ⟨h.1, ih n h.2⟩

/-- Whether a move can make a turn fail. -/
def Move.mayFail : Move → Bool
  | .receive e => e.kind == "error"
  | .fail _ => true
  | _ => false

/-- No turn fails if there is neither a failure nor an event of kind `error` among the moves. -/
theorem runsWithoutFailure_of_forall (x : Execution) {moves : List (Moment × Move)}
    (h : ∀ m ∈ moves, m.2.mayFail = false) : x.RunsWithoutFailure moves := by
  induction moves generalizing x with
  | nil => exact trivial
  | cons m moves ih =>
    obtain ⟨moment, move⟩ := m
    refine ⟨?_, ih _ fun m hm => h m (List.mem_cons_of_mem _ hm)⟩
    have hmove := h _ List.mem_cons_self
    cases move <;> simp_all [Failing, Move.mayFail]

/-! ### Within a turn -/

/-- Whether a move leaves the turn the same one. A new turn begins with `begin`, and after `clear`
and `wipe` there is none. -/
def Move.isWithinTurn : Move → Bool
  | .begin .. | .clear | .wipe => false
  | _ => true

/-- The event that a move folds: one that is received while a turn is under way. -/
def folds? (x : Execution) : Move → Option WireEvent
  | .receive e => if x.isUnderWay then some e else none
  | _ => none

/-- The events of a run that are folded, each with the execution that folds it. -/
def folded (x : Execution) : List (Moment × Move) → List (Execution × WireEvent)
  | [] => []
  | (moment, move) :: moves =>
    (x.folds? move).toList.map (x, ·) ++ (x.step moment move).1.folded moves

theorem folds?_eq_some_iff {x : Execution} {move : Move} {e : WireEvent} :
    x.folds? move = some e ↔ x.isUnderWay = true ∧ move = .receive e := by
  cases move <;> simp [folds?]

end BranchChat.Execution
