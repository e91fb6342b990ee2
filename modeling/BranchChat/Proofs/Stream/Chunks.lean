import BranchChat.Proofs.Stream.Lines
import Mathlib.Data.List.Induction

/-!
# Bytes in chunks

A framing is fed the bytes of one connection in chunks, as the network cuts them, and is closed at
their end. Between two ends it does not matter where the chunks are cut: all that counts is where
the lines end.

## Main definitions

- `Move`, `run`: what can be done to a framing, and the answers to it
- `stretches`: the parts of a run between two ends

## Main statements

- `run_stretches`: what is given for each stretch, and by which chunk
-/

namespace BranchChat.Stream.Framing

open BranchChat.Text (cut)

/-- What can be done to a framing. -/
inductive Move where
  | feed (bs : List UInt8)
  | close
deriving DecidableEq

/-- The bytes that come with a move. -/
def Move.bytes : Move → List UInt8
  | .feed bs => bs
  | .close => []

/-- Whether a move is the end of the bytes. -/
def Move.isClose : Move → Bool
  | .feed _ => false
  | .close => true

/-- Carries a move out, and gives the events that it is answered by. -/
def step (f : Framing) : Move → Framing × List WireEvent
  | .feed bs => f.feed bs
  | .close => (f.close, [])

/-- Moves with the events that they are answered by. -/
abbrev Log := List (Move × List WireEvent)

/-- Carries moves out one after the other, and gives them with their answers. -/
def run (f : Framing) : List Move → Framing × Log
  | [] => (f, [])
  | move :: moves =>
    let next := (f.step move).1.run moves
    (next.1, (move, (f.step move).2) :: next.2)

/-- All bytes of a log. -/
def Log.bytes (log : Log) : List UInt8 :=
  log.flatMap (·.1.bytes)

/-- All events of a log. -/
def Log.events (log : Log) : List WireEvent :=
  log.flatMap (·.2)

/-- The parts of a log between two ends. The last one is still open. -/
def Log.stretches (log : Log) : List Log :=
  cut (·.1.isClose) log

/-- The log of a framing that is fed chunks and not closed. -/
def fed (f : Framing) (chunks : List (List UInt8)) : Log :=
  (f.run (chunks.map .feed)).2

/-! ### One stretch -/

theorem run_append (f : Framing) (moves more : List Move) :
    f.run (moves ++ more) =
      (((f.run moves).1.run more).1, (f.run moves).2 ++ ((f.run moves).1.run more).2) := by
  induction moves generalizing f with
  | nil => rfl
  | cons move moves ih => simp only [List.cons_append, run, ih]

/-- Feeding chunks leads to where feeding all their bytes at once leads to. -/
theorem run_feed (f : Framing) (chunks : List (List UInt8)) :
    (f.run (chunks.map .feed)).1 = (f.feed chunks.flatten).1 := by
  induction chunks generalizing f with
  | nil => rfl
  | cons chunk chunks ih =>
    rw [List.map_cons, run, List.flatten_cons, feed_append]
    exact ih (f.feed chunk).1

theorem bytes_fed (f : Framing) (chunks : List (List UInt8)) :
    (f.fed chunks).bytes = chunks.flatten := by
  induction chunks generalizing f with
  | nil => rfl
  | cons chunk chunks ih => exact congrArg (chunk ++ ·) (ih (f.feed chunk).1)

/-- Chunks give the events that all their bytes give at once. -/
theorem events_fed (f : Framing) (chunks : List (List UInt8)) :
    (f.fed chunks).events = (f.feed chunks.flatten).2 := by
  induction chunks generalizing f with
  | nil => rfl
  | cons chunk chunks ih =>
    rw [List.flatten_cons, feed_append]
    exact congrArg ((f.feed chunk).2 ++ ·) (ih (f.feed chunk).1)

/-- The answer to one chunk among others. -/
theorem fed_eq_append_cons {f : Framing} {chunks : List (List UInt8)} {before after : Log}
    {bs : List UInt8} {answer : List WireEvent}
    (h : f.fed chunks = before ++ (.feed bs, answer) :: after) :
    answer = ((f.feed before.bytes).1.feed bs).2 := by
  induction before generalizing f chunks with
  | nil =>
    cases chunks with
    | nil => cases h
    | cons chunk chunks =>
      obtain ⟨hc, -⟩ := List.cons.inj h
      obtain ⟨hm, ha⟩ := Prod.mk.inj hc
      rw [← ha, Move.feed.inj hm]
      rfl
  | cons entry before ih =>
    cases chunks with
    | nil => cases h
    | cons chunk chunks =>
      obtain ⟨hc, ht⟩ := List.cons.inj h
      have hb : Log.bytes (entry :: before) = chunk ++ Log.bytes before := by
        rw [← hc]
        rfl
      rw [hb, feed_append]
      exact ih ht

/-- One more chunk adds its answer at the end. -/
theorem fed_concat (f : Framing) (chunks : List (List UInt8)) (bs : List UInt8) :
    f.fed (chunks ++ [bs]) =
      f.fed chunks ++ [(.feed bs, ((f.feed chunks.flatten).1.feed bs).2)] := by
  have hrun := run_append f (chunks.map .feed) [.feed bs]
  rw [run_feed] at hrun
  rw [fed, List.map_append]
  exact congrArg Prod.snd hrun

/-! ### All stretches -/

/-- Each stretch of a run is the log of a framing that is new at its start, and the run leads to
where the last stretch leads to. -/
theorem stretches_run (moves : List Move) :
    ∃ closed chunks,
      Log.stretches (start.run moves).2 = closed ++ [start.fed chunks] ∧
      (∀ stretch ∈ closed, ∃ chunks, stretch = start.fed chunks) ∧
      (start.run moves).1 = (start.feed chunks.flatten).1 := by
  -- The invariant is carried from the front to the back, since the last stretch is the open one.
  induction moves using List.reverseRecOn with
  | nil => exact ⟨[], [], rfl, fun stretch h => absurd h List.not_mem_nil, rfl⟩
  | append_singleton moves move ih =>
    obtain ⟨closed, chunks, hlog, hclosed, hframing⟩ := ih
    rw [run_append, hframing]
    cases move with
    | feed bs =>
      -- The chunk belongs to the open stretch.
      refine ⟨closed, chunks ++ [bs], ?_, hclosed, ?_⟩
      · rw [fed_concat]
        exact Text.cut_concat_of_neg rfl hlog
      · rw [List.flatten_append, feed_append, List.flatten_singleton]
        rfl
    | close =>
      -- The open stretch is closed, and an empty one begins with a new framing.
      refine ⟨closed ++ [start.fed chunks], [], ?_, ?_, rfl⟩
      · rw [← hlog]
        exact Text.cut_concat_of_pos rfl _
      · intro stretch h
        rcases List.mem_append.mp h with h | h
        · exact hclosed stretch h
        · exact ⟨chunks, List.mem_singleton.mp h⟩

/-- Each stretch is fed to a new framing. -/
theorem exists_fed_of_mem_stretches {moves : List Move} {stretch : Log}
    (h : stretch ∈ Log.stretches (start.run moves).2) : ∃ chunks, stretch = start.fed chunks := by
  obtain ⟨closed, chunks, hlog, hclosed, -⟩ := stretches_run moves
  rw [hlog] at h
  rcases List.mem_append.mp h with h | h
  · exact hclosed stretch h
  · exact ⟨chunks, List.mem_singleton.mp h⟩

/-- It does not matter where the bytes between two ends are cut into chunks. The events of such a
stretch are what a new framing gives for all its bytes at once, which is what its ended lines say
one after the other. A chunk is answered by the events of the lines that end in it, one line for
each newline of it. What is kept is the line that has not ended, and an end leaves nothing. -/
theorem run_stretches (moves : List Move) :
    (∀ stretch ∈ Log.stretches (start.run moves).2,
      stretch.events = (start.feed stretch.bytes).2 ∧
      stretch.events = (readLines none (wholeLines stretch.bytes)).2 ∧
      ∀ (before : Log) bs answer after, stretch = before ++ (.feed bs, answer) :: after →
        ∃ ended,
          wholeLines (before.bytes ++ bs) = wholeLines before.bytes ++ ended ∧
          ended.length = bs.count newline ∧
          answer = (readLines (readLines none (wholeLines before.bytes)).1 ended).2) ∧
    (∃ stretch, (Log.stretches (start.run moves).2).getLast? = some stretch ∧
      (start.run moves).1.pending.reverse = openLine stretch.bytes) ∧
    ∀ later, start.run (moves ++ .close :: later) =
      ((start.run later).1, (start.run moves).2 ++ (.close, []) :: (start.run later).2) := by
  refine ⟨fun stretch h => ?_, ?_, fun later => ?_⟩
  · obtain ⟨chunks, rfl⟩ := exists_fed_of_mem_stretches h
    have hevents : (start.fed chunks).events = (start.feed (start.fed chunks).bytes).2 := by
      rw [events_fed, bytes_fed]
    refine ⟨hevents, by rw [hevents, start_feed], fun before bs answer after hsplit => ?_⟩
    have hcount : (openLine before.bytes).count newline = 0 :=
      List.count_eq_zero.mpr (newline_not_mem_openLine before.bytes)
    refine ⟨wholeLines (openLine before.bytes ++ bs), wholeLines_append _ _, ?_, ?_⟩
    · rw [length_wholeLines, List.count_append, hcount, Nat.zero_add]
    · have hopen : newline ∉ (start.feed before.bytes).1.pending := by
        rw [start_feed, List.mem_reverse]
        exact newline_not_mem_openLine before.bytes
      rw [fed_eq_append_cons hsplit, feed_eq_readLines _ hopen, start_feed, List.reverse_reverse]
  · obtain ⟨closed, chunks, hlog, -, hframing⟩ := stretches_run moves
    refine ⟨start.fed chunks, by rw [hlog, List.getLast?_concat], ?_⟩
    rw [hframing, start_feed, bytes_fed, List.reverse_reverse]
  · rw [run_append]
    rfl

end BranchChat.Stream.Framing
