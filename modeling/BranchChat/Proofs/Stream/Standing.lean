import BranchChat.Proofs.Stream.Polls
import Mathlib.Data.List.Induction

/-!
# Where a connection stands

A connection is polled while bytes arrive, the network fails or finishes, and its owner may cancel
it, all in any order. At every point of such a run the state of the connection can be told from what
it has read and delivered.

## Main definitions

- `CancelSeen`: a poll has found the connection cancelled and everything read delivered
- `Ended`: how a connection has ended
- `Standing`: where a connection stands, in terms of what it has read and delivered

## Main statements

- `Standing.poll`: a poll leads from one standing to the next
- `standing_run`: every run leads to a standing
-/

namespace BranchChat.Stream

/-! ### Standings -/

namespace Watched

theorem run_append (w : Watched) (moves more : List Move) :
    w.run (moves ++ more) =
      (((w.run moves).1.run more).1, (w.run moves).2 ++ ((w.run moves).1.run more).2) := by
  induction moves generalizing w with
  | nil => rfl
  | cons move moves ih => simp only [List.cons_append, run, ih, List.append_assoc]

theorem run_concat (w : Watched) (moves : List Move) (move : Move) :
    w.run (moves ++ [move]) =
      (((w.run moves).1.step move).1,
        (w.run moves).2 ++ ((w.run moves).1.step move).2.toList) := by
  rw [run_append]
  simp only [run, List.append_nil]

end Watched

/-- A poll has found the connection cancelled when everything read was delivered, and nothing was
read from then on. -/
def CancelSeen (moves : List Move) (read : List Arrival) : Prop :=
  ∃ before after, moves = before ++ .poll :: after ∧ .cancel ∈ before ∧
    arrivals before = read ++ (Watched.start.run before).1.connection.unread ∧
    settled (Watched.start.run before).2 = (eventsOf read).map .ofEvent

/-- How a connection has ended that has read `read` and delivered `events`. -/
inductive Ended (moves : List Move) (read : List Arrival) : List WireEvent → Ending → Prop where
  /-- A final event was delivered. -/
  | final (events : List WireEvent) (e : WireEvent) (rest : List WireEvent)
      (bytes : BytesOnly read) (given : eventsOf read = events ++ e :: rest)
      (none_last : NoneLast events) (last : e.isLast = true) :
      Ended moves read (events ++ [e]) (.closed false)
  /-- The ending has arrived. -/
  | arrived (front : List Arrival) (arrival : Arrival) (ending : Ending)
      (read_eq : read = front ++ [arrival]) (bytes : BytesOnly front)
      (brings : arrival.ending? = some ending) (none_last : NoneLast (eventsOf read)) :
      Ended moves read (eventsOf read) ending
  /-- The owner has cancelled. -/
  | cancelled (bytes : BytesOnly read) (none_last : NoneLast (eventsOf read))
      (seen : CancelSeen moves read) :
      Ended moves read (eventsOf read) (.closed true)

/-- Where a connection stands after moves, when it has read `read` and given these answers. -/
inductive Standing (moves : List Move) (read : List Arrival) : Progress → List Polled → Prop where
  | reading (events queue : List WireEvent) (bytes : BytesOnly read)
      (given : eventsOf read = events ++ queue) (none_last : NoneLast events) :
      Standing moves read (.reading (framingOf read) queue) (events.map .ofEvent)
  | closing (events : List WireEvent) (e : WireEvent) (rest : List WireEvent)
      (bytes : BytesOnly read) (given : eventsOf read = events ++ e :: rest)
      (none_last : NoneLast events) (last : e.isLast = true) :
      Standing moves read (.closing (.closed false)) ((events ++ [e]).map .ofEvent)
  | ended (events : List WireEvent) (ending : Ending) (overs : Nat)
      (how : Ended moves read events ending) :
      Standing moves read .over
        (events.map .ofEvent ++ .ofEnding ending :: List.replicate overs .over)

section Standing

variable {moves : List Move} {read : List Arrival} {progress : Progress} {given : List Polled}

theorem CancelSeen.concat (h : CancelSeen moves read) (move : Move) :
    CancelSeen (moves ++ [move]) read := by
  obtain ⟨before, after, rfl, rest⟩ := h
  exact ⟨before, after ++ [move], List.append_assoc .., rest⟩

/-- A standing does not change while the connection is not polled. -/
theorem Standing.concat (h : Standing moves read progress given) (move : Move) :
    Standing (moves ++ [move]) read progress given := by
  cases h with
  | reading events queue bytes given none_last => exact .reading events queue bytes given none_last
  | closing events e rest bytes given none_last last =>
    exact .closing events e rest bytes given none_last last
  | ended events ending overs how =>
    refine .ended events ending overs ?_
    cases how with
    | final events e rest bytes given none_last last =>
      exact .final events e rest bytes given none_last last
    | arrived front arrival ending read_eq bytes brings none_last =>
      exact .arrived front arrival ending read_eq bytes brings none_last
    | cancelled bytes none_last seen => exact .cancelled bytes none_last (seen.concat move)

/-- Delivering an event of the queue keeps to what was read. -/
theorem standing_deliver {events queue : List WireEvent} {e : WireEvent} (unread : List Arrival)
    (bytes : BytesOnly read) (given : eventsOf read = events ++ e :: queue)
    (none_last : NoneLast events) :
    Standing moves read (Connection.deliver (framingOf read) e queue unread).2.progress
      (events.map .ofEvent ++ [(Connection.deliver (framingOf read) e queue unread).1]) := by
  have hanswers : events.map Polled.ofEvent ++
      [(Connection.deliver (framingOf read) e queue unread).1] = (events ++ [e]).map .ofEvent := by
    rw [List.map_append]
    rfl
  rw [hanswers]
  cases he : e.isLast with
  | true =>
    simp only [Connection.deliver, he, if_true]
    exact .closing events e queue bytes given none_last he
  | false =>
    simp only [Connection.deliver, he]
    refine .reading (events ++ [e]) queue bytes (by rw [given, List.append_assoc]; rfl) ?_
    exact List.forall_mem_append.mpr ⟨none_last, List.forall_mem_singleton.mpr he⟩

/-- Reading keeps account of what it reads. -/
theorem Reading.standing {unread : List Arrival} {result : Polled × Connection}
    (h : Reading (framingOf read) unread result) (bytes : BytesOnly read)
    (none_last : NoneLast (eventsOf read)) :
    ∃ more, unread = more ++ result.2.unread ∧
      Standing moves (read ++ more) result.2.progress
        ((eventsOf read).map .ofEvent ++ settled [result.1]) := by
  have hbytes (chunks : List (List UInt8)) : BytesOnly (read ++ chunks.map .bytes) :=
    bytesOnly_append.mpr ⟨bytes, bytesOnly_map chunks⟩
  cases h with
  | waiting chunks hunread silent =>
    refine ⟨chunks.map .bytes, by rw [hunread, List.append_nil], ?_⟩
    rw [← framingOf_append]
    have hgiven : eventsOf (read ++ chunks.map .bytes) = eventsOf read ++ [] := by
      rw [eventsOf_append, silent]
    have hstanding : Standing moves (read ++ chunks.map .bytes)
        (.reading (framingOf (read ++ chunks.map .bytes)) []) ((eventsOf read).map .ofEvent) :=
      .reading _ _ (hbytes chunks) hgiven none_last
    rwa [← List.append_nil ((eventsOf read).map Polled.ofEvent)] at hstanding
  | event chunks rest e queue hunread given =>
    refine ⟨chunks.map .bytes, hunread, ?_⟩
    rw [← framingOf_append]
    have hgiven : eventsOf (read ++ chunks.map .bytes) = eventsOf read ++ e :: queue := by
      rw [eventsOf_append, given]
    exact standing_deliver rest (hbytes chunks) hgiven none_last
  | ended chunks rest arrival ending hunread silent brings =>
    refine ⟨chunks.map .bytes ++ [arrival], by rw [hunread, List.append_assoc]; rfl, ?_⟩
    have hcontent : arrival.content = [] := by
      cases arrival with
      | bytes bs => cases brings
      | fault cause => rfl
      | finish => rfl
    have hgiven : eventsOf (read ++ (chunks.map .bytes ++ [arrival])) = eventsOf read := by
      rw [← List.append_assoc, eventsOf_concat hcontent, eventsOf_append, silent, List.append_nil]
    have hended : Ended moves (read ++ (chunks.map .bytes ++ [arrival]))
        (eventsOf (read ++ (chunks.map .bytes ++ [arrival]))) ending :=
      .arrived _ _ _ (List.append_assoc ..).symm (hbytes chunks) brings (by rwa [hgiven])
    rw [hgiven] at hended
    exact .ended _ _ 0 hended

/-- A poll leads from one standing to the next. It may read something first. -/
theorem Standing.poll {c : Connection} {cancelled : Bool}
    (h : Standing moves read c.progress given)
    (seen : cancelled = true → given = (eventsOf read).map .ofEvent →
      CancelSeen (moves ++ [.poll]) read) :
    ∃ more, c.unread = more ++ (c.poll cancelled).2.unread ∧
      Standing (moves ++ [.poll]) (read ++ more) (c.poll cancelled).2.progress
        (given ++ settled [(c.poll cancelled).1]) := by
  obtain ⟨unread, progress⟩ := c
  cases h with
  | closing events e rest bytes hgiven none_last last =>
    refine ⟨[], rfl, ?_⟩
    rw [List.append_nil]
    exact .ended (events ++ [e]) _ 0 (.final events e rest bytes hgiven none_last last)
  | ended events ending overs how =>
    refine ⟨[], rfl, ?_⟩
    have hmore : Standing moves read .over (events.map .ofEvent ++
        .ofEnding ending :: List.replicate (overs + 1) .over) := .ended events ending _ how
    rw [List.replicate_succ', ← List.cons_append, ← List.append_assoc] at hmore
    rw [List.append_nil]
    exact hmore.concat .poll
  | reading events queue bytes hgiven none_last =>
    cases queue with
    | cons e queue =>
      refine ⟨[], rfl, ?_⟩
      rw [List.append_nil]
      exact standing_deliver unread bytes hgiven none_last
    | nil =>
      rw [List.append_nil] at hgiven
      cases cancelled with
      | true =>
        -- Nothing is read any more, so what was read stays the same.
        refine ⟨[], rfl, ?_⟩
        rw [List.append_nil, ← hgiven]
        exact .ended (eventsOf read) _ 0
          (.cancelled bytes (hgiven ▸ none_last) (seen rfl (by rw [hgiven])))
      | false =>
        rw [← hgiven]
        exact (reading_read _ unread).standing bytes (hgiven ▸ none_last)

end Standing

theorem arrivals_concat (moves : List Move) (move : Move) :
    arrivals (moves ++ [move]) = arrivals moves ++ move.arrival?.toList := by
  rw [arrivals, List.filterMap_append]
  cases move <;> rfl

theorem settled_append (answers more : List Polled) :
    settled (answers ++ more) = settled answers ++ settled more :=
  List.filter_append ..

/-- Every run keeps account of what the connection has read and delivered. -/
theorem standing_run (moves : List Move) :
    ((Watched.start.run moves).1.cancelled = true ↔ .cancel ∈ moves) ∧
    ∃ read, arrivals moves = read ++ (Watched.start.run moves).1.connection.unread ∧
      Standing moves read (Watched.start.run moves).1.connection.progress
        (settled (Watched.start.run moves).2) := by
  -- A cancellation seen by the last poll is told by all moves before it, so the run grows at its end.
  induction moves using List.reverseRecOn with
  | nil =>
    refine ⟨by simp [Watched.run, Watched.start], [], rfl, ?_⟩
    exact .reading [] [] (fun arrival h => absurd h List.not_mem_nil) rfl
      fun e h => absurd h List.not_mem_nil
  | append_singleton moves move ih =>
    obtain ⟨hcancelled, read, harrivals, hstanding⟩ := ih
    rw [Watched.run_concat, settled_append, arrivals_concat, List.mem_append, List.mem_singleton,
      ← hcancelled, harrivals]
    generalize hw : (Watched.start.run moves).1 = w at *
    cases move with
    | arrive arrival =>
      refine ⟨by simp [Watched.step], read, List.append_assoc .., ?_⟩
      simpa [Watched.step, settled, Connection.receive] using hstanding.concat (.arrive arrival)
    | cancel =>
      refine ⟨by simp [Watched.step], read, List.append_nil _, ?_⟩
      simpa [Watched.step, settled] using hstanding.concat .cancel
    | poll =>
      refine ⟨by simp [Watched.step], ?_⟩
      have hseen : w.cancelled = true →
          settled (Watched.start.run moves).2 = (eventsOf read).map .ofEvent →
          CancelSeen (moves ++ [.poll]) read := by
        intro hc hgiven
        exact ⟨moves, [], rfl, hcancelled.mp hc, by rw [hw, harrivals], hgiven⟩
      obtain ⟨more, hunread, hnext⟩ := hstanding.poll hseen
      refine ⟨read ++ more, ?_, hnext⟩
      calc read ++ w.connection.unread ++ []
          = read ++ w.connection.unread := List.append_nil _
        _ = read ++ (more ++ _) := congrArg (read ++ ·) hunread
        _ = read ++ more ++ _ := (List.append_assoc ..).symm

end BranchChat.Stream
