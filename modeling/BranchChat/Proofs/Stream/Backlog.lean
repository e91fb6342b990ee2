import BranchChat.Proofs.Stream.Polls

/-!
# What a connection has still to give

A connection that is not cancelled and has chunks to read gives their events one at a time, however
the chunks are cut. When none is left it comes upon what follows the chunks.

## Main definitions

- `Connection.Holds`: the events that a connection has still to give, and what follows them

## Main statements

- `Connection.Holds.poll_cons`: a poll takes the first of them
- `Connection.Holds.poll_nil`: a poll takes the ending after them
-/

namespace BranchChat.Stream.Connection

variable {c : Connection} {e : WireEvent} {events : List WireEvent} {rest : List Arrival}

/-- A connection still has to give `events`, from its queue and from chunks, and then comes upon
`rest`. -/
def Holds (c : Connection) (events : List WireEvent) (rest : List Arrival) : Prop :=
  ∃ (framing : Framing) (queue : List WireEvent) (chunks : List (List UInt8)),
    c = ⟨chunks.map .bytes ++ rest, .reading framing queue⟩ ∧
      events = queue ++ (framing.feed chunks.flatten).2

theorem holds_opened (chunks : List (List UInt8)) (rest : List Arrival) :
    (opened (chunks.map .bytes ++ rest)).Holds (eventsOf (chunks.map .bytes)) rest := by
  refine ⟨.start, [], chunks, rfl, ?_⟩
  rw [List.nil_append, eventsOf, content_map]

/-- Chunks without events are read at once. -/
theorem read_of_silent {framing : Framing} {chunks : List (List UInt8)} (rest : List Arrival)
    (silent : (framing.feed chunks.flatten).2 = []) :
    read framing (chunks.map .bytes ++ rest) = read (framing.feed chunks.flatten).1 rest := by
  induction chunks generalizing framing with
  | nil => rfl
  | cons chunk chunks ih =>
    rw [List.flatten_cons, Framing.feed_append] at silent ⊢
    obtain ⟨hfirst, hlater⟩ := List.append_eq_nil_iff.mp silent
    rw [List.map_cons, List.cons_append, read]
    split
    · next next heq =>
      rw [heq] at hlater ⊢
      exact ih hlater
    · next heq =>
      rw [heq] at hfirst
      cases hfirst

/-- Chunks are read up to their first event. -/
theorem read_of_event {framing : Framing} {chunks : List (List UInt8)} (rest : List Arrival)
    (given : (framing.feed chunks.flatten).2 = e :: events) :
    ∃ next, read framing (chunks.map .bytes ++ rest) = (.ofEvent e, next) ∧
      (e.isLast = false → next.Holds events rest) := by
  induction chunks generalizing framing with
  | nil => cases given
  | cons chunk chunks ih =>
    rw [List.flatten_cons, Framing.feed_append] at given
    rw [List.map_cons, List.cons_append, read]
    split
    · next next heq =>
      rw [heq] at given
      exact ih given
    · next next first queue heq =>
      rw [heq] at given
      obtain ⟨rfl, rfl⟩ := List.cons.inj given
      refine ⟨_, rfl, fun hlast => ?_⟩
      rw [hlast]
      exact ⟨next, queue, chunks, rfl, rfl⟩

/-- A poll takes the next event. -/
theorem Holds.poll_cons (h : c.Holds (e :: events) rest) :
    ∃ next, c.poll false = (.ofEvent e, next) ∧ (e.isLast = false → next.Holds events rest) := by
  obtain ⟨framing, queue, chunks, rfl, heq⟩ := h
  cases queue with
  | nil => exact read_of_event rest heq.symm
  | cons first queue =>
    obtain ⟨rfl, rfl⟩ := List.cons.inj heq
    refine ⟨_, rfl, fun hlast => ?_⟩
    rw [hlast]
    exact ⟨framing, queue, chunks, rfl, rfl⟩

/-- When no event is left a poll takes the ending that has arrived. -/
theorem Holds.poll_nil {ending : Ending} (h : c.Holds [] rest)
    (hrest : rest.head?.bind Arrival.ending? = some ending) :
    (c.poll false).1 = .ofEnding ending := by
  obtain ⟨framing, queue, chunks, rfl, heq⟩ := h
  obtain ⟨rfl, hsilent⟩ := List.append_eq_nil_iff.mp heq.symm
  have hpoll : poll ⟨chunks.map .bytes ++ rest, .reading framing []⟩ false =
      read framing (chunks.map .bytes ++ rest) := rfl
  rw [hpoll, read_of_silent rest hsilent]
  cases rest with
  | nil => cases hrest
  | cons arrival rest =>
    cases arrival with
    | bytes bs => cases hrest
    | fault cause =>
      obtain rfl := Option.some.inj hrest
      rfl
    | finish =>
      obtain rfl := Option.some.inj hrest
      rfl

end BranchChat.Stream.Connection
