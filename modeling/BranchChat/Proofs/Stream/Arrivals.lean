import BranchChat.Proofs.Stream.Lines
import BranchChat.Stream.Connection

/-!
# Arrivals and their events

What comes over the network is read by one framing from the start of a connection on. How the bytes
are cut does not matter, and of the events only those up to the first final one count.

## Main definitions

- `arrivals`: what has arrived in a run
- `eventsOf`: the events of what has arrived, as one framing gives them
- `upToLast`: events up to the first final one
-/

namespace BranchChat.Stream

/-! ### Arrivals -/

/-- The bytes of an arrival. -/
def Arrival.content : Arrival → List UInt8
  | .bytes bs => bs
  | .fault _ | .finish => []

/-- What arrives by a move. -/
def Move.arrival? : Move → Option Arrival
  | .arrive arrival => some arrival
  | .cancel | .poll => none

/-- What arrives in a run, in order. -/
def arrivals (moves : List Move) : List Arrival :=
  moves.filterMap Move.arrival?

/-- Arrivals of bytes, and of nothing else. -/
def BytesOnly (arrivals : List Arrival) : Prop :=
  ∀ arrival ∈ arrivals, ∃ bs, arrival = .bytes bs

/-- The framing that has read the bytes of arrivals. -/
def framingOf (arrivals : List Arrival) : Framing :=
  (Framing.start.feed (arrivals.flatMap Arrival.content)).1

/-- The events that a new framing gives for the bytes of arrivals. -/
def eventsOf (arrivals : List Arrival) : List WireEvent :=
  (Framing.start.feed (arrivals.flatMap Arrival.content)).2

theorem bytesOnly_append {front rest : List Arrival} :
    BytesOnly (front ++ rest) ↔ BytesOnly front ∧ BytesOnly rest :=
  List.forall_mem_append

theorem bytesOnly_map (chunks : List (List UInt8)) : BytesOnly (chunks.map .bytes) := by
  intro arrival h
  obtain ⟨bs, -, rfl⟩ := List.mem_map.mp h
  exact ⟨bs, rfl⟩

theorem BytesOnly.not_mem {arrivals : List Arrival} (h : BytesOnly arrivals) {arrival : Arrival}
    (hne : ∀ bs, arrival ≠ .bytes bs) : arrival ∉ arrivals := by
  intro hmem
  obtain ⟨bs, hbs⟩ := h arrival hmem
  exact hne bs hbs

theorem content_map (chunks : List (List UInt8)) :
    (chunks.map Arrival.bytes).flatMap Arrival.content = chunks.flatten := by
  induction chunks with
  | nil => rfl
  | cons chunk chunks ih => exact congrArg (chunk ++ ·) ih

/-- Chunks are read by the framing that has read what came before them. -/
theorem framingOf_append (front : List Arrival) (chunks : List (List UInt8)) :
    framingOf (front ++ chunks.map .bytes) = ((framingOf front).feed chunks.flatten).1 := by
  rw [framingOf, List.flatMap_append, content_map, Framing.feed_append]
  rfl

theorem eventsOf_append (front : List Arrival) (chunks : List (List UInt8)) :
    eventsOf (front ++ chunks.map .bytes) =
      eventsOf front ++ ((framingOf front).feed chunks.flatten).2 := by
  rw [eventsOf, List.flatMap_append, content_map, Framing.feed_append]
  rfl

/-- More arrivals add events at the end. -/
theorem eventsOf_prefix (front rest : List Arrival) :
    eventsOf front <+: eventsOf (front ++ rest) := by
  rw [eventsOf, eventsOf, List.flatMap_append, Framing.feed_append]
  exact List.prefix_append _ _

/-- A fault or a finish has no bytes. -/
theorem eventsOf_concat {arrival : Arrival} (h : arrival.content = []) (front : List Arrival) :
    eventsOf (front ++ [arrival]) = eventsOf front := by
  rw [eventsOf, List.flatMap_append, List.flatMap_singleton, h, List.append_nil]
  rfl

/-! ### The first final event -/

/-- Whether no event is a final one. -/
def NoneLast (events : List WireEvent) : Prop :=
  ∀ e ∈ events, e.isLast = false

theorem NoneLast.not_mem {events : List WireEvent} (h : NoneLast events) {e : WireEvent}
    (last : e.isLast = true) : e ∉ events := by
  intro he
  have hnot := h e he
  rw [last] at hnot
  cases hnot

theorem not_noneLast_concat (events : List WireEvent) {e : WireEvent} (last : e.isLast = true) :
    ¬ NoneLast (events ++ [e]) :=
  fun h => h.not_mem last (List.mem_append_right _ (List.mem_singleton_self e))

/-- Events up to the first final one, which is kept. -/
def upToLast : List WireEvent → List WireEvent
  | [] => []
  | e :: events => if e.isLast then [e] else e :: upToLast events

theorem upToLast_of_noneLast {events : List WireEvent} (h : NoneLast events) :
    upToLast events = events := by
  induction events with
  | nil => rfl
  | cons e events ih =>
    obtain ⟨he, hevents⟩ := List.forall_mem_cons.mp h
    rw [upToLast, he, ih hevents]
    rfl

/-- Nothing after a final event counts. -/
theorem upToLast_append_cons {events : List WireEvent} (h : NoneLast events) {e : WireEvent}
    (he : e.isLast = true) (rest : List WireEvent) :
    upToLast (events ++ e :: rest) = events ++ [e] := by
  induction events with
  | nil => rw [List.nil_append, upToLast, if_pos he, List.nil_append]
  | cons first events ih =>
    obtain ⟨hf, hevents⟩ := List.forall_mem_cons.mp h
    rw [List.cons_append, upToLast, hf, ih hevents]
    rfl

/-- Events that agree up to the first final one agree in the first event, and in those after it
unless it is final. -/
theorem exists_cons_of_upToLast_eq {e : WireEvent} {events events' : List WireEvent}
    (h : upToLast (e :: events) = upToLast events') :
    ∃ rest, events' = e :: rest ∧ (e.isLast = false → upToLast events = upToLast rest) := by
  cases events' with
  | nil =>
    rw [upToLast, upToLast] at h
    split at h <;> cases h
  | cons e' rest =>
    obtain rfl : e = e' := by
      rw [upToLast, upToLast] at h
      split at h
      · split at h <;> exact (List.cons.inj h).1
      · split at h <;> exact (List.cons.inj h).1
    refine ⟨rest, rfl, fun he => ?_⟩
    rw [upToLast, upToLast, he] at h
    exact (List.cons.inj h).2

/-- Events before the first final one are among those up to it. -/
theorem prefix_upToLast {events rest : List WireEvent} (h : NoneLast events) :
    events <+: upToLast (events ++ rest) := by
  induction events with
  | nil => exact List.nil_prefix
  | cons e events ih =>
    obtain ⟨he, hevents⟩ := List.forall_mem_cons.mp h
    rw [List.cons_append, upToLast, he]
    exact List.cons_prefix_cons.mpr ⟨rfl, ih hevents⟩

end BranchChat.Stream
