import BranchChat.Proofs.Stream.Arrivals

/-!
# Polls of a connection

A poll hands out an event or an ending, or says that there is nothing more, or asks to wait. When no
event is left from before it reads arrivals up to the first one that settles the poll.

## Main definitions

- `settled`, `delivered`, `endings`: the answers to polls, sorted
- `Reading`: what reading until there is an event or an ending comes to
- `Connection.GoesOn`: a connection whose ending is not known yet
- `Connection.Given`: what a poll of it comes to, if its owner has not cancelled

## Main statements

- `reading_read`: reading a connection comes to one of these
- `Connection.given_poll`: so does a poll of a connection that goes on
-/

namespace BranchChat.Stream

/-! ### Answers -/

/-- The answer that is an event. -/
def Polled.ofEvent (e : WireEvent) : Polled := .ready (.event e)

/-- The answer that is an ending. -/
def Polled.ofEnding (ending : Ending) : Polled := .ready (.ending ending)

/-- Whether an answer does not ask to wait. -/
def Polled.isSettled : Polled → Bool
  | .waiting => false
  | .ready _ | .over => true

/-- The event that an answer hands out. -/
def Polled.event? : Polled → Option WireEvent
  | .ready (.event e) => some e
  | _ => none

theorem Polled.eq_ofEvent {p : Polled} {e : WireEvent} (h : p.event? = some e) :
    p = .ofEvent e := by
  unfold Polled.event? at h
  split at h
  · obtain rfl := Option.some.inj h
    rfl
  · cases h

/-- The ending that an answer reports. -/
def Polled.ending? : Polled → Option Ending
  | .ready (.ending ending) => some ending
  | _ => none

/-- The answers that do not ask to wait. -/
def settled (answers : List Polled) : List Polled :=
  answers.filter Polled.isSettled

/-- The events among the answers. -/
def delivered (answers : List Polled) : List WireEvent :=
  answers.filterMap Polled.event?

/-- The endings among the answers. -/
def endings (answers : List Polled) : List Ending :=
  answers.filterMap Polled.ending?

@[simp]
theorem delivered_settled (answers : List Polled) :
    delivered (settled answers) = delivered answers := by
  simp only [delivered, settled, List.filterMap_filter]
  congr 1
  funext answer
  cases answer <;> rfl

@[simp]
theorem endings_settled (answers : List Polled) : endings (settled answers) = endings answers := by
  simp only [endings, settled, List.filterMap_filter]
  congr 1
  funext answer
  cases answer <;> rfl

@[simp]
theorem delivered_append (answers more : List Polled) :
    delivered (answers ++ more) = delivered answers ++ delivered more :=
  List.filterMap_append

@[simp]
theorem endings_append (answers more : List Polled) :
    endings (answers ++ more) = endings answers ++ endings more :=
  List.filterMap_append

@[simp]
theorem delivered_map (events : List WireEvent) : delivered (events.map .ofEvent) = events := by
  induction events with
  | nil => rfl
  | cons e events ih => exact congrArg (e :: ·) ih

@[simp]
theorem endings_map (events : List WireEvent) : endings (events.map .ofEvent) = [] := by
  induction events with
  | nil => rfl
  | cons e events ih => exact ih

@[simp]
theorem delivered_ended (ending : Ending) (overs : Nat) :
    delivered (.ofEnding ending :: List.replicate overs .over) = [] := by
  induction overs with
  | zero => rfl
  | succ overs ih => exact ih

@[simp]
theorem endings_ended (ending : Ending) (overs : Nat) :
    endings (.ofEnding ending :: List.replicate overs .over) = [ending] := by
  induction overs with
  | zero => rfl
  | succ overs ih => exact ih

/-! ### One poll -/

/-- The ending that an arrival brings. -/
def Arrival.ending? : Arrival → Option Ending
  | .bytes _ => none
  | .fault cause => some (.broken cause)
  | .finish => some (.closed false)

/-- What reading until there is an event or an ending comes to: chunks are read up to the first one
that gives events, or up to an ending, or all of them. -/
inductive Reading (framing : Framing) (unread : List Arrival) : Polled × Connection → Prop where
  | waiting (chunks : List (List UInt8)) (read : unread = chunks.map .bytes)
      (silent : (framing.feed chunks.flatten).2 = []) :
      Reading framing unread (.waiting, ⟨[], .reading (framing.feed chunks.flatten).1 []⟩)
  | event (chunks : List (List UInt8)) (rest : List Arrival) (e : WireEvent)
      (queue : List WireEvent) (read : unread = chunks.map .bytes ++ rest)
      (given : (framing.feed chunks.flatten).2 = e :: queue) :
      Reading framing unread (Connection.deliver (framing.feed chunks.flatten).1 e queue rest)
  | ended (chunks : List (List UInt8)) (rest : List Arrival) (arrival : Arrival) (ending : Ending)
      (read : unread = chunks.map .bytes ++ arrival :: rest)
      (silent : (framing.feed chunks.flatten).2 = []) (brings : arrival.ending? = some ending) :
      Reading framing unread (.ofEnding ending, ⟨rest, .over⟩)

/-- A chunk that gives no event only moves the framing on. -/
theorem Reading.cons {framing : Framing} {bs : List UInt8} {unread : List Arrival}
    {result : Polled × Connection} (silent : (framing.feed bs).2 = [])
    (h : Reading (framing.feed bs).1 unread result) :
    Reading framing (.bytes bs :: unread) result := by
  have hfeed (more : List UInt8) : framing.feed (bs ++ more) = (framing.feed bs).1.feed more := by
    rw [Framing.feed_append, silent, List.nil_append]
  cases h with
  | waiting chunks read hs =>
    rw [← hfeed] at hs ⊢
    exact .waiting (bs :: chunks) (congrArg _ read) hs
  | event chunks rest e queue read given =>
    rw [← hfeed] at given ⊢
    exact .event (bs :: chunks) rest e queue (congrArg _ read) given
  | ended chunks rest arrival ending read hs brings =>
    rw [← hfeed] at hs
    exact .ended (bs :: chunks) rest arrival ending (congrArg _ read) hs brings

theorem reading_read (framing : Framing) (unread : List Arrival) :
    Reading framing unread (Connection.read framing unread) := by
  induction unread generalizing framing with
  | nil => exact .waiting [] rfl rfl
  | cons arrival unread ih =>
    cases arrival with
    | finish => exact .ended [] unread .finish _ rfl rfl rfl
    | fault cause => exact .ended [] unread (.fault cause) _ rfl rfl rfl
    | bytes bs =>
      rw [Connection.read]
      cases hfeed : framing.feed bs with
      | mk next events =>
        have hone : framing.feed [bs].flatten = (next, events) := by
          rw [List.flatten_singleton, hfeed]
        cases events with
        | nil =>
          refine Reading.cons (by rw [hfeed]) ?_
          rw [hfeed]
          exact ih next
        | cons e queue =>
          have h : Reading framing (.bytes bs :: unread)
              (Connection.deliver (framing.feed [bs].flatten).1 e queue unread) :=
            .event [bs] unread e queue rfl (by rw [hone])
          rw [hone] at h
          exact h

/-! ### Connections that go on -/

namespace Connection

/-- Neither a final event nor an ending has been handed out. -/
def GoesOn (c : Connection) : Prop :=
  ∃ framing queue, c.progress = .reading framing queue

/-- What a poll comes to when the owner of the connection has not cancelled: a connection goes on
up to its final event or its ending, and the ending is not the work of the owner. -/
inductive Given : Polled × Connection → Prop where
  | waiting {c : Connection} (rest : c.GoesOn) : Given (.waiting, c)
  | event {c : Connection} (e : WireEvent) (rest : e.isLast = false → c.GoesOn) :
      Given (.ofEvent e, c)
  | ended {c : Connection} (ending : Ending) (foreign : ending ≠ .closed true) :
      Given (.ofEnding ending, c)

theorem given_deliver (framing : Framing) (e : WireEvent) (queue : List WireEvent)
    (unread : List Arrival) : Given (deliver framing e queue unread) := by
  refine .event e fun hlast => ⟨framing, queue, ?_⟩
  rw [hlast]
  rfl

theorem given_poll {c : Connection} (h : c.GoesOn) : Given (c.poll false) := by
  obtain ⟨framing, queue, hprogress⟩ := h
  unfold poll
  rw [hprogress]
  cases queue with
  | cons e queue => exact given_deliver framing e queue c.unread
  | nil =>
    dsimp only
    rw [if_neg Bool.false_ne_true]
    have hread := reading_read framing c.unread
    generalize read framing c.unread = result at hread
    cases hread with
    | waiting chunks _ _ => exact .waiting ⟨_, _, rfl⟩
    | event chunks rest e queue _ _ => exact given_deliver _ e queue rest
    | ended chunks rest arrival ending _ _ brings =>
      refine .ended ending ?_
      rintro rfl
      cases arrival <;> cases brings

end Connection

end BranchChat.Stream
