import BranchChat.Proofs.Stream.Standing

/-!
# What a connection delivers

Over any run a connection delivers the events of what it has read, in order and up to the first
final one; then it says once how it ended; then it has nothing more.

## Main definitions

- `Account`: the account of what was delivered for what was read

## Main statements

- `run_delivers`: what is delivered over a run, and how it ends
-/

namespace BranchChat.Stream

open BranchChat.Web (Fault)

/-! ### Endings -/

section Ended

variable {moves : List Move} {read : List Arrival} {events : List WireEvent} {ending : Ending}

/-- Everything read was delivered before the ending. -/
theorem Ended.events_eq (h : Ended moves read events ending) :
    events = upToLast (eventsOf read) := by
  cases h with
  | final events e rest bytes given none_last last =>
    rw [given, upToLast_append_cons none_last last]
  | arrived front arrival ending read_eq bytes brings none_last =>
    exact (upToLast_of_noneLast none_last).symm
  | cancelled bytes none_last seen => exact (upToLast_of_noneLast none_last).symm

/-- After a final event the connection is closed, and not by its owner. -/
theorem Ended.eq_closed (h : Ended moves read events ending)
    (last : ∃ e ∈ events, e.isLast = true) : ending = .closed false := by
  obtain ⟨e, he, hlast⟩ := last
  cases h with
  | final => rfl
  | arrived front arrival ending read_eq bytes brings none_last =>
    exact absurd he (none_last.not_mem hlast)
  | cancelled bytes none_last seen =>
    exact absurd he (none_last.not_mem hlast)

/-- Without a final event the ending is the one that was read, or there is none among what was read
and the owner has cancelled. -/
theorem Ended.cause (h : Ended moves read events ending) (none_last : NoneLast events) :
    (∀ cause, ending = .broken cause ↔ .fault cause ∈ read) ∧
      (ending = .closed false ↔ .finish ∈ read) ∧
      (ending = .closed true → CancelSeen moves read) := by
  cases h with
  | final events e rest bytes given _ last =>
    exact absurd none_last (not_noneLast_concat events last)
  | arrived front arrival ending read_eq bytes brings =>
    have hfault (cause : Fault) : .fault cause ∉ front := bytes.not_mem nofun
    have hfinish : .finish ∉ front := bytes.not_mem nofun
    subst read_eq
    cases arrival with
    | bytes bs => cases brings
    | fault cause =>
      obtain rfl := Option.some.inj brings
      simp [hfault, hfinish, eq_comm]
    | finish =>
      obtain rfl := Option.some.inj brings
      simp [hfault]
  | cancelled bytes _ seen =>
    have hfault (cause : Fault) : .fault cause ∉ read := bytes.not_mem nofun
    have hfinish : .finish ∉ read := bytes.not_mem nofun
    simp [hfault, hfinish, seen]

end Ended

/-! ### Polls at the end -/

/-- A connection that is over has nothing more. -/
theorem settled_run_over {w : Watched} (h : w.connection.progress = .over) (moves : List Move) :
    ∃ overs, settled (w.run moves).2 = List.replicate overs .over := by
  induction moves generalizing w with
  | nil => exact ⟨0, rfl⟩
  | cons move moves ih =>
    cases move with
    | arrive arrival => exact ih h
    | cancel => exact ih h
    | poll =>
      have hpoll : w.connection.poll w.cancelled = (.over, w.connection) := by
        rw [Connection.poll, h]
      have hstep : w.step .poll = (w, some .over) := by rw [Watched.step, hpoll]
      obtain ⟨overs, hovers⟩ := ih h
      refine ⟨overs + 1, ?_⟩
      rw [Watched.run, hstep]
      exact congrArg (.over :: ·) hovers

/-- A poll that sees the cancellation is answered by it, unless a final event was delivered. -/
theorem endings_of_cancelSeen {moves : List Move} {read : List Arrival}
    (h : CancelSeen moves read) (none_last : NoneLast (delivered (Watched.start.run moves).2)) :
    endings (Watched.start.run moves).2 = [.closed true] := by
  obtain ⟨before, after, rfl, hcancel, harrivals, hgiven⟩ := h
  obtain ⟨hcancelled, read', harrivals', hstanding⟩ := standing_run before
  obtain rfl := List.append_cancel_right (harrivals.symm.trans harrivals')
  have hall : delivered (Watched.start.run before).2 = eventsOf read := by
    rw [← delivered_settled, hgiven, delivered_map]
  have hnone : endings (Watched.start.run before).2 = [] := by
    rw [← endings_settled, hgiven, endings_map]
  rw [Watched.run_append, Watched.run] at none_last ⊢
  rw [delivered_append] at none_last
  rw [endings_append, hnone, List.nil_append]
  have hnone_last : NoneLast (eventsOf read) := hall ▸ (List.forall_mem_append.mp none_last).1
  rw [← hcancelled] at hcancel
  generalize (Watched.start.run before).1 = w at *
  rw [← delivered_settled] at hall
  rw [← endings_settled] at hnone
  generalize settled (Watched.start.run before).2 = given at *
  generalize hp : w.connection.progress = progress at hstanding
  cases hstanding with
  | ended events ending overs how => simp at hnone
  | closing events e rest bytes _ _ last =>
    rw [delivered_map] at hall
    exact absurd (hall ▸ hnone_last) (not_noneLast_concat events last)
  | reading events queue bytes hread _ =>
    rw [delivered_map, hread] at hall
    -- Everything read was delivered, so the queue is empty and the poll sees the cancellation.
    obtain rfl : queue = [] := List.append_cancel_left (hall.symm.trans (List.append_nil _).symm)
    have hpoll : w.connection.poll w.cancelled =
        (.ofEnding (.closed true), ⟨w.connection.unread, .over⟩) := by
      rw [Connection.poll, hp, hcancel]
      rfl
    simp only [Watched.step, hpoll]
    obtain ⟨overs, hovers⟩ :=
      settled_run_over (w := ⟨⟨w.connection.unread, .over⟩, w.cancelled⟩) rfl after
    rw [← endings_settled, settled_append, hovers]
    exact endings_ended (.closed true) overs

/-- Reading has to wait only when nothing but bytes is there and they give no event. -/
theorem Reading.fst_eq_waiting_iff {read unread : List Arrival} {result : Polled × Connection}
    (h : Reading (framingOf read) unread result) :
    result.1 = .waiting ↔ BytesOnly unread ∧ eventsOf read = eventsOf (read ++ unread) := by
  cases h with
  | waiting chunks hunread silent =>
    refine iff_of_true rfl ⟨?_, ?_⟩
    · rw [hunread]
      exact bytesOnly_map chunks
    · rw [hunread, eventsOf_append, silent, List.append_nil]
  | event chunks rest e queue hunread given =>
    refine iff_of_false (fun h => nomatch h) ?_
    rintro ⟨-, heq⟩
    -- What is there gives one more event than what was read.
    obtain ⟨more, hmore⟩ := eventsOf_prefix (read ++ chunks.map .bytes) rest
    have hlength := congrArg List.length heq
    rw [hunread, ← List.append_assoc, ← hmore, eventsOf_append, given] at hlength
    simp only [List.length_append, List.length_cons] at hlength
    omega
  | ended chunks rest arrival ending hunread silent brings =>
    refine iff_of_false (fun h => nomatch h) ?_
    rintro ⟨hbytes, -⟩
    have harrival : arrival ∈ unread := by simp [hunread]
    obtain ⟨bs, rfl⟩ := hbytes arrival harrival
    cases brings

/-- A poll has to wait only when it is not cancelled, nothing but bytes has arrived, and all their
events are delivered and none of them is final. -/
theorem Standing.poll_eq_waiting_iff {moves : List Move} {read : List Arrival} {c : Connection}
    {given : List Polled} (h : Standing moves read c.progress given) (cancelled : Bool) :
    (c.poll cancelled).1 = .waiting ↔
      endings given = [] ∧ cancelled = false ∧ BytesOnly (read ++ c.unread) ∧
        delivered given = eventsOf (read ++ c.unread) ∧ NoneLast (delivered given) := by
  obtain ⟨unread, progress⟩ := c
  cases h with
  | closing events e rest bytes _ _ last =>
    refine iff_of_false (fun h => nomatch h) ?_
    rintro ⟨-, -, -, -, none_last⟩
    rw [delivered_map] at none_last
    exact absurd none_last (not_noneLast_concat events last)
  | ended events ending overs how =>
    refine iff_of_false (fun h => nomatch h) ?_
    rintro ⟨hnone, -⟩
    simp at hnone
  | reading events queue bytes hread none_last =>
    simp only [endings_map, delivered_map, true_and]
    cases queue with
    | cons e queue =>
      refine iff_of_false (fun h => nomatch h) ?_
      rintro ⟨-, -, heq, -⟩
      obtain ⟨more, hmore⟩ := eventsOf_prefix read unread
      have hlength := congrArg List.length heq
      simp only [← hmore, hread, List.length_append, List.length_cons] at hlength
      omega
    | nil =>
      rw [List.append_nil] at hread
      rw [← hread] at none_last ⊢
      cases cancelled with
      | true =>
        refine iff_of_false (fun h => nomatch h) ?_
        rintro ⟨hcancelled, -⟩
        cases hcancelled
      | false =>
        have hwait := (reading_read (framingOf read) unread).fst_eq_waiting_iff
        have hpoll : Connection.poll ⟨unread, .reading (framingOf read) []⟩ false =
          Connection.read (framingOf read) unread := rfl
        rw [hpoll, hwait, bytesOnly_append]
        simp only [bytes, none_last, true_and, and_true]

/-! ### Accounts -/

/-- The account of what was delivered for what was read. -/
structure Account (moves : List Move) (read : List Arrival) (answers : List Polled) : Prop where
  /-- First there are events, then an ending, and then nothing for ever. -/
  in_order : ∃ overs, (endings answers = [] → overs = 0) ∧
    settled answers = (delivered answers).map .ofEvent ++ (endings answers).map .ofEnding ++
      List.replicate overs .over
  at_most_one : (endings answers).length ≤ 1
  /-- The events are those that were read, in order and up to the first final one. -/
  delivered_prefix : delivered answers <+: upToLast (eventsOf read)
  /-- All of them are delivered before an ending. -/
  delivered_eq : endings answers ≠ [] → delivered answers = upToLast (eventsOf read)
  /-- After a final event the ending is that the connection is closed. -/
  after_last : (∃ e ∈ delivered answers, e.isLast = true) →
    ∀ ending ∈ endings answers, ending = .closed false
  /-- Before an ending without a final event, every event that was read is delivered. -/
  without_last : NoneLast (delivered answers) → endings answers ≠ [] →
    delivered answers = eventsOf read
  broken_iff : NoneLast (delivered answers) →
    ∀ cause, .broken cause ∈ endings answers ↔ .fault cause ∈ read
  finished_iff : NoneLast (delivered answers) → (.closed false ∈ endings answers ↔ .finish ∈ read)
  cancelled_iff : NoneLast (delivered answers) →
    (.closed true ∈ endings answers ↔ CancelSeen moves read)

/-- Without an ending there is neither a fault nor a finish among what was read. -/
theorem account_of_endings_nil {moves : List Move} {read : List Arrival} {answers : List Polled}
    {events : List WireEvent} (hsettled : settled answers = events.map .ofEvent)
    (bytes : BytesOnly read) (hincluded : events <+: upToLast (eventsOf read))
    (unseen : NoneLast events → ¬ CancelSeen moves read) : Account moves read answers := by
  have hdelivered : delivered answers = events := by
    rw [← delivered_settled, hsettled, delivered_map]
  have hendings : endings answers = [] := by
    rw [← endings_settled, hsettled, endings_map]
  have hfault (cause : Fault) : .fault cause ∉ read := bytes.not_mem nofun
  have hfinish : .finish ∉ read := bytes.not_mem nofun
  constructor <;> simp only [hdelivered, hendings]
  case in_order => exact ⟨0, fun _ => rfl, by rw [hsettled]; simp⟩
  case at_most_one => exact Nat.zero_le 1
  case delivered_prefix => exact hincluded
  case delivered_eq => exact fun h => absurd rfl h
  case after_last => exact fun _ ending h => absurd h List.not_mem_nil
  case without_last => exact fun _ h => absurd rfl h
  case broken_iff => exact fun _ cause => iff_of_false List.not_mem_nil (hfault cause)
  case finished_iff => exact fun _ => iff_of_false List.not_mem_nil hfinish
  case cancelled_iff => exact fun h => iff_of_false List.not_mem_nil (unseen h)

theorem Ended.account {moves : List Move} {read : List Arrival} {answers : List Polled}
    {events : List WireEvent} {ending : Ending} {overs : Nat} (h : Ended moves read events ending)
    (hsettled : settled answers =
      events.map .ofEvent ++ .ofEnding ending :: List.replicate overs .over)
    (seen : CancelSeen moves read → NoneLast events → ending = .closed true) :
    Account moves read answers := by
  have hdelivered : delivered answers = events := by
    rw [← delivered_settled, hsettled, delivered_append, delivered_map, delivered_ended,
      List.append_nil]
  have hendings : endings answers = [ending] := by
    rw [← endings_settled, hsettled, endings_append, endings_map, endings_ended, List.nil_append]
  constructor <;> simp only [hdelivered, hendings, List.mem_singleton]
  case in_order =>
    refine ⟨overs, (fun h => nomatch h), ?_⟩
    rw [hsettled, List.append_assoc]
    rfl
  case at_most_one => exact Nat.le_refl 1
  case delivered_prefix => exact h.events_eq ▸ List.prefix_rfl
  case delivered_eq => exact fun _ => h.events_eq
  case after_last => exact fun hlast _ heq => heq.trans (h.eq_closed hlast)
  case without_last =>
    intro none_last _
    cases h with
    | final events e rest _ _ _ last =>
      exact absurd none_last (not_noneLast_concat events last)
    | arrived => rfl
    | cancelled => rfl
  case broken_iff => exact fun none_last cause => eq_comm.trans ((h.cause none_last).1 cause)
  case finished_iff => exact fun none_last => eq_comm.trans (h.cause none_last).2.1
  case cancelled_iff =>
    intro none_last
    constructor
    · exact fun heq => (h.cause none_last).2.2 heq.symm
    · exact fun hcancel => (seen hcancel none_last).symm

/-- What a connection delivers over any run. Its answers, apart from those that ask to wait, are
events, then at most one ending, and then nothing for ever. The events are those of what it has
read, in order and up to the first final one; before an ending they are all of them. After a final
event the ending is that the connection is closed. Otherwise it tells which fault was read, or that
the finish was read, or that a poll has seen the cancellation. A poll waits only when everything
that can be said so far has been said. -/
theorem run_delivers (moves : List Move) :
    ∃ read, arrivals moves = read ++ (Watched.start.run moves).1.connection.unread ∧
      Account moves read (Watched.start.run moves).2 ∧
      (((Watched.start.run moves).1.step .poll).2 = some .waiting ↔
        endings (Watched.start.run moves).2 = [] ∧ .cancel ∉ moves ∧ BytesOnly (arrivals moves) ∧
        delivered (Watched.start.run moves).2 = eventsOf (arrivals moves) ∧
        NoneLast (delivered (Watched.start.run moves).2)) := by
  obtain ⟨hcancelled, read, harrivals, hstanding⟩ := standing_run moves
  have hseen (h : CancelSeen moves read) := endings_of_cancelSeen h
  have hwait := hstanding.poll_eq_waiting_iff (Watched.start.run moves).1.cancelled
  rw [← harrivals, ← Bool.not_eq_true, hcancelled, delivered_settled, endings_settled] at hwait
  refine ⟨read, harrivals, ?_, ?_⟩
  · generalize hsettled : settled (Watched.start.run moves).2 = given at hstanding
    generalize (Watched.start.run moves).1.connection.progress = progress at hstanding
    rw [← delivered_settled, ← endings_settled, hsettled] at hseen
    cases hstanding with
    | reading events queue bytes hgiven none_last =>
      rw [delivered_map, endings_map] at hseen
      refine account_of_endings_nil hsettled bytes ?_ fun none_last h => nomatch hseen h none_last
      rw [hgiven]
      exact prefix_upToLast none_last
    | closing events e rest bytes hgiven none_last last =>
      rw [delivered_map, endings_map] at hseen
      have hall := upToLast_append_cons none_last last rest
      rw [← hgiven] at hall
      exact account_of_endings_nil hsettled bytes (hall ▸ List.prefix_rfl)
        fun none_last h => nomatch hseen h none_last
    | ended events ending overs how =>
      rw [delivered_append, delivered_map, delivered_ended, List.append_nil, endings_append,
        endings_map, endings_ended, List.nil_append] at hseen
      exact how.account hsettled fun h none_last => List.singleton_inj.mp (hseen h none_last)
  · rw [← hwait]
    exact Option.some_inj

end BranchChat.Stream
