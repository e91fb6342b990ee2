import BranchChat.Proofs.Client.Deliveries

/-!
# The outcome of a connection

Once a turn has a connection, asking for updates gives one for each event before the first final
event, then one that ends the connection, and then nothing. Which one that is can be told from the
events and from how the bytes end.

## Main definitions

- `Update.ofTurn`: the update that ends the connection
- `Scene.Following`: a turn is under way, and its connection has still events to give

## Main statements

- `Following.advances`: the updates of a connection
- `Following.advances_reading`: nothing after a final event counts
- `advances_of_opened`: both, for a connection that was just opened
-/

namespace BranchChat

open BranchChat.Execution (Moment)
open BranchChat.Stream
open BranchChat.Web (StartedTurn)

/-- The events before the first final one. -/
def beforeLast (events : List WireEvent) : List WireEvent :=
  events.takeWhile (!·.isLast)

/-- The message of a turn after events: the one named last. -/
def messageAfter (message : Option String) (events : List WireEvent) : Option String :=
  (events.filterMap WireEvent.named?).getLast? <|> message

/-- The update that ends a connection with these events and this ending. Before it, the turn may
have been asked for a permission, and it may have a message. -/
def Update.ofTurn (asked : Bool) (message : Option String) (events : List WireEvent)
    (ending : Ending) : Update :=
  match events.find? (·.isLast) with
  | some last => .ofLast (messageAfter message (beforeLast events)) last
  | none => .ofEnding (asked || events.any (·.asks)) ending

theorem beforeLast_cons_of_pos {e : WireEvent} (h : e.isLast = true) (events : List WireEvent) :
    beforeLast (e :: events) = [] := by
  rw [beforeLast, List.takeWhile_cons, h]
  rfl

theorem beforeLast_cons_of_neg {e : WireEvent} (h : e.isLast = false) (events : List WireEvent) :
    beforeLast (e :: events) = e :: beforeLast events := by
  rw [beforeLast, List.takeWhile_cons, h]
  rfl

theorem isLast_ofEvent (e : WireEvent) : (Update.ofEvent e).isLast = false := by
  unfold Update.ofEvent
  split <;> rfl

theorem isLast_ofTurn (asked : Bool) (message : Option String) (events : List WireEvent)
    (ending : Ending) : (Update.ofTurn asked message events ending).isLast = true := by
  unfold Update.ofTurn
  split
  · unfold Update.ofLast
    split <;> rfl
  · cases ending with
    | broken cause => rfl
    | closed aborted => cases asked || events.any (·.asks) <;> rfl

theorem messageAfter_cons (message : Option String) (e : WireEvent) (events : List WireEvent) :
    messageAfter message (e :: events) = messageAfter (e.named? <|> message) events := by
  unfold messageAfter
  cases hnamed : e.named? with
  | none =>
    rw [List.filterMap_cons_none hnamed]
    rfl
  | some name =>
    rw [List.filterMap_cons_some hnamed, List.getLast?_cons]
    cases (events.filterMap WireEvent.named?).getLast? <;> rfl

/-- An event in the middle of a turn moves the outcome on to the events after it. -/
theorem Update.ofTurn_cons {e : WireEvent} (h : e.isLast = false) (asked : Bool)
    (message : Option String) (events : List WireEvent) (ending : Ending) :
    Update.ofTurn asked message (e :: events) ending =
      Update.ofTurn (asked || e.asks) (e.named? <|> message) events ending := by
  unfold Update.ofTurn
  rw [List.find?_cons, h, beforeLast_cons_of_neg h, messageAfter_cons, List.any_cons, Bool.or_assoc]

namespace Scene

variable {s t : Scene} {events : List WireEvent} {rest : List Arrival}

/-- A turn is under way, and its connection has still events to give, which `rest` follows. -/
structure Following (s : Scene) (events : List WireEvent) (rest : List Arrival) : Prop where
  live : ∃ live, s.client.live = some live ∧ s.isCancelled live.mark = false ∧
    live.connection.Holds events rest
  under : s.client.execution.isUnderWay = true

/-- Without a connection there are no updates. -/
theorem advances_of_live_none (h : s.client.live = none) (moments : List Moment) :
    s.advances moments = (s, List.replicate moments.length .nothing) := by
  have hadvance (moment : Moment) : s.advance moment = (s, .nothing) := by
    unfold advance fold
    rw [h]
  induction moments with
  | nil => rfl
  | cons moment moments ih =>
    rw [advances, hadvance, ih]
    rfl

/-- An event in the middle of a turn leads to the events after it. -/
theorem Following.advance_cons {e : WireEvent} (h : s.Following (e :: events) rest)
    (hlast : e.isLast = false) (moment : Moment) :
    ∃ next, s.advance moment = ((s.received e moment).reading next, .update (.ofEvent e)) ∧
      ((s.received e moment).reading next).Following events rest ∧ next.Holds events rest := by
  obtain ⟨⟨live, hlive, hcancelled, hholds⟩, under⟩ := h
  obtain ⟨next, hpoll, hnext⟩ := hholds.poll_cons
  rw [← hcancelled] at hpoll
  refine ⟨next, advance_of_event hlive hpoll under hlast moment, ⟨?_, ?_⟩, hnext hlast⟩
  · refine ⟨{ live with connection := next }, ?_, hcancelled, hnext hlast⟩
    exact congrArg (Option.map ({ · with connection := next })) hlive
  · obtain ⟨-, hphase, -⟩ := Execution.receive_of_isLast_eq_false under moment hlast
    have hreceived : ((s.received e moment).reading next).client.execution =
        (s.client.execution.receive e moment).1 := rfl
    rw [Execution.isUnderWay, hreceived, hphase]
    split
    · rfl
    · exact under

/-- The ending of a body is not the work of its owner. -/
theorem ne_closed_true_of_head? {ending : Ending}
    (h : rest.head?.bind Arrival.ending? = some ending) : ending ≠ .closed true := by
  rintro rfl
  cases rest with
  | nil => cases h
  | cons arrival rest => cases arrival <;> cases h

/-- The updates of a connection: one for each event before the first final one, one that ends it,
and no more. -/
theorem Following.advances {ending : Ending} (h : s.Following events rest)
    (hrest : NoneLast events → rest.head?.bind Arrival.ending? = some ending)
    {moments : List Moment} (hlong : (beforeLast events).length < moments.length) :
    (s.advances moments).2 =
      (beforeLast events).map (fun e => .update (.ofEvent e)) ++
        .update (.ofTurn (s.client.execution.phase == .awaitingDecision)
          s.client.execution.context.message events ending) ::
        List.replicate (moments.length - (beforeLast events).length - 1) .nothing := by
  induction events generalizing s moments with
  | nil =>
    cases moments with
    | nil => cases hlong
    | cons moment moments =>
      obtain ⟨⟨live, hlive, hcancelled, hholds⟩, under⟩ := h
      have hending := hrest fun e he => absurd he List.not_mem_nil
      have hpoll := hholds.poll_nil hending
      rw [← hcancelled] at hpoll
      obtain ⟨hnone, hupdate⟩ :=
        advance_of_ending hlive hpoll under (ne_closed_true_of_head? hending) moment
      rw [Scene.advances, advances_of_live_none hnone, hupdate]
      simp [beforeLast, Update.ofTurn]
  | cons e events ih =>
    cases moments with
    | nil => cases hlong
    | cons moment moments =>
      cases hlast : e.isLast with
      | true =>
        have hbefore := beforeLast_cons_of_pos hlast events
        obtain ⟨⟨live, hlive, hcancelled, hholds⟩, under⟩ := h
        obtain ⟨next, hpoll, -⟩ := hholds.poll_cons
        rw [← hcancelled] at hpoll
        obtain ⟨hnone, hupdate⟩ := advance_of_last hlive hpoll under hlast moment
        rw [Scene.advances, advances_of_live_none hnone, hupdate, hbefore]
        simp [Update.ofTurn, hlast, hbefore, messageAfter]
      | false =>
        -- The outcome of the later events takes up the phase and the message from here.
        rw [beforeLast_cons_of_neg hlast, List.length_cons, List.length_cons] at hlong
        obtain ⟨next, hadvance, hnext, -⟩ := h.advance_cons hlast moment
        have hrest' : NoneLast events → rest.head?.bind Arrival.ending? = some ending :=
          fun hnone => hrest (List.forall_mem_cons.mpr ⟨hlast, hnone⟩)
        have hlater := ih hnext hrest' (Nat.lt_of_succ_lt_succ hlong)
        obtain ⟨-, hphase, hmessage⟩ :=
          Execution.receive_of_isLast_eq_false h.under moment hlast
        have hasked : (((s.received e moment).reading next).client.execution.phase ==
            .awaitingDecision) = (s.client.execution.phase == .awaitingDecision || e.asks) := by
          show ((s.client.execution.receive e moment).1.phase == .awaitingDecision) = _
          rw [hphase]
          cases e.asks with
          | true => exact (Bool.or_true _).symm
          | false => exact (Bool.or_false _).symm
        have hnamed : ((s.received e moment).reading next).client.execution.context.message =
            (e.named? <|> s.client.execution.context.message) := hmessage
        rw [hasked, hnamed, ← Update.ofTurn_cons hlast] at hlater
        rw [Scene.advances, hadvance]
        dsimp only
        rw [hlater, beforeLast_cons_of_neg hlast, List.length_cons, List.length_cons,
          Nat.add_sub_add_right]
        rfl

/-- What a connection has after a final event does not matter: another connection with the same
events up to that one gives the same updates and leads to the same scene. -/
theorem Following.advances_reading {c : Connection} {events' : List WireEvent}
    {rest' : List Arrival} (h : s.Following events rest) (h' : c.Holds events' rest')
    (last : ¬ NoneLast events) (same : upToLast events = upToLast events')
    {moments : List Moment} (hlong : (beforeLast events).length < moments.length) :
    (s.reading c).advances moments = s.advances moments := by
  induction events generalizing s c events' moments with
  | nil => exact absurd (fun e he => absurd he List.not_mem_nil) last
  | cons e events ih =>
    cases moments with
    | nil => cases hlong
    | cons moment moments =>
      obtain ⟨events', rfl, hsame⟩ := exists_cons_of_upToLast_eq same
      obtain ⟨⟨live, hlive, hcancelled, hholds⟩, under⟩ := id h
      obtain ⟨next', hpoll', hnext'⟩ := h'.poll_cons
      rw [← hcancelled] at hpoll'
      have hlive' := live_reading hlive c
      have under' : (s.reading c).client.execution.isUnderWay = true := under
      rw [Scene.advances, Scene.advances]
      cases hlast : e.isLast with
      | true =>
        -- Both scenes let go of their connections, and differ in nothing else.
        obtain ⟨next, hpoll, -⟩ := hholds.poll_cons
        rw [← hcancelled] at hpoll
        have hadvance : (s.reading c).advance moment = s.advance moment := by
          rw [advance, advance, fold_of_event hlive' hpoll', fold_of_event hlive hpoll,
            foldEvent_reading under' hlast, foldEvent_reading under hlast,
            foldEvent_reading under hlast]
        rw [hadvance]
      | false =>
        obtain ⟨next, hadvance, hnext, -⟩ := h.advance_cons hlast moment
        have hadvance' : (s.reading c).advance moment =
            (((s.received e moment).reading next).reading next', .update (.ofEvent e)) := by
          rw [advance_of_event hlive' hpoll' under' hlast, reading_reading]
          exact congrArg (·, _) (reading_reading (s.received e moment) c next')
        have last' : ¬ NoneLast events :=
          fun hnone => last (List.forall_mem_cons.mpr ⟨hlast, hnone⟩)
        rw [beforeLast_cons_of_neg hlast] at hlong
        rw [hadvance, hadvance', ih hnext (hnext' hlast) last' (hsame hlast)
          (Nat.lt_of_succ_lt_succ hlong)]

/-- A connection that was just opened is followed. -/
theorem Opened.following {s t : Scene} {chunks : List (List UInt8)} {rest : List Arrival}
    (h : Opened s t (chunks.map .bytes ++ rest)) :
    t.Following (eventsOf (chunks.map .bytes)) rest := by
  obtain ⟨mark, hlive, hcancelled⟩ := h.live
  refine ⟨⟨_, hlive, hcancelled, Connection.holds_opened chunks rest⟩, ?_⟩
  rw [Execution.isUnderWay, h.streaming]
  rfl

/-- The outcome of a connection that a message or a decision has opened. Two requests were answered,
and the connection reads the body of the second reply; the message of the turn is the one that the
backend has named in the first reply, or the one from before the decision.

Whatever chunks the body starts with, there is one update for each event before the first final one,
then one that ends the connection, and then nothing. The last one is told by the final event, or if
there is none by the fault or the finish after the chunks. Nothing after a final event counts. -/
theorem advances_of_opened {s t : Scene} (reachable : s.Reachable)
    (opens : (∃ content parent, s.send content parent = (t, .ok ())) ∨
      ∃ approved, s.resume approved = (t, .ok ())) :
    ∃ body, Opened s t body ∧
      (∀ content parent, s.send content parent = (t, .ok ()) →
        ∃ status first turn, s.network.replies.head? = some (.answered status first) ∧
          readBody StartedTurn.read first = .ok turn ∧
          t.client.execution.context.message = some turn.message) ∧
      (∀ approved, s.resume approved = (t, .ok ()) →
        t.client.execution.context.message = s.client.execution.context.message) ∧
      ∀ (chunks : List (List UInt8)) rest, body = chunks.map .bytes ++ rest →
        let events := eventsOf (chunks.map .bytes)
        let before := beforeLast events
        (∀ ending, (NoneLast events → rest.head?.bind Arrival.ending? = some ending) →
          let final := Update.ofTurn false t.client.execution.context.message events ending
          (∀ e ∈ before, (Update.ofEvent e).isLast = false) ∧ final.isLast = true ∧
          ∀ moments : List Moment, before.length < moments.length →
            (t.advances moments).2 =
              before.map (fun e => .update (.ofEvent e)) ++ .update final ::
                List.replicate (moments.length - before.length - 1) .nothing) ∧
        (¬ NoneLast events → ∀ (chunks' : List (List UInt8)) rest',
          upToLast events = upToLast (eventsOf (chunks'.map .bytes)) →
          ∀ moments : List Moment, before.length < moments.length →
            (t.reading (.opened (chunks'.map .bytes ++ rest'))).advances moments =
              t.advances moments) := by
  have marks := reachable.marksIssued
  have hbody : ∃ body, Opened s t body := by
    rcases opens with ⟨content, parent, h⟩ | ⟨approved, h⟩
    · exact (send_eq_ok h marks).1
    · exact (resume_eq_ok h marks).1
  obtain ⟨body, hopened⟩ := hbody
  refine ⟨body, hopened, fun content parent h => (send_eq_ok h marks).2,
    fun approved h => (resume_eq_ok h marks).2, ?_⟩
  rintro chunks rest rfl
  have hfollowing := hopened.following
  refine ⟨fun ending hrest => ⟨fun e _ => isLast_ofEvent e, isLast_ofTurn .., ?_⟩, ?_⟩
  · intro moments hlong
    have hasked : (t.client.execution.phase == .awaitingDecision) = false := by
      rw [hopened.streaming]
      rfl
    rw [hfollowing.advances hrest hlong, hasked]
  · intro last chunks' rest' same moments hlong
    exact hfollowing.advances_reading (Connection.holds_opened chunks' rest') last same hlong

/-- The chunks of a turn that renames its message, cut in the middle of a line. -/
def greetingChunks : List (List UInt8) :=
  ["data: \x7b\"type\":\"metadata\",\"message_",
    "id\":\"m2\"\x7d\ndata: \x7b\"type\":\"complete\"\x7d\n"].map (Text.Utf8.bytes ·.toList)

/-- A client whose backend starts a turn and completes it. -/
def greeting : Scene :=
  let turn := "\x7b\"conversation_id\":\"c\",\"message_id\":\"m1\"," ++
    "\"thread_id\":\"t\",\"stream_url\":\"/s\"\x7d"
  start (.new ⟨"http://[::1]"⟩ (.unstored (some "token")) (.fresh 16)) default
    (.answering
      [.answered 200 [.bytes (Text.Utf8.bytes turn.toList), .finish],
        .answered 200 (greetingChunks.map .bytes ++ [.finish])])

theorem advances_greeting :
    greeting.Reachable ∧ (greeting.send "Hi" none).2.isOk = true ∧
      ((greeting.send "Hi" none).1.advances [⟨0, 0, 0⟩, ⟨1, 0, 1⟩, ⟨2, 0, 2⟩]).2 =
        [.update .progress, .update (.completed (some "m2")), .nothing] := by
  have reachable : greeting.Reachable := ⟨_, _, _, _, _, [], rfl⟩
  have hok : (greeting.send "Hi" none).2.isOk = true := by decide +kernel
  have hsend (p : Scene × Except Web.ApiError Unit) (h : p.2.isOk = true) :
      p = (p.1, .ok ()) := by
    obtain ⟨t, e | u⟩ := p
    · cases h
    · rfl
  obtain ⟨body, hopened, -, -, hall⟩ :=
    advances_of_opened reachable (.inl ⟨"Hi", none, hsend _ hok⟩)
  obtain ⟨first, status, -, hreplies⟩ := hopened.replies
  have hbody : body = greetingChunks.map .bytes ++ [.finish] := by
    obtain ⟨-, hsecond⟩ := List.cons.inj hreplies
    exact (Web.Reply.answered.inj (List.cons.inj hsecond).1).2.symm
  obtain ⟨hupdates, -⟩ := hall greetingChunks [.finish] hbody
  obtain ⟨-, -, hanswers⟩ := hupdates (.closed false) fun _ => rfl
  refine ⟨reachable, hok, (hanswers _ (by decide +kernel)).trans ?_⟩
  decide +kernel

end Scene

end BranchChat
