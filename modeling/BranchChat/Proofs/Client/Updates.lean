import BranchChat.Proofs.Client.Turns

/-!
# Updates and the turn

An update says how the turn stands, and whether it is the last one of its connection. Every move
leads from a steady scene to a steady scene, and its update tells the truth about the latter. So a
connection that is no longer live is never heard of again. The body of a reply is all that will ever
arrive, so moves that are carried out to their end meet every behaviour of a backend.

## Main definitions

- `Update.Agrees`: what an update says about the turn
- `Scene.Taken`: what taking a delivery comes to
- `Scene.eventsFolded`: the events that a run folds, with the marks of their connections

## Main statements

- `Steady.taken_fold`, `Steady.advance`: one delivery
- `Steady.step`, `Steady.run`: all moves lead to steady scenes
- `Reachable.coherent`: the connection and the turn of a reachable scene
-/

namespace BranchChat

open BranchChat.Execution (Moment isUnderWay_iff)
open BranchChat.Stream (Connection Polled WireEvent)
open BranchChat.Web (ApiError)

/-- What an update says about the turn. -/
def Update.Agrees (x : Execution) : Update → Prop
  | progress => x.isUnderWay = true
  | decisionNeeded => x.phase = .awaitingDecision ∧ x.question.isSome = true
  | completed _ => x.phase = .idle
  | failed reason => x.phase = .ended ∧ x.error = some reason
  | stopped => x.phase = .ended
  | paused => x.phase = .awaitingDecision

/-- An update fits a scene: it is the last one if no connection is live, and it agrees with the
turn. -/
structure Update.Fits (u : Update) (s : Scene) : Prop where
  isLast : s.client.live = none ↔ u.isLast = true
  agrees : u.Agrees s.client.execution

theorem Update.fits_of_live_none {u : Update} {s : Scene} (hlive : s.client.live = none)
    (last : u.isLast = true) (agrees : u.Agrees s.client.execution) : u.Fits s :=
  ⟨iff_of_true hlive last, agrees⟩

namespace Scene

variable {s t : Scene} {live : Client.Live} {next : Connection} {e : WireEvent} {moment : Moment}

/-! ### A poll of the live connection -/

theorem dropLive_reading (s : Scene) (c : Connection) : (s.reading c).dropLive = s.dropLive := by
  obtain ⟨⟨_, _, _, _, live, _⟩, _, _, _⟩ := s
  cases live <;> rfl

theorem liveMark?_reading (s : Scene) (c : Connection) :
    (s.reading c).liveMark? = s.liveMark? := by
  unfold liveMark? reading
  rw [Option.map_map]
  rfl

theorem MarksIssued.reading (h : s.MarksIssued) (c : Connection) :
    (s.reading c).MarksIssued := by
  refine ⟨h.cancelled, h.latest, fun polled hpolled => ?_⟩
  obtain ⟨live, hlive, rfl⟩ := Option.map_eq_some_iff.mp hpolled
  exact h.live live hlive

theorem Steady.reading (h : s.Steady) (rest : next.GoesOn) : s.LeadsTo (s.reading next) := by
  have hmark := liveMark?_reading s next
  refine ⟨⟨?_, ?_, ?_, h.question, ?_⟩, Nat.le_refl _, ?_⟩
  · intro polled hpolled
    obtain ⟨live, hlive, rfl⟩ := Option.map_eq_some_iff.mp hpolled
    exact h.live live hlive
  · intro polled hpolled
    obtain ⟨live, hlive, rfl⟩ := Option.map_eq_some_iff.mp hpolled
    exact rest
  · intro hphase
    show (s.client.live.map _).isSome = true
    rw [Option.isSome_map]
    exact h.streaming hphase
  · rw [hmark]
    exact h.others
  · rw [hmark]
    exact fun _ hsame => .inl hsame

/-! ### Deliveries -/

/-- What taking a delivery comes to: an answer without an update, an update that fits, or a
completed turn whose conversation is to be fetched. -/
inductive Taken (s : Scene) : Scene × Folded → Prop where
  | pending {t : Scene} {p : Awaited} (leads : s.LeadsTo t) (none : ∀ u, p ≠ .update u) :
      Taken s (t, .settled p)
  | update {t : Scene} {u : Update} (leads : s.LeadsTo t) (fits : u.Fits t) :
      Taken s (t, .settled (.update u))
  | refreshing {t : Scene} {message : Option String} {conversation : String}
      (leads : s.LeadsTo t) (silent : t.Silent) : Taken s (t, .refreshing message conversation)

/-- After an event that ends the turn there is no live connection. -/
theorem Steady.aborted (h : s.Steady) (c : Connection) {x : Execution} (phase : x.phase = .ended)
    (question : x.question = none) :
    s.LeadsTo ((s.reading c).onExecution fun _ => x).abort ∧
      ((s.reading c).onExecution fun _ => x).abort.Silent ∧
      ((s.reading c).onExecution fun _ => x).abort.client.execution = x := by
  have hearlier : ((s.reading c).onExecution fun _ => x).EarlierCancelled := h.earlierCancelled
  have hexecution := abort_execution ((s.reading c).onExecution fun _ => x)
  refine ⟨hearlier.silent_abort.leadsTo_of_over ?_ (.inl ?_) ?_, hearlier.silent_abort, hexecution⟩
  · exact Nat.le_of_eq (issued_abort ((s.reading c).onExecution fun _ => x)).symm
  · rw [hexecution]
    exact phase
  · rw [hexecution]
    exact question

/-- After an event in the middle of the turn the connection goes on. -/
theorem Steady.continued (h : s.Steady) (hlive : s.client.live = some live) (rest : next.GoesOn)
    {x : Execution} (under : x.isUnderWay = true)
    (phase : x.phase = .streaming → s.client.execution.phase = .streaming)
    (question : x.OnlyAsksPaused) :
    s.LeadsTo ((s.reading next).onExecution fun _ => x) ∧
      ((s.reading next).onExecution fun _ => x).client.live ≠ none := by
  have hreading := h.reading rest
  refine ⟨hreading.trans (hreading.steady.onExecution (fun _ => under) phase question), ?_⟩
  show (s.reading next).client.live ≠ none
  rw [live_reading hlive]
  exact Option.some_ne_none _

theorem Steady.taken_foldEvent (h : s.Steady) (hlive : s.client.live = some live)
    (rest : e.isLast = false → next.GoesOn) (moment : Moment) :
    s.Taken ((s.reading next).foldEvent e moment) := by
  obtain ⟨under, -, -⟩ := h.live live hlive
  have hgoesOn (signal : (s.client.execution.receive e moment).2 = none ∨
      (s.client.execution.receive e moment).2 = some .decisionNeeded) : next.GoesOn :=
    rest (Execution.isLast_eq_false_of_signal under signal)
  have hreceived := Execution.received s.client.execution e moment
  have hexecution : (s.reading next).client.execution = s.client.execution := rfl
  unfold foldEvent
  rw [hexecution]
  generalize s.client.execution.receive e moment = result at hgoesOn hreceived
  cases hreceived with
  | @quiet z phase question =>
    have hunder : z.isUnderWay = true := (Execution.isUnderWay_congr phase).trans under
    obtain ⟨hleads, hsome⟩ := h.continued hlive (hgoesOn (.inl rfl)) hunder
      phase.symm.trans (h.question.of_same phase question)
    exact .update hleads ⟨iff_of_false hsome Bool.false_ne_true, hunder⟩
  | @asked z phase question =>
    have hnot : z.phase ≠ .streaming := by
      rw [phase]
      decide
    obtain ⟨hleads, hsome⟩ := h.continued hlive (hgoesOn (.inr rfl))
      (isUnderWay_iff.mpr (.inr phase)) (fun hz => absurd hz hnot) fun _ => phase
    exact .update hleads ⟨iff_of_false hsome Bool.false_ne_true, phase, question⟩
  | @completed z message phase question =>
    obtain ⟨hleads, hsilent, -⟩ := h.aborted next phase question
    dsimp only
    split
    · have hcleared := hsilent.onExecution Execution.clear
      exact .update (hcleared.leadsTo_of_over hleads.issued (.inr rfl) rfl)
        (Update.fits_of_live_none hcleared.live rfl rfl)
    · exact .refreshing hleads hsilent
  | @failed z reason phase question error =>
    obtain ⟨hleads, hsilent, hx⟩ := h.aborted next phase question
    refine .update hleads (Update.fits_of_live_none hsilent.live rfl ?_)
    rw [hx]
    show z.phase = .ended ∧ z.error = some (z.error.getD "")
    rw [error]
    exact ⟨phase, rfl⟩

/-- A connection that closes fails a turn that streams, and leaves one that waits alone. -/
theorem Steady.taken_closed (h : s.Steady) (under : s.client.execution.isUnderWay = true) :
    s.Taken
      (if s.dropLive.client.execution.phase = .streaming then
        (s.dropLive.onExecution (·.fail closedEarly), .settled (.update (.failed closedEarly)))
      else (s.dropLive, .settled (.update .paused))) := by
  have hsilent := h.silent_dropLive
  have hissued : s.marks.issued ≤ s.dropLive.marks.issued :=
    Nat.le_of_eq (issued_dropLive s).symm
  split
  · have hfailed := hsilent.onExecution (·.fail closedEarly)
    exact .update (hfailed.leadsTo_of_over hissued (.inl rfl) rfl)
      (Update.fits_of_live_none hfailed.live rfl ⟨rfl, rfl⟩)
  · next hphase =>
    have hwaits : s.dropLive.client.execution.phase = .awaitingDecision := by
      rw [dropLive_execution] at hphase ⊢
      exact (isUnderWay_iff.mp under).resolve_left hphase
    refine .update (hsilent.leadsTo hissued hphase ?_)
      (Update.fits_of_live_none hsilent.live rfl hwaits)
    rw [dropLive_execution]
    exact h.question

theorem Steady.taken_fold (h : s.Steady) (marks : s.MarksIssued) (moment : Moment) :
    s.Taken (s.fold moment) := by
  unfold fold
  split
  · exact .pending h.leadsTo_self fun _ hnothing => by cases hnothing
  · next live hlive =>
    obtain ⟨under, -, hcancelled⟩ := h.live live hlive
    have hgiven := Connection.given_poll (h.goesOn live hlive)
    have hreading (c : Connection) :
        { s with client.live := some { live with connection := c } } = s.reading c := by
      rw [Scene.reading, hlive]
      rfl
    rw [hcancelled]
    dsimp only
    generalize live.connection.poll false = result at hgiven
    cases hgiven with
    | waiting rest =>
      dsimp only
      rw [hreading]
      exact .pending (h.reading rest) fun _ hwaiting => by cases hwaiting
    | event e rest =>
      dsimp only [Polled.ofEvent]
      rw [hreading]
      exact h.taken_foldEvent hlive rest moment
    | @ended next ending foreign =>
      dsimp only [Polled.ofEnding]
      rw [hreading]
      cases ending with
      | broken fault =>
        have hmid : MidTurn s (s.reading next) :=
          ⟨h.earlierCancelled, marks.reading next, Nat.le_refl _, under⟩
        obtain ⟨hleads, hnone⟩ := hmid.noteFailure (.transport fault)
        refine .update hleads (Update.fits_of_live_none hnone rfl ?_)
        rw [execution_noteFailure, if_pos hmid.under]
        exact ⟨rfl, rfl⟩
      | closed aborted =>
        cases aborted with
        | true => exact absurd rfl foreign
        | false =>
          dsimp only
          rw [dropLive_reading]
          exact h.taken_closed under

theorem Steady.advance (h : s.Steady) (marks : s.MarksIssued) (moment : Moment) :
    s.LeadsTo (s.advance moment).1 ∧
      ∀ u, (s.advance moment).2 = .update u → u.Fits (s.advance moment).1 := by
  have htaken := h.taken_fold marks moment
  unfold Scene.advance
  generalize s.fold moment = result at htaken
  cases htaken with
  | pending leads none => exact ⟨leads, fun u hu => absurd hu (none u)⟩
  | update leads fits =>
    refine ⟨leads, fun u hu => ?_⟩
    obtain rfl := Awaited.update.inj hu
    exact fits
  | @refreshing t message conversation leads silent =>
    obtain ⟨u, change, hkept, hreconcile⟩ := t.reconcile_eq message conversation
    have hsilent := hkept.silent silent
    have hcleared : ((u.onWorkspace change).onExecution Execution.clear).Silent :=
      ⟨hsilent.live, hsilent.cancelled⟩
    dsimp only
    rw [hreconcile]
    refine ⟨hcleared.leadsTo_of_over ?_ (.inr rfl) rfl, fun p hp => ?_⟩
    · show s.marks.issued ≤ u.marks.issued
      rw [hkept.marks]
      exact leads.issued
    · obtain rfl := Awaited.update.inj hp
      exact Update.fits_of_live_none hcleared.live rfl rfl

/-! ### All moves -/

theorem Steady.onFrame (h : s.Steady) (now : Nat) : s.LeadsTo (s.onFrame now).1 := by
  obtain ⟨hphase, -⟩ :=
    Execution.settle_course s.client.execution (s.client.execution.gate.releaseDue? now)
  have hunder := Execution.isUnderWay_congr hphase
  exact h.onExecution hunder.trans hphase.symm.trans (h.question.showDue now)

theorem Steady.step (h : s.Steady) (marks : s.MarksIssued) (move : Move) :
    s.LeadsTo (s.step move) := by
  cases move with
  | send content parent => exact h.send marks content parent
  | resume approved => exact h.resume marks approved
  | stop now => exact h.stop now
  | frame now => exact h.onFrame now
  | advance moment => exact (h.advance marks moment).1
  | fold moment =>
    have htaken := h.taken_fold marks moment
    show s.LeadsTo (s.fold moment).1
    generalize s.fold moment = result at htaken
    cases htaken with
    | pending leads _ => exact leads
    | update leads _ => exact leads
    | refreshing leads _ => exact leads
  | fetch id => exact (kept_call _ _ _).undisturbed.leadsTo h
  | abandon call => exact (kept_abandonCall _ _).undisturbed.leadsTo h
  | visit id => exact h.visit marks id
  | loadCatalog => exact s.undisturbed_loadCatalog.leadsTo h
  | browse w => exact (Undisturbed.onWorkspace ⟨rfl, rfl, rfl, rfl⟩ fun _ => w).leadsTo h
  | login token now => exact (undisturbed_login s token now).leadsTo h
  | logout => exact h.logout

theorem Steady.run (h : s.Steady) (marks : s.MarksIssued) (moves : List Move) :
    s.LeadsTo (s.run moves) := by
  induction moves generalizing s with
  | nil => exact h.leadsTo_self
  | cons move moves ih =>
    have hstep := h.step marks move
    exact hstep.trans (ih hstep.steady (marks.step move))

/-- Before the first move there is neither a connection nor a turn. -/
theorem Reachable.steady (h : s.Reachable) : s.Steady := by
  obtain ⟨backend, credential, gate, files, network, moves, rfl⟩ := h
  generalize hstart : start (.new backend credential gate) files network = begun
  have hsilent : begun.Silent := by
    rw [← hstart]
    exact ⟨rfl, nofun⟩
  have hsteady : begun.Steady := by
    refine (hsilent.leadsTo_of_over (Nat.le_refl _) (.inr ?_) ?_).steady
    · rw [← hstart]
      rfl
    · rw [← hstart]
      rfl
  have hmarks : begun.MarksIssued :=
    Reachable.marksIssued ⟨backend, credential, gate, files, network, [], hstart.symm⟩
  exact (hsteady.run hmarks moves).steady

/-! ### The events of a run -/

/-- The event that the live connection delivers next, with the mark of the connection. -/
def nextEvent? (s : Scene) : Option (Nat × WireEvent) :=
  s.client.live.bind fun live =>
    (live.connection.poll (s.isCancelled live.mark)).1.event?.map (live.mark, ·)

/-- The event that a move folds. -/
def folds? (s : Scene) : Move → Option (Nat × WireEvent)
  | .advance _ | .fold _ => s.nextEvent?
  | _ => none

/-- The events that moves fold, in order. -/
def eventsFolded (s : Scene) : List Move → List (Nat × WireEvent)
  | [] => []
  | move :: moves => (s.folds? move).toList ++ (s.step move).eventsFolded moves

/-- Where there is such an event it is what a delivery folds. -/
theorem fold_of_nextEvent? {mark : Nat} (h : s.nextEvent? = some (mark, e)) (moment : Moment) :
    s.liveMark? = some mark ∧ ∃ next, s.fold moment = (s.reading next).foldEvent e moment := by
  obtain ⟨live, hlive, hevent⟩ := Option.bind_eq_some_iff.mp h
  obtain ⟨e', hanswer, heq⟩ := Option.map_eq_some_iff.mp hevent
  obtain ⟨rfl, rfl⟩ := Prod.mk.inj heq
  refine ⟨?_, _, fold_of_event hlive (Prod.ext (Polled.eq_ofEvent hanswer) rfl) moment⟩
  rw [liveMark?, hlive]
  rfl

theorem liveMark?_of_folds? {move : Move} {mark : Nat} (h : s.folds? move = some (mark, e)) :
    s.liveMark? = some mark := by
  cases move with
  | advance moment => exact (fold_of_nextEvent? h moment).1
  | fold moment => exact (fold_of_nextEvent? h moment).1
  | _ => cases h

/-- Events come from the connection that is live now, or from one that is made later. -/
theorem Steady.mark_of_mem_eventsFolded (h : s.Steady) (marks : s.MarksIssued)
    {moves : List Move} {folded : Nat × WireEvent} (hmem : folded ∈ s.eventsFolded moves) :
    s.liveMark? = some folded.1 ∨ s.marks.issued ≤ folded.1 := by
  induction moves generalizing s with
  | nil => cases hmem
  | cons move moves ih =>
    have hstep := h.step marks move
    rcases List.mem_append.mp hmem with hnow | hlater
    · exact .inl (liveMark?_of_folds? (Option.mem_toList.mp hnow))
    · rcases ih hstep.steady (marks.step move) hlater with hlive | hnew
      · exact hstep.live _ hlive
      · exact .inr (Nat.le_trans hstep.issued hnew)

/-- The connection and the turn of a reachable scene. They fit together; a connection which is no
longer live is cancelled, and whatever happens, none of its events is folded any more. An update is
the last one of its connection exactly if there is no live connection after it, and it agrees with
the turn. -/
theorem Reachable.coherent (h : s.Reachable) :
    s.Steady ∧
    (∀ mark < s.marks.issued, s.liveMark? ≠ some mark → s.isCancelled mark = true ∧
      ∀ moves, ∀ folded ∈ s.eventsFolded moves, folded.1 ≠ mark) ∧
    ∀ moment t u, s.advance moment = (t, .update u) →
      (t.client.live = none ↔ u.isLast = true) ∧ u.Agrees t.client.execution := by
  have hsteady := h.steady
  have hmarks := h.marksIssued
  refine ⟨hsteady, fun mark hissued hgone => ⟨?_, ?_⟩, fun moment t u hadvance => ?_⟩
  · exact (hsteady.others mark hissued).resolve_left hgone
  · rintro moves folded hmem rfl
    rcases hsteady.mark_of_mem_eventsFolded hmarks hmem with hlive | hnew
    · exact hgone hlive
    · exact absurd hissued (Nat.not_lt.mpr hnew)
  · obtain ⟨-, hfits⟩ := hsteady.advance hmarks moment
    rw [hadvance] at hfits
    obtain ⟨hlast, hagrees⟩ := hfits u rfl
    exact ⟨hlast, hagrees⟩

/-- A client whose backend asks for a permission and then completes the turn on a new connection. -/
def asking : Scene :=
  let turn := "\x7b\"conversation_id\":\"c\",\"message_id\":\"m\"," ++
    "\"thread_id\":\"t\",\"stream_url\":\"/1\"\x7d"
  let question := "data: \x7b\"type\":\"permission_request\",\"tool_name\":\"rm\"\x7d\n"
  let decided := "\x7b\"stream_url\":\"/2\"\x7d"
  let completed := "data: \x7b\"type\":\"complete\"\x7d\n"
  let replies := [turn, question, decided, completed].map fun text =>
    Web.Reply.answered 200 [.bytes (Text.Utf8.bytes text.toList), .finish]
  start (.new ⟨"http://[::1]"⟩ (.unstored (some "token")) (.fresh 16)) default (.answering replies)

/-- The same client once it has been asked for the permission. -/
def asked : Scene :=
  asking.run [.send "Hi" none, .advance ⟨0, 0, 0⟩]

/-- The same client after the user has given the permission. -/
def permitted : Scene :=
  asking.run [.send "Hi" none, .advance ⟨0, 0, 0⟩, .resume true]

theorem coherent_permitted :
    permitted.Reachable ∧ permitted.liveMark? = some 1 ∧ permitted.isCancelled 0 = true ∧
      (∀ moves, ∀ folded ∈ permitted.eventsFolded moves, folded.1 ≠ 0) ∧
      (permitted.advance ⟨1, 0, 1⟩).2 = .update (.completed (some "m")) ∧
      (permitted.advance ⟨1, 0, 1⟩).1.client.live = none ∧
      (permitted.advance ⟨1, 0, 1⟩).1.client.execution.phase = .idle := by
  have hasking : asking.Reachable := ⟨_, _, _, _, _, [], rfl⟩
  have reachable : permitted.Reachable := hasking.run _
  obtain ⟨-, hgone, hupdate⟩ := Reachable.coherent reachable
  -- The run is evaluated once for all that the theorem asks for.
  obtain ⟨hlive, hissued, hcompleted⟩ : permitted.liveMark? = some 1 ∧
      0 < permitted.marks.issued ∧
      (permitted.advance ⟨1, 0, 1⟩).2 = .update (.completed (some "m")) := by
    decide +kernel
  obtain ⟨hcancelled, hnever⟩ := hgone 0 hissued (by rw [hlive]; decide)
  have hpair (p : Scene × Awaited) (u : Update) (h : p.2 = .update u) : p = (p.1, .update u) := by
    rw [← h]
  obtain ⟨hlast, hidle⟩ := hupdate ⟨1, 0, 1⟩ _ _ (hpair _ _ hcompleted)
  exact ⟨reachable, hlive, hcancelled, hnever, hcompleted, hlast.mpr rfl, hidle⟩

end Scene

end BranchChat
