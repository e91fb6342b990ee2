import BranchChat.Proofs.Client.Updates
import BranchChat.Proofs.Execution.Likeness

/-!
# Scenes that look alike

Scenes look alike if they differ in nothing but the marks of connections, serial numbers, and when
held text is shown. Whatever is done to scenes that look alike gives the same answers and leaves
them alike, as long as no turn fails (a failing turn drops the text that is held).

## Main definitions

- `Scene.Alike`: scenes that look alike
- `Scene.Move.Renumbers`: the same moves, which may bring other serial numbers
- `Scene.answer`: what a move is answered by
- `Scene.InOrder`: what all reachable scenes have in common

## Main statements

- `Alike.attach`, `Alike.fold`: opening a connection and taking a delivery
- `Alike.step`: any move
-/

namespace BranchChat.Scene

open BranchChat.Execution (Moment)
open BranchChat.Json (ReaderOf)
open BranchChat.Stream (Arrival Connection WireEvent)
open BranchChat.Web

/-- The live connection. -/
def connection? (s : Scene) : Option Connection :=
  s.client.live.map (·.connection)

/-- Scenes between which there is no telling apart, once held text is shown. -/
structure Alike (s t : Scene) : Prop where
  backend : s.client.backend = t.client.backend
  credential : s.client.credential = t.client.credential
  workspace : s.client.workspace = t.client.workspace
  execution : s.client.execution.plain = t.client.execution.plain
  connection : s.connection? = t.connection?
  files : s.files = t.files
  network : s.network = t.network

/-- Operations on two scenes that leave them alike and give the same answer. -/
def SameOutcome {α : Type} (p q : Scene × α) : Prop :=
  Alike p.1 q.1 ∧ p.2 = q.2

variable {s t : Scene} {moment moment' : Moment} {e : WireEvent}

theorem SameOutcome.exists_eq {α : Type} {p q : Scene × α} (h : SameOutcome p q) :
    ∃ u v answer, p = (u, answer) ∧ q = (v, answer) ∧ Alike u v :=
  ⟨p.1, q.1, p.2, rfl, by rw [h.2], h.1⟩

/-! ### Requests -/

theorem Alike.onNetwork (h : Alike s t) (network : Network) :
    Alike { s with network } { t with network } :=
  ⟨h.backend, h.credential, h.workspace, h.execution, h.connection, h.files, rfl⟩

theorem Alike.expire (h : Alike s t) : Alike s.expire t.expire := by
  unfold Scene.expire
  rw [h.credential, h.files]
  exact ⟨h.backend, rfl, h.workspace, h.execution, h.connection, rfl, h.network⟩

theorem Alike.exchange (h : Alike s t) (r : Request) :
    SameOutcome (s.exchange r) (t.exchange r) := by
  unfold Scene.exchange
  rw [h.network]
  dsimp only
  rcases t.network.exchange r with ⟨network, fault | ⟨status, body⟩⟩
  · exact ⟨h.onNetwork network, rfl⟩
  · dsimp only
    split
    · exact ⟨(h.onNetwork network).expire, rfl⟩
    · split
      · exact ⟨h.onNetwork network, rfl⟩
      · exact ⟨h.onNetwork network, rfl⟩

theorem Alike.requestOf (h : Alike s t) (c : Call) : s.requestOf c = t.requestOf c := by
  unfold Scene.requestOf
  rw [h.credential]

theorem Alike.call {α : Type} (h : Alike s t) (read : ReaderOf α) (c : Call) :
    SameOutcome (s.call read c) (t.call read c) := by
  unfold Scene.call
  rw [h.requestOf c]
  cases t.requestOf c with
  | error e => exact ⟨h, rfl⟩
  | ok r =>
    obtain ⟨u, v, answer, hu, hv, halike⟩ := (h.exchange r).exists_eq
    dsimp only
    rw [hu, hv]
    cases answer with
    | error e => exact ⟨halike, rfl⟩
    | ok body => exact ⟨halike, rfl⟩

theorem Alike.abandonCall (h : Alike s t) (c : Call) :
    Alike (s.abandonCall c) (t.abandonCall c) := by
  unfold Scene.abandonCall
  rw [h.requestOf c]
  cases t.requestOf c with
  | error e => exact h
  | ok r =>
    dsimp only
    rw [h.network]
    exact h.onNetwork _

/-- It does not matter which marks the connections have, if neither is cancelled. -/
theorem Alike.openEvents (h : Alike s t) (address : String) {mark mark' : Nat}
    (fresh : s.isCancelled mark = false) (fresh' : t.isCancelled mark' = false) :
    SameOutcome (s.openEvents address mark) (t.openEvents address mark') := by
  unfold Scene.openEvents
  rw [h.credential, fresh, fresh']
  cases t.client.credential.token with
  | none => exact ⟨h.expire, rfl⟩
  | some token =>
    simp only [Bool.false_eq_true, if_false]
    cases Request.make? .get address token true none with
    | error fault => exact ⟨h, rfl⟩
    | ok r =>
      obtain ⟨u, v, answer, hu, hv, halike⟩ := (h.exchange r).exists_eq
      dsimp only
      rw [hu, hv]
      cases answer with
      | error e => exact ⟨halike, rfl⟩
      | ok body => exact ⟨halike, rfl⟩

/-! ### Changes of one part -/

theorem Alike.onExecution (h : Alike s t) {x y : Execution → Execution}
    (hxy : (x s.client.execution).plain = (y t.client.execution).plain) :
    Alike (s.onExecution x) (t.onExecution y) :=
  ⟨h.backend, h.credential, h.workspace, hxy, h.connection, h.files, h.network⟩

/-- A change of the turn by a move that does not make it fail. -/
theorem Alike.onMove (h : Alike s t) (moment moment' : Moment) (move : Execution.Move)
    (spared : ¬ s.client.execution.Failing move) (same : moment.anonymous = moment'.anonymous) :
    Alike (s.onExecution fun x => (x.step moment move).1)
      (t.onExecution fun x => (x.step moment' move).1) :=
  h.onExecution (Execution.plain_step_congr h.execution spared same).1

theorem Alike.onWorkspace (h : Alike s t) (change : Workspace → Workspace) :
    Alike (s.onWorkspace change) (t.onWorkspace change) :=
  ⟨h.backend, h.credential, congrArg change h.workspace, h.execution, h.connection, h.files,
    h.network⟩

theorem Alike.dropLive (h : Alike s t) : Alike s.dropLive t.dropLive := by
  obtain ⟨marks, hs⟩ := s.dropLive_eq
  obtain ⟨marks', ht⟩ := t.dropLive_eq
  rw [hs, ht]
  exact ⟨h.backend, h.credential, h.workspace, h.execution, rfl, h.files, h.network⟩

theorem Alike.abort (h : Alike s t) : Alike s.abort t.abort := by
  obtain ⟨marks, hs⟩ := s.abort_eq
  obtain ⟨marks', ht⟩ := t.abort_eq
  rw [hs, ht]
  exact ⟨h.backend, h.credential, h.workspace, h.execution, rfl, h.files, h.network⟩

/-! ### Failures -/

/-- The last failure of a turn that is still told. -/
def error? (s : Scene) : Option String :=
  s.client.execution.error

theorem Alike.afterExpiry (h : Alike s t) (e : ApiError) :
    Alike (s.afterExpiry e) (t.afterExpiry e) := by
  unfold Scene.afterExpiry
  split
  · exact h.abort.expire
  · exact h

/-- A failure that no turn takes note of. -/
theorem Alike.noteFailure (h : Alike s t) {e : ApiError}
    (spared : (s.noteFailure e).error? = none) :
    Alike (s.noteFailure e) (t.noteFailure e) := by
  have hunder := Execution.isUnderWay_plain_congr h.execution
  rw [error?, execution_noteFailure] at spared
  cases hs : s.client.execution.isUnderWay with
  | true =>
    rw [hs, if_pos rfl] at spared
    exact absurd spared (Option.some_ne_none e.message)
  | false =>
    rw [noteFailure_eq, noteFailure_eq, ← hunder, hs]
    exact h.afterExpiry e

/-! ### Connections -/

theorem Alike.attach (h : Alike s t) (hs : s.MarksIssued) (ht : t.MarksIssued)
    (reference : String) : SameOutcome (s.attach reference) (t.attach reference) := by
  have habort := h.abort
  have haddress : t.abort.client.backend.streamAddress? reference =
      s.abort.client.backend.streamAddress? reference := by rw [habort.backend]
  unfold Scene.attach
  dsimp only
  rw [haddress]
  cases s.abort.client.backend.streamAddress? reference with
  | error e => exact ⟨habort, rfl⟩
  | ok address =>
    have hissued : Alike
        { s.abort with
          marks.issued := s.abort.marks.issued + 1, client.mark := some s.abort.marks.issued }
        { t.abort with
          marks.issued := t.abort.marks.issued + 1, client.mark := some t.abort.marks.issued } :=
      ⟨habort.backend, habort.credential, habort.workspace, habort.execution, habort.connection,
        habort.files, habort.network⟩
    obtain ⟨u, v, answer, hu, hv, halike⟩ :=
      (hissued.openEvents address hs.abort.isCancelled_issued
        ht.abort.isCancelled_issued).exists_eq
    dsimp only at hu hv ⊢
    rw [hu, hv]
    cases answer with
    | error e => exact ⟨halike, rfl⟩
    | ok connection =>
      exact ⟨⟨halike.backend, halike.credential, halike.workspace, halike.execution, rfl,
        halike.files, halike.network⟩, rfl⟩

/-! ### What the user does -/

theorem Alike.send (h : Alike s t) (hs : s.MarksIssued) (ht : t.MarksIssued) (content : String)
    (parent : Option String) (spared : (s.send content parent).1.error? = none) :
    SameOutcome (s.send content parent) (t.send content parent) := by
  have habort := h.abort
  unfold Scene.send at spared ⊢
  dsimp only at spared ⊢
  rw [← habort.workspace]
  generalize s.abort.client.workspace.id? = conversation at spared ⊢
  generalize (parent <|> s.abort.client.workspace.newParent?) = parent at spared ⊢
  have hbegun := habort.onMove default default (.begin ⟨conversation, none, none, parent⟩ content)
    id rfl
  have hbegunS := hs.abort.onExecution (·.begin ⟨conversation, none, none, parent⟩ content)
  have hbegunT := ht.abort.onExecution (·.begin ⟨conversation, none, none, parent⟩ content)
  dsimp only [Execution.step] at hbegun
  generalize s.abort.onExecution _ = u at spared hbegun hbegunS ⊢
  generalize t.abort.onExecution _ = v at hbegun hbegunT ⊢
  rw [← hbegun.backend]
  obtain ⟨u', v', answer, hu, hv, hcalled⟩ := (hbegun.call Web.StartedTurn.read
    (u.client.backend.newTurn content conversation parent)).exists_eq
  rw [hu] at spared ⊢
  rw [hv]
  cases answer with
  | error e => exact ⟨hcalled.noteFailure spared, rfl⟩
  | ok turn =>
    dsimp only at spared ⊢
    have hlearned := hcalled.onMove default default (.learn
      { conversation := some turn.conversation, message := some turn.message
        thread := some turn.thread, parent := none }) id rfl
    obtain ⟨u'', v'', answer', hu', hv', hattached⟩ :=
      (hlearned.attach (((kept_of_call hu).marksIssued hbegunS).onExecution _)
        (((kept_of_call hv).marksIssued hbegunT).onExecution _) turn.stream).exists_eq
    dsimp only [Execution.step] at hu' hv'
    rw [hu'] at spared ⊢
    rw [hv']
    cases answer' with
    | error e => exact ⟨hattached.noteFailure spared, rfl⟩
    | ok _ => exact ⟨hattached, rfl⟩

theorem decisionTarget?_congr {x y : Execution} (hxy : x.plain = y.plain) :
    decisionTarget? x = decisionTarget? y := by
  unfold decisionTarget?
  rw [Execution.question_congr hxy, Execution.context_congr hxy]

theorem Alike.resume (h : Alike s t) (hs : s.MarksIssued) (ht : t.MarksIssued) (approved : Bool)
    (spared : (s.resume approved).1.error? = none) :
    SameOutcome (s.resume approved) (t.resume approved) := by
  unfold Scene.resume at spared ⊢
  rw [← Execution.phase_congr h.execution, ← decisionTarget?_congr h.execution, ← h.backend]
  by_cases hphase : s.client.execution.phase = .awaitingDecision
  · simp only [hphase, ne_eq, not_true_eq_false, if_false] at spared ⊢
    cases htarget : decisionTarget? s.client.execution with
    | none =>
      rw [htarget] at spared
      exact ⟨h.noteFailure spared, rfl⟩
    | some target =>
      obtain ⟨conversation, thread, message⟩ := target
      rw [htarget] at spared
      dsimp only at spared ⊢
      obtain ⟨u, v, answer, hu, hv, hcalled⟩ := (h.call Web.ResumedTurn.read
        (s.client.backend.continueTurn conversation thread message approved)).exists_eq
      rw [hu] at spared ⊢
      rw [hv]
      cases answer with
      | error e => exact ⟨hcalled.noteFailure spared, rfl⟩
      | ok turn =>
        dsimp only at spared ⊢
        obtain ⟨u', v', answer', hu', hv', hattached⟩ :=
          (hcalled.attach ((kept_of_call hu).marksIssued hs) ((kept_of_call hv).marksIssued ht)
            turn.stream).exists_eq
        rw [hu'] at spared ⊢
        rw [hv']
        cases answer' with
        | error e => exact ⟨hattached.noteFailure spared, rfl⟩
        | ok _ =>
          have hdropped := hattached.onMove default default .dropQuestion id rfl
          exact ⟨hdropped.onMove default default .proceed id rfl, rfl⟩
  · rw [if_pos hphase, if_pos hphase]
    exact ⟨h, rfl⟩

theorem Alike.stop (h : Alike s t) (now : Nat) : Alike (s.stop now) (t.stop now) :=
  h.abort.onMove ⟨now, 0, 0⟩ ⟨now, 0, 0⟩ .stop id rfl

theorem Alike.onFrame (h : Alike s t) (now : Nat) : Alike (s.onFrame now).1 (t.onFrame now).1 :=
  h.onMove ⟨now, 0, 0⟩ ⟨now, 0, 0⟩ .showDue id rfl

theorem Alike.logout (h : Alike s t) : Alike s.logout t.logout :=
  ((h.abort.onMove default default .wipe id rfl).onWorkspace fun _ => .empty).expire

theorem Alike.login (h : Alike s t) (token : String) (now : Int) :
    SameOutcome (s.login token now) (t.login token now) := by
  unfold Scene.login
  rw [h.credential, h.files]
  split
  · exact ⟨⟨h.backend, rfl, h.workspace, h.execution, h.connection, rfl, h.network⟩, rfl⟩
  · exact ⟨⟨h.backend, h.credential, h.workspace, h.execution, h.connection, rfl, h.network⟩, rfl⟩

/-! ### Deliveries -/

/-- An event that does not end the turn with an error. -/
theorem Alike.foldEvent (h : Alike s t) (e : WireEvent)
    (same : moment.anonymous = moment'.anonymous)
    (spared : (s.foldEvent e moment).1.error? = none) :
    SameOutcome (s.foldEvent e moment) (t.foldEvent e moment') := by
  have hspared : ¬ s.client.execution.Failing (.receive e) := by
    rintro ⟨under, hkind⟩
    obtain ⟨hsignal, herror⟩ := Execution.receive_failed under moment hkind
    unfold Scene.foldEvent at spared
    dsimp only at spared
    rw [hsignal] at spared
    dsimp only at spared
    rw [error?, abort_execution] at spared
    exact absurd (herror.symm.trans spared) (Option.some_ne_none _)
  obtain ⟨hplain, hsignal⟩ := Execution.plain_step_congr h.execution hspared same
  have hreceived := h.onMove moment moment' (.receive e) hspared same
  replace hsignal := Option.some.inj hsignal
  unfold Scene.foldEvent
  dsimp only [Execution.step] at hplain hsignal hreceived ⊢
  rw [← hsignal, ← Execution.context_congr hplain, ← Execution.error_congr hplain]
  cases (s.client.execution.receive e moment).2 with
  | none => exact ⟨hreceived, rfl⟩
  | some signal =>
    cases signal with
    | decisionNeeded => exact ⟨hreceived, rfl⟩
    | failed => exact ⟨hreceived.abort, rfl⟩
    | completed message =>
      dsimp only
      split
      · exact ⟨hreceived.abort.onMove default default .clear id rfl, rfl⟩
      · exact ⟨hreceived.abort, rfl⟩

theorem Alike.fold (h : Alike s t) (hs : s.Steady) (ht : t.Steady)
    (same : moment.anonymous = moment'.anonymous) (spared : (s.fold moment).1.error? = none) :
    SameOutcome (s.fold moment) (t.fold moment') := by
  have hconnection := h.connection
  unfold connection? at hconnection
  unfold Scene.fold at spared ⊢
  cases hlive : s.client.live with
  | none =>
    rw [hlive, Option.map_none, eq_comm, Option.map_eq_none_iff] at hconnection
    rw [hconnection]
    exact ⟨h, rfl⟩
  | some live =>
    rw [hlive, Option.map_some, eq_comm, Option.map_eq_some_iff] at hconnection
    obtain ⟨live', hlive', hsame⟩ := hconnection
    obtain ⟨-, -, hopen⟩ := hs.live live hlive
    obtain ⟨-, -, hopen'⟩ := ht.live live' hlive'
    rw [hlive] at spared
    rw [hlive']
    dsimp only at spared ⊢
    rw [hopen] at spared ⊢
    rw [hopen', hsame]
    have hpolled (next : Connection) :
        Alike { s with client.live := some { live with connection := next } }
          { t with client.live := some { live' with connection := next } } :=
      ⟨h.backend, h.credential, h.workspace, h.execution, rfl, h.files, h.network⟩
    generalize live.connection.poll false = polled at spared ⊢
    obtain ⟨answer, next⟩ := polled
    cases answer with
    | waiting => exact ⟨hpolled next, rfl⟩
    | ready delivery =>
      cases delivery with
      | event e => exact (hpolled next).foldEvent e same spared
      | ending ending =>
        cases ending with
        | broken fault => exact ⟨(hpolled next).noteFailure spared, rfl⟩
        | closed aborted =>
          have hdropped := (hpolled next).dropLive
          cases aborted with
          | true => exact ⟨hdropped.onMove moment moment' .stop id same, rfl⟩
          | false =>
            dsimp only at spared ⊢
            rw [← Execution.phase_congr hdropped.execution]
            split
            · next hphase =>
              rw [if_pos hphase] at spared
              exact absurd spared (Option.some_ne_none closedEarly)
            · exact ⟨hdropped, rfl⟩
    -- The connection is at its end.
    | _ => exact ⟨(hpolled next).dropLive, rfl⟩

theorem Alike.settle (h : Alike s t) (message : Option String)
    (fetched : Option (Conversation × List Artifact)) :
    Alike (s.settle message fetched) (t.settle message fetched) := by
  unfold Scene.settle
  cases fetched with
  | none => exact h.onMove default default .clear id rfl
  | some fetched => exact (h.onWorkspace _).onMove default default .clear id rfl

theorem Alike.reconcile (h : Alike s t) (message : Option String) (conversation : String) :
    Alike (s.reconcile message conversation) (t.reconcile message conversation) := by
  unfold Scene.reconcile obtainConversation obtainArtifacts
  rw [← h.backend]
  obtain ⟨u, v, answer, hu, hv, hcalled⟩ :=
    (h.call Conversation.read (s.client.backend.conversation conversation)).exists_eq
  rw [hu, hv]
  cases answer with
  | error e => exact hcalled.settle message none
  | ok c =>
    dsimp only
    rw [← hcalled.backend]
    obtain ⟨u', v', answer', hu', hv', hcalled'⟩ :=
      (hcalled.call (Json.readList Artifact.read)
        (u.client.backend.artifacts conversation)).exists_eq
    rw [hu', hv']
    cases answer' with
    | error e => exact hcalled'.settle message none
    | ok artifacts => exact hcalled'.settle message (some (c, artifacts))

theorem error?_reconcile (s : Scene) (message : Option String) (conversation : String) :
    (s.reconcile message conversation).error? = s.error? := by
  obtain ⟨u, change, hkept, heq⟩ := s.reconcile_eq message conversation
  rw [error?, error?, heq, ← hkept.execution]
  rfl

theorem Alike.advance (h : Alike s t) (hs : s.Steady) (ht : t.Steady)
    (same : moment.anonymous = moment'.anonymous) (spared : (s.advance moment).1.error? = none) :
    SameOutcome (s.advance moment) (t.advance moment') := by
  have hspared : (s.fold moment).1.error? = none := by
    unfold Scene.advance at spared
    split at spared
    · next heq => rwa [heq]
    · next heq =>
      rw [error?_reconcile] at spared
      rwa [heq]
  obtain ⟨u, v, answer, hu, hv, hfolded⟩ := (h.fold hs ht same hspared).exists_eq
  unfold Scene.advance
  rw [hu, hv]
  cases answer with
  | settled p => exact ⟨hfolded, rfl⟩
  | refreshing message conversation => exact ⟨hfolded.reconcile message conversation, rfl⟩

/-! ### Conversations -/

theorem Alike.obtainConversation (h : Alike s t) (id : String) :
    SameOutcome (s.obtainConversation id) (t.obtainConversation id) := by
  unfold Scene.obtainConversation
  rw [← h.backend]
  exact h.call Conversation.read _

theorem Alike.obtainArtifacts (h : Alike s t) (id : String) :
    SameOutcome (s.obtainArtifacts id) (t.obtainArtifacts id) := by
  unfold Scene.obtainArtifacts
  rw [← h.backend]
  exact h.call (Json.readList Artifact.read) _

theorem Alike.takeOver (h : Alike s t) (id : String) :
    SameOutcome (s.takeOver id) (t.takeOver id) := by
  unfold Scene.takeOver
  obtain ⟨u, v, answer, hu, hv, hfetched⟩ := (h.obtainConversation id).exists_eq
  rw [hu, hv]
  cases answer with
  | error e => exact ⟨hfetched, rfl⟩
  | ok conversation =>
    obtain ⟨u', v', answer', hu', hv', hfetched'⟩ := (hfetched.obtainArtifacts id).exists_eq
    dsimp only
    rw [hu', hv']
    cases answer' with
    | error e => exact ⟨hfetched', rfl⟩
    | ok artifacts => exact ⟨hfetched'.onWorkspace (·.refreshed conversation artifacts), rfl⟩

theorem Alike.visit (h : Alike s t) (id : String) (spared : (s.visit id).1.error? = none) :
    SameOutcome (s.visit id) (t.visit id) := by
  unfold Scene.visit at spared ⊢
  obtain ⟨u, v, answer, hu, hv, htaken⟩ := (h.takeOver id).exists_eq
  rw [hu] at spared ⊢
  rw [hv]
  cases answer with
  | error e => exact ⟨htaken.noteFailure spared, rfl⟩
  | ok _ => exact ⟨htaken, rfl⟩

theorem Alike.loadCatalog (h : Alike s t) : SameOutcome s.loadCatalog t.loadCatalog := by
  unfold Scene.loadCatalog
  rw [← h.backend]
  obtain ⟨u, v, answer, hu, hv, hcalled⟩ :=
    (h.call (Json.readList CatalogEntry.read) s.client.backend.conversations).exists_eq
  rw [hu, hv]
  cases answer with
  | error e => exact ⟨hcalled, rfl⟩
  | ok catalog => exact ⟨hcalled.onWorkspace ({ · with catalog }), rfl⟩

/-! ### Moves -/

/-- What a move is answered by. -/
inductive Answer where
  | done
  | result (r : Except ApiError Unit)
  | awaited (p : Awaited)
  | folded (f : Folded)
  | fetched (c : Except ApiError Conversation)
  | stored (r : Except Files.Fault Unit)

/-- The answer to a move. Whether a frame has shown held text is not among the answers. -/
def answer (s : Scene) : Move → Answer
  | .send content parent => .result (s.send content parent).2
  | .resume approved => .result (s.resume approved).2
  | .advance moment => .awaited (s.advance moment).2
  | .fold moment => .folded (s.fold moment).2
  | .fetch id => .fetched (s.obtainConversation id).2
  | .visit id => .result (s.visit id).2
  | .loadCatalog => .result s.loadCatalog.2
  | .login token now => .stored (s.login token now).2
  | .stop _ | .frame _ | .abandon _ | .browse _ | .logout => .done

/-- The same move, where an activation that it begins may have another serial number. -/
inductive Move.Renumbers : Move → Move → Prop
  | same (move : Move) : Renumbers move move
  | advance {moment moment' : Moment} (same : moment.anonymous = moment'.anonymous) :
      Renumbers (.advance moment) (.advance moment')
  | fold {moment moment' : Moment} (same : moment.anonymous = moment'.anonymous) :
      Renumbers (.fold moment) (.fold moment')

/-- The connection, the turn and the marks are in order, as they are in every reachable scene. -/
structure InOrder (s : Scene) : Prop where
  steady : s.Steady
  marks : s.MarksIssued

theorem Reachable.inOrder (h : s.Reachable) : s.InOrder :=
  ⟨h.steady, h.marksIssued⟩

theorem InOrder.step (h : s.InOrder) (move : Move) : (s.step move).InOrder :=
  ⟨(h.steady.step h.marks move).steady, h.marks.step move⟩

/-- Whatever is done to scenes that look alike leaves them alike and is answered alike, unless a
turn fails. -/
theorem Alike.step (h : Alike s t) (hs : s.InOrder) (ht : t.InOrder) {move move' : Move}
    (same : move.Renumbers move') (spared : (s.step move).error? = none) :
    Alike (s.step move) (t.step move') ∧ s.answer move = t.answer move' := by
  have hadvance {moment moment' : Moment} (same : moment.anonymous = moment'.anonymous)
      (spared : (s.advance moment).1.error? = none) :=
    (h.advance hs.steady ht.steady same spared).imp_right (congrArg Answer.awaited)
  have hfold {moment moment' : Moment} (same : moment.anonymous = moment'.anonymous)
      (spared : (s.fold moment).1.error? = none) :=
    (h.fold hs.steady ht.steady same spared).imp_right (congrArg Answer.folded)
  cases same with
  | advance same => exact hadvance same spared
  | fold same => exact hfold same spared
  | same =>
    cases move with
    | send content parent =>
      exact (h.send hs.marks ht.marks content parent spared).imp_right
        (congrArg Answer.result)
    | resume approved =>
      exact (h.resume hs.marks ht.marks approved spared).imp_right
        (congrArg Answer.result)
    | stop now => exact ⟨h.stop now, rfl⟩
    | frame now => exact ⟨h.onFrame now, rfl⟩
    | advance moment => exact hadvance rfl spared
    | fold moment => exact hfold rfl spared
    | fetch id => exact (h.obtainConversation id).imp_right (congrArg Answer.fetched)
    | abandon call => exact ⟨h.abandonCall call, rfl⟩
    | visit id => exact (h.visit id spared).imp_right (congrArg Answer.result)
    | loadCatalog => exact h.loadCatalog.imp_right (congrArg Answer.result)
    | browse w => exact ⟨h.onWorkspace fun _ => w, rfl⟩
    | login token now => exact (h.login token now).imp_right (congrArg Answer.stored)
    | logout => exact ⟨h.logout, rfl⟩

end BranchChat.Scene
