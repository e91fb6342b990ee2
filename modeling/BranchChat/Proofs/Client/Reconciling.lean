import BranchChat.Proofs.Client.Updates
import BranchChat.Proofs.Conversation.Partition
import BranchChat.Proofs.Execution.Archives

/-!
# Reconciling a completed turn

When a turn is completed the client lets go of the connection and fetches the conversation again,
and then its artifacts. What it holds afterwards is either all that was fetched, with the message of
the turn chosen if it is there, or exactly what it held before. In both cases the turn is cleared
away, and what the agents did stays in the archive.

## Main definitions

- `Scene.Gives`: the backend gives a conversation and then its artifacts
- `Workspace.reconciled`: a workspace that holds what was fetched
- `Execution.IsClear`: no turn is left

## Main statements

- `exists_completes`: only the event that completes a turn is answered by its completion
- `workspace_reconcile_of_gives`, `workspace_reconcile_of_not_gives`: everything or nothing is taken
  over
- `reconciled_of_completed`: the scene after a completed turn
-/

namespace BranchChat

open BranchChat.Execution (Activation Moment)
open BranchChat.Json (ReaderOf)
open BranchChat.Stream (WireEvent)
open BranchChat.Web

/-! ### The execution of a completed turn -/

namespace Execution

variable {x : Execution} {e : WireEvent} {message : Option String}

/-- No turn is left. -/
structure IsClear (x : Execution) : Prop where
  phase : x.phase = .idle
  activations : x.activations = []
  context : x.context = .none
  draft : x.draft = none
  question : x.question = none

theorem isClear_clear (x : Execution) : x.clear.IsClear :=
  ⟨rfl, rfl, rfl, rfl, rfl⟩

/-- Receiving an event completes the turn of this message. -/
structure Completes (x : Execution) (e : WireEvent) (message : Option String) : Prop where
  under : x.isUnderWay = true
  kind : e.kind = "complete"
  message_eq : message = (e.data.textAt? "message_id" <|> x.context.message)

theorem completes_of_receive {moment : Moment}
    (h : (x.receive e moment).2 = some (.completed message)) : x.Completes e message := by
  by_cases under : x.isUnderWay = true
  · cases hlast : e.isLast with
    | false =>
      rw [(receive_of_isLast_eq_false under moment hlast).1] at h
      split at h <;> cases h
    | true =>
      rcases WireEvent.isLast_iff.mp hlast with hkind | hkind
      · rw [receive_completed under moment hkind] at h
        exact ⟨under, hkind, (Signal.completed.inj (Option.some.inj h)).symm⟩
      · rw [(receive_failed under moment hkind).1] at h
        cases h
  · rw [receive, if_neg under] at h
    cases h

theorem Completes.receive_eq (h : x.Completes e message) (moment : Moment) :
    (x.receive e moment).2 = some (.completed message) := by
  rw [h.message_eq, receive_completed h.under moment h.kind]

theorem Completes.context_receive (h : x.Completes e message) (moment : Moment) :
    (x.receive e moment).1.context = x.context := by
  have hmeaning := WireEvent.meaning_eq_completed_iff.mpr ⟨h.kind, rfl⟩
  rw [receive, if_pos h.under, hmeaning, absorb, withHeldShown_eq, keep_eq]

/-- What the agents did is kept under the message, if there is something worth a look. -/
theorem Completes.archived?_receive (h : x.Completes e message) (moment : Moment)
    (other : String) :
    (x.receive e moment).1.archived? other =
      let kept := (x.withHeldShown moment.now).activations.filter Activation.isNoteworthy
      if message = some other ∧ kept ≠ [] then some kept else x.archived? other := by
  obtain ⟨harchive, -⟩ := archive_receive_of_completed h.under moment h.kind
  rw [← h.message_eq] at harchive
  have hshown : (x.withHeldShown moment.now).activations = x.shown := by rw [withHeldShown_eq]
  rw [hshown, archived?, harchive]
  dsimp only
  cases message with
  | none =>
    rw [Archive.keep_none, if_neg (fun hkept => Option.some_ne_none _ hkept.1.symm)]
    rfl
  | some message =>
    by_cases hkept : x.shown.filter Activation.isNoteworthy = []
    · rw [Archive.keep_of_filter_eq_nil hkept, if_neg fun h => h.2 hkept]
      rfl
    · rw [Archive.keep_some hkept, Archive.lookup_put]
      by_cases hother : other = message
      · rw [if_pos hother, if_pos ⟨congrArg some hother.symm, hkept⟩]
      · rw [if_neg hother, if_neg fun h => hother (Option.some.inj h.1).symm]
        rfl

end Execution

/-! ### The workspace of a completed turn -/

/-- The workspace that holds a conversation with its artifacts. The branch of the message is chosen
if the conversation has that message. -/
def Workspace.reconciled (w : Workspace) (c : Conversation) (artifacts : List Artifact)
    (message : Option String) : Workspace where
  conversation := some c
  tree := .ofMessages c.messages
  leaf := message.filter fun id => c.messages.any (·.id == id)
  artifacts := artifacts
  catalog := w.catalog

namespace Scene

variable {s : Scene} {e : WireEvent} {moment : Moment} {message : Option String}

theorem workspace_settle_some (s : Scene) (message : Option String) (c : Conversation)
    (artifacts : List Artifact) :
    (s.settle message (some (c, artifacts))).client.workspace =
      s.client.workspace.reconciled c artifacts message := by
  let w := s.client.workspace.refreshed c artifacts
  -- The leaf that is kept when the conversation is loaded does not matter: it is chosen anew.
  have hhas (id : String) : w.tree.has id = c.messages.any (·.id == id) :=
    Bool.eq_iff_iff.mpr (Tree.has_ofMessages.trans (by simp))
  have hleaf : (w.select? message).getD { w with leaf := none } =
      { w with leaf := message.filter w.tree.has } := by
    cases message with
    | none => rfl
    | some id =>
      rw [Workspace.select?, Option.all_some, Option.filter_some]
      cases w.tree.has id <;> rfl
  calc (s.settle message (some (c, artifacts))).client.workspace
      = (w.select? message).getD { w with leaf := none } := rfl
    _ = { w with leaf := message.filter w.tree.has } := hleaf
    _ = s.client.workspace.reconciled c artifacts message := by rw [funext hhas]; rfl

/-! ### What the backend gives -/

/-- The backend gives a conversation, and then its artifacts. -/
def Gives (s : Scene) (id : String) (c : Conversation) (artifacts : List Artifact) : Prop :=
  (s.obtainConversation id).2 = .ok c ∧
    ((s.obtainConversation id).1.obtainArtifacts id).2 = .ok artifacts

/-- The scene with another turn and other connections. -/
def withTurn (s : Scene) (x : Execution) (live : Option Client.Live) (mark : Option Nat)
    (marks : Client.Marks) : Scene :=
  { s with client.execution := x, client.live := live, client.mark := mark, marks }

section

variable (s) (x : Execution) (live : Option Client.Live) (mark : Option Nat)
  (marks : Client.Marks)

theorem exchange_withTurn (r : Request) :
    (s.withTurn x live mark marks).exchange r =
      ((s.exchange r).1.withTurn x live mark marks, (s.exchange r).2) := by
  unfold exchange withTurn
  dsimp only
  rcases s.network.exchange r with ⟨network, fault | ⟨status, body⟩⟩
  · rfl
  · dsimp only
    split
    · rfl
    · split <;> rfl

/-- A request has nothing to do with the turn and its connections. -/
theorem call_withTurn {α : Type} (read : ReaderOf α) (c : Call) :
    (s.withTurn x live mark marks).call read c =
      ((s.call read c).1.withTurn x live mark marks, (s.call read c).2) := by
  have hrequest : (s.withTurn x live mark marks).requestOf c = s.requestOf c := rfl
  unfold call
  rw [hrequest]
  cases s.requestOf c with
  | error e => rfl
  | ok r =>
    dsimp only
    rw [exchange_withTurn]
    rcases s.exchange r with ⟨t, e | body⟩ <;> rfl

theorem gives_withTurn_iff {id : String} {c : Conversation} {artifacts : List Artifact} :
    (s.withTurn x live mark marks).Gives id c artifacts ↔ s.Gives id c artifacts := by
  unfold Gives obtainConversation obtainArtifacts
  rw [call_withTurn]
  dsimp only
  rw [call_withTurn]
  rfl

end

/-! ### Fetching after a completed turn -/

/-- All that the backend gives is taken over. -/
theorem workspace_reconcile_of_gives {id : String} {c : Conversation} {artifacts : List Artifact}
    (h : s.Gives id c artifacts) (message : Option String) :
    (s.reconcile message id).client.workspace =
      s.client.workspace.reconciled c artifacts message := by
  obtain ⟨hconversation, hartifacts⟩ := h
  unfold reconcile
  split
  · next hfailed =>
    rw [hfailed] at hconversation
    cases hconversation
  · next t found hfound =>
    have ht := kept_of_call hfound
    rw [hfound] at hconversation hartifacts
    obtain rfl := Except.ok.inj hconversation
    dsimp only at hartifacts
    split
    · next hfailed =>
      rw [hfailed] at hartifacts
      cases hartifacts
    · next u listed hlisted =>
      rw [hlisted] at hartifacts
      obtain rfl := Except.ok.inj hartifacts
      rw [workspace_settle_some, (ht.trans (kept_of_call hlisted)).workspace]

/-- If it does not give both, nothing is taken over. -/
theorem workspace_reconcile_of_not_gives {id : String}
    (h : ∀ c artifacts, ¬ s.Gives id c artifacts) (message : Option String) :
    (s.reconcile message id).client.workspace = s.client.workspace := by
  unfold reconcile
  split
  · next hconversation => exact (kept_of_call hconversation).workspace
  · next t c hconversation =>
    have ht := kept_of_call hconversation
    split
    · next hartifacts => exact (ht.trans (kept_of_call hartifacts)).workspace
    · next artifacts hartifacts =>
      refine absurd ⟨by rw [hconversation], ?_⟩ (h c artifacts)
      rw [hconversation]
      exact congrArg Prod.snd hartifacts

theorem execution_reconcile (s : Scene) (message : Option String) (id : String) :
    (s.reconcile message id).client.execution = s.client.execution.clear := by
  obtain ⟨t, change, hkept, hreconcile⟩ := s.reconcile_eq message id
  rw [hreconcile]
  exact congrArg Execution.clear hkept.execution

/-! ### The completion of a turn -/

/-- Taking a delivery has completed the turn of this message. -/
def CompletedBy (message : Option String) : Folded → Prop
  | .settled p => p = .update (.completed message)
  | .refreshing completed _ => completed = message

theorem completedBy_of_advance (h : (s.advance moment).2 = .update (.completed message)) :
    CompletedBy message (s.fold moment).2 := by
  unfold advance at h
  split at h
  · next heq => rwa [heq]
  · next heq =>
    rw [heq]
    exact Update.completed.inj (Awaited.update.inj h)

/-- A delivery that is no event completes no turn. -/
theorem not_completedBy_of_nextEvent?_eq_none (h : s.nextEvent? = none) (moment : Moment) :
    ¬ CompletedBy message (s.fold moment).2 := by
  unfold nextEvent? at h
  unfold fold
  split
  · exact nofun
  · next live hlive =>
    rw [hlive, Option.bind_some, Option.map_eq_none_iff] at h
    dsimp only
    split
    · exact nofun
    · exact nofun
    · next heq =>
      rw [heq] at h
      cases h
    · exact nofun
    · split <;> exact nofun
    · exact nofun

theorem completes_of_foldEvent (h : CompletedBy message (s.foldEvent e moment).2) :
    s.client.execution.Completes e message := by
  suffices hsignal : (s.client.execution.receive e moment).2 = some (.completed message) from
    Execution.completes_of_receive hsignal
  unfold foldEvent at h
  generalize s.client.execution.receive e moment = result at h ⊢
  rcases result with ⟨z, _ | _ | found | _⟩
  · cases h
  · cases h
  · dsimp only at h
    split at h
    · obtain rfl := Update.completed.inj (Awaited.update.inj h)
      rfl
    · obtain rfl : found = message := h
      rfl
  · cases h

/-- What completes a turn is answered by letting the connection go, and then by fetching the
conversation if the turn has one. -/
theorem advance_of_completes {mark : Nat} (hnext : s.nextEvent? = some (mark, e))
    (h : s.client.execution.Completes e message) (moment : Moment) :
    (s.advance moment).1 =
      match s.client.execution.context.conversation with
      | some id => (s.received e moment).abort.reconcile message id
      | none => (s.received e moment).abort.onExecution Execution.clear := by
  obtain ⟨-, next, hfold⟩ := fold_of_nextEvent? hnext moment
  -- The event is final, so what is left of the connection does not matter.
  have hlast : e.isLast = true := WireEvent.isLast_iff.mpr (.inl h.kind)
  rw [foldEvent_reading h.under hlast] at hfold
  unfold advance
  rw [hfold]
  unfold foldEvent
  dsimp only
  rw [h.receive_eq, h.context_receive]
  cases s.client.execution.context.conversation <;> rfl

/-- The backend gives the same before the event and after it. -/
theorem gives_abort_received_iff {id : String} {c : Conversation} {artifacts : List Artifact} :
    (s.received e moment).abort.Gives id c artifacts ↔ s.Gives id c artifacts := by
  obtain ⟨marks, habort⟩ := (s.received e moment).abort_eq
  rw [habort]
  exact s.gives_withTurn_iff (s.client.execution.receive e moment).1 none none marks

theorem exists_completes (h : (s.advance moment).2 = .update (.completed message)) :
    ∃ mark e, s.nextEvent? = some (mark, e) ∧ s.client.execution.Completes e message := by
  have hfolded := completedBy_of_advance h
  cases hnext : s.nextEvent? with
  | none => exact absurd hfolded (not_completedBy_of_nextEvent?_eq_none hnext moment)
  | some found =>
    obtain ⟨mark, e⟩ := found
    obtain ⟨-, next, hfold⟩ := fold_of_nextEvent? hnext moment
    rw [hfold] at hfolded
    exact ⟨mark, e, rfl, completes_of_foldEvent (s := s.reading next) hfolded⟩

/-- The turn is cleared away, whatever the backend gives. -/
theorem execution_advance_of_completes {mark : Nat} (hnext : s.nextEvent? = some (mark, e))
    (h : s.client.execution.Completes e message) (moment : Moment) :
    (s.advance moment).1.client.execution = (s.client.execution.receive e moment).1.clear := by
  have hexecution : (s.received e moment).abort.client.execution =
      (s.client.execution.receive e moment).1 := abort_execution _
  rw [advance_of_completes hnext h, ← hexecution]
  split
  · exact execution_reconcile ..
  · rfl

/-- What is true after a completed turn, whatever the scene was and whatever the backend gives. If
the turn has a conversation and the backend gives it with its artifacts, the workspace holds both,
and the branch of the message is chosen if it is there. Otherwise the workspace is the same as
before. No turn is left, and the archive holds what the agents did under the message. -/
theorem reconciled_of_completed (h : (s.advance moment).2 = .update (.completed message)) :
    let x := s.client.execution
    let t := (s.advance moment).1
    (∃ mark e, s.nextEvent? = some (mark, e) ∧ x.Completes e message) ∧
    (∀ id c artifacts, x.context.conversation = some id → s.Gives id c artifacts →
      t.client.workspace = s.client.workspace.reconciled c artifacts message) ∧
    ((∀ id c artifacts, x.context.conversation = some id → ¬ s.Gives id c artifacts) →
      t.client.workspace = s.client.workspace) ∧
    t.client.execution.IsClear ∧
    ∀ other, t.client.execution.archived? other =
      let kept := (x.withHeldShown moment.now).activations.filter Activation.isNoteworthy
      if message = some other ∧ kept ≠ [] then some kept else x.archived? other := by
  intro x t
  obtain ⟨mark, e, hnext, hcompletes⟩ := exists_completes h
  have hadvance := advance_of_completes hnext hcompletes moment
  have hworkspace : (s.received e moment).abort.client.workspace = s.client.workspace :=
    abort_workspace _
  have hexecution := execution_advance_of_completes hnext hcompletes moment
  refine ⟨⟨mark, e, hnext, hcompletes⟩, fun id c artifacts hid hgives => ?_, fun hnone => ?_, ?_,
    fun other => ?_⟩
  · have hgiven : (s.received e moment).abort.Gives id c artifacts :=
      gives_abort_received_iff.mpr hgives
    show (s.advance moment).1.client.workspace = _
    rw [hadvance, hid, ← hworkspace]
    exact workspace_reconcile_of_gives hgiven message
  · show (s.advance moment).1.client.workspace = _
    rw [hadvance]
    split
    · next id hid =>
      rw [← hworkspace]
      refine workspace_reconcile_of_not_gives (fun c artifacts hgives => ?_) message
      exact hnone id c artifacts hid (gives_abort_received_iff.mp hgives)
    · exact hworkspace
  · show (s.advance moment).1.client.execution.IsClear
    rw [hexecution]
    exact Execution.isClear_clear _
  · show (s.advance moment).1.client.execution.archived? other = _
    rw [hexecution]
    exact hcompletes.archived?_receive moment other

/-- A client that is about to hear of the end of a turn, after an agent has called a tool. Meanwhile
another conversation is looked at. -/
def finishing : Scene :=
  let turn := "\x7b\"conversation_id\":\"c\",\"message_id\":\"m\"," ++
    "\"thread_id\":\"t\",\"stream_url\":\"/1\"\x7d"
  let events := "data: \x7b\"type\":\"agent_start\",\"agent_name\":\"A\"\x7d\n" ++
    "data: \x7b\"type\":\"tool_start\",\"tool_name\":\"rm\"\x7d\n" ++
    "data: \x7b\"type\":\"complete\"\x7d\n"
  let waiting := start (.new ⟨"http://[::1]"⟩ (.unstored (some "token")) (.fresh 16)) default
    .offline
  (waiting.facing [.ofText 200 turn, .ofText 200 events]).run
    [.send "Hi" none, .advance ⟨0, 0, 0⟩, .advance ⟨1, 0, 1⟩,
      .browse (Workspace.empty.load ⟨"k", none, tangled⟩)]

/-- The backend gives both the conversation and its artifacts; it gives the conversation and not the
artifacts; and the turn has no conversation. -/
theorem reconciled_of_completed_finishing :
    let message := "\x7b\"id\":\"m\",\"content\":\"\",\"created_at\":\"1970-01-01T00:00:08Z\"\x7d"
    let conversation := "\x7b\"id\":\"c\",\"messages\":[" ++ message ++ "]\x7d"
    let artifacts := "[\x7b\"id\":\"p\",\"title\":\"Plan\",\"version\":1\x7d]"
    let whole := finishing.facing [.ofText 200 conversation, .ofText 200 artifacts]
    let half := finishing.facing [.ofText 200 conversation, .ofText 503 "busy"]
    let nowhere := whole.onExecution ({ · with context := .none })
    let moment : Moment := ⟨2, 0, 2⟩
    let looking := Workspace.empty.load ⟨"k", none, tangled⟩
    (whole.advance moment).2 = .update (.completed (some "m")) ∧
    (whole.advance moment).1.client.workspace =
      ⟨some ⟨"c", none, [.brief "m" none 8]⟩, .ofMessages [.brief "m" none 8], some "m",
        [⟨"p", "Plan", none, 1, none⟩], []⟩ ∧
    (half.advance moment).2 = .update (.completed (some "m")) ∧
    (half.advance moment).1.client.workspace = looking ∧
    (half.advance moment).1.client.execution.IsClear ∧
    ((half.advance moment).1.client.execution.archived? "m").isSome = true ∧
    (nowhere.advance moment).2 = .update (.completed none) ∧
    (nowhere.advance moment).1.client.workspace = looking := by
  intro message conversation artifacts whole half nowhere moment looking
  -- The scenes are evaluated together for all that the theorem asks for.
  obtain ⟨⟨hwhole, hturn, hgives⟩, ⟨hhalf, hturn', hfailed, hkept⟩, hnowhere⟩ :
      ((whole.advance moment).2 = .update (.completed (some "m")) ∧
        whole.client.execution.context.conversation = some "c" ∧
        whole.Gives "c" ⟨"c", none, [.brief "m" none 8]⟩ [⟨"p", "Plan", none, 1, none⟩]) ∧
      ((half.advance moment).2 = .update (.completed (some "m")) ∧
        half.client.execution.context.conversation = some "c" ∧
        ((half.obtainConversation "c").1.obtainArtifacts "c").2 = .error (.status 503 "busy") ∧
        (half.client.execution.withHeldShown moment.now).activations.filter
          Activation.isNoteworthy ≠ []) ∧
      (nowhere.advance moment).2 = .update (.completed none) := by
    unfold Gives
    decide +kernel
  obtain ⟨-, htaken, -, -, -⟩ := reconciled_of_completed hwhole
  obtain ⟨-, -, hsame, hclear, harchived⟩ := reconciled_of_completed hhalf
  obtain ⟨-, -, hstill, -, -⟩ := reconciled_of_completed hnowhere
  refine ⟨hwhole, ?_, hhalf, hsame ?_, hclear, ?_, hnowhere, hstill nofun⟩
  · rw [htaken "c" _ _ hturn hgives]
    decide +kernel
  · intro id c artifacts hid hgives
    obtain rfl := Option.some.inj (hturn'.symm.trans hid)
    cases hfailed.symm.trans hgives.2
  · rw [harchived, if_pos ⟨rfl, hkept⟩]
    rfl

end Scene

end BranchChat
