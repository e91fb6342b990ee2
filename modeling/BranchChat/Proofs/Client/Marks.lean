import BranchChat.Proofs.Client.Aborting
import BranchChat.Proofs.Client.Requests
import BranchChat.Proofs.Client.Runs

/-!
# Marks of connections

A mark is issued when a connection is asked for. Only issued marks are ever in use, so a new
connection is not cancelled from the start.

## Main definitions

- `Scene.MarksIssued`: all marks in use were issued

## Main statements

- `Reachable.marksIssued`: this holds of every reachable scene
-/

namespace BranchChat.Scene

open BranchChat.Execution (Moment)
open BranchChat.Stream (WireEvent)
open BranchChat.Web (ApiError)

/-- All marks in use were issued. -/
structure MarksIssued (s : Scene) : Prop where
  cancelled : ∀ mark ∈ s.marks.cancelled, mark < s.marks.issued
  latest : ∀ mark ∈ s.client.mark, mark < s.marks.issued
  live : ∀ live ∈ s.client.live, live.mark < s.marks.issued

variable {s t : Scene}

/-- The next mark is not cancelled. -/
theorem MarksIssued.isCancelled_issued (h : s.MarksIssued) :
    s.isCancelled s.marks.issued = false := by
  rw [isCancelled, List.contains_eq_mem, decide_eq_false_iff_not]
  intro hmem
  exact Nat.lt_irrefl _ (h.cancelled _ hmem)

/-! ### Changes that issue no mark -/

theorem Undisturbed.marksIssued (h : Undisturbed s t) (hs : s.MarksIssued) : t.MarksIssued := by
  constructor
  · rw [h.marks]
    exact hs.cancelled
  · rw [h.mark, h.marks]
    exact hs.latest
  · rw [h.live, h.marks]
    exact hs.live

theorem Kept.marksIssued (h : Kept s t) (hs : s.MarksIssued) : t.MarksIssued :=
  h.undisturbed.marksIssued hs

theorem MarksIssued.onExecution (h : s.MarksIssued) (change : Execution → Execution) :
    (s.onExecution change).MarksIssued :=
  ⟨h.cancelled, h.latest, h.live⟩

theorem MarksIssued.onWorkspace (h : s.MarksIssued) (change : Workspace → Workspace) :
    (s.onWorkspace change).MarksIssued :=
  ⟨h.cancelled, h.latest, h.live⟩

theorem MarksIssued.cancel (h : s.MarksIssued) {mark : Nat} (hmark : mark < s.marks.issued) :
    (s.cancel mark).MarksIssued :=
  ⟨List.forall_mem_cons.mpr ⟨hmark, h.cancelled⟩, h.latest, h.live⟩

theorem MarksIssued.dropLive (h : s.MarksIssued) : s.dropLive.MarksIssued := by
  unfold Scene.dropLive
  split
  · next live hlive =>
    have hcancel := h.cancel (h.live live hlive)
    exact ⟨hcancel.cancelled, hcancel.latest, fun _ hnone => nomatch hnone⟩
  · exact h

theorem MarksIssued.abort (h : s.MarksIssued) : s.abort.MarksIssued := by
  unfold Scene.abort
  split
  · next mark hmark =>
    have hcancel := h.cancel (h.latest mark hmark)
    exact MarksIssued.dropLive ⟨hcancel.cancelled, (fun _ hnone => nomatch hnone), hcancel.live⟩
  · exact h.dropLive

theorem MarksIssued.noteFailure (h : s.MarksIssued) (e : ApiError) :
    (s.noteFailure e).MarksIssued := by
  have hexpired : (s.afterExpiry e).MarksIssued := by
    unfold afterExpiry
    split
    · exact (kept_expire _).marksIssued h.abort
    · exact h
  rw [noteFailure_eq]
  split
  · exact MarksIssued.onExecution (MarksIssued.abort hexpired) _
  · exact hexpired

/-- The next mark is issued to a new connection. -/
theorem MarksIssued.issue (h : s.MarksIssued) :
    MarksIssued
      { s with marks.issued := s.marks.issued + 1, client.mark := some s.marks.issued } := by
  constructor
  · exact fun mark hmark => Nat.lt_succ_of_lt (h.cancelled mark hmark)
  · intro mark hmark
    obtain rfl := Option.some.inj hmark
    exact Nat.lt_succ_self _
  · exact fun live hlive => Nat.lt_succ_of_lt (h.live live hlive)

/-! ### The moves -/

theorem MarksIssued.attach (h : s.MarksIssued) (reference : String) :
    (s.attach reference).1.MarksIssued := by
  unfold Scene.attach
  dsimp only
  split
  · exact h.abort
  · split
    · next t e hopen => exact (kept_of_openEvents hopen).marksIssued h.abort.issue
    · next t connection hopen =>
      have hkept := kept_of_openEvents hopen
      have ht := hkept.marksIssued h.abort.issue
      refine ⟨ht.cancelled, ht.latest, fun live hlive => ?_⟩
      -- The live connection has the mark that was issued to it.
      obtain rfl := Option.some.inj hlive
      exact ht.latest _ hkept.mark

theorem MarksIssued.send (h : s.MarksIssued) (content : String) (parent : Option String) :
    (s.send content parent).1.MarksIssued := by
  unfold Scene.send
  dsimp only
  split
  · next t e hcall =>
    exact ((kept_of_call hcall).marksIssued (h.abort.onExecution _)).noteFailure e
  · next t turn hcall =>
    have ht := (kept_of_call hcall).marksIssued (h.abort.onExecution _)
    have hattach := (ht.onExecution (·.learn
      { conversation := some turn.conversation, message := some turn.message
        thread := some turn.thread, parent := none })).attach turn.stream
    split
    · next u e heq =>
      rw [heq] at hattach
      exact hattach.noteFailure e
    · next u heq => rwa [heq] at hattach

theorem MarksIssued.resume (h : s.MarksIssued) (approved : Bool) :
    (s.resume approved).1.MarksIssued := by
  unfold Scene.resume
  split
  · exact h
  · split
    · exact h.noteFailure _
    · dsimp only
      split
      · next t e hcall => exact ((kept_of_call hcall).marksIssued h).noteFailure e
      · next t turn hcall =>
        have hattach := ((kept_of_call hcall).marksIssued h).attach turn.stream
        split
        · next u e heq =>
          rw [heq] at hattach
          exact hattach.noteFailure e
        · next u heq =>
          rw [heq] at hattach
          exact hattach.onExecution (·.dropQuestion.proceed)

theorem MarksIssued.foldEvent (h : s.MarksIssued) (e : WireEvent) (moment : Moment) :
    (s.foldEvent e moment).1.MarksIssued := by
  have hreceived := h.onExecution fun _ => (s.client.execution.receive e moment).1
  unfold Scene.foldEvent
  dsimp only
  split
  · exact hreceived
  · exact hreceived
  · exact hreceived.abort
  · split
    · exact hreceived.abort.onExecution Execution.clear
    · exact hreceived.abort

theorem MarksIssued.fold (h : s.MarksIssued) (moment : Moment) :
    (s.fold moment).1.MarksIssued := by
  unfold Scene.fold
  split
  · exact h
  · next live hlive =>
    dsimp only
    have hpolled (connection : Stream.Connection) :
        MarksIssued { s with client.live := some { live with connection } } := by
      refine ⟨h.cancelled, h.latest, fun polled hpolled => ?_⟩
      obtain rfl := Option.some.inj hpolled
      exact h.live live hlive
    split
    · exact hpolled _
    · exact (hpolled _).dropLive
    · exact (hpolled _).foldEvent _ moment
    · exact (hpolled _).dropLive.onExecution (·.stop moment.now)
    · split
      · exact (hpolled _).dropLive.onExecution (·.fail closedEarly)
      · exact (hpolled _).dropLive
    · exact (hpolled _).noteFailure _

theorem MarksIssued.reconcile (h : s.MarksIssued) (message : Option String)
    (conversation : String) : (s.reconcile message conversation).MarksIssued := by
  obtain ⟨t, change, hkept, heq⟩ := s.reconcile_eq message conversation
  rw [heq]
  exact ((hkept.marksIssued h).onWorkspace change).onExecution Execution.clear

theorem MarksIssued.advance (h : s.MarksIssued) (moment : Moment) :
    (s.advance moment).1.MarksIssued := by
  have hfold := h.fold moment
  unfold Scene.advance
  split
  · next heq => rwa [heq] at hfold
  · next heq =>
    rw [heq] at hfold
    exact hfold.reconcile _ _

theorem MarksIssued.visit (h : s.MarksIssued) (id : String) : (s.visit id).1.MarksIssued := by
  have htake := (s.undisturbed_takeOver id).marksIssued h
  unfold Scene.visit
  split
  · next heq =>
    rw [heq] at htake
    exact htake.noteFailure _
  · next heq => rwa [heq] at htake

theorem MarksIssued.step (h : s.MarksIssued) (move : Move) : (s.step move).MarksIssued := by
  cases move with
  | send content parent => exact h.send content parent
  | resume approved => exact h.resume approved
  | stop now => exact h.abort.onExecution _
  | frame now => exact h.onExecution fun _ => (s.client.execution.showDue now).1
  | advance moment => exact h.advance moment
  | fold moment => exact h.fold moment
  | fetch id => exact (kept_call _ _ _).marksIssued h
  | abandon call => exact (kept_abandonCall _ _).marksIssued h
  | visit id => exact h.visit id
  | loadCatalog => exact s.undisturbed_loadCatalog.marksIssued h
  | browse w => exact h.onWorkspace fun _ => w
  | login token now => exact (s.undisturbed_login token now).marksIssued h
  | logout =>
    exact (kept_expire _).marksIssued ((h.abort.onExecution _).onWorkspace _)

/-- All marks that a reachable scene uses were issued. -/
theorem Reachable.marksIssued (h : s.Reachable) : s.MarksIssued := by
  obtain ⟨backend, credential, gate, files, network, moves, rfl⟩ := h
  have hstart : (start (.new backend credential gate) files network).MarksIssued :=
    ⟨(fun _ h => absurd h List.not_mem_nil), (fun _ h => nomatch h), (fun _ h => nomatch h)⟩
  generalize start (.new backend credential gate) files network = s at hstart
  induction moves generalizing s with
  | nil => exact hstart
  | cons move moves ih => exact ih _ (hstart.step move)

end BranchChat.Scene
