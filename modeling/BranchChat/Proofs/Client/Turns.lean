import BranchChat.Proofs.Client.Steady

/-!
# Turns and steady scenes

While a turn gets its connection the scene need not be steady: the latest mark may be that of a
connection which is not made. In this time a turn is under way, so that a failure ends the turn and
cancels that mark with all others.

## Main definitions

- `Scene.MidTurn`: a turn is under way, and only the latest mark may be in use
- `Scene.Attached`: the turn has got its connection

## Main statements

- `MidTurn.noteFailure`: a failure leads to a steady scene
- `MidTurn.attach_eq_error`, `MidTurn.attach_eq_ok`: what attaching comes to
- `Steady.send`, `Steady.resume`, `Steady.stop`, `Steady.visit`, `Steady.logout`: what the user does
  leads from steady scenes to steady scenes
-/

namespace BranchChat.Scene

open BranchChat.Execution (isUnderWay_iff)
open BranchChat.Web (ApiError)

variable {s t u : Scene} {mark : Nat}

/-! ### Failures -/

/-- In the middle of an operation that `s` began, a turn is under way in `t`, and all connections
but the latest are cancelled. -/
structure MidTurn (s t : Scene) : Prop where
  earlier : t.EarlierCancelled
  marks : t.MarksIssued
  issued : s.marks.issued ≤ t.marks.issued
  under : t.client.execution.isUnderWay = true

theorem MidTurn.kept (h : MidTurn s t) (hkept : Kept t u) : MidTurn s u where
  earlier := hkept.earlierCancelled h.earlier
  marks := hkept.marksIssued h.marks
  issued := by
    rw [hkept.marks]
    exact h.issued
  under := by
    rw [hkept.execution]
    exact h.under

theorem EarlierCancelled.silent_expire (h : s.EarlierCancelled) : s.abort.expire.Silent :=
  (kept_expire _).silent h.silent_abort

/-- A failure ends the turn, and all connections are cancelled then. -/
theorem MidTurn.noteFailure (h : MidTurn s t) (e : ApiError) :
    s.LeadsTo (t.noteFailure e) ∧ (t.noteFailure e).client.live = none := by
  have hexpired : (t.afterExpiry e).EarlierCancelled ∧
      (t.afterExpiry e).marks.issued = t.marks.issued := by
    unfold afterExpiry
    split
    · exact ⟨h.earlier.silent_expire.earlierCancelled, issued_abort t⟩
    · exact ⟨h.earlier, rfl⟩
  obtain ⟨hearlier, hissued⟩ := hexpired
  have hfailed := t.execution_noteFailure e
  rw [if_pos h.under] at hfailed
  have hafter : (t.noteFailure e).Silent ∧ (t.noteFailure e).marks.issued = t.marks.issued := by
    rw [noteFailure_eq, if_pos h.under, ← hissued]
    exact ⟨hearlier.silent_abort.onExecution _, issued_abort _⟩
  obtain ⟨hsilent, hsame⟩ := hafter
  refine ⟨hsilent.leadsTo_of_over ?_ (.inl ?_) ?_, hsilent.live⟩
  · rw [hsame]
    exact h.issued
  · rw [hfailed]
    rfl
  · rw [hfailed]
    rfl

/-- Where no turn is under way a failure ends at most the session. -/
theorem Steady.noteFailure (h : s.Steady) (marks : s.MarksIssued) (e : ApiError) :
    s.LeadsTo (s.noteFailure e) := by
  by_cases under : s.client.execution.isUnderWay = true
  · exact (MidTurn.noteFailure ⟨h.earlierCancelled, marks, Nat.le_refl _, under⟩ e).1
  · have hphase : s.client.execution.phase ≠ .streaming :=
      fun hstreaming => under (isUnderWay_iff.mpr (.inl hstreaming))
    have hfailed := s.execution_noteFailure e
    rw [if_neg under] at hfailed
    have hcases : s.noteFailure e = s ∨ s.noteFailure e = s.abort.expire := by
      rw [noteFailure_eq, if_neg under, afterExpiry]
      split
      · exact .inr rfl
      · exact .inl rfl
    rcases hcases with hsame | hexpired
    · rw [hsame]
      exact h.leadsTo_self
    · rw [hexpired] at hfailed ⊢
      refine h.earlierCancelled.silent_expire.leadsTo ?_ ?_ ?_
      · exact Nat.le_of_eq (issued_abort s).symm
      · rw [hfailed]
        exact hphase
      · rw [hfailed]
        exact h.question

/-! ### New connections -/

/-- The connection with this mark is live, it is the latest one, and all others are cancelled. -/
structure Attached (s : Scene) (mark : Nat) : Prop where
  live : ∃ body, s.client.live = some ⟨mark, .opened body⟩
  latest : s.client.mark = some mark
  issued : s.marks.issued = mark + 1
  fresh : s.isCancelled mark = false
  earlier : ∀ other < mark, s.isCancelled other = true

theorem Attached.leadsTo (h : t.Attached mark) (issued : s.marks.issued ≤ mark)
    (phase : t.client.execution.phase = .streaming)
    (question : t.client.execution.question = none) : s.LeadsTo t := by
  obtain ⟨body, hlive⟩ := h.live
  have hmark : t.liveMark? = some mark := by rw [liveMark?, hlive]; rfl
  refine ⟨⟨?_, ?_, fun _ => by rw [hlive]; rfl, .of_none question, ?_⟩, ?_, ?_⟩
  · intro live hmem
    obtain rfl := Option.some.inj (hlive.symm.trans hmem)
    exact ⟨isUnderWay_iff.mpr (.inl phase), h.latest, h.fresh⟩
  · intro live hmem
    obtain rfl := Option.some.inj (hlive.symm.trans hmem)
    exact ⟨_, _, rfl⟩
  · intro other hlt
    rw [h.issued] at hlt
    rcases Nat.lt_succ_iff_lt_or_eq.mp hlt with hearlier | rfl
    · exact .inr (h.earlier other hearlier)
    · exact .inl hmark
  · rw [h.issued]
    exact Nat.le_succ_of_le issued
  · intro other hsome
    rw [hmark] at hsome
    obtain rfl := Option.some.inj hsome
    exact .inr issued

/-- The next mark is that of a connection which is not made yet. -/
theorem Silent.issue (h : s.Silent) :
    EarlierCancelled
      { s with marks.issued := s.marks.issued + 1, client.mark := some s.marks.issued } := by
  intro mark hlt
  rcases Nat.lt_succ_iff_lt_or_eq.mp hlt with hearlier | rfl
  · exact .inr (h.cancelled mark hearlier)
  · exact .inl rfl

theorem MidTurn.attach_eq_error {reference : String} {e : ApiError} (h : MidTurn s t)
    (hattach : t.attach reference = (u, .error e)) : MidTurn s u := by
  have hunder : t.abort.client.execution.isUnderWay = true := by
    rw [abort_execution]
    exact h.under
  have hissued : s.marks.issued ≤ t.abort.marks.issued := by
    rw [issued_abort]
    exact h.issued
  have hsilent := h.earlier.silent_abort
  unfold attach at hattach
  dsimp only at hattach
  split at hattach
  · obtain ⟨rfl, -⟩ := Prod.mk.inj hattach
    exact ⟨hsilent.earlierCancelled, h.marks.abort, hissued, hunder⟩
  · split at hattach
    · next v e' hopen =>
      obtain ⟨rfl, -⟩ := Prod.mk.inj hattach
      have hissue : MidTurn s { t.abort with
          marks.issued := t.abort.marks.issued + 1
          client.mark := some t.abort.marks.issued } :=
        ⟨hsilent.issue, h.marks.abort.issue, Nat.le_succ_of_le hissued, hunder⟩
      exact hissue.kept (kept_of_openEvents hopen)
    · cases (Prod.mk.inj hattach).2

theorem MidTurn.attach_eq_ok {reference : String} (h : MidTurn s t)
    (hattach : t.attach reference = (u, .ok ())) :
    u.Attached t.marks.issued ∧ u.client.execution = t.client.execution := by
  obtain ⟨-, -, -, -, -, hexecution⟩ := Scene.attach_eq_ok hattach h.marks
  refine ⟨?_, hexecution⟩
  have hsilent := h.earlier.silent_abort
  have hissued : t.abort.marks.issued = t.marks.issued := issued_abort t
  unfold attach at hattach
  dsimp only at hattach
  split at hattach
  · cases (Prod.mk.inj hattach).2
  · split at hattach
    · cases (Prod.mk.inj hattach).2
    · next v connection hopen =>
      obtain ⟨rfl, -⟩ := Prod.mk.inj hattach
      have hfresh := h.marks.abort.isCancelled_issued
      have hkept := kept_of_openEvents hopen
      obtain ⟨-, body, -, rfl, -⟩ := openEvents_eq_ok hopen hfresh
      -- Opening cancels nothing.
      have hcancelled (mark : Nat) : v.isCancelled mark = t.abort.isCancelled mark := by
        rw [isCancelled, hkept.marks]
        rfl
      rw [← hissued]
      refine ⟨⟨body, rfl⟩, hkept.mark, congrArg Client.Marks.issued hkept.marks, ?_, ?_⟩
      · exact (hcancelled _).trans hfresh
      · exact fun mark hlt => (hcancelled mark).trans (hsilent.cancelled mark hlt)

/-! ### What the user does -/

theorem Steady.send (h : s.Steady) (marks : s.MarksIssued) (content : String)
    (parent : Option String) : s.LeadsTo (s.send content parent).1 := by
  unfold Scene.send
  dsimp only
  -- The turn has begun, and whatever was there before is cancelled.
  generalize hbegun : s.abort.onExecution _ = begun
  have hbegin : MidTurn s begun := by
    rw [← hbegun]
    exact ⟨h.silent_abort.earlierCancelled, marks.abort.onExecution _,
      Nat.le_of_eq (issued_abort s).symm, rfl⟩
  have hcourse : begun.client.execution.phase = .streaming ∧
      begun.client.execution.question = none := by
    rw [← hbegun]
    exact ⟨rfl, rfl⟩
  split
  · next t e hcall => exact ((hbegin.kept (kept_of_call hcall)).noteFailure e).1
  · next t turn hcall =>
    have hkept := kept_of_call hcall
    have ht := hbegin.kept hkept
    have hlearned (context : Execution.Context) : MidTurn s (t.onExecution (·.learn context)) :=
      ⟨ht.earlier, ht.marks.onExecution _, ht.issued, ht.under⟩
    split
    · next u e hattach => exact (((hlearned _).attach_eq_error hattach).noteFailure e).1
    · next u hattach =>
      obtain ⟨hattached, hexecution⟩ := (hlearned _).attach_eq_ok hattach
      refine hattached.leadsTo ht.issued ?_ ?_
      · rw [hexecution]
        show t.client.execution.phase = .streaming
        rw [hkept.execution]
        exact hcourse.1
      · rw [hexecution]
        show t.client.execution.question = none
        rw [hkept.execution]
        exact hcourse.2

theorem Steady.resume (h : s.Steady) (marks : s.MarksIssued) (approved : Bool) :
    s.LeadsTo (s.resume approved).1 := by
  unfold Scene.resume
  split
  · exact h.leadsTo_self
  · next hphase =>
    rw [Decidable.not_not] at hphase
    have hpaused : MidTurn s s :=
      ⟨h.earlierCancelled, marks, Nat.le_refl _, isUnderWay_iff.mpr (.inr hphase)⟩
    split
    · exact (hpaused.noteFailure _).1
    · dsimp only
      split
      · next t e hcall => exact ((hpaused.kept (kept_of_call hcall)).noteFailure e).1
      · next t turn hcall =>
        have hkept := kept_of_call hcall
        have ht := hpaused.kept hkept
        split
        · next u e hattach => exact ((ht.attach_eq_error hattach).noteFailure e).1
        · next u hattach =>
          obtain ⟨hattached, hexecution⟩ := ht.attach_eq_ok hattach
          have hwaits : u.client.execution.phase = .awaitingDecision := by
            rw [hexecution, hkept.execution]
            exact hphase
          have hgoing : (u.onExecution (·.dropQuestion.proceed)).Attached t.marks.issued :=
            ⟨hattached.live, hattached.latest, hattached.issued, hattached.fresh,
              hattached.earlier⟩
          exact hgoing.leadsTo ht.issued (Execution.phase_proceed hwaits)
            (Execution.question_proceed _)

theorem Steady.stop (h : s.Steady) (now : Nat) : s.LeadsTo (s.stop now) := by
  have hsilent : (s.stop now).Silent := h.silent_abort.onExecution _
  have hexecution : (s.stop now).client.execution = s.client.execution.stop now := by
    show s.abort.client.execution.stop now = _
    rw [abort_execution]
  refine hsilent.leadsTo (Nat.le_of_eq (issued_abort s).symm) ?_ ?_
  · rw [hexecution]
    exact Execution.phase_stop_ne_streaming _ now
  · rw [hexecution]
    exact h.question.stop now

theorem Steady.visit (h : s.Steady) (marks : s.MarksIssued) (id : String) :
    s.LeadsTo (s.visit id).1 := by
  have htake := undisturbed_takeOver s id
  have htaken := htake.leadsTo h
  unfold Scene.visit
  split
  · next t e heq =>
    rw [heq] at htake htaken
    exact htaken.trans (htaken.steady.noteFailure (htake.marksIssued marks) e)
  · next t heq =>
    rw [heq] at htaken
    exact htaken

theorem Steady.logout (h : s.Steady) : s.LeadsTo s.logout := by
  have hsilent : s.logout.Silent := ⟨h.silent_abort.live, h.silent_abort.cancelled⟩
  exact hsilent.leadsTo_of_over (Nat.le_of_eq (issued_abort s).symm) (.inr rfl) rfl

end BranchChat.Scene
