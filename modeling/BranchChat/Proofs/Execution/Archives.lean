import BranchChat.Proofs.Entries
import BranchChat.Proofs.Execution.Questions
import BranchChat.Proofs.Execution.Work
import Mathlib.Tactic.ByContra

/-!
# The archive of completed turns

The archive has one entry for a message. Only the event that completes a turn writes one, and only
forgetting everything removes one. So an entry tells what the agents did in a turn that was
completed under its message, as it was when held text was shown, and it stays until a turn is
completed under the same message. Turns that were stopped or have failed leave nothing there.

## Main definitions

- `Archives`: an event puts the activations of its turn into the archive
- `Archived`: what a move makes of the archive
- `Spares`: no move of a run touches the entry of a message

## Main statements

- `archived_step`: every move comes to one of three things
- `archived?_run_eq_some_iff`: where the entries come from
- `archive_run_of_isUnderWay`: a turn that is under way has not been archived
- `entries_run`: all of this after a run from the beginning
-/

namespace BranchChat.Execution

open BranchChat.Stream (TurnEvent WireEvent)

variable {x : Execution} {moment : Moment} {move : Move} {moves : List (Moment × Move)}
  {e : WireEvent} {message other : String} {kept : List Activation} {now : Nat}

/-! ### Entries -/

namespace Archive

/-- An entry takes the place of an older one for its message, and of no other. -/
theorem lookup_put (archive : Archive) (message other : String) (kept : List Activation) :
    (archive.put message kept).lookup other =
      if other = message then some kept else archive.lookup other :=
  Entries.lookup_put archive message other kept

/-- No message has two entries after a new one if none has before. -/
theorem nodup_put {archive : Archive} (h : (archive.map Prod.fst).Nodup) (message : String)
    (kept : List Activation) : ((archive.put message kept).map Prod.fst).Nodup := by
  simp only [put, List.map_cons, List.nodup_cons]
  constructor
  · simp
  · exact (List.filter_sublist.map Prod.fst).nodup h

theorem keep_none (archive : Archive) (activations : List Activation) :
    archive.keep activations none = archive := by
  unfold keep
  cases activations.filter Activation.isNoteworthy <;> rfl

theorem keep_of_filter_eq_nil {activations : List Activation}
    (h : activations.filter Activation.isNoteworthy = []) (archive : Archive)
    (message : Option String) : archive.keep activations message = archive := by
  simp only [keep, h]

theorem keep_some {activations : List Activation}
    (h : activations.filter Activation.isNoteworthy ≠ []) (archive : Archive) (message : String) :
    archive.keep activations (some message) =
      archive.put message (activations.filter Activation.isNoteworthy) := by
  unfold keep
  cases hkept : activations.filter Activation.isNoteworthy with
  | nil => exact absurd hkept h
  | cons a kept => rfl

end Archive

/-! ### What is worth a look -/

/-- Showing held text changes an answer, and so nothing that is worth a look later. -/
theorem map_isNoteworthy_shown (x : Execution) :
    x.shown.map Activation.isNoteworthy = x.activations.map Activation.isNoteworthy := by
  unfold shown
  split
  · rcases List.eq_nil_or_concat x.activations with hnil | ⟨older, newest, hconcat⟩
    · rw [hnil]
      rfl
    · simp [hconcat, onLast_concat, Activation.isNoteworthy]
  · rfl

theorem filter_shown_ne_nil_iff (x : Execution) :
    x.shown.filter Activation.isNoteworthy ≠ [] ↔
      ∃ a ∈ x.activations, a.isNoteworthy = true := by
  have hmem (l : List Activation) :
      (∃ a ∈ l, a.isNoteworthy = true) ↔ true ∈ l.map Activation.isNoteworthy := by
    simp only [List.mem_map]
  rw [hmem, ← map_isNoteworthy_shown, ← hmem, Ne, List.filter_eq_nil_iff]
  push Not
  rfl

/-- Receiving an event puts these activations into the archive under this message: the event
completes a turn that is under way, and there is something worth a look. The message is the one that
the event names, or else that of the turn. -/
structure Archives (x : Execution) (now : Nat) (e : WireEvent) (message : String)
    (kept : List Activation) : Prop where
  under : x.isUnderWay = true
  completes : e.kind = "complete"
  named : (e.data.textAt? "message_id" <|> x.context.message) = some message
  noteworthy : ∃ a ∈ x.activations, a.isNoteworthy = true
  kept_eq : kept = (x.withHeldShown now).activations.filter Activation.isNoteworthy

/-! ### Moves -/

theorem archive_settle (x : Execution) (released : FrameGate × Option String) :
    (x.settle released).1.archive = x.archive := by
  rw [settle_eq]

/-- Of all events only a completion touches the archive. -/
theorem archive_absorb (x : Execution) (moment : Moment) {t : TurnEvent}
    (h : ∀ message, t ≠ .completed message) : (x.absorb moment t).1.archive = x.archive := by
  cases t with
  | completed message => exact absurd rfl (h message)
  | agentStarted agent => exact x.archive_settle _
  | agentFinished agent => exact x.archive_settle _
  | permissionAsked tool params thread message => exact x.archive_settle _
  | answer text =>
    simp only [absorb]
    split
    · rfl
    · exact archive_settle _ _
  | identifiers conversation message thread => rfl
  | reasoning text => rfl
  | silence => rfl
  | wholeAnswer text => rfl
  | toolStarted tool agent params => rfl
  | toolFinished tool success result duration => rfl
  | permissionSettled approved => rfl
  | failed reason => rfl
  | unknown kind => rfl

theorem archive_receive_of_kind_ne (x : Execution) (moment : Moment) (h : e.kind ≠ "complete") :
    (x.receive e moment).1.archive = x.archive := by
  unfold receive
  split
  · refine x.archive_absorb moment fun message hmeaning => h ?_
    exact (WireEvent.meaning_eq_completed_iff.mp hmeaning).1
  · rfl

/-- A completion keeps what is to be seen once held text is shown. -/
theorem archive_receive_of_completed (under : x.isUnderWay = true) (moment : Moment)
    (h : e.kind = "complete") :
    (x.receive e moment).1.archive =
      x.archive.keep x.shown (e.data.textAt? "message_id" <|> x.context.message) ∧
    (x.receive e moment).1.phase = .ended := by
  have hmeaning := WireEvent.meaning_eq_completed_iff.mpr ⟨h, rfl⟩
  rw [receive, if_pos under, hmeaning, absorb, withHeldShown_eq, keep_eq]
  exact ⟨rfl, rfl⟩

theorem Archives.archive_receive (h : x.Archives moment.now e message kept) :
    (x.receive e moment).1.archive = x.archive.put message kept := by
  have hshown : (x.withHeldShown moment.now).activations = x.shown := by rw [withHeldShown_eq]
  obtain ⟨hreceive, -⟩ := archive_receive_of_completed h.under moment h.completes
  rw [hreceive, h.named, h.kept_eq, hshown]
  exact Archive.keep_some ((filter_shown_ne_nil_iff x).mpr h.noteworthy) _ _

/-- A completion that archives nothing has nothing worth a look, or no message. -/
theorem archive_receive_of_not_archives (moment : Moment)
    (h : ∀ message kept, ¬ x.Archives moment.now e message kept) :
    (x.receive e moment).1.archive = x.archive := by
  by_cases under : x.isUnderWay = true
  · by_cases hkind : e.kind = "complete"
    · obtain ⟨hreceive, -⟩ := archive_receive_of_completed under moment hkind
      rw [hreceive]
      cases hnamed : (e.data.textAt? "message_id" <|> x.context.message) with
      | none => exact Archive.keep_none _ _
      | some message =>
        refine Archive.keep_of_filter_eq_nil ?_ _ _
        by_contra hne
        exact h message _ ⟨under, hkind, hnamed, (filter_shown_ne_nil_iff x).mp hne, rfl⟩
    · exact x.archive_receive_of_kind_ne moment hkind
  · rw [receive, if_neg under]

/-- What a move makes of the archive. -/
inductive Archived (x : Execution) (moment : Moment) : Move → Archive → Prop
  /-- Nothing is archived, and nothing forgotten. -/
  | same {move : Move} (unwiped : move ≠ .wipe)
      (unarchived : ∀ e message kept, move = .receive e →
        ¬ x.Archives moment.now e message kept) : Archived x moment move x.archive
  | emptied : Archived x moment .wipe []
  | put {e : WireEvent} {message : String} {kept : List Activation}
      (archives : x.Archives moment.now e message kept) :
      Archived x moment (.receive e) (x.archive.put message kept)

/-- Of all moves only wiping and an event can touch the archive. -/
theorem Archived.of_other (wipe : move ≠ .wipe) (receive : ∀ e, move ≠ .receive e) :
    x.Archived moment move x.archive :=
  .same wipe fun e _ _ h => absurd h (receive e)

theorem archived_step (x : Execution) (moment : Moment) (move : Move) :
    x.Archived moment move (x.step moment move).1.archive := by
  cases move with
  | receive e =>
    by_cases h : ∃ message kept, x.Archives moment.now e message kept
    · obtain ⟨message, kept, harchives⟩ := h
      show x.Archived moment (.receive e) (x.receive e moment).1.archive
      rw [harchives.archive_receive]
      exact .put harchives
    · push Not at h
      show x.Archived moment (.receive e) (x.receive e moment).1.archive
      rw [archive_receive_of_not_archives moment h]
      refine .same (by simp) fun e' message kept he => ?_
      obtain rfl := Move.receive.inj he
      exact h message kept
  | wipe => exact .emptied
  | showDue =>
    show x.Archived moment .showDue (x.showDue moment.now).1.archive
    rw [showDue, archive_settle]
    exact .of_other (by simp) (by simp)
  | showHeld =>
    show x.Archived moment .showHeld (x.showHeld moment.now).1.archive
    rw [showHeld, archive_settle]
    exact .of_other (by simp) (by simp)
  | stop =>
    simp only [step, stop, withHeldShown_eq]
    split <;> exact .of_other (by simp) (by simp)
  | proceed =>
    simp only [step, proceed]
    split <;> exact .of_other (by simp) (by simp)
  | begin context draft => exact .of_other (by simp) (by simp)
  | learn context => exact .of_other (by simp) (by simp)
  | fail reason => exact .of_other (by simp) (by simp)
  | clear => exact .of_other (by simp) (by simp)
  | dropQuestion => exact .of_other (by simp) (by simp)

/-- Whatever is done, no message gets two entries. -/
theorem nodup_archive_step (x : Execution) (moment : Moment) (move : Move)
    (h : (x.archive.map Prod.fst).Nodup) :
    ((x.step moment move).1.archive.map Prod.fst).Nodup := by
  have harchived := x.archived_step moment move
  generalize (x.step moment move).1.archive = archive at harchived
  cases harchived with
  | same => exact h
  | emptied => exact List.nodup_nil
  | put archives => exact Archive.nodup_put h _ _

/-! ### The entry of a message -/

/-- A move touches the entry of a message: it forgets everything, or it archives a turn under the
message. -/
def Touches (x : Execution) (moment : Moment) (message : String) (move : Move) : Prop :=
  move = .wipe ∨ ∃ e kept, move = .receive e ∧ x.Archives moment.now e message kept

theorem archived?_step_of_not_touches (h : ¬ x.Touches moment message move) :
    (x.step moment move).1.archived? message = x.archived? message := by
  have harchived := x.archived_step moment move
  unfold archived?
  generalize (x.step moment move).1.archive = archive at harchived
  cases harchived with
  | same => rfl
  | emptied => exact absurd (.inl rfl) h
  | @put e under kept archives =>
    have hother : message ≠ under := by
      rintro rfl
      exact h (.inr ⟨e, kept, rfl, archives⟩)
    rw [Archive.lookup_put, if_neg hother]

theorem Archives.archived?_step (h : x.Archives moment.now e message kept) :
    (x.step moment (.receive e)).1.archived? message = some kept := by
  show (x.receive e moment).1.archive.lookup message = some kept
  rw [h.archive_receive, Archive.lookup_put, if_pos rfl]

/-- What a message is archived with when its entry is touched, and there is one afterwards. -/
theorem eq_receive_of_touches (h : x.Touches moment message move)
    (hkept : (x.step moment move).1.archived? message = some kept) :
    ∃ e, move = .receive e ∧ x.Archives moment.now e message kept := by
  rcases h with rfl | ⟨e, kept', rfl, harchives⟩
  · cases hkept
  · rw [harchives.archived?_step] at hkept
    obtain rfl := Option.some.inj hkept
    exact ⟨e, rfl, harchives⟩

/-- No move of a run touches the entry of a message. -/
def Spares (x : Execution) (message : String) : List (Moment × Move) → Prop
  | [] => True
  | (moment, move) :: moves =>
    ¬ x.Touches moment message move ∧ (x.step moment move).1.Spares message moves

theorem archived?_run_of_spares (h : x.Spares message moves) :
    (x.run moves).1.archived? message = x.archived? message := by
  induction moves generalizing x with
  | nil => rfl
  | cons m moves ih =>
    obtain ⟨hfirst, hrest⟩ := h
    exact (ih hrest).trans (archived?_step_of_not_touches hfirst)

/-- An entry was there before and no move has touched it, or else it is what the last move that has
touched it has archived. -/
theorem archived?_run_eq_some_iff (x : Execution) :
    (x.run moves).1.archived? message = some kept ↔
      (x.Spares message moves ∧ x.archived? message = some kept) ∨
      ∃ before moment e after, moves = before ++ (moment, .receive e) :: after ∧
        (x.run before).1.Archives moment.now e message kept ∧
        ((x.run before).1.step moment (.receive e)).1.Spares message after := by
  constructor
  · intro h
    induction moves generalizing x with
    | nil => exact .inl ⟨trivial, h⟩
    | cons m moves ih =>
      obtain ⟨moment, move⟩ := m
      rcases ih _ h with ⟨hspares, hkept⟩ | ⟨before, moment', e, after, rfl, hlater⟩
      · by_cases htouches : x.Touches moment message move
        · obtain ⟨e, rfl, harchives⟩ := eq_receive_of_touches htouches hkept
          exact .inr ⟨[], moment, e, moves, rfl, harchives, hspares⟩
        · rw [archived?_step_of_not_touches htouches] at hkept
          exact .inl ⟨⟨htouches, hspares⟩, hkept⟩
      · exact .inr ⟨(moment, move) :: before, moment', e, after, rfl, hlater⟩
  · rintro (⟨hspares, hkept⟩ | ⟨before, moment, e, after, rfl, harchives, hspares⟩)
    · rw [archived?_run_of_spares hspares, hkept]
    · rw [run_append]
      exact (archived?_run_of_spares hspares).trans harchives.archived?_step

/-! ### Turns without an entry -/

/-- A turn that is not under way stays so until a new one begins. -/
theorem isUnderWay_of_isUnderWay_step (within : move.isWithinTurn = true)
    (h : (x.step moment move).1.isUnderWay = true) : x.isUnderWay = true := by
  cases move with
  | begin context draft => cases within
  | clear => cases within
  | wipe => cases within
  | fail reason => cases h
  | receive e =>
    by_contra hover
    simp only [step, receive, if_neg hover] at h
    exact hover h
  | stop =>
    by_contra hover
    simp only [step, stop, if_neg hover] at h
    exact hover h
  | showDue =>
    obtain ⟨hphase, -⟩ := x.settle_course (x.gate.releaseDue? moment.now)
    exact (isUnderWay_congr hphase).symm.trans h
  | showHeld =>
    obtain ⟨hphase, -⟩ := x.settle_course (x.gate.release? moment.now)
    exact (isUnderWay_congr hphase).symm.trans h
  | proceed =>
    by_cases hphase : x.phase = .awaitingDecision
    · exact isUnderWay_iff.mpr (.inr hphase)
    · simp only [step, proceed, if_neg hphase] at h
      exact h
  | learn context => exact h
  | dropQuestion => exact h

/-- Within a turn the archive is touched only by the move that ends the turn. -/
theorem archive_step_within (within : move.isWithinTurn = true)
    (h : x.isUnderWay = false ∨ (x.step moment move).1.isUnderWay = true) :
    (x.step moment move).1.archive = x.archive := by
  have harchived := x.archived_step moment move
  generalize hafter : (x.step moment move).1.archive = archive at harchived
  cases harchived with
  | same => rfl
  | emptied => cases within
  | @put e message kept archives =>
    exfalso
    rcases h with hover | hunder
    · rw [archives.under] at hover
      cases hover
    · obtain ⟨-, hended⟩ := archive_receive_of_completed archives.under moment archives.completes
      have hnot : (x.step moment (.receive e)).1.isUnderWay = false := by
        simp [step, isUnderWay, hended]
      rw [hnot] at hunder
      cases hunder

/-- As long as a turn is under way nothing of it is archived. -/
theorem archive_run_of_isUnderWay (within : ∀ m ∈ moves, m.2.isWithinTurn = true)
    (h : (x.run moves).1.isUnderWay = true) :
    (x.run moves).1.archive = x.archive ∧ x.isUnderWay = true := by
  induction moves generalizing x with
  | nil => exact ⟨rfl, h⟩
  | cons m moves ih =>
    obtain ⟨hfirst, hrest⟩ := List.forall_mem_cons.mp within
    obtain ⟨harchive, hunder⟩ := ih hrest h
    exact ⟨harchive.trans (archive_step_within hfirst (.inr hunder)),
      isUnderWay_of_isUnderWay_step hfirst hunder⟩

/-- Once a turn is over nothing of it is archived any more. -/
theorem archive_run_of_over (within : ∀ m ∈ moves, m.2.isWithinTurn = true)
    (h : x.isUnderWay = false) : (x.run moves).1.archive = x.archive := by
  induction moves generalizing x with
  | nil => rfl
  | cons m moves ih =>
    obtain ⟨hfirst, hrest⟩ := List.forall_mem_cons.mp within
    have hover : (x.step m.1 m.2).1.isUnderWay = false := by
      rw [← Bool.not_eq_true]
      intro hunder
      rw [isUnderWay_of_isUnderWay_step hfirst hunder] at h
      cases h
    exact (ih hrest hover).trans (archive_step_within hfirst (.inl h))

/-- A stop and a failure end a turn that is under way, and archive nothing. -/
theorem step_of_broken (under : x.isUnderWay = true) (h : move = .stop ∨ x.Failing move)
    (moment : Moment) :
    (x.step moment move).1.isUnderWay = false ∧ (x.step moment move).1.archive = x.archive := by
  rcases h with rfl | hfailing
  · have hphase := phase_stop under moment.now
    refine ⟨by simp [step, isUnderWay, hphase], ?_⟩
    simp only [step, stop, if_pos under, withHeldShown_eq]
  · cases move with
    | fail reason => exact ⟨rfl, rfl⟩
    | receive e =>
      have hmeaning := WireEvent.meaning_eq_failed_iff.mpr ⟨hfailing.2, rfl⟩
      simp only [step, receive, if_pos under, hmeaning, absorb]
      exact ⟨rfl, rfl⟩
    | _ => cases hfailing

/-- A turn that is stopped, or fails, while it is under way leaves the archive as it was when the
turn began. -/
theorem archive_of_broken_turn (x : Execution) (moment : Moment) (context : Context)
    (draft : String) {within after : List (Moment × Move)} {ending : Moment × Move}
    (hwithin : ∀ m ∈ within, m.2.isWithinTurn = true)
    (hafter : ∀ m ∈ after, m.2.isWithinTurn = true)
    (under : (x.run ((moment, .begin context draft) :: within)).1.isUnderWay = true)
    (broken : ending.2 = .stop ∨
      (x.run ((moment, .begin context draft) :: within)).1.Failing ending.2) :
    (x.run ((moment, .begin context draft) :: within ++ ending :: after)).1.archive =
      x.archive := by
  obtain ⟨hturn, -⟩ := archive_run_of_isUnderWay hwithin under
  obtain ⟨hover, hending⟩ := step_of_broken under broken ending.1
  rw [run_append]
  calc (((x.run ((moment, .begin context draft) :: within)).1.step ending.1 ending.2).1.run
        after).1.archive
    _ = ((x.run ((moment, .begin context draft) :: within)).1.step ending.1 ending.2).1.archive :=
      archive_run_of_over hafter hover
    _ = (x.run ((moment, .begin context draft) :: within)).1.archive := hending
    _ = x.archive := hturn

/-! ### From the beginning -/

/-- The archive after a run with frames of any length. No message has two entries. A move changes
the archive only if it forgets everything, which empties it, or if it is an event that completes a
turn under way. Such an event puts the activations that are worth a look, in order and as they are
once held text is shown, into the entry of the message that it names, or else of that of the turn,
and leaves all other entries alone; if there are none, or no message, nothing changes. So an entry
is there exactly if a turn was completed with it and no later move has touched it, and it stays as
long as none does. A turn that is stopped, or fails, while it is under way leaves the archive as it
was when the turn began. -/
theorem entries_run (gate : FrameGate) (moves : List (Moment × Move)) :
    let x := ((new gate).run moves).1
    (x.archive.map Prod.fst).Nodup ∧
    (∀ moment move, (x.step moment move).1.archive ≠ x.archive →
      move = .wipe ∨ ∃ e, move = .receive e ∧ x.isUnderWay = true ∧ e.kind = "complete") ∧
    (∀ moment, (x.step moment .wipe).1.archive = []) ∧
    (∀ moment e, x.isUnderWay = true → e.kind = "complete" →
      let y := (x.step moment (.receive e)).1
      let named := e.data.textAt? "message_id" <|> x.context.message
      let kept := (x.withHeldShown moment.now).activations.filter Activation.isNoteworthy
      (∀ message, (∃ a ∈ x.activations, a.isNoteworthy = true) → named = some message →
        ∀ other, y.archived? other = if other = message then some kept else x.archived? other) ∧
      ((∀ a ∈ x.activations, a.isNoteworthy = false) ∨ named = none → y.archive = x.archive)) ∧
    (∀ message kept, x.archived? message = some kept ↔
      ∃ before moment e after, moves = before ++ (moment, .receive e) :: after ∧
        ((new gate).run before).1.Archives moment.now e message kept ∧
        (((new gate).run before).1.step moment (.receive e)).1.Spares message after) ∧
    (∀ later message, x.Spares message later →
      (x.run later).1.archived? message = x.archived? message) ∧
    ∀ moment context draft within ending after,
      (∀ m ∈ within, m.2.isWithinTurn = true) → (∀ m ∈ after, m.2.isWithinTurn = true) →
      (x.run ((moment, .begin context draft) :: within)).1.isUnderWay = true →
      (ending.2 = .stop ∨
        (x.run ((moment, .begin context draft) :: within)).1.Failing ending.2) →
      (x.run ((moment, .begin context draft) :: within ++ ending :: after)).1.archive =
        x.archive := by
  intro x
  have hempty : ((new gate).archive.map Prod.fst).Nodup := List.nodup_nil
  have hnodup : (x.archive.map Prod.fst).Nodup :=
    holds_run (P := fun x => (x.archive.map Prod.fst).Nodup) nodup_archive_step hempty moves
  refine ⟨hnodup, ?_, fun moment => rfl, ?_, ?_, fun later message => archived?_run_of_spares, ?_⟩
  · intro moment move hchanged
    have harchived := x.archived_step moment move
    generalize (x.step moment move).1.archive = archive at hchanged harchived
    cases harchived with
    | same => exact absurd rfl hchanged
    | emptied => exact .inl rfl
    | put archives => exact .inr ⟨_, rfl, archives.under, archives.completes⟩
  · intro moment e under completes y named kept
    constructor
    · intro message noteworthy hnamed other
      have harchives : x.Archives moment.now e message kept :=
        ⟨under, completes, hnamed, noteworthy, rfl⟩
      show (x.receive e moment).1.archive.lookup other = _
      rw [harchives.archive_receive]
      exact Archive.lookup_put _ _ _ _
    · intro hnothing
      refine archive_receive_of_not_archives moment fun message kept harchives => ?_
      rcases hnothing with hplain | hnone
      · obtain ⟨a, ha, hnoteworthy⟩ := harchives.noteworthy
        rw [hplain a ha] at hnoteworthy
        cases hnoteworthy
      · have hnamed : named = some message := harchives.named
        rw [hnone] at hnamed
        cases hnamed
  · intro message kept
    rw [archived?_run_eq_some_iff]
    -- There is no entry at the beginning.
    exact or_iff_right fun hbefore => nomatch hbefore.2
  · intro moment context draft within ending after
    exact x.archive_of_broken_turn moment context draft

/-- A turn in which an agent thinks and then answers, the last text of which is held back. -/
def thoughtfulTurn (agent : String) : List (Moment × Move) :=
  let chunk (key text : String) : Move :=
    .receive ⟨"llm_chunk", none, none, none, .object [(key, .string text)]⟩
  [(⟨0, 0, 0⟩, .begin .none "q"),
    (⟨1, 0, 1⟩, .receive ⟨"agent_start", none, some agent, none, .null⟩),
    (⟨2, 0, 2⟩, chunk "reasoning" "Hm"), (⟨3, 0, 3⟩, chunk "content" "S"),
    (⟨5, 0, 4⟩, chunk "content" "Sum")]

theorem entries_run_thoughtfulTurn :
    let x := ((new (.fresh 16)).run (thoughtfulTurn "A")).1
    let done : WireEvent := ⟨"complete", none, none, none, .object [("message_id", .string "m")]⟩
    let y := (x.step ⟨6, 0, 5⟩ (.receive done)).1
    x.gate.held = some "Sum" ∧
      (y.archived? "m").map (·.map (·.answer)) = some ["Sum"] ∧ y.archived? "n" = none ∧
      (y.run (thoughtfulTurn "B" ++ [(⟨9, 0, 6⟩, .stop), (⟨10, 0, 7⟩, .receive done)])).1.archive =
        y.archive := by
  intro x done y
  obtain ⟨-, -, -, hcompletes, -⟩ := entries_run (.fresh 16) (thoughtfulTurn "A")
  obtain ⟨hput, -⟩ := hcompletes ⟨6, 0, 5⟩ done (by decide) rfl
  have hentry := hput "m" (by decide) rfl
  obtain ⟨-, -, -, -, -, -, hbroken⟩ :=
    entries_run (.fresh 16) (thoughtfulTurn "A" ++ [(⟨6, 0, 5⟩, .receive done)])
  have hy : ((new (.fresh 16)).run (thoughtfulTurn "A" ++ [(⟨6, 0, 5⟩, .receive done)])).1 = y :=
    run_append _ _ _
  rw [hy] at hbroken
  refine ⟨by decide, ?_, ?_, ?_⟩
  · rw [hentry "m"]
    decide
  · rw [hentry "n"]
    decide
  · exact hbroken ⟨0, 0, 0⟩ .none "q" (thoughtfulTurn "B").tail (⟨9, 0, 6⟩, .stop)
      [(⟨10, 0, 7⟩, .receive done)] (by decide) (by decide) (by decide) (.inl rfl)

end BranchChat.Execution
