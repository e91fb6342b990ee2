import BranchChat.Proofs.Execution.Gates
import Mathlib.Data.List.Induction

/-!
# The law of a frame gate

Whatever is done to a gate, it lets through only the newest text, no text twice, and no text that
came within a frame of the last one unless it is told to. A text that is held is never forgotten
without being dropped, and the gate knows to the moment when it is due.

What is let through is told by places in a history: a text may be offered twice, and each of the two
offers has an end of its own.

## Main definitions

- `FrameGate.Move`, `FrameGate.run`: what is done to a gate, one move after the other
- `FrameGate.Entry`: a move and the text that it let through; a history is a list of entries
- `FrameGate.Primed`: a gate that holds a text has let one through before
- `FrameGate.Pending`: an offer that is neither let through, nor replaced, nor dropped
- `FrameGate.LetThrough`: an offer and where it was let through
- `FrameGate.Lawful`: the law

## Main statements

- `Account.concat`, `account_run`: what a gate remembers of its history
- `lawful_run`: every history of a new gate keeps the law
-/

namespace BranchChat.Execution.FrameGate

/-! ### Histories -/

/-- What can be done to a gate. -/
inductive Move where
  | offer (text : String)
  | releaseDue
  | release
  | drop
deriving DecidableEq

/-- Whether a move is neither a new offer nor the end of an old one, so that a text that is held can
still be let through by it or after it. -/
def Move.isPatient : Move → Bool
  | .offer _ | .drop => false
  | .releaseDue | .release => true

/-- Carries a move out, and gives the text that it lets through. -/
def step (g : FrameGate) (now : Nat) : Move → FrameGate × Option String
  | .offer text => g.offer text now
  | .releaseDue => g.releaseDue? now
  | .release => g.release? now
  | .drop => (g.dropHeld, none)

/-- A move of a history, when it was made, and the text that it let through. -/
structure Entry where
  now : Nat
  move : Move
  passed : Option String
deriving DecidableEq

/-- Carries moves out one after the other, and gives their history. -/
def run (g : FrameGate) : List (Nat × Move) → FrameGate × List Entry
  | [] => (g, [])
  | (now, move) :: moves =>
    let next := (g.step now move).1.run moves
    (next.1, ⟨now, move, (g.step now move).2⟩ :: next.2)

variable {g : FrameGate} {now interval i j k : Nat} {move : Move} {text : String} {e : Entry}
  {entries : List Entry} {moves : List (Nat × Move)}

theorem run_concat (g : FrameGate) (moves : List (Nat × Move)) (now : Nat) (move : Move) :
    g.run (moves ++ [(now, move)]) =
      (((g.run moves).1.step now move).1,
        (g.run moves).2 ++ [⟨now, move, ((g.run moves).1.step now move).2⟩]) := by
  induction moves generalizing g with
  | nil => rfl
  | cons m moves ih => simp only [List.cons_append, run, ih]

theorem map_now_run (g : FrameGate) (moves : List (Nat × Move)) :
    (g.run moves).2.map (·.now) = moves.map (·.1) := by
  induction moves generalizing g with
  | nil => rfl
  | cons m moves ih => simp only [run, List.map_cons, ih]

theorem now_le_of_mem_run (clock : ∀ m ∈ moves, m.1 ≤ now) (he : e ∈ (g.run moves).2) :
    e.now ≤ now := by
  have hnow : e.now ∈ moves.map (·.1) := by
    rw [← map_now_run g]
    exact List.mem_map_of_mem he
  obtain ⟨m, hm, hnow⟩ := List.mem_map.mp hnow
  exact hnow ▸ clock m hm

/-- An entry of a history is what its move gave at the gate that the moves before it had led to. -/
theorem exists_split_of_getElem?_run (h : (g.run moves).2[k]? = some e) :
    ∃ before after, moves = before ++ (e.now, e.move) :: after ∧
      (g.run before).2 = (g.run moves).2.take k ∧
      ((g.run before).1.step e.now e.move).2 = e.passed := by
  induction moves generalizing g k with
  | nil => simp [run] at h
  | cons m moves ih =>
    obtain ⟨now, move⟩ := m
    cases k with
    | zero =>
      obtain rfl := Option.some.inj h
      exact ⟨[], moves, rfl, rfl, rfl⟩
    | succ k =>
      obtain ⟨before, after, rfl, hentries, hpassed⟩ := ih h
      refine ⟨(now, move) :: before, after, rfl, ?_, hpassed⟩
      simp only [run, List.take_succ_cons, hentries]

/-! ### What a move does -/

/-- What a move does to a gate: it lets the newest text through, or it holds a new text back, or it
leaves everything as it is, or it drops what is held. -/
inductive Stepped (g : FrameGate) (now : Nat) : Move → FrameGate × Option String → Prop where
  | passed {move : Move} (text : String)
      (source : move = .offer text ∨ move.isPatient = true ∧ g.held = some text)
      (due : move = .release ∨ g.isDue now = true) :
      Stepped g now move ({ g with held := none, lastOpened := some now }, some text)
  | heldBack (text : String) (early : g.isDue now = false) :
      Stepped g now (.offer text) ({ g with held := some text }, none)
  | rested {move : Move} (patient : move.isPatient = true) : Stepped g now move (g, none)
  | dropped : Stepped g now .drop (g.dropHeld, none)

theorem stepped (g : FrameGate) (now : Nat) (move : Move) :
    g.Stepped now move (g.step now move) := by
  have hrelease (patient : move.isPatient = true) (due : move = .release ∨ g.isDue now = true) :
      g.Stepped now move (g.release? now) := by
    unfold release?
    split
    case h_1 text held => exact .passed text (.inr ⟨patient, held⟩) due
    case h_2 => exact .rested patient
  cases move with
  | offer text =>
    rw [step, offer, releaseDue?]
    split
    case isTrue due => exact .passed text (.inl rfl) (.inr due)
    case isFalse early => exact .heldBack text (Bool.eq_false_iff.mpr early)
  | releaseDue =>
    rw [step, releaseDue?]
    split
    case isTrue due => exact hrelease rfl (.inr due)
    case isFalse => exact .rested rfl
  | release => exact hrelease rfl (.inl rfl)
  | drop => exact .dropped

/-- A text is let through when it is offered or while it is held, and before its time only if the
gate is told to. -/
theorem source_of_step_eq_some (h : (g.step now move).2 = some text) :
    (move = .offer text ∨ move.isPatient = true ∧ g.held = some text) ∧
      (move = .release ∨ g.isDue now = true) := by
  have hstepped := g.stepped now move
  generalize g.step now move = result at h hstepped
  cases hstepped with
  | passed t source due =>
    obtain rfl := Option.some.inj h
    exact ⟨source, due⟩
  | heldBack => cases h
  | rested => cases h
  | dropped => cases h

theorem held_of_step_eq_some (patient : move.isPatient = true)
    (h : (g.step now move).2 = some text) : g.held = some text := by
  rcases (source_of_step_eq_some h).1 with rfl | ⟨-, held⟩
  · cases patient
  · exact held

theorem held_of_held_step (patient : move.isPatient = true)
    (h : (g.step now move).1.held.isSome = true) : g.held.isSome = true := by
  have hstepped := g.stepped now move
  generalize g.step now move = result at h hstepped
  cases hstepped with
  | passed => cases h
  | heldBack => cases patient
  | rested => exact h
  | dropped => cases patient

/-! ### Gates that have opened -/

theorem isDue_of_lastOpened_eq_none (h : g.lastOpened = none) (now : Nat) :
    g.isDue now = true := by
  rw [isDue, h]

/-- A gate that holds a text has let one through before, so that it knows when the next is due. -/
def Primed (g : FrameGate) : Prop :=
  g.held.isSome = true → g.lastOpened.isSome = true

theorem Primed.of_held_eq_none (h : g.held = none) : g.Primed := by
  intro held
  rw [h] at held
  cases held

theorem Primed.moved {g' : FrameGate} (h : g.Primed) (hm : g.Moved now g') : g'.Primed := by
  cases hm with
  | stays => exact h
  | drops => exact .of_held_eq_none rfl
  | releases => exact .of_held_eq_none (g.held_release? now)
  | releasesDue =>
    unfold releaseDue?
    split
    · exact .of_held_eq_none (g.held_release? now)
    · exact h
  | offers text =>
    rw [offer, releaseDue?]
    split
    · exact .of_held_eq_none (held_release? _ now)
    case isFalse early =>
      -- A gate that has never let a text through would have been due.
      exact fun _ => Option.isSome_iff_ne_none.mpr fun hlast =>
        early (isDue_of_lastOpened_eq_none hlast now)

theorem Primed.isSome_remaining? (h : g.Primed) (now : Nat) :
    (g.remaining? now).isSome = g.held.isSome := by
  unfold remaining?
  cases hheld : g.held with
  | none => rfl
  | some text =>
    obtain ⟨last, hlast⟩ := Option.isSome_iff_exists.mp (h (Option.isSome_of_eq_some hheld))
    rw [hlast]
    rfl

theorem moved_step (g : FrameGate) (now : Nat) (move : Move) :
    g.Moved now (g.step now move).1 := by
  cases move with
  | offer text => exact .offers text
  | releaseDue => exact .releasesDue
  | release => exact .releases
  | drop => exact .drops

theorem isDue_iff_of_lastOpened_eq_some {last : Nat} (h : g.lastOpened = some last) (now : Nat) :
    g.isDue now = true ↔ g.interval ≤ now - last := by
  rw [isDue, h]
  exact decide_eq_true_iff

/-! ### Offers that are pending -/

/-- The text offered at place `i` of a history is neither let through, nor replaced, nor dropped by
the end of the history. -/
structure Pending (entries : List Entry) (i : Nat) (text : String) : Prop where
  offered : ∃ now, entries[i]? = some ⟨now, .offer text, none⟩
  since : ∀ j e, i < j → entries[j]? = some e → e.move.isPatient = true ∧ e.passed = none

theorem Pending.lt_length (h : Pending entries i text) : i < entries.length := by
  obtain ⟨now, hi⟩ := h.offered
  exact (List.getElem?_eq_some_iff.mp hi).1

theorem Pending.concat (h : Pending entries i text) (patient : e.move.isPatient = true)
    (passed : e.passed = none) : Pending (entries ++ [e]) i text := by
  refine ⟨?_, fun j f hij hj => ?_⟩
  · obtain ⟨now, hi⟩ := h.offered
    exact ⟨now, by rw [List.getElem?_append_left h.lt_length, hi]⟩
  · by_cases hlt : j < entries.length
    · rw [List.getElem?_append_left hlt] at hj
      exact h.since j f hij hj
    · obtain rfl : f = e := by
        rw [List.getElem?_append_right (Nat.le_of_not_lt hlt)] at hj
        exact List.mem_singleton.mp (List.mem_of_getElem? hj)
      exact ⟨patient, passed⟩

/-- After one more move, the same offer is pending if the move was patient and let nothing through,
and the move itself is if it was an offer that was not let through. -/
theorem pending_concat_iff : Pending (entries ++ [e]) i text ↔
    e.passed = none ∧ (Pending entries i text ∧ e.move.isPatient = true ∨
      i = entries.length ∧ e.move = .offer text) := by
  constructor
  · intro h
    by_cases hlt : i < entries.length
    · have hsince := h.since entries.length e hlt List.getElem?_concat_length
      refine ⟨hsince.2, .inl ⟨⟨?_, fun j f hij hj => ?_⟩, hsince.1⟩⟩
      · obtain ⟨now, hi⟩ := h.offered
        exact ⟨now, by rwa [List.getElem?_append_left hlt] at hi⟩
      · have hj' := (List.getElem?_eq_some_iff.mp hj).1
        exact h.since j f hij (by rwa [List.getElem?_append_left hj'])
    · have hlength : i = entries.length := by
        have := h.lt_length
        rw [List.length_append, List.length_singleton] at this
        omega
      obtain ⟨now, hi⟩ := h.offered
      rw [hlength, List.getElem?_concat_length] at hi
      obtain rfl := Option.some.inj hi
      exact ⟨rfl, .inr ⟨hlength, rfl⟩⟩
  · rintro ⟨passed, ⟨hpending, patient⟩ | ⟨rfl, hoffer⟩⟩
    · exact hpending.concat patient passed
    · refine ⟨⟨e.now, ?_⟩, fun j f hij hj => ?_⟩
      · rw [List.getElem?_concat_length, ← hoffer, ← passed]
      · have := (List.getElem?_eq_some_iff.mp hj).1
        rw [List.length_append, List.length_singleton] at this
        omega

/-! ### What a gate remembers -/

/-- What a gate remembers of its history: the offer that is pending, and when it last let a text
through. While it has never done so it holds nothing. -/
structure Account (interval : Nat) (entries : List Entry) (g : FrameGate) : Prop where
  interval_eq : g.interval = interval
  held_iff : ∀ text, g.held = some text ↔ ∃ i, Pending entries i text
  opened : ∀ e ∈ entries, e.passed.isSome = true →
    ∃ last, g.lastOpened = some last ∧ e.now ≤ last
  opened_mem : ∀ last, g.lastOpened = some last → ∃ e ∈ entries, e.now = last
  primed : g.Primed

theorem account_fresh (interval : Nat) : Account interval [] (fresh interval) where
  interval_eq := rfl
  held_iff text := by
    refine iff_of_false (fun h => nomatch h) fun ⟨i, hi⟩ => ?_
    exact absurd hi.lt_length (Nat.not_lt_zero i)
  opened _ he := nomatch he
  opened_mem _ h := nomatch h
  primed := .of_held_eq_none rfl

/-- No move makes a gate forget more of its history than it must. -/
theorem Account.concat (h : Account interval entries g) (clock : ∀ e ∈ entries, e.now ≤ now)
    (move : Move) :
    Account interval (entries ++ [⟨now, move, (g.step now move).2⟩]) (g.step now move).1 := by
  have hstepped := g.stepped now move
  have hprimed := h.primed.moved (g.moved_step now move)
  generalize g.step now move = result at hstepped hprimed
  -- Entries with nothing let through do not concern the last opening.
  have opened (move : Move) : ∀ e ∈ entries ++ [⟨now, move, none⟩], e.passed.isSome = true →
      ∃ last, g.lastOpened = some last ∧ e.now ≤ last := by
    intro e he hpassed
    rcases List.mem_append.mp he with hold | hnew
    · exact h.opened e hold hpassed
    · rw [List.mem_singleton.mp hnew] at hpassed
      cases hpassed
  have opened_mem (move : Move) : ∀ last, g.lastOpened = some last →
      ∃ e ∈ entries ++ [⟨now, move, none⟩], e.now = last := by
    intro last hlast
    obtain ⟨e, he, hnow⟩ := h.opened_mem last hlast
    exact ⟨e, List.mem_append_left _ he, hnow⟩
  cases hstepped with
  | passed text source due =>
    refine ⟨h.interval_eq, fun t => ?_, fun e he _ => ⟨now, rfl, ?_⟩, fun last hlast => ?_,
      hprimed⟩
    · refine iff_of_false nofun fun ⟨i, hi⟩ => ?_
      exact absurd (pending_concat_iff.mp hi).1 nofun
    · rcases List.mem_append.mp he with hold | hnew
      · exact clock e hold
      · exact Nat.le_of_eq (congrArg Entry.now (List.mem_singleton.mp hnew))
    · exact ⟨_, List.mem_append_right _ (List.mem_singleton_self _), Option.some.inj hlast⟩
  | heldBack text early =>
    refine ⟨h.interval_eq, fun t => ?_, opened _, opened_mem _, hprimed⟩
    simp [pending_concat_iff, Move.isPatient]
  | rested patient =>
    refine ⟨h.interval_eq, fun t => ?_, opened _, opened_mem _, hprimed⟩
    have hmove (t : String) : move ≠ .offer t := by
      rintro rfl
      cases patient
    simp [pending_concat_iff, patient, hmove, h.held_iff]
  | dropped =>
    refine ⟨h.interval_eq, fun t => ?_, opened _, opened_mem _, hprimed⟩
    simp [pending_concat_iff, Move.isPatient, dropHeld]

/-- A new gate has a true account of its history after any moves, if the clock does not go back. -/
theorem account_run (interval : Nat) (clock : moves.Pairwise (·.1 ≤ ·.1)) :
    Account interval ((fresh interval).run moves).2 ((fresh interval).run moves).1 := by
  induction moves using List.reverseRecOn with
  | nil => exact account_fresh interval
  | append_singleton moves m ih =>
    obtain ⟨now, move⟩ := m
    obtain ⟨hmoves, -, hlast⟩ := List.pairwise_append.mp clock
    have hle : ∀ m ∈ moves, m.1 ≤ now := fun m hm => hlast m hm _ (List.mem_singleton_self _)
    rw [run_concat]
    exact (ih hmoves).concat (fun e he => now_le_of_mem_run hle he) move

/-! ### The law -/

/-- The text offered at place `i` of a history is let through at place `k`. By then it is the newest
text, it was not dropped, and nothing was let through since it was offered. -/
structure LetThrough (entries : List Entry) (i k : Nat) (text : String) : Prop where
  le : i ≤ k
  offered : ∃ e, entries[i]? = some e ∧ e.move = .offer text
  passed : ∃ e, entries[k]? = some e ∧ e.passed = some text
  newest : ∀ j e, i < j → j ≤ k → entries[j]? = some e → e.move.isPatient = true
  first : ∀ j e, i ≤ j → j < k → entries[j]? = some e → e.passed = none

/-- What is true of a history and of the gate at its end. -/
structure Lawful (interval : Nat) (entries : List Entry) (g : FrameGate) : Prop where
  /-- Every text let through is the newest one, and was neither dropped nor let through before. -/
  newest : ∀ k e text, entries[k]? = some e → e.passed = some text →
    ∃ i, LetThrough entries i k text
  /-- No offer is let through at two places. -/
  once : ∀ i k k' text text', LetThrough entries i k text → LetThrough entries i k' text' → k = k'
  /-- A text that is let through because it is due comes a whole frame after the ones before it,
  however these were let through. -/
  spaced : ∀ (j k : Nat) (e f : Entry), j < k → entries[j]? = some e → entries[k]? = some f →
    e.passed.isSome = true → f.passed.isSome = true → f.move ≠ .release →
    e.now + interval ≤ f.now
  /-- A text is held exactly while an offer of it is pending. -/
  held_iff : ∀ text, g.held = some text ↔ ∃ i, Pending entries i text
  /-- The newest text, unless it was dropped, was let through or can be released now. -/
  delivered : ∀ i e text, entries[i]? = some e → e.move = .offer text →
    (∀ j f, i < j → entries[j]? = some f → f.move.isPatient = true) →
    (∃ k, LetThrough entries i k text) ∨ ∀ now, (g.release? now).2 = some text
  /-- The time that remains is known exactly while a text is held, and it is the right one: from
  then on the text is due, and not before. -/
  remaining : ∀ now, (∀ e ∈ entries, e.now ≤ now) →
    (g.held = none → g.remaining? now = none) ∧
      ∀ text, g.held = some text → ∃ d, g.remaining? now = some d ∧
        ∀ t, now ≤ t → (g.releaseDue? t).2 = if now + d ≤ t then some text else none

theorem LetThrough.unique {k' : Nat} {text' : String} (h : LetThrough entries i k text)
    (h' : LetThrough entries i k' text') : k = k' := by
  obtain ⟨e, he, hpassed⟩ := h.passed
  obtain ⟨e', he', hpassed'⟩ := h'.passed
  rcases Nat.lt_trichotomy k k' with hlt | heq | hgt
  · rw [h'.first k e h.le hlt he] at hpassed
    cases hpassed
  · exact heq
  · rw [h.first k' e' h'.le hgt he'] at hpassed'
    cases hpassed'

theorem Pending.letThrough (h : Pending (entries.take k) i text) (hk : entries[k]? = some e)
    (patient : e.move.isPatient = true) (passed : e.passed = some text) :
    LetThrough entries i k text := by
  have hik : i < k := Nat.lt_of_lt_of_le h.lt_length (List.length_take_le _ _)
  have hin {j : Nat} {f : Entry} (hj : j < k) (hf : entries[j]? = some f) :
      (entries.take k)[j]? = some f := by
    rwa [List.getElem?_take_of_lt hj]
  obtain ⟨now, hi⟩ := h.offered
  rw [List.getElem?_take_of_lt hik] at hi
  refine ⟨Nat.le_of_lt hik, ⟨_, hi, rfl⟩, ⟨e, hk, passed⟩, fun j f hij hjk hf => ?_,
    fun j f hij hjk hf => ?_⟩
  · rcases Nat.lt_or_eq_of_le hjk with hlt | rfl
    · exact (h.since j f hij (hin hlt hf)).1
    · obtain rfl := Option.some.inj (hk.symm.trans hf)
      exact patient
  · rcases Nat.lt_or_eq_of_le hij with hlt | rfl
    · exact (h.since j f hlt (hin hjk hf)).2
    · obtain rfl := Option.some.inj (hi.symm.trans hf)
      rfl

/-- Nothing but the last offer can be let through after it. -/
theorem LetThrough.eq_of_last {i' : Nat} {t : String} (h : LetThrough entries i' k t)
    (hi : entries[i]? = some e) (offered : e.move = .offer text) (hik : i ≤ k)
    (last : ∀ j f, i < j → entries[j]? = some f → f.move.isPatient = true) : i' = i ∧ t = text := by
  obtain ⟨e', hi', offered'⟩ := h.offered
  rcases Nat.lt_trichotomy i' i with hlt | rfl | hgt
  · have := h.newest i e hlt hik hi
    rw [offered] at this
    cases this
  · obtain rfl := Option.some.inj (hi.symm.trans hi')
    exact ⟨rfl, Move.offer.inj (offered'.symm.trans offered)⟩
  · have := last i' e' hgt hi'
    rw [offered'] at this
    cases this

theorem releaseDue?_of_remaining {last t : Nat} (held : g.held = some text)
    (opened : g.lastOpened = some last) (hlast : last ≤ now) (ht : now ≤ t) :
    (g.releaseDue? t).2 =
      if now + (g.interval - (now - last)) ≤ t then some text else none := by
  have hdue : g.isDue t = true ↔ now + (g.interval - (now - last)) ≤ t := by
    rw [isDue_iff_of_lastOpened_eq_some opened]
    omega
  have hrelease : (g.release? t).2 = some text := by rw [release?, held]
  unfold releaseDue?
  by_cases h : now + (g.interval - (now - last)) ≤ t
  · rw [if_pos (hdue.mpr h), if_pos h, hrelease]
  · rw [if_neg (mt hdue.mp h), if_neg h]

section Run

variable (clock : moves.Pairwise (·.1 ≤ ·.1))

include clock

theorem exists_letThrough_run (hk : ((fresh interval).run moves).2[k]? = some e)
    (passed : e.passed = some text) :
    ∃ i, LetThrough ((fresh interval).run moves).2 i k text := by
  obtain ⟨before, after, hmoves, htake, hpassed⟩ := exists_split_of_getElem?_run hk
  rw [hmoves] at clock
  have haccount := account_run interval (List.pairwise_append.mp clock).1
  rw [htake] at haccount
  rcases (source_of_step_eq_some (hpassed.trans passed)).1 with hoffer | ⟨patient, held⟩
  · -- The text is let through by its own offer.
    refine ⟨k, Nat.le_refl k, ⟨e, hk, hoffer⟩, ⟨e, hk, passed⟩, ?_, ?_⟩
    · intro j _ hlt hle
      omega
    · intro j _ hle hlt
      omega
  · obtain ⟨i, hi⟩ := (haccount.held_iff text).mp held
    exact ⟨i, hi.letThrough hk patient passed⟩

theorem add_interval_le_run {f : Entry} (hjk : j < k)
    (hj : ((fresh interval).run moves).2[j]? = some e)
    (hk : ((fresh interval).run moves).2[k]? = some f) (hpassed : e.passed.isSome = true)
    (passed : f.passed.isSome = true) (unforced : f.move ≠ .release) :
    e.now + interval ≤ f.now := by
  obtain ⟨text, htext⟩ := Option.isSome_iff_exists.mp passed
  obtain ⟨before, after, hmoves, htake, hstep⟩ := exists_split_of_getElem?_run hk
  rw [hmoves] at clock
  obtain ⟨hbefore, -, hclock⟩ := List.pairwise_append.mp clock
  have haccount := account_run interval hbefore
  have hmem : e ∈ ((fresh interval).run before).2 := by
    refine List.mem_of_getElem? (i := j) ?_
    rw [htake, List.getElem?_take_of_lt hjk, hj]
  obtain ⟨last, hlast, hle⟩ := haccount.opened e hmem hpassed
  have hnow : last ≤ f.now := by
    obtain ⟨e', he', rfl⟩ := haccount.opened_mem last hlast
    exact now_le_of_mem_run (fun m hm => hclock m hm _ List.mem_cons_self) he'
  have hdue := (source_of_step_eq_some (hstep.trans htext)).2.resolve_left unforced
  rw [isDue_iff_of_lastOpened_eq_some hlast, haccount.interval_eq] at hdue
  omega

theorem letThrough_or_held_run (hi : ((fresh interval).run moves).2[i]? = some e)
    (offered : e.move = .offer text)
    (last : ∀ j f, i < j → ((fresh interval).run moves).2[j]? = some f →
      f.move.isPatient = true) :
    (∃ k, LetThrough ((fresh interval).run moves).2 i k text) ∨
      ((fresh interval).run moves).1.held = some text := by
  by_cases hthrough : ∃ k, LetThrough ((fresh interval).run moves).2 i k text
  · exact .inl hthrough
  · -- Whatever was let through from the last offer on could only have been that offer.
    have hnone (j : Nat) (f : Entry) (hij : i ≤ j)
        (hj : ((fresh interval).run moves).2[j]? = some f) : f.passed = none := by
      by_contra hsome
      obtain ⟨t, ht⟩ := Option.ne_none_iff_exists'.mp hsome
      obtain ⟨i', hi'⟩ := exists_letThrough_run clock hj ht
      obtain ⟨rfl, rfl⟩ := hi'.eq_of_last hi offered hij last
      exact hthrough ⟨j, hi'⟩
    refine .inr (((account_run interval clock).held_iff text).mpr ⟨i, ⟨e.now, ?_⟩, ?_⟩)
    · rw [hi, ← offered, ← hnone i e (Nat.le_refl i) hi]
    · exact fun j f hij hj => ⟨last j f hij hj, hnone j f (Nat.le_of_lt hij) hj⟩

end Run

/-- Every history of a new gate keeps the law, if the clock does not go back. -/
theorem lawful_run (interval : Nat) {moves : List (Nat × Move)}
    (clock : moves.Pairwise (·.1 ≤ ·.1)) :
    Lawful interval ((fresh interval).run moves).2 ((fresh interval).run moves).1 where
  newest _ _ _ hk passed := exists_letThrough_run clock hk passed
  once _ _ _ _ _ h h' := h.unique h'
  spaced _ _ _ _ hjk hj hk hpassed passed unforced :=
    add_interval_le_run clock hjk hj hk hpassed passed unforced
  held_iff := (account_run interval clock).held_iff
  delivered i e text hi offered last := by
    refine (letThrough_or_held_run clock hi offered last).imp_right fun held now => ?_
    rw [release?, held]
  remaining now hclock := by
    have haccount := account_run interval clock
    generalize ((fresh interval).run moves).1 = g at haccount
    refine ⟨fun hnone => by rw [remaining?, hnone], fun text held => ?_⟩
    obtain ⟨last, opened⟩ :=
      Option.isSome_iff_exists.mp (haccount.primed (Option.isSome_of_eq_some held))
    have hlast : last ≤ now := by
      obtain ⟨e, he, rfl⟩ := haccount.opened_mem last opened
      exact hclock e he
    refine ⟨g.interval - (now - last), by rw [remaining?, held, opened], fun t ht => ?_⟩
    exact releaseDue?_of_remaining held opened hlast ht

/-- Texts that come too early, are replaced, dropped, and released in and out of time. -/
def restlessMoves : List (Nat × Move) :=
  [(0, .offer "S"), (2, .offer "Su"), (5, .offer "Sum"), (10, .releaseDue), (16, .releaseDue),
    (17, .offer "Summ"), (18, .drop), (20, .release), (21, .offer "Summary"), (22, .release)]

theorem lawful_restlessMoves :
    restlessMoves.Pairwise (·.1 ≤ ·.1) ∧
      ((fresh 16).run restlessMoves).2.map (·.passed) =
        [some "S", none, none, none, some "Sum", none, none, none, none, some "Summary"] ∧
      Lawful 16 ((fresh 16).run restlessMoves).2 ((fresh 16).run restlessMoves).1 := by
  have clock : restlessMoves.Pairwise (·.1 ≤ ·.1) := by decide
  exact ⟨clock, by decide, lawful_run 16 clock⟩

end BranchChat.Execution.FrameGate
