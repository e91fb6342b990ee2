import BranchChat.Proofs.Session.Storage

/-!
# Shared credentials

A credential is copied for every part of the program that sends requests. A copy has the same file
and looks at the same token in memory. So whoever uses a copy uses it for all: all copies hold one
token at any time, and this is the token that the file tells.

## Main definitions

- `Sharing`: a store, tokens in memory, and the holders of a credential that look at them
- `Sharing.Use`: what a holder can do
- `Sharing.InStep`: all holders have one token, and the file tells it

## Main statements

- `Sharing.InStep.run`: every run from a loaded credential is in step
- `Sharing.run_inStep`: the same with what keeping and forgetting a token leave
-/

namespace BranchChat.Session

open BranchChat.Files (Entry Fault Path Place Store)

/-- A copy of a credential: the cell in memory that its token is in, and its file. -/
structure Holder where
  cell : Nat
  file : Option Path
deriving DecidableEq

/-- A store, the tokens in memory, and the copies of credentials that look at them. -/
structure Sharing where
  store : Store
  cells : List (Option String)
  holders : List Holder

namespace Sharing

/-- A credential is loaded from a file, without a supplied token. -/
def load (s : Store) (file : Path) : Sharing :=
  ⟨s, [(Credential.load s file none).token], [⟨0, (Credential.load s file none).file⟩]⟩

/-- The credential that a holder has. -/
def credential? (w : Sharing) (h : Holder) : Option Credential :=
  w.cells[h.cell]?.map fun token => ⟨token, h.file⟩

/-- The credential after an operation of a holder, with the store that it leaves. -/
def settled (w : Sharing) (h : Holder) (s : Store) (c : Credential) : Sharing :=
  { w with store := s, cells := w.cells.set h.cell c.token }

/-- A holder keeps a new token, at time `now`. -/
def keep (w : Sharing) (h : Holder) (token : String) (now : Int) : Sharing × Except Fault Unit :=
  match w.credential? h with
  | none => (w, .ok ())
  | some c =>
    match c.keep w.store token now with
    | (s, .ok c) => (w.settled h s c, .ok ())
    | (s, .error fault) => ({ w with store := s }, .error fault)

/-- A holder forgets the token. -/
def forget (w : Sharing) (h : Holder) : Sharing :=
  match w.credential? h with
  | none => w
  | some c => w.settled h (c.forget w.store).1 (c.forget w.store).2

/-- What can be done with the holder at a place of the list. -/
inductive Use where
  | copy (i : Nat)
  | keep (i : Nat) (token : String) (now : Int)
  | forget (i : Nat)

/-- Carries a use out. There is no use without a holder. -/
def step (w : Sharing) : Use → Sharing
  | .copy i => { w with holders := w.holders ++ w.holders[i]?.toList }
  | .keep i token now => (w.holders[i]?.map fun h => (w.keep h token now).1).getD w
  | .forget i => (w.holders[i]?.map w.forget).getD w

/-- Carries uses out one after the other. -/
def run (w : Sharing) (uses : List Use) : Sharing :=
  uses.foldl step w

/-- All holders are copies of one. They have the same token, and a credential that is loaded from
the file has it, too, unless it is empty. -/
structure InStep (w : Sharing) (file : Path) (token : Option String) : Prop where
  ne_nil : w.holders ≠ []
  alike : ∀ h ∈ w.holders, ∀ h' ∈ w.holders, h' = h
  held : ∀ h ∈ w.holders, w.credential? h = some ⟨token, some file⟩
  told : (Credential.load w.store file none).token = Credential.nonempty? token

/-! ### Uses -/

variable {w : Sharing} {s : Store} {file : Path} {token : Option String} {h : Holder} {new : String}
  {now : Int}

theorem inStep_load (s : Store) (file : Path) :
    (load s file).InStep file (Credential.load s file none).token where
  ne_nil := List.cons_ne_nil _ []
  alike := by
    intro h hh h' hh'
    rw [List.mem_singleton.mp hh, List.mem_singleton.mp hh']
  held := by
    intro h hh
    rw [List.mem_singleton.mp hh]
    rfl
  told := (Credential.agrees_load s file).token_eq

theorem InStep.agrees (hw : w.InStep file token) :
    Credential.Agrees ⟨token, some file⟩ w.store file :=
  ⟨rfl, hw.told⟩

/-- A change of the files alone. -/
theorem InStep.onStore (hw : w.InStep file token)
    (hs : Credential.Agrees ⟨token, some file⟩ s file) :
    InStep { w with store := s } file token :=
  ⟨hw.ne_nil, hw.alike, hw.held, hs.token_eq⟩

/-- What one holder settles is seen by all, since they look at the same cell. -/
theorem InStep.settled {c : Credential} (hw : w.InStep file token) (hh : h ∈ w.holders)
    (hc : c.Agrees s file) : (w.settled h s c).InStep file c.token where
  ne_nil := hw.ne_nil
  alike := hw.alike
  held := by
    intro h' hh'
    obtain rfl : h' = h := hw.alike h hh h' hh'
    have hheld := hw.held h' hh
    obtain ⟨old, hold, hcredential⟩ := Option.map_eq_some_iff.mp hheld
    have hfile : h'.file = some file := congrArg Credential.file hcredential
    obtain ⟨hlt, -⟩ := List.getElem?_eq_some_iff.mp hold
    rw [credential?, Sharing.settled, List.getElem?_set_self hlt, Option.map_some, hfile]
  told := hc.token_eq

theorem InStep.copied (hw : w.InStep file token) {copies : List Holder}
    (hcopies : ∀ h ∈ copies, h ∈ w.holders) :
    InStep { w with holders := w.holders ++ copies } file token := by
  have hmem : ∀ h ∈ w.holders ++ copies, h ∈ w.holders := fun h hh =>
    (List.mem_append.mp hh).elim id (hcopies h)
  exact ⟨List.append_ne_nil_of_left_ne_nil hw.ne_nil copies,
    fun h hh h' hh' => hw.alike h (hmem h hh) h' (hmem h' hh'),
    fun h hh => hw.held h (hmem h hh), hw.told⟩

/-- After a new token was kept all holders have it. -/
theorem InStep.keep_ok (hw : w.InStep file token) (hh : h ∈ w.holders)
    (hkeep : (w.keep h new now).2 = .ok ()) : (w.keep h new now).1.InStep file (some new) := by
  unfold keep at hkeep ⊢
  rw [hw.held h hh] at hkeep ⊢
  dsimp only at hkeep ⊢
  split
  case h_1 s c hc =>
    obtain ⟨hagrees, htoken⟩ := Credential.agrees_of_keep hw.agrees hc
    rw [← htoken]
    exact hw.settled hh hagrees
  case h_2 s fault hc =>
    rw [hc] at hkeep
    exact absurd hkeep (by simp)

/-- After a new token could not be kept nothing has changed, in memory or in the file. -/
theorem InStep.keep_error {fault : Fault} (hw : w.InStep file token) (hh : h ∈ w.holders)
    (hkeep : (w.keep h new now).2 = .error fault) :
    (w.keep h new now).1.InStep file token ∧
      (w.keep h new now).1.store.content? file = w.store.content? file := by
  unfold keep at hkeep ⊢
  rw [hw.held h hh] at hkeep ⊢
  dsimp only at hkeep ⊢
  split
  case h_1 s c hc =>
    rw [hc] at hkeep
    exact absurd hkeep (by simp)
  case h_2 s fault hc =>
    obtain ⟨hagrees, hcontent⟩ := Credential.agrees_of_keep_error hw.agrees hc
    exact ⟨hw.onStore hagrees, hcontent⟩

/-- After the token was forgotten no holder has one. -/
theorem InStep.forget (hw : w.InStep file token) (hh : h ∈ w.holders) :
    (w.forget h).InStep file none := by
  unfold Sharing.forget
  rw [hw.held h hh]
  exact hw.settled hh (Credential.agrees_forget rfl w.store)

/-! ### Runs -/

theorem InStep.step (hw : w.InStep file token) (u : Use) :
    ∃ token, (w.step u).InStep file token := by
  cases u with
  | copy i =>
    refine ⟨token, hw.copied fun h hh => ?_⟩
    exact List.mem_of_getElem? (Option.mem_toList.mp hh)
  | keep i new now =>
    rw [Sharing.step]
    cases hi : w.holders[i]? with
    | none => exact ⟨token, hw⟩
    | some h =>
      have hh := List.mem_of_getElem? hi
      rw [Option.map_some, Option.getD_some]
      cases hkeep : (w.keep h new now).2 with
      | ok _ => exact ⟨some new, hw.keep_ok hh hkeep⟩
      | error fault => exact ⟨token, (hw.keep_error hh hkeep).1⟩
  | forget i =>
    rw [Sharing.step]
    cases hi : w.holders[i]? with
    | none => exact ⟨token, hw⟩
    | some h => exact ⟨none, hw.forget (List.mem_of_getElem? hi)⟩

theorem InStep.run (hw : w.InStep file token) (uses : List Use) :
    ∃ token, (w.run uses).InStep file token := by
  induction uses generalizing w token with
  | nil => exact ⟨token, hw⟩
  | cons u uses ih =>
    obtain ⟨token', hstep⟩ := hw.step u
    exact ih hstep

/-- Whatever the files are when a credential is loaded, and whatever is done with it through any of
its copies: all copies have one token, and the file tells this token, unless it is empty. A new
token that was kept is the token of all of them, and so is a token that was forgotten none. A token
that could not be kept has changed nothing, neither the token of the copies nor the content of the
file. -/
theorem run_inStep (s : Store) (file : Path) (uses : List Use) :
    ∃ token, ((load s file).run uses).InStep file token ∧
      ∀ h ∈ ((load s file).run uses).holders,
        (((load s file).run uses).forget h).InStep file none ∧
        ∀ (new : String) (now : Int) (kept : Sharing) (result : Except Fault Unit),
          ((load s file).run uses).keep h new now = (kept, result) →
          match result with
          | .ok () => kept.InStep file (some new)
          | .error _ => kept.InStep file token ∧
            kept.store.content? file = ((load s file).run uses).store.content? file := by
  obtain ⟨token, hw⟩ := (inStep_load s file).run uses
  refine ⟨token, hw, fun h hh => ⟨hw.forget hh, ?_⟩⟩
  intro new now kept result hkeep
  obtain ⟨rfl, rfl⟩ : (((load s file).run uses).keep h new now).1 = kept ∧
      (((load s file).run uses).keep h new now).2 = result := by rw [hkeep]; exact ⟨rfl, rfl⟩
  cases hresult : (((load s file).run uses).keep h new now).2 with
  | ok _ => exact hw.keep_ok hh hresult
  | error fault => exact hw.keep_error hh hresult

/-- Two copies of a credential whose file is at the top. -/
def copied (entries : List (Place × Entry)) : Sharing :=
  (load ⟨[], entries⟩ "s").run [.copy 0]

/-- Whether a copy can keep a token is a matter of writing the file. -/
theorem keep_copied (entries : List (Place × Entry)) (token : String) :
    ((copied entries).keep ⟨0, some "s"⟩ token 0).2 =
      (Store.write ⟨[], entries⟩ "s" (Text.Utf8.bytes (Credential.stored token)) 0).map
        fun _ => () := by
  have hstore : (copied entries).store = ⟨[], entries⟩ := rfl
  have hcredential : (copied entries).credential? ⟨0, some "s"⟩ =
      some (Credential.load ⟨[], entries⟩ "s" none) := rfl
  have habove : Store.createFoldersAbove ⟨[], entries⟩ "s" = (⟨[], entries⟩, .ok ()) := rfl
  rw [keep, hcredential, hstore]
  dsimp only
  rw [Credential.keep, Credential.load]
  dsimp only
  rw [habove]
  dsimp only
  cases Store.write ⟨[], entries⟩ "s" (Text.Utf8.bytes (Credential.stored token)) 0 with
  | ok s => rfl
  | error fault => rfl

theorem leadsTo_copied (entries : List (Place × Entry)) :
    Store.LeadsTo ⟨[], entries⟩ "s" ["s"] where
  noZero := by simp
  ne_empty := by decide
  short := by decide
  follows := by
    have hstart : Store.start ⟨[], entries⟩ "s" = [] := by unfold Store.start; split <;> rfl
    have hsteps : Path.steps "s" = ["s"] := by decide
    rw [hstart, hsteps]
    rfl

/-- A copy keeps a new token where there is no file yet, and cannot keep one where there is a folder
in place of the file. -/
theorem run_inStep_copied :
    (∃ kept, (copied []).keep ⟨0, some "s"⟩ "new" 0 = (kept, .ok ()) ∧
      kept.InStep "s" (some "new")) ∧
    ∃ kept token, (copied [(["s"], .folder)]).InStep "s" token ∧
      (copied [(["s"], .folder)]).keep ⟨0, some "s"⟩ "new" 0 = (kept, .error .isAFolder) ∧
      kept.InStep "s" token := by
  have hlocate : Store.locate ⟨[], []⟩ "s" = .ok (["s"], none) :=
    Store.locate_eq_ok_iff.mpr ⟨leadsTo_copied [], rfl, by unfold Store.Suits; decide⟩
  have hfolder : Store.locate ⟨[], [(["s"], .folder)]⟩ "s" = .ok (["s"], some .folder) :=
    Store.locate_eq_ok_iff.mpr ⟨leadsTo_copied _, by decide, trivial⟩
  have hkeep : ((copied []).keep ⟨0, some "s"⟩ "new" 0).2 = .ok () := by
    rw [keep_copied, Store.write, hlocate]
    show Except.map _ (if Path.wantsFolder "s" = true then _ else _) = _
    rw [if_neg (by decide +kernel)]
    rfl
  have hfail : ((copied [(["s"], .folder)]).keep ⟨0, some "s"⟩ "new" 0).2 =
      .error .isAFolder := by
    rw [keep_copied, Store.write, hfolder]
    rfl
  constructor
  · obtain ⟨token, hw, huse⟩ := run_inStep ⟨[], []⟩ "s" [.copy 0]
    have hmem : ⟨0, some "s"⟩ ∈ (copied []).holders := by decide
    exact ⟨_, Prod.ext rfl hkeep, (huse _ hmem).2 "new" 0 _ (.ok ()) (Prod.ext rfl hkeep)⟩
  · obtain ⟨token, hw, huse⟩ := run_inStep ⟨[], [(["s"], .folder)]⟩ "s" [.copy 0]
    have hmem : ⟨0, some "s"⟩ ∈ (copied [(["s"], .folder)]).holders := by decide
    have hsame := (huse _ hmem).2 "new" 0 _ (.error .isAFolder) (Prod.ext rfl hfail)
    exact ⟨_, token, hw, Prod.ext rfl hfail, hsame.1⟩

end Sharing

end BranchChat.Session
