import BranchChat.Proofs.Client.Likeness
import BranchChat.Proofs.Client.Setups
import BranchChat.Proofs.Session.Sharing

/-!
# Logging out

Whatever has happened, logging out leaves a client as it was when it was made, without a token. All
that is left of the past is when the gate has last opened, and this decides about nothing but when
text is shown. So nobody can tell from what comes later which past there was.

## Main definitions

- `Scene.Past`: what can have happened to a client
- `Scene.Forgotten`: what logging out leaves
- `Scene.sight`, `Scene.seen`: what is to be seen of a scene, and in the course of a run
- `Scene.sparesTurns`: no turn fails in a run

## Main statements

- `forgotten_past`: logging out leaves nothing of the past
- `Alike.seen_eq`: runs of scenes that look alike look alike
- `logout_forgets`: both for any two pasts
-/

namespace BranchChat.Scene

open BranchChat.Execution (FrameGate)
open BranchChat.Files (Path Store)
open BranchChat.Session (Sharing)
open BranchChat.Web (Backend Network)

variable {s t : Scene}

/-! ### What is left -/

/-- What can have happened to a client: the token and the gate that it began with, its surroundings,
and its moves. -/
structure Past where
  token : Option String
  gate : FrameGate
  files : Store
  network : Network
  moves : List Move

/-- The scene that a client with this past has come to. -/
def Past.scene (p : Past) (backend : Backend) (file : Option Path) : Scene :=
  (start (.new backend ⟨p.token, file⟩ p.gate) p.files p.network).run p.moves

theorem Past.reachable (p : Past) (backend : Backend) (file : Option Path) :
    (p.scene backend file).Reachable :=
  ⟨backend, ⟨p.token, file⟩, p.gate, p.files, p.network, p.moves, rfl⟩

/-- What logging out leaves of a scene. The client is a new one without a token, except for the time
at which the gate has last opened. All connections are cancelled, the one that was live as well.
Wherever copies of the credential are used, none of them has a token. The file of the credential is
no plain file, and if it was one there is nothing in its place. -/
structure Forgotten (s : Scene) (backend : Backend) (file : Option Path) (interval : Nat) :
    Prop where
  client : { s.logout.client with execution.gate.lastOpened := none } =
    .new backend ⟨none, file⟩ (.fresh interval)
  live : ∀ mark, s.liveMark? = some mark → s.logout.isCancelled mark = true
  cancelled : ∀ mark < s.marks.issued, s.logout.isCancelled mark = true
  copies : ∀ (w : Sharing) (h : Session.Holder), w.store = s.files →
    w.credential? h = some s.client.credential →
    (w.forget h).store = s.logout.files ∧
      ∀ other : Session.Holder, other.cell = h.cell →
        (w.forget h).credential? other = some ⟨none, other.file⟩
  content : ∀ path, file = some path → s.logout.files.content? path = none
  removed : ∀ path content, file = some path → s.files.content? path = some content →
    s.logout.files.contains path = false

theorem client_logout (s : Scene) :
    s.logout.client = .new s.client.backend ⟨none, s.client.credential.file⟩
      s.client.execution.gate.dropHeld := by
  obtain ⟨marks, habort⟩ := s.abort_eq
  unfold logout
  rw [habort]
  rfl

theorem files_logout (s : Scene) :
    s.logout.files = (s.client.credential.forget s.files).1 := by
  obtain ⟨marks, habort⟩ := s.abort_eq
  unfold logout
  rw [habort]
  rfl

/-- All holders that look at the same cell see that the token is gone. -/
theorem credential?_forget {w : Sharing} {h other : Session.Holder} {c : Session.Credential}
    (hc : w.credential? h = some c) (hcell : other.cell = h.cell) :
    (w.forget h).store = (c.forget w.store).1 ∧
      (w.forget h).credential? other = some ⟨none, other.file⟩ := by
  obtain ⟨token, htoken, -⟩ := Option.map_eq_some_iff.mp hc
  obtain ⟨hlt, -⟩ := List.getElem?_eq_some_iff.mp htoken
  unfold Sharing.forget
  rw [hc]
  refine ⟨rfl, ?_⟩
  dsimp only
  rw [Sharing.credential?, Sharing.settled, hcell, List.getElem?_set_self hlt]
  rfl

/-- Logging out leaves nothing of the past. -/
theorem forgotten_past (p : Past) (backend : Backend) (file : Option Path) :
    (p.scene backend file).Forgotten backend file p.gate.interval := by
  have hsteady := (p.reachable backend file).steady
  have hsetup : (p.scene backend file).setup = ⟨backend, file, p.gate.interval⟩ :=
    setup_run _ p.moves
  generalize p.scene backend file = s at hsteady hsetup ⊢
  obtain ⟨hbackend, hfile, hinterval⟩ := Setup.mk.inj hsetup
  have hcancelled (mark : Nat) :
      s.logout.isCancelled mark = s.abort.isCancelled mark := rfl
  constructor
  case client =>
    rw [client_logout, hbackend, hfile]
    show Client.new backend ⟨none, file⟩ (.fresh s.client.execution.gate.interval) = _
    rw [hinterval]
  case live => exact fun mark hlive => isCancelled_abort.mpr (.inr (.inl hlive))
  case cancelled =>
    intro mark hmark
    rw [← issued_abort] at hmark
    exact hsteady.silent_abort.cancelled mark hmark
  case copies =>
    intro w h hstore hc
    rw [files_logout, ← hstore]
    refine ⟨(credential?_forget hc rfl).1, fun other hcell => (credential?_forget hc hcell).2⟩
  case content =>
    rintro path rfl
    rw [files_logout]
    exact Session.Credential.content?_of_forget hfile s.files
  case removed =>
    rintro path content rfl hcontent
    rw [files_logout]
    exact Session.Credential.contains_forget hfile hcontent

/-! ### What is to be seen -/

/-- What is to be seen of a scene once held text is shown: the turn, the workspace, whether there is
a live connection, whether the user has to log in, the files, and what was sent. -/
structure Sight where
  turn : Execution.View
  workspace : Workspace
  isLive : Bool
  isExpired : Bool
  files : Store
  network : Network

/-- What is to be seen of a scene. -/
def sight (s : Scene) : Sight :=
  { turn := s.client.execution.ungated.view, workspace := s.client.workspace
    isLive := s.client.live.isSome, isExpired := s.isExpired, files := s.files
    network := s.network }

/-- What is to be seen in the course of a run: what each move is answered by, and the scene after
it. -/
def seen (s : Scene) : List Move → List (Answer × Sight)
  | [] => []
  | move :: moves => (s.answer move, (s.step move).sight) :: (s.step move).seen moves

/-- No turn fails in a run. -/
def sparesTurns (s : Scene) : List Move → Bool
  | [] => true
  | move :: moves => (s.step move).error?.isNone && (s.step move).sparesTurns moves

theorem Alike.sight_eq (h : Alike s t) : s.sight = t.sight := by
  have hturn : s.client.execution.ungated.view = t.client.execution.ungated.view := by
    rw [← Execution.view_plain, ← Execution.view_plain, h.execution]
  have hlive : s.client.live.isSome = t.client.live.isSome := by
    have hconnection := congrArg Option.isSome h.connection
    rwa [connection?, connection?, Option.isSome_map, Option.isSome_map] at hconnection
  rw [sight, sight, hturn, hlive, isExpired, isExpired, h.workspace, h.credential, h.files,
    h.network]

/-- Runs of scenes that look alike look alike, as long as no turn fails. -/
theorem Alike.seen_eq (h : Alike s t) (hs : s.InOrder) (ht : t.InOrder) {moves moves' : List Move}
    (same : List.Forall₂ Move.Renumbers moves moves') (spared : s.sparesTurns moves = true) :
    s.seen moves = t.seen moves' := by
  induction same generalizing s t with
  | nil => rfl
  | @cons move move' moves moves' hmove hmoves ih =>
    obtain ⟨hnow, hlater⟩ := Bool.and_eq_true_iff.mp spared
    obtain ⟨halike, hanswer⟩ := h.step hs ht hmove (Option.isNone_iff_eq_none.mp hnow)
    unfold seen
    rw [hanswer, halike.sight_eq, ih halike (hs.step move) (ht.step move') hlater]

/-! ### Two pasts -/

/-- The scene in other surroundings. -/
def within (s : Scene) (files : Store) (network : Network) : Scene :=
  { s with files, network }

theorem InOrder.within (h : s.InOrder) (files : Store) (network : Network) :
    (s.within files network).InOrder :=
  ⟨⟨h.steady.live, h.steady.goesOn, h.steady.streaming, h.steady.question, h.steady.others⟩,
    ⟨h.marks.cancelled, h.marks.latest, h.marks.live⟩⟩

/-- After logging out, clients of the same backend look alike. -/
theorem alike_logout (backend : s.client.backend = t.client.backend)
    (file : s.client.credential.file = t.client.credential.file) (files : Store)
    (network : Network) :
    Alike (s.logout.within files network) (t.logout.within files network) := by
  have hs : (s.logout.within files network).client = s.logout.client := rfl
  have ht : (t.logout.within files network).client = t.logout.client := rfl
  constructor
  case files => rfl
  case network => rfl
  case connection => rw [connection?, connection?, hs, ht, client_logout, client_logout]; rfl
  all_goals rw [hs, ht, client_logout, client_logout]
  case backend => exact backend
  case credential => exact congrArg (Session.Credential.mk none) file
  case workspace => rfl
  case execution => rfl

/-- Logging out forgets. Whatever has happened to a client by then, it is left as a new one without
a token and with nothing of it going on. So clients that come from any two pasts cannot be told
apart: the same moves in the same surroundings, where the serial numbers may differ, are answered
alike and show the same, as long as no turn fails. -/
theorem logout_forgets (backend : Backend) (file : Option Path) (p : Past) :
    (p.scene backend file).Forgotten backend file p.gate.interval ∧
    ∀ (q : Past) (files : Store) (network : Network) (later later' : List Move),
      List.Forall₂ Move.Renumbers later later' →
      ((p.scene backend file).logout.within files network).sparesTurns later = true →
      ((p.scene backend file).logout.within files network).seen later =
        ((q.scene backend file).logout.within files network).seen later' := by
  refine ⟨forgotten_past p backend file, fun q files network later later' same spared => ?_⟩
  have hsetup (r : Past) : (r.scene backend file).setup = ⟨backend, file, r.gate.interval⟩ :=
    setup_run _ r.moves
  have hinOrder (r : Past) : ((r.scene backend file).logout.within files network).InOrder :=
    ((r.reachable backend file).inOrder.step .logout).within files network
  obtain ⟨hbackend, hfile, -⟩ := Setup.mk.inj (hsetup p)
  obtain ⟨hbackend', hfile', -⟩ := Setup.mk.inj (hsetup q)
  have halike := alike_logout (hbackend.trans hbackend'.symm) (hfile.trans hfile'.symm)
    files network
  exact halike.seen_eq (hinOrder p) (hinOrder q) same spared

/-- What a backend says that starts a turn and then answers in two pieces. -/
def twoPieces : Network :=
  let turn := "\x7b\"conversation_id\":\"c\",\"message_id\":\"m\"," ++
    "\"thread_id\":\"t\",\"stream_url\":\"/1\"\x7d"
  let events := "data: \x7b\"type\":\"agent_start\",\"agent_name\":\"A\"\x7d\n" ++
    "data: \x7b\"type\":\"llm_chunk\",\"content\":\"a\"\x7d\n" ++
    "data: \x7b\"type\":\"llm_chunk\",\"content\":\"ab\"\x7d\n"
  .answering [.ofText 200 turn, .ofText 200 events]

/-- A message is sent and the answer to it comes in, from `now` on. -/
def converse (now serial : Nat) : List Move :=
  [.send "Hi" none, .advance ⟨now, 0, serial⟩, .advance ⟨now + 1, 0, serial + 1⟩,
    .advance ⟨now + 2, 0, serial + 2⟩]

/-- A past in the middle of an answer, of which the last piece is held back. -/
def midAnswer : Past :=
  ⟨some "old", .fresh 16, default, twoPieces, converse 0 0⟩

/-- A past in which nothing has happened. -/
def uneventful : Past :=
  ⟨none, .unlimited, default, .offline, []⟩

/-- A client with this past, after its user has logged out. -/
def Past.loggedOut (p : Past) : Scene :=
  (p.scene ⟨"http://[::1]"⟩ none).logout.within default twoPieces

/-- The same conversation after either past. After the first one its pieces are held back, since the
gate has opened just before. -/
theorem logout_forgets_midAnswer :
    (midAnswer.scene ⟨"http://[::1]"⟩ none).client.execution.gate.held = some "ab" ∧
    (midAnswer.scene ⟨"http://[::1]"⟩ none).liveMark? = some 0 ∧
    (midAnswer.scene ⟨"http://[::1]"⟩ none).logout.isCancelled 0 = true ∧
    (midAnswer.loggedOut.run (.login "new" 0 :: converse 3 3)).client.execution.gate.held =
      some "ab" ∧
    midAnswer.loggedOut.sparesTurns (.login "new" 0 :: converse 3 3) = true ∧
    midAnswer.loggedOut.seen (.login "new" 0 :: converse 3 3) =
      uneventful.loggedOut.seen (.login "new" 0 :: converse 3 0) := by
  have same : List.Forall₂ Move.Renumbers (.login "new" 0 :: converse 3 3)
      (.login "new" 0 :: converse 3 0) :=
    .cons (.same _) (.cons (.same _) (.cons (.advance rfl) (.cons (.advance rfl)
      (.cons (.advance rfl) .nil))))
  obtain ⟨hforgotten, hseen⟩ := logout_forgets ⟨"http://[::1]"⟩ none midAnswer
  -- The run is evaluated once for all that the theorem asks for.
  obtain ⟨hheld, hlive, hlater, hspared⟩ :
      (midAnswer.scene ⟨"http://[::1]"⟩ none).client.execution.gate.held = some "ab" ∧
      (midAnswer.scene ⟨"http://[::1]"⟩ none).liveMark? = some 0 ∧
      (midAnswer.loggedOut.run (.login "new" 0 :: converse 3 3)).client.execution.gate.held =
        some "ab" ∧
      midAnswer.loggedOut.sparesTurns (.login "new" 0 :: converse 3 3) = true := by decide +kernel
  exact ⟨hheld, hlive, hforgotten.live 0 hlive, hlater, hspared,
    hseen uneventful default twoPieces _ _ same hspared⟩

end BranchChat.Scene
