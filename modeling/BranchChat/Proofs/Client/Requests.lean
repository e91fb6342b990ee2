import BranchChat.Client.Turn

/-!
# What requests change

A request takes replies from the network, and a refused one gives up the credential. Everything else
stays as it was: the turn, the workspace and the live connection. A request that is answered has
taken exactly one reply.

## Main definitions

- `Kept`: two scenes that differ only in what requests change
- `Requested`: what a request can do
- `Undisturbed`: two scenes with the same turn and the same connection

## Main statements

- `requested_call`, `kept_call`: what a request can do, and that it changes nothing else
- `takeOver_eq_error`, `takeOver_eq_ok`, `reconcile_eq`: what fetching a conversation changes
- `call_eq_ok`, `openEvents_eq_ok`: the reply behind an answer
-/

namespace BranchChat.Scene

open BranchChat.Json (ReaderOf)
open BranchChat.Stream (Arrival Connection)
open BranchChat.Web

/-- What requests do not change from `s` to `t`. -/
structure Kept (s t : Scene) : Prop where
  backend : t.client.backend = s.client.backend
  workspace : t.client.workspace = s.client.workspace
  execution : t.client.execution = s.client.execution
  live : t.client.live = s.client.live
  mark : t.client.mark = s.client.mark
  marks : t.marks = s.marks

variable {s t u : Scene}

theorem Kept.refl (s : Scene) : Kept s s :=
  ⟨rfl, rfl, rfl, rfl, rfl, rfl⟩

theorem Kept.trans (h : Kept s t) (h' : Kept t u) : Kept s u where
  backend := h'.backend.trans h.backend
  workspace := h'.workspace.trans h.workspace
  execution := h'.execution.trans h.execution
  live := h'.live.trans h.live
  mark := h'.mark.trans h.mark
  marks := h'.marks.trans h.marks

/-! ### Requests of any outcome -/

/-- What a request can do, whatever comes of it: it takes a reply from the network, or it takes
none, and it may end the session. -/
inductive Requested (s : Scene) : Scene → Prop
  | sent (network : Network) : Requested s { s with network }
  | refused (network : Network) : Requested s (expire { s with network })

theorem Requested.refl (s : Scene) : Requested s s :=
  .sent s.network

theorem requested_exchange (s : Scene) (r : Request) : Requested s (s.exchange r).1 := by
  unfold exchange
  dsimp only
  split
  · exact .sent _
  · split
    · exact .refused _
    · split <;> exact .sent _

theorem requested_call {α : Type} (s : Scene) (read : ReaderOf α) (c : Call) :
    Requested s (s.call read c).1 := by
  unfold call
  split
  · exact .refl s
  · next r _ =>
    have h := s.requested_exchange r
    split
    all_goals next heq => rwa [heq] at h

theorem requested_of_call {α : Type} {read : ReaderOf α} {c : Call} {answer : Except ApiError α}
    (h : s.call read c = (t, answer)) : Requested s t := by
  have hrequested := s.requested_call read c
  rwa [h] at hrequested

theorem requested_abandonCall (s : Scene) (c : Call) : Requested s (s.abandonCall c) := by
  unfold abandonCall
  split
  · exact .refl s
  · exact .sent _

theorem requested_of_openEvents {address : String} {mark : Nat}
    {answer : Except ApiError Connection} (h : s.openEvents address mark = (t, answer)) :
    Requested s t := by
  have hrequested : Requested s (s.openEvents address mark).1 := by
    unfold openEvents
    split
    · exact .refused s.network
    · split
      · exact .refl s
      · split
        · exact .refl s
        · next r _ =>
          have h := s.requested_exchange r
          split
          all_goals next heq => rwa [heq] at h
  rwa [h] at hrequested

/-! ### What requests leave alone -/

theorem kept_expire (s : Scene) : Kept s s.expire :=
  ⟨rfl, rfl, rfl, rfl, rfl, rfl⟩

theorem Requested.kept (h : Requested s t) : Kept s t := by
  cases h <;> exact ⟨rfl, rfl, rfl, rfl, rfl, rfl⟩

theorem kept_call {α : Type} (s : Scene) (read : ReaderOf α) (c : Call) :
    Kept s (s.call read c).1 :=
  (s.requested_call read c).kept

theorem kept_of_call {α : Type} {read : ReaderOf α} {c : Call} {answer : Except ApiError α}
    (h : s.call read c = (t, answer)) : Kept s t :=
  (requested_of_call h).kept

theorem kept_abandonCall (s : Scene) (c : Call) : Kept s (s.abandonCall c) :=
  (s.requested_abandonCall c).kept

theorem kept_of_openEvents {address : String} {mark : Nat} {answer : Except ApiError Connection}
    (h : s.openEvents address mark = (t, answer)) : Kept s t :=
  (requested_of_openEvents h).kept

/-! ### Operations that only make requests -/

/-- The turn and its connection are the same in `s` and `t`. -/
structure Undisturbed (s t : Scene) : Prop where
  execution : t.client.execution = s.client.execution
  live : t.client.live = s.client.live
  mark : t.client.mark = s.client.mark
  marks : t.marks = s.marks

theorem Kept.undisturbed (h : Kept s t) : Undisturbed s t :=
  ⟨h.execution, h.live, h.mark, h.marks⟩

theorem Undisturbed.onWorkspace (h : Undisturbed s t) (change : Workspace → Workspace) :
    Undisturbed s (t.onWorkspace change) :=
  ⟨h.execution, h.live, h.mark, h.marks⟩

/-- Where either request fails nothing is taken over. -/
theorem takeOver_eq_error {id : String} {e : ApiError} (h : s.takeOver id = (t, .error e)) :
    Kept s t := by
  simp only [takeOver, obtainConversation, obtainArtifacts] at h
  split at h
  · next u _ hcall =>
    cases h
    exact kept_of_call hcall
  · next u c hcall =>
    split at h
    · next v _ hartifacts =>
      cases h
      exact (kept_of_call hcall).trans (kept_of_call hartifacts)
    · cases (Prod.mk.inj h).2

/-- Where both succeed, what comes in is a conversation together with a list of artifacts. -/
theorem takeOver_eq_ok {id : String} (h : s.takeOver id = (t, .ok ())) :
    ∃ u c artifacts, Kept s u ∧ t = u.onWorkspace (·.refreshed c artifacts) := by
  simp only [takeOver, obtainConversation, obtainArtifacts] at h
  split at h
  · cases (Prod.mk.inj h).2
  · next u c hcall =>
    split at h
    · cases (Prod.mk.inj h).2
    · next v artifacts hartifacts =>
      obtain ⟨rfl, -⟩ := Prod.mk.inj h
      exact ⟨v, c, artifacts, (kept_of_call hcall).trans (kept_of_call hartifacts), rfl⟩

theorem undisturbed_takeOver (s : Scene) (id : String) : Undisturbed s (s.takeOver id).1 := by
  cases h : s.takeOver id with
  | mk t answer =>
    cases answer with
    | error e => exact (takeOver_eq_error h).undisturbed
    | ok _ =>
      obtain ⟨u, c, artifacts, hu, rfl⟩ := takeOver_eq_ok h
      exact hu.undisturbed.onWorkspace (·.refreshed c artifacts)

theorem undisturbed_loadCatalog (s : Scene) : Undisturbed s s.loadCatalog.1 := by
  unfold loadCatalog
  split
  · next t e hcall => exact (kept_of_call hcall).undisturbed
  · next t catalog hcall => exact (kept_of_call hcall).undisturbed.onWorkspace ({ · with catalog })

theorem undisturbed_login (s : Scene) (token : String) (now : Int) :
    Undisturbed s (s.login token now).1 := by
  unfold login
  split <;> exact ⟨rfl, rfl, rfl, rfl⟩

/-- Fetching the conversation of a completed turn clears the turn away, and touches no
connection. -/
theorem reconcile_eq (s : Scene) (message : Option String) (conversation : String) :
    ∃ t change, Kept s t ∧
      s.reconcile message conversation = (t.onWorkspace change).onExecution Execution.clear := by
  unfold reconcile obtainConversation obtainArtifacts
  split
  · next t e hcall => exact ⟨t, id, kept_of_call hcall, rfl⟩
  · next t c hcall =>
    have ht := kept_of_call hcall
    split
    · next u e hartifacts => exact ⟨u, id, ht.trans (kept_of_call hartifacts), rfl⟩
    · next u artifacts hartifacts => exact ⟨u, _, ht.trans (kept_of_call hartifacts), rfl⟩

/-! ### Requests that are answered -/

/-- The reply to a request that is answered with a body. -/
theorem exchange_eq_ok {r : Request} {body : List Arrival} (h : s.exchange r = (t, .ok body)) :
    ∃ status, isSuccess status = true ∧
      s.network.replies = .answered status body :: t.network.replies := by
  unfold exchange at h
  cases hn : s.network.exchange r with
  | mk network answer =>
    rw [hn] at h
    cases answer with
    | error fault => cases (Prod.mk.inj h).2
    | ok answered =>
      obtain ⟨status, body'⟩ := answered
      dsimp only at h
      split at h
      · cases (Prod.mk.inj h).2
      · split at h
        · next hsuccess =>
          obtain ⟨rfl, hbody⟩ := Prod.mk.inj h
          obtain rfl := Except.ok.inj hbody
          refine ⟨status, hsuccess, ?_⟩
          unfold Network.exchange at hn
          split at hn
          · cases (Prod.mk.inj hn).2
          · cases (Prod.mk.inj hn).2
          · cases (Prod.mk.inj hn).2
          · next heq =>
            obtain ⟨rfl, hanswer⟩ := Prod.mk.inj hn
            obtain ⟨rfl, rfl⟩ := Prod.mk.inj (Except.ok.inj hanswer)
            exact heq
        · cases (Prod.mk.inj h).2

/-- The reply to a call that is answered. -/
theorem call_eq_ok {α : Type} {read : ReaderOf α} {c : Call} {a : α}
    (h : s.call read c = (t, .ok a)) :
    ∃ status body, isSuccess status = true ∧ readBody read body = .ok a ∧
      s.network.replies = .answered status body :: t.network.replies := by
  unfold call at h
  split at h
  · cases (Prod.mk.inj h).2
  · split at h
    · cases (Prod.mk.inj h).2
    · next hexchange =>
      obtain ⟨rfl, hread⟩ := Prod.mk.inj h
      obtain ⟨status, hsuccess, hreplies⟩ := exchange_eq_ok hexchange
      exact ⟨status, _, hsuccess, hread, hreplies⟩

/-- The reply to the request for a connection that is not cancelled. -/
theorem openEvents_eq_ok {address : String} {mark : Nat} {c : Connection}
    (h : s.openEvents address mark = (t, .ok c)) (fresh : s.isCancelled mark = false) :
    ∃ status body, isSuccess status = true ∧ c = .opened body ∧
      s.network.replies = .answered status body :: t.network.replies := by
  unfold openEvents at h
  split at h
  · cases (Prod.mk.inj h).2
  · rw [fresh] at h
    simp only [Bool.false_eq_true, if_false] at h
    split at h
    · cases (Prod.mk.inj h).2
    · split at h
      · cases (Prod.mk.inj h).2
      · next hexchange =>
        obtain ⟨rfl, hc⟩ := Prod.mk.inj h
        obtain ⟨status, hsuccess, hreplies⟩ := exchange_eq_ok hexchange
        exact ⟨status, _, hsuccess, (Except.ok.inj hc).symm, hreplies⟩

end BranchChat.Scene

/-! ### Replies for examples -/

namespace BranchChat

/-- An answer whose body is a text. -/
def Web.Reply.ofText (status : UInt16) (text : String) : Reply :=
  .answered status [.bytes (Text.Utf8.bytes text.toList), .finish]

/-- The scene on a network that gives these replies. -/
def Scene.facing (s : Scene) (replies : List Web.Reply) : Scene :=
  { s with network.replies := replies }

end BranchChat
