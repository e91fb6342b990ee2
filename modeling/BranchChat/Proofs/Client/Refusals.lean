import Mathlib.Control.Monad.Basic
import BranchChat.Proofs.Client.Runs
import BranchChat.Proofs.Client.Sending

/-!
# Refusals

A backend refuses a request if it does not accept the token in it. Each operation exchanges requests
for replies, one after the other, and a refusal is the last thing that it exchanges: the token is
gone then, and without a token nothing is sent any more. Nothing else that can come back makes an
operation give the token up.

## Main definitions

- `Web.Exchanges`: requests together with what became of them
- `Scene.Dealings`: what an operation has exchanged, and what it means for the token
- `Scene.Answers`: dealings of an operation that answers something

## Main statements

- `Dealings.append`: a refusal ends all dealings
- `dealings_step`: the dealings of every operation
- `network_run_of_no_token`: without a token nothing is sent until the user logs in
- `refusal_ends_session`: all of it together
-/

namespace BranchChat

open BranchChat.Json (ReaderOf)
open BranchChat.Stream (Arrival Connection)
open BranchChat.Web

/-! ### Exchanges -/

namespace Web

/-- Whether a reply says that the token is not accepted. -/
def Reply.isRefusal : Reply → Bool
  | .answered status _ => isUnauthorized status
  | _ => false

/-- Whether the request that a reply belongs to has got through to the backend. -/
def Reply.isOfRead : Reply → Bool
  | .unreachable => false
  | _ => true

/-- Requests in order, each with what became of it. -/
abbrev Exchanges := List (Request × Reply)

/-- The requests that have got through. -/
def Exchanges.requests (log : Exchanges) : List Request :=
  (log.filter (·.2.isOfRead)).map Prod.fst

/-- Whether a request was refused. -/
def Exchanges.isRefused (log : Exchanges) : Bool :=
  log.any (·.2.isRefusal)

theorem Exchanges.requests_append (log log' : Exchanges) :
    Exchanges.requests (log ++ log') = log.requests ++ log'.requests := by
  simp only [Exchanges.requests, List.filter_append, List.map_append]

theorem Exchanges.isRefused_append (log log' : Exchanges) :
    Exchanges.isRefused (log ++ log') = (log.isRefused || log'.isRefused) :=
  List.any_append

theorem Exchanges.isRefused_iff {log : Exchanges} :
    log.isRefused = true ↔ ∃ x ∈ log, x.2.isRefusal = true :=
  List.any_eq_true

theorem Exchanges.isRefused_eq_false_iff {log : Exchanges} :
    log.isRefused = false ↔ ∀ x ∈ log, x.2.isRefusal = false := by
  simp only [Exchanges.isRefused, List.any_eq_false, Bool.not_eq_true]

end Web

namespace Scene

variable {s t u : Scene} {e : ApiError} {log log' : Exchanges}

/-! ### Dealings -/

/-- The token that requests carry now. -/
def token? (s : Scene) : Option String :=
  s.client.credential.token

/-- From `s` to `t` the requests of `log` were made and came to what `log` says. All of them carried
the token of `s`, and only the last one can have been refused. If so there is no token in `t`, and
otherwise it is the same. -/
structure Dealings (s t : Scene) (log : Exchanges) : Prop where
  replies : s.network.replies = log.map Prod.snd ++ t.network.replies
  sent : Sends s t log.requests
  token : ∀ x ∈ log, s.token? = some x.1.token
  last : ∀ x ∈ log.dropLast, x.2.isRefusal = false
  kept : log.isRefused = false → t.token? = s.token?
  lost : log.isRefused = true → t.token? = none

theorem Dealings.nothing (network : t.network = s.network) (token : t.token? = s.token?) :
    Dealings s t [] where
  replies := by rw [network]; rfl
  sent := .of_network_eq network
  token := by intro x hx; cases hx
  last := by intro x hx; cases hx
  kept := fun _ => token
  lost := by intro h; cases h

/-- After a refusal nothing more is exchanged, since there is no token for it. -/
theorem Dealings.eq_nil_of_isRefused (h : Dealings s t log) (h' : Dealings t u log')
    (refused : log.isRefused = true) : log' = [] := by
  cases log' with
  | nil => rfl
  | cons x more =>
    have htoken := h'.token x List.mem_cons_self
    rw [h.lost refused] at htoken
    cases htoken

theorem Dealings.append (h : Dealings s t log) (h' : Dealings t u log') :
    Dealings s u (log ++ log') := by
  by_cases refused : log.isRefused = true
  · obtain rfl := h.eq_nil_of_isRefused h' refused
    rw [List.append_nil]
    have hreplies : t.network.replies = u.network.replies := h'.replies
    have hsent : u.network.sent = t.network.sent := Eq.trans h'.sent (List.append_nil _)
    have htoken : u.token? = t.token? := h'.kept rfl
    refine ⟨?_, ?_, h.token, h.last, fun hno => ?_, fun _ => ?_⟩
    · rw [h.replies, hreplies]
    · rw [Sends, hsent, h.sent]
    · rw [refused] at hno
      cases hno
    · rw [htoken, h.lost refused]
  · rw [Bool.not_eq_true] at refused
    have htoken := h.kept refused
    refine ⟨?_, ?_, ?_, ?_, ?_, ?_⟩
    · rw [h.replies, h'.replies, List.map_append, List.append_assoc]
    · rw [Exchanges.requests_append]
      exact Sends.trans h.sent h'.sent
    · intro x hx
      rcases List.mem_append.mp hx with hx | hx
      · exact h.token x hx
      · rw [← htoken]
        exact h'.token x hx
    · intro x hx
      by_cases hnil : log' = []
      · rw [hnil, List.append_nil] at hx
        exact h.last x hx
      · rw [List.dropLast_append_of_ne_nil hnil] at hx
        rcases List.mem_append.mp hx with hx | hx
        · exact Exchanges.isRefused_eq_false_iff.mp refused x hx
        · exact h'.last x hx
    · intro hno
      rw [Exchanges.isRefused_append, refused, Bool.false_or] at hno
      rw [h'.kept hno, htoken]
    · intro hyes
      rw [Exchanges.isRefused_append, refused, Bool.false_or] at hyes
      exact h'.lost hyes

/-- What changes neither the network nor the token may come after dealings. -/
theorem Dealings.followed (h : Dealings s t log) (network : u.network = t.network)
    (token : u.token? = t.token?) : Dealings s u log := by
  have hdealt := h.append (.nothing network token)
  rwa [List.append_nil] at hdealt

/-- An operation has dealt as `log` says, and gives an answer: that the session is over, if a
request was refused, and only if there is no token now. -/
structure Answers {α : Type} (s : Scene) (result : Scene × Except ApiError α) (log : Exchanges) :
    Prop extends Dealings s result.1 log where
  refused : log.isRefused = true → result.2 = .error .sessionExpired
  expired : result.2 = .error .sessionExpired → result.1.token? = none

variable {α β : Type}

/-- Where no request was refused, any answer will do but that the session is over. -/
theorem Dealings.accepted {answer : Except ApiError α} (h : Dealings s t log)
    (accepted : log.isRefused = false) (hanswer : answer ≠ .error .sessionExpired) :
    Answers s (t, answer) log where
  toDealings := h
  refused := by
    intro refused
    rw [accepted] at refused
    cases refused
  expired := fun hexpired => absurd hexpired hanswer

theorem Answers.nothing {answer : Except ApiError α} (network : t.network = s.network)
    (token : t.token? = s.token?) (hanswer : answer ≠ .error .sessionExpired) :
    Answers s (t, answer) [] :=
  (Dealings.nothing network token).accepted rfl hanswer

theorem Answers.isRefused_eq_false {a : α} (h : Answers s (t, .ok a) log) :
    log.isRefused = false := by
  rw [← Bool.not_eq_true]
  intro refused
  cases h.refused refused

/-- An answer that is passed on. -/
theorem Answers.error (h : Answers s (t, (.error e : Except ApiError α)) log) :
    Answers s (t, (.error e : Except ApiError β)) log where
  toDealings := h.toDealings
  refused := by
    intro refused
    obtain rfl := Except.error.inj (h.refused refused)
    rfl
  expired := by
    intro hexpired
    obtain rfl := Except.error.inj hexpired
    exact h.expired rfl

/-- An operation that goes on after dealings without a refusal. -/
theorem Dealings.answers {result : Scene × Except ApiError α} (h : Dealings s t log)
    (accepted : log.isRefused = false) (h' : Answers t result log') :
    Answers s result (log ++ log') where
  toDealings := h.append h'.toDealings
  refused := by
    rw [Exchanges.isRefused_append, accepted, Bool.false_or]
    exact h'.refused
  expired := h'.expired

/-- What changes neither the network nor the token may come before an operation. -/
theorem Answers.preceded {result : Scene × Except ApiError α} (h : Answers t result log)
    (network : t.network = s.network) (token : t.token? = s.token?) : Answers s result log :=
  Dealings.answers (.nothing network token) rfl h

/-- What changes neither the network nor the token may come after an operation. -/
theorem Answers.followed {a : α} {answer : Except ApiError β} (h : Answers s (t, .ok a) log)
    (network : u.network = t.network) (token : u.token? = t.token?)
    (hanswer : answer ≠ .error .sessionExpired) : Answers s (u, answer) log :=
  (h.toDealings.followed network token).accepted h.isRefused_eq_false hanswer

/-! ### Requests -/

theorem Dealings.single {r : Request} {reply : Reply}
    (replies : s.network.replies = reply :: t.network.replies)
    (sent : Sends s t (Exchanges.requests [(r, reply)])) (token : s.token? = some r.token)
    (kept : reply.isRefusal = false → t.token? = s.token?)
    (lost : reply.isRefusal = true → t.token? = none) : Dealings s t [(r, reply)] where
  replies := replies
  sent := sent
  token := by
    intro x hx
    obtain rfl := List.mem_singleton.mp hx
    exact token
  last := by intro x hx; cases hx
  kept := by
    simp only [Exchanges.isRefused, List.any_cons, List.any_nil, Bool.or_false]
    exact kept
  lost := by
    simp only [Exchanges.isRefused, List.any_cons, List.any_nil, Bool.or_false]
    exact lost

/-- A request with the token of the scene is exchanged for one reply, if there is one. -/
theorem answers_exchange {r : Request} (token : s.token? = some r.token) :
    ∃ log, Answers s (s.exchange r) log := by
  simp only [exchange, Network.exchange]
  cases hreplies : s.network.replies with
  | nil => exact ⟨[], .nothing rfl rfl (by simp)⟩
  | cons reply rest =>
    refine ⟨[(r, reply)], ?_⟩
    cases reply with
    | unreachable =>
      have hdealt : Dealings s { s with network.replies := rest } [(r, .unreachable)] :=
        .single hreplies (List.append_nil _).symm token (fun _ => rfl) nofun
      exact hdealt.accepted rfl nofun
    | unanswered =>
      have hdealt : Dealings s { s with network := ⟨rest, s.network.sent ++ [r]⟩ }
          [(r, .unanswered)] :=
        .single hreplies rfl token (fun _ => rfl) nofun
      exact hdealt.accepted rfl nofun
    | answered status body =>
      by_cases hunauthorized : isUnauthorized status = true
      · simp only [hunauthorized, if_true]
        have hdealt : Dealings s (expire { s with network := ⟨rest, s.network.sent ++ [r]⟩ })
            [(r, .answered status body)] := by
          refine .single hreplies rfl token (fun haccepted => ?_) (fun _ => rfl)
          rw [Reply.isRefusal, hunauthorized] at haccepted
          cases haccepted
        exact ⟨hdealt, fun _ => rfl, fun _ => rfl⟩
      · rw [Bool.not_eq_true] at hunauthorized
        simp only [hunauthorized, Bool.false_eq_true, if_false]
        have hdealt : Dealings s { s with network := ⟨rest, s.network.sent ++ [r]⟩ }
            [(r, .answered status body)] := by
          refine .single hreplies rfl token (fun _ => rfl) (fun hrefused => ?_)
          rw [Reply.isRefusal, hunauthorized] at hrefused
          cases hrefused
        have haccepted : Exchanges.isRefused [(r, .answered status body)] = false := by
          simp [Exchanges.isRefused, Reply.isRefusal, hunauthorized]
        split
        · exact hdealt.accepted haccepted nofun
        · exact hdealt.accepted haccepted nofun

theorem token_of_requestOf {c : Call} {r : Request} (h : s.requestOf c = .ok r) :
    s.token? = some r.token := by
  simp only [requestOf] at h
  split at h
  · cases h
  · next token htoken =>
    split at h
    · cases h
    · next r' hmake =>
      obtain rfl := Except.ok.inj h
      obtain ⟨-, -, hcarries⟩ := Request.of_make?_eq_ok hmake
      rw [token?, htoken, hcarries]

theorem token_of_requestOf_eq_expired {c : Call} (h : s.requestOf c = .error .sessionExpired) :
    s.token? = none := by
  simp only [requestOf] at h
  split at h
  · next htoken => exact htoken
  · split at h <;> cases h

theorem readBody_ne_expired (read : ReaderOf α) (body : List Arrival) :
    readBody read body ≠ .error .sessionExpired := by
  simp only [readBody]
  split <;> simp

theorem answers_call (s : Scene) (read : ReaderOf α) (c : Call) :
    ∃ log, Answers s (s.call read c) log := by
  simp only [call]
  split
  · next e hrequest =>
    refine ⟨[], .nothing rfl rfl, nofun, fun hexpired => ?_⟩
    obtain rfl := Except.error.inj hexpired
    exact token_of_requestOf_eq_expired hrequest
  · next r hrequest =>
    obtain ⟨log, hexchange⟩ := answers_exchange (token_of_requestOf hrequest)
    refine ⟨log, ?_⟩
    split
    · next t e heq =>
      rw [heq] at hexchange
      exact hexchange.error
    · next t body heq =>
      rw [heq] at hexchange
      exact hexchange.followed rfl rfl (readBody_ne_expired read body)

theorem answers_of_call {read : ReaderOf α} {c : Call} {answer : Except ApiError α}
    (h : s.call read c = (t, answer)) : ∃ log, Answers s (t, answer) log := by
  obtain ⟨log, hcall⟩ := s.answers_call read c
  rw [h] at hcall
  exact ⟨log, hcall⟩

theorem answers_openEvents (s : Scene) (address : String) (mark : Nat) :
    ∃ log, Answers s (s.openEvents address mark) log := by
  simp only [openEvents]
  split
  · next htoken =>
    have hdealt : Dealings s s.expire [] := .nothing rfl htoken.symm
    refine ⟨[], hdealt, fun hrefused => ?_, fun _ => rfl⟩
    cases hrefused
  · next token htoken =>
    split
    · exact ⟨[], .nothing rfl rfl (by simp)⟩
    · split
      · exact ⟨[], .nothing rfl rfl (by simp)⟩
      · next r hmake =>
        have hcarries : s.token? = some r.token := by
          rw [(Request.of_make?_eq_ok hmake).2.2]
          exact htoken
        obtain ⟨log, hexchange⟩ := answers_exchange hcarries
        refine ⟨log, ?_⟩
        split
        · next t e heq =>
          rw [heq] at hexchange
          exact hexchange.error
        · next t body heq =>
          rw [heq] at hexchange
          exact hexchange.followed rfl rfl (by simp)

theorem token_abort (s : Scene) : s.abort.token? = s.token? :=
  congrArg Session.Credential.token (abort_credential s)

theorem streamAddress?_ne_expired (b : Backend) (reference : String) :
    b.streamAddress? reference ≠ .error .sessionExpired := by
  simp only [Backend.streamAddress?]
  split
  · simp
  · split <;> simp

theorem answers_attach (s : Scene) (reference : String) :
    ∃ log, Answers s (s.attach reference) log := by
  simp only [attach]
  split
  · next e haddress =>
    refine ⟨[], .nothing (abort_network s) (token_abort s) ?_⟩
    rintro ⟨⟩
    exact streamAddress?_ne_expired _ _ haddress
  · next address _ =>
    generalize hasked : ({ s.abort with
      marks.issued := s.abort.marks.issued + 1
      client.mark := some s.abort.marks.issued } : Scene) = asked
    have hnetwork : asked.network = s.network := by
      rw [← hasked]
      exact abort_network s
    have htoken : asked.token? = s.token? := by
      rw [← hasked]
      exact token_abort s
    obtain ⟨log, hopen⟩ := asked.answers_openEvents address s.abort.marks.issued
    refine ⟨log, ?_⟩
    split
    · next t e heq =>
      rw [heq] at hopen
      exact (hopen.preceded hnetwork htoken).error
    · next t connection heq =>
      rw [heq] at hopen
      exact (hopen.preceded hnetwork htoken).followed rfl rfl (by simp)

theorem answers_of_attach {reference : String} {answer : Except ApiError Unit}
    (h : s.attach reference = (t, answer)) : ∃ log, Answers s (t, answer) log := by
  obtain ⟨log, hattach⟩ := s.answers_attach reference
  rw [h] at hattach
  exact ⟨log, hattach⟩

/-! ### Operations -/

/-- Taking note of a failure gives the token up only where it is gone already. -/
theorem token_noteFailure (h : e = .sessionExpired → s.token? = none) :
    (s.noteFailure e).token? = s.token? := by
  have hexpired : (s.afterExpiry e).token? = s.token? := by
    cases e with
    | sessionExpired => exact (h rfl).symm
    | _ => rfl
  rw [noteFailure_eq]
  split
  · exact (token_abort _).trans hexpired
  · exact hexpired

theorem Answers.noteFailure (h : Answers s (t, (.error e : Except ApiError α)) log) :
    Answers s (t.noteFailure e, (.error e : Except ApiError α)) log := by
  have htoken : (t.noteFailure e).token? = t.token? := by
    refine token_noteFailure fun hexpired => ?_
    exact h.expired (by rw [hexpired])
  exact ⟨h.toDealings.followed (network_noteFailure t e) htoken, h.refused,
    fun hexpired => htoken.trans (h.expired hexpired)⟩

theorem answers_send (s : Scene) (content : String) (parent : Option String) :
    ∃ log, Answers s (s.send content parent) log := by
  simp only [send]
  generalize hbegun : s.abort.onExecution _ = begun
  have hnetwork : begun.network = s.network := by
    rw [← hbegun]
    exact abort_network s
  have htoken : begun.token? = s.token? := by
    rw [← hbegun]
    exact token_abort s
  split
  · next t e heq =>
    obtain ⟨log, hcall⟩ := answers_of_call heq
    exact ⟨log, (hcall.preceded hnetwork htoken).error.noteFailure⟩
  · next t turn heq =>
    obtain ⟨log, hcall⟩ := answers_of_call heq
    have hstarted := hcall.preceded hnetwork htoken
    split
    · next u e heq' =>
      obtain ⟨log', hattach⟩ := answers_of_attach heq'
      have hfailed := hattach.preceded (s := t) rfl rfl
      exact ⟨log ++ log', (hstarted.answers hcall.isRefused_eq_false hfailed).noteFailure⟩
    · next u heq' =>
      obtain ⟨log', hattach⟩ := answers_of_attach heq'
      have hopened := hattach.preceded (s := t) rfl rfl
      exact ⟨log ++ log', hstarted.answers hcall.isRefused_eq_false hopened⟩

theorem answers_resume (s : Scene) (approved : Bool) :
    ∃ log, Answers s (s.resume approved) log := by
  simp only [resume]
  split
  · exact ⟨[], .nothing rfl rfl (by simp)⟩
  · split
    · exact ⟨[], Answers.noteFailure (.nothing rfl rfl (by simp))⟩
    · split
      · next t e heq =>
        obtain ⟨log, hcall⟩ := answers_of_call heq
        exact ⟨log, hcall.error.noteFailure⟩
      · next t turn heq =>
        obtain ⟨log, hcall⟩ := answers_of_call heq
        split
        · next u e heq' =>
          obtain ⟨log', hattach⟩ := answers_of_attach heq'
          exact ⟨log ++ log', (hcall.answers hcall.isRefused_eq_false hattach).noteFailure⟩
        · next u heq' =>
          obtain ⟨log', hattach⟩ := answers_of_attach heq'
          refine ⟨log ++ log', hcall.answers hcall.isRefused_eq_false ?_⟩
          exact hattach.followed rfl rfl (by simp)

theorem answers_takeOver (s : Scene) (id : String) :
    ∃ log, Answers s (s.takeOver id) log := by
  simp only [takeOver, obtainConversation, obtainArtifacts]
  split
  · next t e heq =>
    obtain ⟨log, hcall⟩ := answers_of_call heq
    exact ⟨log, hcall.error⟩
  · next t conversation heq =>
    obtain ⟨log, hcall⟩ := answers_of_call heq
    split
    · next u e heq' =>
      obtain ⟨log', hartifacts⟩ := answers_of_call heq'
      exact ⟨log ++ log', (hcall.answers hcall.isRefused_eq_false hartifacts).error⟩
    · next u artifacts heq' =>
      obtain ⟨log', hartifacts⟩ := answers_of_call heq'
      refine ⟨log ++ log', hcall.answers hcall.isRefused_eq_false ?_⟩
      exact hartifacts.followed rfl rfl (by simp)

theorem answers_visit (s : Scene) (id : String) : ∃ log, Answers s (s.visit id) log := by
  obtain ⟨log, htake⟩ := s.answers_takeOver id
  refine ⟨log, ?_⟩
  simp only [visit]
  split
  · next t e heq =>
    rw [heq] at htake
    exact htake.noteFailure
  · next t heq =>
    rw [heq] at htake
    exact htake

theorem answers_loadCatalog (s : Scene) : ∃ log, Answers s s.loadCatalog log := by
  simp only [loadCatalog]
  split
  · next t e heq =>
    obtain ⟨log, hcall⟩ := answers_of_call heq
    exact ⟨log, hcall.error⟩
  · next t catalog heq =>
    obtain ⟨log, hcall⟩ := answers_of_call heq
    exact ⟨log, hcall.followed rfl rfl (by simp)⟩

/-- Taking a delivery exchanges nothing, and even a broken connection is no refusal. -/
theorem token_fold (s : Scene) (moment : Execution.Moment) :
    (s.fold moment).1.token? = s.token? := by
  have hdrop (t : Scene) : t.dropLive.token? = t.token? :=
    congrArg Session.Credential.token (dropLive_credential t)
  simp only [fold]
  split
  · rfl
  · split
    · rfl
    · exact hdrop _
    · simp only [foldEvent]
      split
      · rfl
      · rfl
      · exact token_abort _
      · split <;> exact token_abort _
    · exact hdrop _
    · split <;> exact hdrop _
    · refine token_noteFailure fun hexpired => ?_
      cases hexpired

theorem token_settle (s : Scene) (message : Option String)
    (fetched : Option (Conversation × List Artifact)) :
    (s.settle message fetched).token? = s.token? := by
  simp only [settle]
  split <;> rfl

/-- Fetching the conversation of a completed turn deals with the backend, and whatever fails there
is not reported. -/
theorem dealings_reconcile (s : Scene) (message : Option String) (conversation : String) :
    ∃ log, Dealings s (s.reconcile message conversation) log := by
  simp only [reconcile, obtainConversation, obtainArtifacts]
  split
  · next t e heq =>
    obtain ⟨log, hcall⟩ := answers_of_call heq
    exact ⟨log, hcall.toDealings.followed (network_settle ..) (token_settle ..)⟩
  · next t c heq =>
    obtain ⟨log, hcall⟩ := answers_of_call heq
    split
    · next u e heq' =>
      obtain ⟨log', hartifacts⟩ := answers_of_call heq'
      exact ⟨log ++ log', (hcall.toDealings.append hartifacts.toDealings).followed
        (network_settle ..) (token_settle ..)⟩
    · next u artifacts heq' =>
      obtain ⟨log', hartifacts⟩ := answers_of_call heq'
      exact ⟨log ++ log', (hcall.toDealings.append hartifacts.toDealings).followed
        (network_settle ..) (token_settle ..)⟩

theorem dealings_advance (s : Scene) (moment : Execution.Moment) :
    ∃ log, Dealings s (s.advance moment).1 log := by
  have hfold := Dealings.nothing (s.network_fold moment) (s.token_fold moment)
  simp only [advance]
  split
  · next t p heq =>
    rw [heq] at hfold
    exact ⟨[], hfold⟩
  · next t message conversation heq =>
    rw [heq] at hfold
    obtain ⟨log, hreconcile⟩ := t.dealings_reconcile message conversation
    exact ⟨log, hfold.append hreconcile⟩

/-! ### All moves -/

/-- Whether a move is carried out with the credential that is there: the user neither logs in nor
out by it, and every request in it is waited for. -/
def Move.isOperation : Move → Bool
  | .login .. | .logout | .abandon _ => false
  | _ => true

/-- Whether the user logs in by a move. -/
def Move.isLogin : Move → Bool
  | .login .. => true
  | _ => false

/-- What a move answers the user, where it answers anything. -/
def answer? (s : Scene) : Move → Option (Except ApiError Unit)
  | .send content parent => some (s.send content parent).2
  | .resume approved => some (s.resume approved).2
  | .visit id => some (s.visit id).2
  | .loadCatalog => some s.loadCatalog.2
  | _ => none

/-- The dealings of every operation. Where it answers the user, a refusal is what it answers. -/
theorem dealings_step (s : Scene) {move : Move} (h : move.isOperation = true) :
    ∃ log, Dealings s (s.step move) log ∧
      (log.isRefused = true → ∀ answer ∈ s.answer? move, answer = .error .sessionExpired) := by
  have hanswer {result : Scene × Except ApiError Unit} (hdealt : ∃ log, Answers s result log) :
      ∃ log, Dealings s result.1 log ∧ (log.isRefused = true →
        ∀ answer ∈ some result.2, answer = .error .sessionExpired) := by
    obtain ⟨log, hlog⟩ := hdealt
    refine ⟨log, hlog.toDealings, fun refused answer hmem => ?_⟩
    obtain rfl := Option.some.inj hmem
    exact hlog.refused refused
  cases move with
  | send content parent => exact hanswer (s.answers_send content parent)
  | resume approved => exact hanswer (s.answers_resume approved)
  | stop now => exact ⟨[], .nothing (abort_network s) (token_abort s), nofun⟩
  | frame now => exact ⟨[], .nothing rfl rfl, nofun⟩
  | advance moment =>
    obtain ⟨log, hadvance⟩ := s.dealings_advance moment
    exact ⟨log, hadvance, fun _ => nofun⟩
  | fold moment => exact ⟨[], .nothing (s.network_fold moment) (s.token_fold moment), nofun⟩
  | fetch id =>
    obtain ⟨log, hcall⟩ := s.answers_call Conversation.read (s.client.backend.conversation id)
    exact ⟨log, hcall.toDealings, fun _ => nofun⟩
  | visit id => exact hanswer (s.answers_visit id)
  | loadCatalog => exact hanswer s.answers_loadCatalog
  | browse w => exact ⟨[], .nothing rfl rfl, nofun⟩
  | abandon call => cases h
  | login token now => cases h
  | logout => cases h

/-- Every request that a move sends carries the token that there is before it. -/
theorem sends_step (s : Scene) (move : Move) :
    ∃ requests, Sends s (s.step move) requests ∧
      ∀ r ∈ requests, s.token? = some r.token := by
  have hnothing {t : Scene} (h : t.network = s.network) :
      ∃ requests, Sends s t requests ∧ ∀ r ∈ requests, s.token? = some r.token :=
    ⟨[], .of_network_eq h, fun r hr => absurd hr List.not_mem_nil⟩
  by_cases h : move.isOperation = true
  · obtain ⟨log, hlog, -⟩ := s.dealings_step h
    refine ⟨log.requests, hlog.sent, fun r hr => ?_⟩
    obtain ⟨x, hx, rfl⟩ := List.mem_map.mp hr
    exact hlog.token x (List.mem_filter.mp hx).1
  · cases move with
    | abandon call =>
      simp only [step, abandonCall]
      split
      · exact hnothing rfl
      · next r hrequest =>
        -- The network has not read the request, or it has read this one alone.
        rcases s.network.exchange_cases r with ⟨hsame, -⟩ | hsent
        · exact ⟨[], hsame.trans (List.append_nil _).symm, fun r hr => absurd hr List.not_mem_nil⟩
        · refine ⟨[r], hsent, fun r' hr' => ?_⟩
          rw [List.mem_singleton.mp hr']
          exact token_of_requestOf hrequest
    | login token now =>
      apply hnothing
      simp only [step, login]
      split <;> rfl
    | logout => exact hnothing (abort_network s)
    | _ => exact absurd rfl h

/-- Without a token nothing is sent, and no move but logging in brings one. -/
theorem network_step_of_no_token (h : s.token? = none) {move : Move}
    (hlogin : move.isLogin = false) :
    (s.step move).network = s.network ∧ (s.step move).token? = none := by
  by_cases hoperation : move.isOperation = true
  · obtain ⟨log, hlog, -⟩ := s.dealings_step hoperation
    cases log with
    | nil =>
      have hreplies : s.network.replies = (s.step move).network.replies := hlog.replies
      have hsent : (s.step move).network.sent = s.network.sent :=
        Eq.trans hlog.sent (List.append_nil _)
      refine ⟨?_, (hlog.kept rfl).trans h⟩
      calc (s.step move).network
          = ⟨(s.step move).network.replies, (s.step move).network.sent⟩ := rfl
        _ = s.network := by rw [← hreplies, hsent]
    | cons x more =>
      have htoken := hlog.token x List.mem_cons_self
      rw [h] at htoken
      cases htoken
  · cases move with
    | abandon call =>
      have hrequest : s.requestOf call = .error .sessionExpired := by
        have hnone : s.client.credential.token = none := h
        simp only [requestOf, hnone]
      have hsame : s.step (.abandon call) = s := by
        simp only [step, abandonCall, hrequest]
      rw [hsame]
      exact ⟨rfl, h⟩
    | login token now => cases hlogin
    | logout => exact ⟨abort_network s, rfl⟩
    | _ => exact absurd rfl hoperation

theorem network_run_of_no_token (h : s.token? = none) {moves : List Move}
    (hlogin : ∀ move ∈ moves, move.isLogin = false) : (s.run moves).network = s.network := by
  induction moves generalizing s with
  | nil => rfl
  | cons move moves ih =>
    obtain ⟨hmove, hmoves⟩ := List.forall_mem_cons.mp hlogin
    obtain ⟨hnetwork, htoken⟩ := network_step_of_no_token h hmove
    exact (ih htoken hmoves).trans hnetwork

/-- A refused token is given up, and only a refused one. Whatever is done, each request that is sent
carries the token of that time. An operation exchanges requests for replies in order; if none of
them is refused it leaves the token as it was, whatever the replies are. A refusal is the last thing
that an operation exchanges. Then there is no token any more, the operation answers the user that
the session is over, and nothing is sent before the user logs in. -/
theorem refusal_ends_session (s : Scene) :
    (∀ move, ∃ requests, Sends s (s.step move) requests ∧
      ∀ r ∈ requests, s.client.credential.token = some r.token) ∧
    ∀ move, move.isOperation = true → ∃ log : Exchanges,
      s.network.replies = log.map Prod.snd ++ (s.step move).network.replies ∧
      Sends s (s.step move) log.requests ∧
      (∀ x ∈ log, s.client.credential.token = some x.1.token) ∧
      (∀ x ∈ log.dropLast, x.2.isRefusal = false) ∧
      ((∀ x ∈ log, x.2.isRefusal = false) →
        (s.step move).client.credential.token = s.client.credential.token) ∧
      ((∃ x ∈ log, x.2.isRefusal = true) →
        (s.step move).client.credential.token = none ∧
        (∀ answer ∈ s.answer? move, answer = .error .sessionExpired) ∧
        ∀ moves, (∀ later ∈ moves, later.isLogin = false) →
          ((s.step move).run moves).network = (s.step move).network) := by
  refine ⟨s.sends_step, fun move h => ?_⟩
  obtain ⟨log, hlog, hanswer⟩ := s.dealings_step h
  refine ⟨log, hlog.replies, hlog.sent, hlog.token, hlog.last, fun hnone => ?_, fun hsome => ?_⟩
  · exact hlog.kept (Exchanges.isRefused_eq_false_iff.mpr hnone)
  · have refused := Exchanges.isRefused_iff.mpr hsome
    exact ⟨hlog.lost refused, hanswer refused, fun moves hlogin =>
      network_run_of_no_token (hlog.lost refused) hlogin⟩

/-- A client whose turn is over and whose backend gives the conversation, and then this reply. -/
def visiting (reply : Reply) : Scene :=
  facing (start (.new ⟨"http://[::1]"⟩ (.unstored (some "token")) (.fresh 16)) default .offline)
    [.ofText 200 "\x7b\"id\":\"c\"\x7d", reply, .ofText 200 "[]"]

theorem refusal_ends_session_visiting :
    let refused := visiting (.ofText 401 "")
    let busy := visiting (.ofText 503 "")
    (refused.visit "c").2 = .error .sessionExpired ∧
    (refused.step (.visit "c")).client.credential.token = none ∧
    (refused.step (.visit "c")).network.sent.map Request.token = ["token", "token"] ∧
    ((refused.step (.visit "c")).run [.loadCatalog, .send "Hi" none]).network =
      (refused.step (.visit "c")).network ∧
    (busy.visit "c").2 = .error (.status 503 "") ∧
    (busy.step (.visit "c")).client.credential.token = some "token" := by
  intro refused busy
  obtain ⟨-, hdealt⟩ := refusal_ends_session refused
  obtain ⟨log, hreplies, -, -, -, -, hlost⟩ := hdealt (.visit "c") rfl
  obtain ⟨-, hdealt'⟩ := refusal_ends_session busy
  obtain ⟨log', hreplies', -, -, -, hkept, -⟩ := hdealt' (.visit "c") rfl
  obtain ⟨hrest, hanswer, hsent⟩ :
      (refused.step (.visit "c")).network.replies = [.ofText 200 "[]"] ∧
      (refused.visit "c").2 = .error .sessionExpired ∧
      (refused.step (.visit "c")).network.sent.map Request.token = ["token", "token"] := by
    decide +kernel
  obtain ⟨hrest', hanswer'⟩ : (busy.step (.visit "c")).network.replies = [.ofText 200 "[]"] ∧
      (busy.visit "c").2 = .error (.status 503 "") := by
    decide +kernel
  rw [hrest] at hreplies
  rw [hrest'] at hreplies'
  -- The replies that were taken are the first two.
  have htaken (reply : Reply) (log : Exchanges)
      (h : (visiting reply).network.replies = log.map Prod.snd ++ [.ofText 200 "[]"]) :
      log.map Prod.snd = [.ofText 200 "\x7b\"id\":\"c\"\x7d", reply] := by
    have hsplit : [.ofText 200 "\x7b\"id\":\"c\"\x7d", reply] ++ [.ofText 200 "[]"] =
        log.map Prod.snd ++ [.ofText 200 "[]"] := h
    exact (List.append_cancel_right hsplit).symm
  have hrefusal : ∃ x ∈ log, x.2.isRefusal = true := by
    have hmem : Reply.ofText 401 "" ∈ log.map Prod.snd := by
      rw [htaken _ log hreplies]
      exact List.mem_cons_of_mem _ List.mem_cons_self
    obtain ⟨x, hx, hreply⟩ := List.mem_map.mp hmem
    refine ⟨x, hx, ?_⟩
    rw [hreply]
    rfl
  have haccepted : ∀ x ∈ log', x.2.isRefusal = false := by
    have hall : ∀ reply ∈ log'.map Prod.snd, reply.isRefusal = false := by
      rw [htaken _ log' hreplies']
      decide +kernel
    exact fun x hx => hall x.2 (List.mem_map_of_mem hx)
  obtain ⟨hnone, -, hsilent⟩ := hlost hrefusal
  exact ⟨hanswer, hnone, hsent, hsilent _ (by decide), hanswer', hkept haccepted⟩

end Scene

end BranchChat
