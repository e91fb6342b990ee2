import BranchChat.Proofs.Client.Opening

/-!
# What is sent

An operation sends the requests that it is made of, each of them at most once, in order. A request
that reaches nobody is not sent, and then the operation fails. Of all requests only one that goes on
with a turn tells the backend a decision of the user.

## Main definitions

- `Request.CarriesOut`: a request carries a call out
- `Request.isDecision`, `Network.decisions`: the requests that tell a decision
- `Scene.Sends`: what was sent from one scene to another

## Main statements

- `sends_call`, `sends_attach`: one operation sends at most this request
- `decisions_send`, `decisions_visit`, `network_fold`: these operations tell no decision
-/

namespace BranchChat

open BranchChat.Execution (Moment)
open BranchChat.Json (ReaderOf Value)
open BranchChat.Stream (Arrival Connection)
open BranchChat.Web

/-! ### Requests -/

namespace Web

/-- The request carries a call out, with some token. -/
def Request.CarriesOut (r : Request) (c : Call) : Prop :=
  ∃ token, Request.make? c.method c.address token false c.body = .ok r

/-- Whether a request tells the backend a decision of the user. -/
def Request.isDecision (r : Request) : Bool :=
  (r.body.bind (·.field? "approved")).isSome

/-- The decisions that the network has read. -/
def Network.decisions (n : Network) : List Request :=
  n.sent.filter (·.isDecision)

theorem Request.filter_isDecision_eq_nil {sent : Option Request}
    (h : ∀ r ∈ sent, r.isDecision = false) : sent.toList.filter (·.isDecision) = [] := by
  rw [List.filter_eq_nil_iff]
  intro r hr
  rw [h r (Option.mem_toList.mp hr)]
  exact Bool.false_ne_true

theorem Request.of_make?_eq_ok {method : Method} {address token : String} {forEvents : Bool}
    {body : Option Value} {r : Request}
    (h : Request.make? method address token forEvents body = .ok r) :
    r.body = body ∧ r.forEvents = forEvents ∧ r.token = token := by
  unfold Request.make? at h
  split at h
  · cases h
  · dsimp only at h
    generalize (if namesUser _ then _ else _) = target at h
    split at h
    · cases h
    · split at h
      · cases h
      · split at h
        · obtain rfl := Except.ok.inj h
          exact ⟨rfl, rfl, rfl⟩
        · cases h

theorem Request.CarriesOut.isDecision_eq {r : Request} {c : Call} (h : r.CarriesOut c) :
    r.isDecision = (c.body.bind (·.field? "approved")).isSome := by
  obtain ⟨token, hmake⟩ := h
  rw [Request.isDecision, (Request.of_make?_eq_ok hmake).1]

theorem Request.CarriesOut.isDecision {r : Request} {b : Backend}
    {conversation thread message : String} {approved : Bool}
    (h : r.CarriesOut (b.continueTurn conversation thread message approved)) :
    r.isDecision = true := by
  rw [h.isDecision_eq]
  rfl

/-- A request either fails or is read. -/
theorem Network.exchange_cases (n : Network) (r : Request) :
    ((n.exchange r).1.sent = n.sent ∧ ∃ fault, (n.exchange r).2 = .error fault) ∨
      (n.exchange r).1.sent = n.sent ++ [r] := by
  unfold Network.exchange
  split
  · exact .inl ⟨rfl, _, rfl⟩
  · exact .inl ⟨rfl, _, rfl⟩
  · exact .inr rfl
  · exact .inr rfl

end Web

namespace Scene

variable {s t u : Scene}

/-! ### One request -/

/-- From `s` to `t` the network has read `requests`, in this order. -/
def Sends (s t : Scene) (requests : List Request) : Prop :=
  t.network.sent = s.network.sent ++ requests

theorem Sends.of_network_eq (h : t.network = s.network) : Sends s t [] := by
  rw [Sends, h, List.append_nil]

theorem Sends.trans {requests more : List Request} (h : Sends s t requests) (h' : Sends t u more) :
    Sends s u (requests ++ more) := by
  rw [Sends, h', h, List.append_assoc]

theorem Sends.decisions_eq {requests : List Request} (h : Sends s t requests) :
    t.network.decisions = s.network.decisions ++ requests.filter (·.isDecision) := by
  rw [Network.decisions, h, List.filter_append]
  rfl

/-- At most one request was sent, and only one that has the property `P`. -/
def SendsOne (s t : Scene) (P : Request → Prop) (sent : Option Request) : Prop :=
  Sends s t sent.toList ∧ ∀ r ∈ sent, P r

theorem SendsOne.nothing (P : Request → Prop) (h : t.network = s.network) :
    SendsOne s t P none :=
  ⟨.of_network_eq h, fun _ hmem => nomatch hmem⟩

theorem SendsOne.decisions_eq {P : Request → Prop} {sent : Option Request}
    (h : SendsOne s t P sent) (hP : ∀ r, P r → r.isDecision = false) :
    t.network.decisions = s.network.decisions := by
  have hnone := Request.filter_isDecision_eq_nil fun r hr => hP r (h.2 r hr)
  rw [h.1.decisions_eq, hnone, List.append_nil]

/-- A call tells no decision unless its body does. -/
theorem SendsOne.decisions_eq_of_call {c : Call} {sent : Option Request}
    (h : SendsOne s t (·.CarriesOut c) sent) (hc : (c.body.bind (·.field? "approved")) = none) :
    t.network.decisions = s.network.decisions := by
  refine h.decisions_eq fun r hr => ?_
  rw [hr.isDecision_eq, hc]
  rfl

theorem network_exchange (s : Scene) (r : Request) :
    (s.exchange r).1.network = (s.network.exchange r).1 := by
  unfold exchange
  dsimp only
  split
  · rfl
  · split
    · rfl
    · split <;> rfl

theorem exchange_eq_error {r : Request} {fault : Fault}
    (h : (s.network.exchange r).2 = .error fault) :
    (s.exchange r).2 = .error (.transport fault) := by
  unfold exchange
  dsimp only
  rw [h]

/-- A request is sent at most once, and it is sent if it is answered. -/
theorem sends_exchange (s : Scene) (r : Request) :
    ∃ sent, SendsOne s (s.exchange r).1 (· = r) sent ∧
      ∀ body, (s.exchange r).2 = .ok body → sent.isSome = true := by
  have hnetwork := s.network_exchange r
  rcases s.network.exchange_cases r with ⟨hsame, fault, hfault⟩ | hsent
  · refine ⟨none, ⟨?_, fun _ hmem => nomatch hmem⟩, fun body hok => ?_⟩
    · rw [Sends, hnetwork, hsame, Option.toList_none, List.append_nil]
    · rw [exchange_eq_error hfault] at hok
      cases hok
  · refine ⟨some r, ⟨?_, fun r' hmem => (Option.some.inj hmem).symm⟩, fun _ _ => rfl⟩
    rw [Sends, hnetwork, hsent]
    rfl

theorem carriesOut_of_requestOf {c : Call} {r : Request} (h : s.requestOf c = .ok r) :
    r.CarriesOut c := by
  unfold requestOf at h
  split at h
  · cases h
  · next token _ =>
    split at h
    · cases h
    · next heq =>
      obtain rfl := Except.ok.inj h
      exact ⟨token, heq⟩

/-- A call is at most one request, and it is sent if the call succeeds. -/
theorem sends_call {α : Type} (s : Scene) (read : ReaderOf α) (c : Call) :
    ∃ sent, SendsOne s (s.call read c).1 (·.CarriesOut c) sent ∧
      ∀ a, (s.call read c).2 = .ok a → sent.isSome = true := by
  unfold call
  split
  · exact ⟨none, .nothing _ rfl, fun _ hok => by cases hok⟩
  · next r hrequest =>
    have hcarries := carriesOut_of_requestOf hrequest
    obtain ⟨sent, ⟨hsends, honly⟩, hok⟩ := s.sends_exchange r
    have honly' : ∀ r' ∈ sent, r'.CarriesOut c := by
      intro r' hmem
      rw [honly r' hmem]
      exact hcarries
    split
    · next heq =>
      rw [heq] at hsends
      exact ⟨sent, ⟨hsends, honly'⟩, fun _ hno => by cases hno⟩
    · next body heq =>
      rw [heq] at hsends hok
      exact ⟨sent, ⟨hsends, honly'⟩, fun _ _ => hok body rfl⟩

theorem sends_abandonCall (s : Scene) (c : Call) :
    ∃ sent, SendsOne s (s.abandonCall c) (·.CarriesOut c) sent := by
  unfold abandonCall
  split
  · exact ⟨none, .nothing _ rfl⟩
  · next r hrequest =>
    rcases s.network.exchange_cases r with ⟨hsame, -⟩ | hsent
    · refine ⟨none, ⟨?_, fun _ hmem => nomatch hmem⟩⟩
      rw [Sends, Option.toList_none, List.append_nil]
      exact hsame
    · refine ⟨some r, ⟨hsent, fun r' hmem => ?_⟩⟩
      obtain rfl := Option.some.inj hmem
      exact carriesOut_of_requestOf hrequest

/-! ### Connections -/

/-- The request for the events of a turn. -/
def IsForEvents (r : Request) : Prop :=
  r.forEvents = true ∧ r.body = none

theorem isDecision_of_isForEvents (r : Request) (h : IsForEvents r) : r.isDecision = false := by
  rw [Request.isDecision, h.2]
  rfl

theorem sends_openEvents (s : Scene) (address : String) (mark : Nat) :
    ∃ sent, SendsOne s (s.openEvents address mark).1 IsForEvents sent ∧
      (s.isCancelled mark = false → ∀ c, (s.openEvents address mark).2 = .ok c →
        sent.isSome = true) := by
  unfold openEvents
  split
  · exact ⟨none, .nothing _ rfl, fun _ _ hok => by cases hok⟩
  · split
    · next hcancelled =>
      refine ⟨none, .nothing _ rfl, fun hfresh => ?_⟩
      rw [hfresh] at hcancelled
      cases hcancelled
    · split
      · exact ⟨none, .nothing _ rfl, fun _ _ hok => by cases hok⟩
      · next r hmake =>
        obtain ⟨hbody, hevents, -⟩ := Request.of_make?_eq_ok hmake
        obtain ⟨sent, ⟨hsends, honly⟩, hok⟩ := s.sends_exchange r
        have honly' : ∀ r' ∈ sent, IsForEvents r' := by
          intro r' hmem
          rw [honly r' hmem]
          exact ⟨hevents, hbody⟩
        split
        · next heq =>
          rw [heq] at hsends
          exact ⟨sent, ⟨hsends, honly'⟩, fun _ _ hno => by cases hno⟩
        · next body heq =>
          rw [heq] at hsends hok
          exact ⟨sent, ⟨hsends, honly'⟩, fun _ _ _ => hok body rfl⟩

theorem sends_attach (s : Scene) (reference : String) :
    ∃ sent, SendsOne s (s.attach reference).1 IsForEvents sent ∧
      (s.MarksIssued → (s.attach reference).2 = .ok () → sent.isSome = true) := by
  unfold attach
  dsimp only
  split
  · exact ⟨none, .nothing _ (abort_network s), fun _ hok => by cases hok⟩
  · next address _ =>
    generalize hasked : ({ s.abort with
      marks.issued := s.abort.marks.issued + 1
      client.mark := some s.abort.marks.issued } : Scene) = asked
    have hnetwork : asked.network = s.network := by
      rw [← hasked]
      exact abort_network s
    have hfresh : s.MarksIssued → asked.isCancelled s.abort.marks.issued = false := by
      rw [← hasked]
      exact fun marks => marks.abort.isCancelled_issued
    obtain ⟨sent, ⟨hsends, honly⟩, hok⟩ := asked.sends_openEvents address s.abort.marks.issued
    have hsends' : Sends s (asked.openEvents address s.abort.marks.issued).1 sent.toList := by
      rw [Sends, hsends, hnetwork]
    split
    · next heq =>
      rw [heq] at hsends'
      exact ⟨sent, ⟨hsends', honly⟩, fun _ hno => by cases hno⟩
    · next connection heq =>
      rw [heq] at hsends' hok
      exact ⟨sent, ⟨hsends', honly⟩, fun marks _ => hok (hfresh marks) connection rfl⟩

/-! ### Operations -/

/-- Taking a delivery sends nothing. -/
theorem network_fold (s : Scene) (moment : Moment) : (s.fold moment).1.network = s.network := by
  unfold fold
  split
  · rfl
  · dsimp only
    split
    · rfl
    · exact dropLive_network _
    · unfold foldEvent
      dsimp only
      split
      · rfl
      · rfl
      · exact abort_network _
      · split <;> exact abort_network _
    · exact dropLive_network _
    · split <;> exact dropLive_network _
    · exact network_noteFailure _ _

theorem network_settle (s : Scene) (message : Option String)
    (fetched : Option (Conversation × List Artifact)) :
    (s.settle message fetched).network = s.network := by
  unfold settle
  split <;> rfl

theorem decisions_call {α : Type} (s : Scene) (read : ReaderOf α) {c : Call}
    (h : (c.body.bind (·.field? "approved")) = none) :
    (s.call read c).1.network.decisions = s.network.decisions := by
  obtain ⟨sent, hsends, -⟩ := s.sends_call read c
  exact hsends.decisions_eq_of_call h

theorem decisions_abandonCall (s : Scene) {c : Call}
    (h : (c.body.bind (·.field? "approved")) = none) :
    (s.abandonCall c).network.decisions = s.network.decisions := by
  obtain ⟨sent, hsends⟩ := s.sends_abandonCall c
  exact hsends.decisions_eq_of_call h

theorem decisions_obtainConversation (s : Scene) (id : String) :
    (s.obtainConversation id).1.network.decisions = s.network.decisions :=
  s.decisions_call _ rfl

theorem decisions_obtainArtifacts (s : Scene) (id : String) :
    (s.obtainArtifacts id).1.network.decisions = s.network.decisions :=
  s.decisions_call _ rfl

end Scene

end BranchChat
