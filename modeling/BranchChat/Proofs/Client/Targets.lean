import BranchChat.Proofs.Client.Sending
import BranchChat.Proofs.Web.Endpoints

/-!
# Where the requests for a conversation go

The requests for a conversation and for its artifacts go to the host of the base address. Their path
is that of the base address, and what is asked for, with the identifier as one segment; only for one
dot and two dots there is no such segment. There is no query. Different identifiers are asked for at
different addresses.

## Main definitions

- `Request.Reaches`: where a request goes
- `IsSegmentOf`: a segment that stands for a text
- `KeepsPlace`: the addresses of a conversation have its identifier as one segment

## Main statements

- `keepsPlace_iff`: all identifiers but the dots have addresses of their own below the base address
-/

namespace BranchChat

open BranchChat.Web
open BranchChat.Text.Percent (decode)
open BranchChat.Text.Utf8 (bytes)

namespace Web

variable {u : Url} {path : List String} {c : Call} {r : Request}

/-- The request goes to the host of the address `u`, with the given path and without a query. -/
structure Request.Reaches (r : Request) (u : Url) (path : List String) : Prop where
  scheme_eq : r.target.scheme = u.scheme
  host_eq : r.target.host = u.host
  portNumber_eq : r.target.portNumber = u.portNumber
  path_eq : r.target.path = .segments path
  noQuery : r.target.query = none
  noFragment : r.target.fragment = none

/-- A request goes to the address of its call, perhaps without the user information. -/
theorem Request.exists_of_make? {method : Method} {address token : String} {forEvents : Bool}
    {body : Option Json.Value}
    (h : Request.make? method address token forEvents body = .ok r) :
    ∃ v user, Url.parse? address = .ok v ∧ r.target = { v with userinfo := user } := by
  unfold Request.make? at h
  split at h
  · cases h
  · next v hparse =>
    dsimp only at h
    generalize htarget : (if namesUser v then { v with userinfo := "" } else v) = target at h
    have hr : r.target = target := by
      split at h
      · cases h
      · split at h
        · cases h
        · split at h
          · obtain rfl := Except.ok.inj h
            rfl
          · cases h
    rw [hr, ← htarget]
    by_cases hnames : namesUser v = true
    · exact ⟨v, "", hparse, if_pos hnames⟩
    · exact ⟨v, v.userinfo, hparse, if_neg hnames⟩

/-- The call leads to where its requests go. -/
theorem Call.LeadsTo.reaches (hc : c.LeadsTo u path) (hquery : u.query = none)
    (hfragment : u.fragment = none) (h : r.CarriesOut c) : r.Reaches u path := by
  obtain ⟨token, hmake⟩ := h
  obtain ⟨v, user, hparse, htarget⟩ := Request.exists_of_make? hmake
  obtain rfl := Except.ok.inj (hc.symm.trans hparse)
  exact
    { scheme_eq := (congrArg Url.scheme htarget :)
      host_eq := (congrArg Url.host htarget :)
      portNumber_eq := (congrArg Url.portNumber htarget :)
      path_eq := (congrArg Url.path htarget :)
      noQuery := (congrArg Url.query htarget :).trans hquery
      noFragment := (congrArg Url.fragment htarget :).trans hfragment }

/-- Requests that reach different paths have different targets. -/
theorem Request.Reaches.target_ne {r' : Request} {path' : List String} (h : r.Reaches u path)
    (h' : r'.Reaches u path') (hne : path ≠ path') : r.target ≠ r'.target := by
  intro htarget
  have hsame : Url.Path.segments path = .segments path' := by
    rw [← h.path_eq, ← h'.path_eq, htarget]
  exact hne (Url.Path.segments.inj hsame)

/-! ### Identifiers -/

/-- The identifiers that are dot segments of a path. -/
def IsDots (id : String) : Prop :=
  id = "." ∨ id = ".."

/-- A segment that is not empty, is divided nowhere, and stands for a text. -/
structure IsSegmentOf (segment text : String) : Prop where
  ne_empty : segment ≠ ""
  noSlash : '/' ∉ segment.toList
  decode_eq : decode segment.toList = bytes text.toList

theorem isSegmentOf_step {id : String} (h : id ≠ "") : IsSegmentOf (Backend.step id) id :=
  ⟨Backend.step_ne_empty h, Backend.slash_not_mem_step id, Backend.decode_step id⟩

/-- The addresses of a conversation and of its artifacts lead below the path of the base address,
with the identifier as one segment. -/
structure KeepsPlace (b : Backend) (u : Url) (front : List String) (id : String) : Prop where
  conversation : (b.conversation id).LeadsTo u (front ++ ["api", "conversations", Backend.step id])
  artifacts : (b.artifacts id).LeadsTo u
    (front ++ ["api", "conversations", Backend.step id, "artifacts"])

/-- The requests for two identifiers have different targets. Where neither is made of dots, this is
also so for one that asks for a conversation and one that asks for artifacts. -/
structure ToldApart (b : Backend) (id other : String) : Prop where
  conversations : ∀ r r' : Request, r.CarriesOut (b.conversation id) →
    r'.CarriesOut (b.conversation other) → r.target ≠ r'.target
  artifacts : ∀ r r' : Request, r.CarriesOut (b.artifacts id) →
    r'.CarriesOut (b.artifacts other) → r.target ≠ r'.target
  both : ¬IsDots id → ¬IsDots other → ∀ r r' : Request, r.CarriesOut (b.conversation id) →
    r'.CarriesOut (b.artifacts other) → r.target ≠ r'.target

section

variable {address id other : String} {front : List String}

theorem conversationSteps_of_not_isDots (h : ¬IsDots id) :
    Url.conversationSteps id = ["api", "conversations", Backend.step id] := by
  rw [Url.conversationSteps, if_neg fun hid => h (.inr hid), if_neg fun hid => h (.inl hid)]

theorem artifactsSteps_of_not_isDots (h : ¬IsDots id) :
    Url.artifactsSteps id = ["api", "conversations", Backend.step id, "artifacts"] := by
  rw [Url.artifactsSteps, if_neg fun hid => h (.inr hid), if_neg fun hid => h (.inl hid)]

theorem conversationSteps_of_isDots (h : IsDots id) :
    Url.conversationSteps id ≠ ["api", "conversations", Backend.step id] := by
  rcases h with rfl | rfl <;> decide

/-- An identifier has an address of its own unless it is made of dots. -/
theorem keepsPlace_iff_of_leadsTo {b : Backend}
    (hconversation : (b.conversation id).LeadsTo u (front ++ Url.conversationSteps id))
    (hartifacts : (b.artifacts id).LeadsTo u (front ++ Url.artifactsSteps id)) :
    KeepsPlace b u front id ↔ ¬IsDots id := by
  constructor
  · intro hkeeps hdots
    have hsame := hconversation.unique hkeeps.conversation
    exact conversationSteps_of_isDots hdots (List.append_cancel_left hsame)
  · intro hdots
    rw [conversationSteps_of_not_isDots hdots] at hconversation
    rw [artifactsSteps_of_not_isDots hdots] at hartifacts
    exact ⟨hconversation, hartifacts⟩

/-- Different identifiers are asked for at different addresses. -/
theorem toldApart_of_ne (h : Url.IsBase address u) (hid : id ≠ "") (hother : other ≠ "")
    (hne : id ≠ other) : ToldApart (.ofAddress address) id other := by
  obtain ⟨front, -, hleads⟩ := h.exists_leadsTo
  have hconversation (id : String) (r : Request)
      (hr : r.CarriesOut ((Backend.ofAddress address).conversation id)) :=
    (hleads id).1.reaches h.noQuery h.noFragment hr
  have hartifacts (id : String) (r : Request)
      (hr : r.CarriesOut ((Backend.ofAddress address).artifacts id)) :=
    (hleads id).2.reaches h.noQuery h.noFragment hr
  refine ⟨fun r r' hr hr' => ?_, fun r r' hr hr' => ?_, fun hdots hdots' r r' hr hr' => ?_⟩
  · apply (hconversation id r hr).target_ne (hconversation other r' hr')
    exact fun hsame => hne (Url.conversationSteps_inj hid hother (List.append_cancel_left hsame))
  · apply (hartifacts id r hr).target_ne (hartifacts other r' hr')
    exact fun hsame => hne (Url.artifactsSteps_inj (List.append_cancel_left hsame))
  · apply (hconversation id r hr).target_ne (hartifacts other r' hr')
    rw [conversationSteps_of_not_isDots hdots, artifactsSteps_of_not_isDots hdots']
    simp

end

end Web

/-! ### Requests of a scene -/

namespace Scene

/-- An operation sends at most one request, which reaches the path, and it has sent it if it
succeeds. -/
def AsksAt {α : Type} (s : Scene) (outcome : Scene × Except ApiError α) (u : Url)
    (path : List String) : Prop :=
  ∃ sent, SendsOne s outcome.1 (·.Reaches u path) sent ∧
    ∀ a, outcome.2 = .ok a → sent.isSome = true

theorem asksAt_call {α : Type} {u : Url} {path : List String} (s : Scene) (read : Json.ReaderOf α)
    {c : Call} (hc : c.LeadsTo u path) (hquery : u.query = none) (hfragment : u.fragment = none) :
    s.AsksAt (s.call read c) u path := by
  obtain ⟨sent, ⟨hsends, honly⟩, hok⟩ := s.sends_call read c
  exact ⟨sent, ⟨hsends, fun r hr => hc.reaches hquery hfragment (honly r hr)⟩, hok⟩

end Scene

/-- Of all identifiers only one dot and two dots have no addresses of their own below the base
address. For the others the requests go there. Different identifiers are asked for at different
addresses. -/
theorem keepsPlace_iff {address : String} {u : Url} (h : Url.IsBase address u) :
    ∃ front, Url.IsFront address u front ∧ ∀ id, id ≠ "" →
      IsSegmentOf (Backend.step id) id ∧
      (KeepsPlace (.ofAddress address) u front id ↔ ¬IsDots id) ∧
      (¬IsDots id → ∀ s : Scene, s.client.backend = .ofAddress address →
        s.AsksAt (s.obtainConversation id) u
          (front ++ ["api", "conversations", Backend.step id]) ∧
        s.AsksAt (s.obtainArtifacts id) u
          (front ++ ["api", "conversations", Backend.step id, "artifacts"])) ∧
      ∀ other, other ≠ "" → id ≠ other → ToldApart (.ofAddress address) id other := by
  obtain ⟨front, hfront, hleads⟩ := h.exists_leadsTo
  refine ⟨front, hfront, fun id hid => ?_⟩
  have hkeeps := keepsPlace_iff_of_leadsTo (hleads id).1 (hleads id).2
  refine ⟨isSegmentOf_step hid, hkeeps, fun hdots s hbackend => ?_,
    fun other hother => toldApart_of_ne h hid hother⟩
  obtain ⟨hconversation, hartifacts⟩ := hkeeps.mpr hdots
  rw [← hbackend] at hconversation hartifacts
  exact ⟨s.asksAt_call _ hconversation h.noQuery h.noFragment,
    s.asksAt_call _ hartifacts h.noQuery h.noFragment⟩

/-- A backend in a folder of its host. -/
def folderUrl : Url :=
  { scheme := "http", userinfo := "", host := some "[::1]", portNumber := none
    path := .segments ["a", ""], query := none, fragment := none }

theorem isBase_folderUrl : Url.IsBase "http://[::1]/a/" folderUrl where
  reads := by decide +kernel
  web := .inl rfl
  noQuery := rfl
  noFragment := rfl
  ends := by
    rintro c ⟨⟩
    decide

theorem isFront_folderUrl {front : List String}
    (h : Url.IsFront "http://[::1]/a/" folderUrl front) : front = ["a"] := by
  have hread : Url.parse? ((Backend.ofAddress "http://[::1]/a/").base ++ "/") =
      .ok { folderUrl with path := .segments (["a"] ++ [""]) } := by
    decide +kernel
  have hpath := congrArg Url.path (Except.ok.inj (h.folder.symm.trans hread))
  exact List.append_cancel_right (Url.Path.segments.inj hpath)

/-- Slashes, dots and question marks within an identifier are no danger. -/
theorem keepsPlace_folderUrl :
    Url.IsBase "http://[::1]/a/" folderUrl ∧
      KeepsPlace (.ofAddress "http://[::1]/a/") folderUrl ["a"] "x/../y?z" ∧
      ¬KeepsPlace (.ofAddress "http://[::1]/a/") folderUrl ["a"] ".." := by
  obtain ⟨front, hfront, hids⟩ := keepsPlace_iff isBase_folderUrl
  obtain rfl := isFront_folderUrl hfront
  have hplain : ¬IsDots "x/../y?z" := by
    rintro (h | h) <;> exact absurd h (by decide)
  refine ⟨isBase_folderUrl, (hids _ (by decide)).2.1.mpr hplain, fun hkeeps => ?_⟩
  exact (hids _ (by decide)).2.1.mp hkeeps (.inr rfl)

/-- Two dots lead above the conversations, so there is no segment for them. -/
theorem conversation_dots_leave :
    ((Backend.ofAddress "http://[::1]/a/").conversation "..").LeadsTo folderUrl ["a", "api", ""] ∧
      ¬∃ segment, IsSegmentOf segment ".." ∧
        ((Backend.ofAddress "http://[::1]/a/").conversation "..").LeadsTo folderUrl
          ["a", "api", "conversations", segment] := by
  obtain ⟨front, hfront, hleads⟩ := isBase_folderUrl.exists_leadsTo
  obtain rfl := isFront_folderUrl hfront
  have hread := (hleads "..").1
  refine ⟨hread, ?_⟩
  rintro ⟨segment, -, hsegment⟩
  have hpath := hread.unique hsegment
  simp [Url.conversationSteps] at hpath

end BranchChat
