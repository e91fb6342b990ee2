import Mathlib.Data.Bool.AllAny
import BranchChat.Proofs.Web.Extending
import BranchChat.Proofs.Web.Steps

/-!
# Where the addresses of a conversation lead

A conversation and its artifacts have addresses below the base address of the backend, with the
identifier as one step. Where the identifier is a dot or two dots, that step is no segment: the
address leads to the list of all conversations, or above it.

## Main definitions

- `IsFront`: the path of a base address without its last slashes
- `Call.LeadsTo`: where the address of a call leads
- `conversationSteps`, `artifactsSteps`: the path of a conversation, and that of its artifacts

## Main statements

- `IsBase.exists_leadsTo`: all addresses of conversations and artifacts
- `conversationSteps_inj`, `artifactsSteps_inj`: different identifiers have different paths
-/

namespace BranchChat.Web

open BranchChat.Text.Percent (encode unreserved)

variable {address id other : String} {u : Url} {path : List String}

/-- The address of a call is the address `u` with another path. -/
def Call.LeadsTo (c : Call) (u : Url) (path : List String) : Prop :=
  Url.parse? c.address = .ok { u with path := .segments path }

theorem Call.LeadsTo.unique {c : Call} {path' : List String} (h : c.LeadsTo u path)
    (h' : c.LeadsTo u path') : path = path' := by
  have hsame := Except.ok.inj (h.symm.trans h')
  exact Url.Path.segments.inj (congrArg Url.path hsame)

namespace Url

open Trail (below)

variable {scheme : String}

/-- The path of a base address begins with `front`, and then it only has the empty segments that
the slashes at its end make. With one slash for these the backend takes it for a folder. -/
structure IsFront (address : String) (u : Url) (front : List String) : Prop where
  path_eq : ∃ k, u.path = .segments (front ++ List.replicate k "")
  folder : parse? ((Backend.ofAddress address).base ++ "/") =
    .ok { u with path := .segments (front ++ [""]) }

/-- The path of a conversation below that of the base address. -/
def conversationSteps (id : String) : List String :=
  if id = ".." then ["api", ""]
  else if id = "." then ["api", "conversations", ""]
  else ["api", "conversations", Backend.step id]

/-- The path of the artifacts of a conversation below that of the base address. -/
def artifactsSteps (id : String) : List String :=
  if id = ".." then ["api", "artifacts"]
  else if id = "." then ["api", "conversations", "artifacts"]
  else ["api", "conversations", Backend.step id, "artifacts"]

/-! ### Paths -/

/-- What is written below the conversations. -/
def underConversations (rest : List Char) : List Char :=
  "api".toList ++ '/' :: ("conversations".toList ++ '/' :: rest)

theorem isPlainSegment_api : IsPlainSegment "api".toList :=
  ⟨noSlash_of_any (by decide), by decide, by decide⟩

theorem isPlainSegment_conversations : IsPlainSegment "conversations".toList :=
  ⟨noSlash_of_any (by decide), by decide, by decide⟩

theorem isPlainSegment_artifacts : IsPlainSegment "artifacts".toList :=
  ⟨noSlash_of_any (by decide), by decide, by decide⟩

theorem pathAfter_underConversations (h : IsWeb scheme) (above : List String) (rest : List Char) :
    pathAfter scheme (below above) (underConversations rest) =
      pathAfter scheme (below ("conversations" :: "api" :: above)) rest := by
  rw [underConversations, pathAfter_below_cons h isPlainSegment_api,
    pathAfter_below_cons h isPlainSegment_conversations]
  rfl

/-- The path of a conversation. -/
theorem pathAfter_conversation (h : IsWeb scheme) (above : List String) (id : String) :
    pathAfter scheme (below above) (underConversations (Backend.step id).toList) =
      above.reverse ++ conversationSteps id := by
  rw [pathAfter_underConversations h, conversationSteps]
  by_cases hdouble : id = ".."
  · subst hdouble
    rw [if_pos rfl, pathAfter_segment h (noSlash_of_any (by decide))]
    show ("" :: "api" :: above).reverse = _
    simp
  · rw [if_neg hdouble]
    by_cases hsingle : id = "."
    · subst hsingle
      rw [if_pos rfl, pathAfter_segment h (noSlash_of_any (by decide))]
      show ("" :: "conversations" :: "api" :: above).reverse = _
      simp
    · rw [if_neg hsingle, pathAfter_below h (Backend.isPlainSegment_step hsingle hdouble),
        Backend.encode_step]
      simp

/-- The path of the artifacts of a conversation. -/
theorem pathAfter_artifacts (h : IsWeb scheme) (above : List String) (id : String) :
    pathAfter scheme (below above)
        (underConversations ((Backend.step id).toList ++ '/' :: "artifacts".toList)) =
      above.reverse ++ artifactsSteps id := by
  have hlast (above : List String) :
      pathAfter scheme (below above) "artifacts".toList = above.reverse ++ ["artifacts"] :=
    pathAfter_below h isPlainSegment_artifacts above
  rw [pathAfter_underConversations h, artifactsSteps]
  by_cases hdouble : id = ".."
  · subst hdouble
    rw [if_pos rfl, pathAfter_segment_cons h (noSlash_of_any (by decide))]
    show pathAfter scheme (below ("api" :: above)) _ = _
    rw [hlast]
    simp
  · rw [if_neg hdouble]
    by_cases hsingle : id = "."
    · subst hsingle
      rw [if_pos rfl, pathAfter_segment_cons h (noSlash_of_any (by decide))]
      show pathAfter scheme (below ("conversations" :: "api" :: above)) _ = _
      rw [hlast]
      simp
    · rw [if_neg hsingle, pathAfter_below_cons h (Backend.isPlainSegment_step hsingle hdouble),
        Backend.encode_step, hlast]
      simp

/-- The last step tells the identifiers apart, the number of steps tells the dots from others. -/
theorem conversationSteps_inj (hid : id ≠ "") (hother : other ≠ "")
    (h : conversationSteps id = conversationSteps other) : id = other := by
  have hne := Backend.step_ne_empty hid
  have hne' := Backend.step_ne_empty hother
  unfold conversationSteps at h
  split at h <;> split at h <;> grind [Backend.step_injective.eq_iff]

theorem artifactsSteps_inj (h : artifactsSteps id = artifactsSteps other) : id = other := by
  unfold artifactsSteps at h
  split at h <;> split at h <;> grind [Backend.step_injective.eq_iff]

/-! ### Addresses -/

theorem isTail_of_forall {more : List Char} (h : ∀ c ∈ more, c = '/' ∨ IsStepChar c) :
    IsTail ('/' :: more) := by
  have hinert : ∀ c ∈ '/' :: more, (c ≠ '#' ∧ c ≠ '?') ∧ 0x20 < c.toNat := by
    intro c hc
    have hall : c = '/' ∨ IsStepChar c := by
      rcases List.mem_cons.mp hc with rfl | hc
      · exact .inl rfl
      · exact h c hc
    rcases hall with rfl | hstep
    · decide
    · exact ⟨hstep.isInert.noMark, hstep.isInert.visible⟩
  exact ⟨fun c hc => (Option.some.inj hc).symm, fun c hc => (hinert c hc).1,
    fun c hc => (hinert c hc).2⟩

theorem isTail_underConversations {rest : List Char} (h : ∀ c ∈ rest, c = '/' ∨ IsStepChar c) :
    IsTail ('/' :: underConversations rest) := by
  apply isTail_of_forall
  have hfront : ∀ c ∈ underConversations [], c = '/' ∨ IsStepChar c :=
    List.all_iff_forall_prop.mp (by decide)
  have hparts : underConversations rest = underConversations [] ++ rest := rfl
  rw [hparts]
  exact List.forall_mem_append.mpr ⟨hfront, h⟩

theorem isStepChar_of_mem_step {c : Char} (h : c ∈ (Backend.step id).toList) : IsStepChar c := by
  rw [Backend.toList_step] at h
  exact Text.Percent.of_mem_encode_unreserved h

theorem address_conversation (address id : String) :
    ((Backend.ofAddress address).conversation id).address =
      .ofList (unslashed address ++ '/' :: underConversations (Backend.step id).toList) := by
  apply String.toList_inj.mp
  show (String.ofList (unslashed address) ++ "/api/conversations/" ++ Backend.step id).toList = _
  simp only [String.toList_append, String.toList_ofList, List.append_assoc]
  rfl

theorem address_artifacts (address id : String) :
    ((Backend.ofAddress address).artifacts id).address = .ofList (unslashed address ++
      '/' :: underConversations ((Backend.step id).toList ++ '/' :: "artifacts".toList)) := by
  apply String.toList_inj.mp
  show (String.ofList (unslashed address) ++ "/api/conversations/" ++ Backend.step id ++
    "/artifacts").toList = _
  simp only [String.toList_append, String.toList_ofList, List.append_assoc]
  rfl

/-- Where the addresses of conversations and artifacts lead, whatever the identifier is. -/
theorem IsBase.exists_leadsTo (h : IsBase address u) :
    ∃ front, IsFront address u front ∧ ∀ id,
      ((Backend.ofAddress address).conversation id).LeadsTo u (front ++ conversationSteps id) ∧
        ((Backend.ofAddress address).artifacts id).LeadsTo u (front ++ artifactsSteps id) := by
  obtain ⟨above, hpath, hextend⟩ := h.exists_extending
  refine ⟨above.reverse, ⟨hpath, ?_⟩, fun id => ⟨?_, ?_⟩⟩
  · have hfolder := hextend [] (isTail_of_forall fun c hc => absurd hc List.not_mem_nil)
    rw [pathAfter_below h.web isPlainSegment_nil] at hfolder
    have haddress : (Backend.ofAddress address).base ++ "/" =
        .ofList (unslashed address ++ ['/']) := by
      rw [String.ofList_append]
      rfl
    rw [haddress]
    exact hfolder
  · rw [Call.LeadsTo, address_conversation, ← pathAfter_conversation h.web]
    exact hextend _ (isTail_underConversations fun c hc => .inr (isStepChar_of_mem_step hc))
  · rw [Call.LeadsTo, address_artifacts, ← pathAfter_artifacts h.web]
    have hlast : ∀ c ∈ '/' :: "artifacts".toList, c = '/' ∨ IsStepChar c :=
      List.all_iff_forall_prop.mp (by decide)
    refine hextend _ (isTail_underConversations (List.forall_mem_append.mpr ⟨?_, hlast⟩))
    exact fun c hc => .inr (isStepChar_of_mem_step hc)

end Url

end BranchChat.Web
