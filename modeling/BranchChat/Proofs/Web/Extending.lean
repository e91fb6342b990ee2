import Mathlib.Data.List.Basic
import BranchChat.Proofs.Web.Authorities
import BranchChat.Web.Backend

/-!
# Addresses below a base address

An address of the web without query and fragment may be followed by more path. What is read then is
the same address with a longer path: its own segments stay in front, only the empty ones that its
last slashes make are gone.

## Main definitions

- `IsBase`: what may be the base address of a backend

## Main statements

- `stripped_ofList_append`: nothing around or within the added text is dropped
- `exists_of_parse?`: an address of the web is read as a scheme, slashes and an authority
- `IsBase.exists_extending`: where a text after a base address leads to
-/

namespace BranchChat.Web.Url

open BranchChat.Text (cut)
open Trail (below)

variable {scheme : String} {tail : List Char} {u : Url}

/-! ### Paths after an authority -/

/-- The path after an authority has some segments in front, and then only empty ones. More path that
is written after it lies below these segments. -/
theorem exists_authorityPath (hscheme : IsWeb scheme) {rest : List Char}
    (hrest : ∀ c ∈ rest.head?, isSlash true c = true) :
    ∃ above,
      (∀ more, authorityPath scheme (rest ++ '/' :: more) = pathAfter scheme (below above) more) ∧
      ∃ k, authorityPath scheme rest = above.reverse ++ List.replicate k "" := by
  have hpath (c : Char) (cs : List Char) (hc : isSlash true c = true) :
      authorityPath scheme (c :: cs) = pathAfter scheme (below []) cs := by
    show (if isSlash (isSpecial scheme) c then _ else _) = _
    rw [hscheme.isSpecial, if_pos hc]
    rfl
  cases rest with
  | nil =>
    refine ⟨[], fun more => hpath '/' more rfl, 1, ?_⟩
    show (if isSpecial scheme then _ else _) = _
    rw [hscheme.isSpecial, if_pos rfl]
    rfl
  | cons c cs =>
    have hc := hrest c rfl
    obtain ⟨above, hmore, k, hend⟩ := exists_below hscheme [] cs
    refine ⟨above, fun more => ?_, k, (hpath c cs hc).trans hend⟩
    rw [List.cons_append, hpath c _ hc, hmore]

/-! ### What is dropped -/

/-- The text without controls and spaces before it, and without tabs and line ends within it. -/
def cleaned (cs : List Char) : List Char :=
  (cs.dropWhile fun c => c.toNat ≤ 0x20).filter fun c => c != '\t' && c != '\n' && c != '\r'

/-- Nothing goes at the end of a text whose last character stays. -/
theorem dropWhile_reverse {p : Char → Bool} {cs : List Char}
    (h : ∀ c ∈ cs.getLast?, p c = false) :
    (cs.dropWhile p).reverse.dropWhile p = (cs.dropWhile p).reverse := by
  obtain ⟨edge, hedge⟩ := List.dropWhile_suffix p (l := cs)
  rcases List.eq_nil_or_concat (cs.dropWhile p) with hnil | ⟨front, c, hfront⟩
  · rw [hnil]
    rfl
  · rw [hfront, List.concat_eq_append, ← List.append_assoc] at hedge
    rw [← hedge, List.getLast?_concat] at h
    have hstay : ¬p c = true := by
      rw [h c rfl]
      decide
    rw [hfront, List.concat_eq_append, List.reverse_concat, List.dropWhile_cons_of_neg hstay]

theorem stripped_ofList {cs : List Char} (h : ∀ c ∈ cs.getLast?, 0x20 < c.toNat) :
    stripped (.ofList cs) = cleaned cs := by
  have hedge : ∀ c ∈ cs.getLast?, decide (c.toNat ≤ 0x20) = false :=
    fun c hc => decide_eq_false (Nat.not_le.mpr (h c hc))
  unfold stripped cleaned
  dsimp only
  rw [String.toList_ofList, dropWhile_reverse hedge, List.reverse_reverse]

theorem cleaned_append (htail : IsTail tail) (cs : List Char) :
    cleaned (cs ++ tail) = cleaned cs ++ tail := by
  have hkeep : tail.filter (fun c => c != '\t' && c != '\n' && c != '\r') = tail := by
    apply List.filter_eq_self.mpr
    intro c hc
    have hvisible := htail.visible c hc
    have hne {d : Char} (hd : d.toNat ≤ 0x20) : c ≠ d := by
      rintro rfl
      omega
    have htab : c ≠ '\t' := hne (by decide)
    have hline : c ≠ '\n' := hne (by decide)
    have hreturn : c ≠ '\r' := hne (by decide)
    simp [htab, hline, hreturn]
  unfold cleaned
  rw [dropWhile_append_tail (by decide) htail, List.filter_append, hkeep]

/-! ### Whole addresses -/

theorem exists_of_bind_eq_ok {α β : Type} {x : Except Error α} {f : α → Except Error β} {b : β}
    (h : (x >>= f) = .ok b) : ∃ a, x = .ok a ∧ f a = .ok b := by
  cases x with
  | error e => cases h
  | ok a => exact ⟨a, rfl, h⟩

theorem scheme_fileAfterSlashes {cs : List Char} {d : Divided}
    (h : fileAfterSlashes cs d = .ok u) : u.scheme = "file" := by
  unfold fileAfterSlashes at h
  dsimp only at h
  split at h
  · obtain rfl := Except.ok.inj h
    rfl
  · split at h <;>
    · obtain ⟨host, -, h⟩ := exists_of_bind_eq_ok h
      split at h <;>
      · obtain rfl := Except.ok.inj h
        rfl

theorem scheme_file {cs : List Char} (h : file none cs = .ok u) : u.scheme = "file" := by
  unfold file at h
  dsimp only at h
  split at h
  · split at h
    · split at h
      · split at h
        · exact scheme_fileAfterSlashes h
        · obtain rfl := Except.ok.inj h
          rfl
      · obtain rfl := Except.ok.inj h
        rfl
    · obtain rfl := Except.ok.inj h
      rfl
  · obtain rfl := Except.ok.inj h
    rfl

theorem scheme_afterSlashes {cs : List Char} (h : afterSlashes scheme cs = .ok u) :
    u.scheme = scheme := by
  unfold afterSlashes at h
  dsimp only at h
  split at h
  · obtain ⟨_, hthrow, -⟩ := exists_of_bind_eq_ok h
    cases hthrow
  · split at h <;>
    · obtain ⟨host, -, h⟩ := exists_of_bind_eq_ok h
      split at h <;>
      · obtain ⟨found, -, h⟩ := exists_of_bind_eq_ok h
        obtain rfl := Except.ok.inj h
        rfl

theorem scheme_general {cs : List Char} (h : general scheme cs = .ok u) : u.scheme = scheme := by
  unfold general at h
  split at h
  · exact scheme_afterSlashes h
  · obtain rfl := Except.ok.inj h
    rfl

/-- A text with a scheme of the web goes on with an authority, after all slashes. -/
theorem parse?_of_scheme? {s : String} {rest : List Char} (hscheme : IsWeb scheme)
    (h : scheme? (stripped s) = some (scheme, rest)) :
    parse? s = afterSlashes scheme (rest.dropWhile (isSlash true)) := by
  have hfile : scheme ≠ "file" := ne_of_beq_false hscheme.ne_file
  unfold parse? resolve?
  dsimp only
  rw [h]
  dsimp only
  rw [if_neg hfile, if_pos hscheme.isSpecial]

/-- An address of the web was read as such. -/
theorem exists_of_parse? {s : String} (h : parse? s = .ok u) (hweb : IsWeb u.scheme) :
    ∃ rest, scheme? (stripped s) = some (u.scheme, rest) := by
  have hspecial := hweb.isSpecial
  unfold parse? resolve? at h
  dsimp only at h
  split at h
  · next scheme rest hfound =>
    split at h
    · have hfile := hweb.ne_file
      rw [scheme_file h] at hfile
      cases hfile
    · split at h
      · rw [scheme_afterSlashes h]
        exact ⟨rest, hfound⟩
      · next hplain =>
        rw [scheme_general h] at hspecial
        exact absurd hspecial hplain
  · cases h

/-! ### Base addresses -/

/-- What may be the base address of a backend: an address of the web without query and fragment,
written without anything after it that is dropped. -/
structure IsBase (address : String) (u : Url) : Prop where
  reads : parse? address = .ok u
  web : IsWeb u.scheme
  noQuery : u.query = none
  noFragment : u.fragment = none
  ends : ∀ c ∈ address.toList.getLast?, 0x20 < c.toNat

/-- An address without the slashes at its end. -/
def unslashed (address : String) : List Char :=
  (address.toList.reverse.dropWhile (· == '/')).reverse

theorem exists_unslashed (address : String) :
    ∃ n, address.toList = unslashed address ++ List.replicate n '/' := by
  have hslash : ∀ c ∈ address.toList.reverse.takeWhile (· == '/'), c = '/' := by
    intro c hc
    exact beq_iff_eq.mp (List.mem_takeWhile_imp (p := (· == '/')) hc)
  have hslashes := List.eq_replicate_of_mem hslash
  refine ⟨(address.toList.reverse.takeWhile (· == '/')).length, ?_⟩
  calc address.toList
      = (address.toList.reverse.takeWhile (· == '/') ++
          address.toList.reverse.dropWhile (· == '/')).reverse := by
        rw [List.takeWhile_append_dropWhile, List.reverse_reverse]
    _ = unslashed address ++ (address.toList.reverse.takeWhile (· == '/')).reverse := by
        rw [List.reverse_append]
        rfl
    _ = unslashed address ++ _ := by
        rw [hslashes, List.reverse_replicate, List.length_replicate]

/-- Without a host there is no address. -/
theorem afterSlashes_nil_ne (hscheme : IsWeb scheme) (u : Url) :
    afterSlashes scheme [] ≠ .ok u := by
  rw [afterSlashes_of_forall hscheme fun c hc => absurd hc List.not_mem_nil]
  exact fun h => nomatch h

/-- Before its last slashes, a base address has an authority, with the front of its path after it.
Other text may be written for these slashes. -/
theorem IsBase.exists_authority {address : String} (h : IsBase address u) :
    ∃ a : Authority, (∀ c ∈ a.rest.head?, isSlash true c = true) ∧
      (∃ n, u = Authority.url u.scheme { a with rest := a.rest ++ List.replicate n '/' }) ∧
      ∀ tail, IsTail tail → tail ≠ [] → parse? (.ofList (unslashed address ++ tail)) =
        .ok (Authority.url u.scheme { a with rest := a.rest ++ tail }) := by
  obtain ⟨n, haddress⟩ := exists_unslashed address
  have hslashes := isTail_slashes n
  have hstripped : stripped address = cleaned (unslashed address) ++ List.replicate n '/' := by
    have hall := stripped_ofList h.ends
    rw [String.ofList_toList, haddress, cleaned_append hslashes] at hall
    exact hall
  -- The scheme ends before these slashes.
  obtain ⟨rest, hscheme⟩ := exists_of_parse? h.reads h.web
  have hreads := h.reads
  rw [parse?_of_scheme? h.web hscheme] at hreads
  rw [hstripped, scheme?_append hslashes] at hscheme
  obtain ⟨⟨name, front⟩, hfront, hfound⟩ := Option.map_eq_some_iff.mp hscheme
  obtain ⟨rfl, rfl⟩ := Prod.mk.inj hfound
  dsimp only at hfront hreads
  -- So does the authority, of which there is some.
  have hsome : front.dropWhile (isSlash true) ≠ [] := by
    intro hnone
    have hall : (front ++ List.replicate n '/').dropWhile (isSlash true) = [] := by
      rw [List.dropWhile_append, hnone]
      refine List.dropWhile_eq_nil_iff.mpr fun c hc => ?_
      rw [(List.mem_replicate.mp hc).2]
      rfl
    rw [hall] at hreads
    exact afterSlashes_nil_ne h.web u hreads
  have hdrop (tail : List Char) : (front ++ tail).dropWhile (isSlash true) =
      front.dropWhile (isSlash true) ++ tail := by
    rw [List.dropWhile_append, if_neg (by simpa using hsome)]
  rw [hdrop] at hreads
  have hmarks := forall_of_afterSlashes h.web hreads h.noQuery h.noFragment
  rw [afterSlashes_of_forall h.web hmarks, authority?_append hslashes] at hreads
  cases ha : authority? u.scheme (front.dropWhile (isSlash true)) with
  | error e =>
    rw [ha] at hreads
    cases hreads
  | ok a =>
    rw [ha] at hreads
    refine ⟨a, head?_authority? ha, ⟨n, (Except.ok.inj hreads).symm⟩, fun tail htail hne => ?_⟩
    have hends : ∀ c ∈ (unslashed address ++ tail).getLast?, 0x20 < c.toNat := by
      intro c hc
      rw [List.getLast?_append_of_ne_nil _ hne] at hc
      exact htail.visible c (List.mem_of_getLast? hc)
    have hscheme' : scheme? (stripped (.ofList (unslashed address ++ tail))) =
        some (u.scheme, front ++ tail) := by
      rw [stripped_ofList hends, cleaned_append htail, scheme?_append htail, hfront]
      rfl
    have hmarks' : ∀ c ∈ front.dropWhile (isSlash true) ++ tail, c ≠ '#' ∧ c ≠ '?' :=
      List.forall_mem_append.mpr ⟨(List.forall_mem_append.mp hmarks).1, htail.noMark⟩
    rw [parse?_of_scheme? h.web hscheme', hdrop, afterSlashes_of_forall h.web hmarks',
      authority?_append htail, ha]
    rfl

/-- The path of a base address has some segments in front, and then only empty ones. More path that
is written after the address without its last slashes lies below these segments. -/
theorem IsBase.exists_extending {address : String} (h : IsBase address u) :
    ∃ above,
      (∃ k, u.path = .segments (above.reverse ++ List.replicate k "")) ∧
      ∀ more, IsTail ('/' :: more) → parse? (.ofList (unslashed address ++ '/' :: more)) =
        .ok { u with path := .segments (pathAfter u.scheme (below above) more) } := by
  obtain ⟨a, hhead, ⟨n, hu⟩, hextend⟩ := h.exists_authority
  obtain ⟨above, hmore, k, hend⟩ := exists_authorityPath h.web hhead
  have hpath : u.path = .segments (authorityPath u.scheme (a.rest ++ List.replicate n '/')) :=
    congrArg Url.path hu
  refine ⟨above, ?_, fun more htail => ?_⟩
  · cases n with
    | zero =>
      rw [List.replicate_zero, List.append_nil, hend] at hpath
      exact ⟨k, hpath⟩
    | succ n =>
      rw [List.replicate_succ, hmore, pathAfter_below_slashes h.web] at hpath
      exact ⟨n + 1, hpath⟩
  · rw [hextend _ htail (List.cons_ne_nil _ _), ← hmore]
    conv_rhs => rw [hu]
    rfl

end BranchChat.Web.Url
