import BranchChat.Proofs.Files.Places
import BranchChat.Proofs.Text.Split
import Mathlib.Data.String.Basic

/-!
# The folders above a file

Creating the folders on the way to a path goes wrong only where one of them is not there in the end.
Then the path does not lead to a plain file either: a path that does leads through folders, and each
of them is found under the shorter path that is made of the steps up to it.

## Main definitions

- `Path.IsName`: a step of a path
- `weight`: the room that pieces take with a separator for each

## Main statements

- `Store.grows_createFoldersAbove`: only folders are created
- `Store.hasFolder_of_leadsTo`: the folders above a place
- `Store.content?_of_createFoldersAbove_error`: where this fails there is no plain file
-/

namespace BranchChat.Files

open BranchChat.Text (cut glue)

/-! ### Room -/

/-- The room that pieces take, with a slash for each. -/
def weight (pieces : List (List Char)) : Nat :=
  pieces.foldr (fun piece room => String.utf8Len piece + 1 + room) 0

theorem weight_cons (piece : List Char) (pieces : List (List Char)) :
    weight (piece :: pieces) = String.utf8Len piece + 1 + weight pieces := rfl

theorem weight_cut (cs : List Char) : weight (cut (· == '/') cs) = String.utf8Len cs + 1 := by
  induction cs with
  | nil => rfl
  | cons c cs ih =>
    cases hc : c == '/' with
    | true =>
      obtain rfl : c = '/' := eq_of_beq hc
      have hslash : Char.utf8Size '/' = 1 := rfl
      rw [Text.cut_cons_of_pos (p := (· == '/')) hc, weight_cons, ih, String.utf8Len_cons, hslash,
        String.utf8Len_nil]
      omega
    | false =>
      obtain ⟨piece, pieces, hcs, hcut⟩ := Text.cut_cons_of_neg (p := (· == '/')) hc cs
      rw [hcs, weight_cons] at ih
      rw [hcut, weight_cons, String.utf8Len_cons, String.utf8Len_cons]
      omega

theorem weight_glue {pieces : List (List Char)} (h : pieces ≠ []) :
    String.utf8Len (glue ['/'] pieces) + 1 = weight pieces := by
  induction pieces with
  | nil => exact absurd rfl h
  | cons piece pieces ih =>
    cases pieces with
    | nil => rfl
    | cons second pieces =>
      have hslash : String.utf8Len ['/'] = 1 := rfl
      have hne : second :: pieces ≠ [] := List.cons_ne_nil second pieces
      rw [weight_cons, ← ih hne, Text.glue_cons _ _ hne, String.utf8Len_append,
        String.utf8Len_append, hslash]
      omega

/-- Fewer pieces take less room. -/
theorem weight_le_of_sublist {pieces pieces' : List (List Char)} (h : pieces.Sublist pieces') :
    weight pieces ≤ weight pieces' := by
  induction h with
  | slnil => exact Nat.le_refl _
  | cons piece _ ih =>
    rw [weight_cons]
    omega
  | cons_cons piece _ ih =>
    rw [weight_cons, weight_cons]
    omega

/-! ### Steps -/

namespace Path

/-- A step of a path. -/
structure IsName (name : String) : Prop where
  ne_empty : name ≠ ""
  ne_dot : name ≠ "."
  no_slash : ∀ c ∈ name.toList, (c == '/') = false

variable {p : Path} {name : String} {names above : List String}

theorem isName_of_mem_steps (h : name ∈ p.steps) : IsName name := by
  simp only [steps, Path.names, List.mem_filter, List.mem_map, bne_iff_ne, ne_eq] at h
  obtain ⟨⟨⟨piece, hpiece, rfl⟩, hempty⟩, hdot⟩ := h
  refine ⟨hempty, hdot, fun c hc => ?_⟩
  rw [String.toList_ofList] at hc
  exact (Text.of_mem_cut hpiece hc).2

theorem steps_sublist (p : Path) :
    (p.steps.map String.toList).Sublist (cut (· == '/') p.toList) := by
  have hsteps : p.steps.Sublist ((cut (· == '/') p.toList).map String.ofList) :=
    List.filter_sublist.trans List.filter_sublist
  have hmap := hsteps.map String.toList
  rw [List.map_map] at hmap
  have hid : String.toList ∘ String.ofList = id := funext fun _ => String.toList_ofList
  rwa [hid, List.map_id] at hmap

theorem isAbsolute_iff : p.isAbsolute = true ↔ ∃ cs, p.toList = '/' :: cs := by
  rw [isAbsolute, String.startsWith_string_iff]
  simp [List.cons_prefix_iff]

theorem toList_pathOf (absolute : Bool) (names : List String) :
    (Store.pathOf absolute names).toList =
      (if absolute then ['/'] else []) ++ glue ['/'] (names.map String.toList) := by
  cases absolute <;> simp [Store.pathOf]

theorem steps_pathOf (absolute : Bool) (hne : names ≠ []) (h : ∀ name ∈ names, IsName name) :
    (Store.pathOf absolute names).steps = names := by
  have hcut : cut (· == '/') (glue ['/'] (names.map String.toList)) = names.map String.toList := by
    refine Text.cut_glue (p := (· == '/')) rfl (by simpa using hne) fun piece hpiece => ?_
    obtain ⟨name, hname, rfl⟩ := List.mem_map.mp hpiece
    exact (h name hname).no_slash
  -- the slash in front of an absolute path cuts an empty name off, which is left out
  have hnames : (Store.pathOf absolute names).names =
      ((names.map String.toList).map String.ofList).filter (· != "") := by
    rw [Path.names, toList_pathOf]
    cases absolute with
    | false => rw [if_neg (by decide), List.nil_append, hcut]
    | true =>
      rw [if_pos rfl, List.singleton_append, Text.cut_cons_of_pos (p := (· == '/')) rfl, hcut]
      rfl
  have hid : (names.map String.toList).map String.ofList = names := by
    rw [List.map_map]
    exact (List.map_congr_left fun _ _ => String.ofList_toList).trans (List.map_id names)
  rw [steps, hnames, hid, List.filter_filter, List.filter_eq_self]
  intro name hname
  simp [(h name hname).ne_empty, (h name hname).ne_dot]

theorem isAbsolute_pathOf (absolute : Bool) (hne : names ≠ []) (h : ∀ name ∈ names, IsName name) :
    (Store.pathOf absolute names).isAbsolute = absolute := by
  cases absolute with
  | true => exact isAbsolute_iff.mpr ⟨_, by rw [toList_pathOf, if_pos rfl, List.singleton_append]⟩
  | false =>
    rw [Bool.eq_false_iff]
    intro habsolute
    obtain ⟨cs, hcs⟩ := isAbsolute_iff.mp habsolute
    rw [toList_pathOf, if_neg (by decide), List.nil_append] at hcs
    obtain ⟨name, names, rfl⟩ := List.exists_cons_of_ne_nil hne
    have hname := h name List.mem_cons_self
    -- a relative path starts with its first name, in which there is no slash
    cases hfirst : name.toList with
    | nil => exact hname.ne_empty (String.toList_eq_nil_iff.mp hfirst)
    | cons c rest =>
      have hc : c = '/' := by
        cases names with
        | nil =>
          rw [List.map_cons, List.map_nil, glue, hfirst] at hcs
          exact (List.cons.inj hcs).1
        | cons second names =>
          rw [List.map_cons, List.map_cons, Text.glue_cons _ _ (List.cons_ne_nil _ _),
            hfirst] at hcs
          exact (List.cons.inj hcs).1
      have hslash := hname.no_slash c (by rw [hfirst]; exact List.mem_cons_self)
      rw [hc] at hslash
      exact absurd hslash (by decide)

/-- A path made of the first steps of another one is not longer. -/
theorem utf8ByteSize_pathOf_le (hne : above ≠ []) (h : above <+: p.steps) :
    (Store.pathOf p.isAbsolute above).utf8ByteSize ≤ p.utf8ByteSize := by
  have hsize (q : Path) : q.utf8ByteSize = String.utf8Len q.toList := by
    rw [← String.utf8ByteSize_ofList, String.ofList_toList]
  have hsub : (above.map String.toList).Sublist (cut (· == '/') p.toList) :=
    (h.sublist.map String.toList).trans p.steps_sublist
  have hglue : String.utf8Len (glue ['/'] (above.map String.toList)) + 1 =
      weight (above.map String.toList) := weight_glue (by simpa using hne)
  rw [hsize, hsize, toList_pathOf, String.utf8Len_append]
  cases habsolute : p.isAbsolute with
  | false =>
    have hle := weight_le_of_sublist hsub
    rw [weight_cut] at hle
    have hnil : String.utf8Len (if false = true then ['/'] else []) = 0 := rfl
    omega
  | true =>
    obtain ⟨cs, hcs⟩ := isAbsolute_iff.mp habsolute
    have hcut : cut (· == '/') p.toList = [] :: cut (· == '/') cs := by
      rw [hcs, Text.cut_cons_of_pos (p := (· == '/')) rfl]
    rw [hcut] at hsub
    -- the empty name in front is no step
    have hsub' : (above.map String.toList).Sublist (cut (· == '/') cs) := by
      rcases List.sublist_cons_iff.mp hsub with hsub | ⟨rest, hrest, -⟩
      · exact hsub
      · have hempty : [] ∈ above.map String.toList := by rw [hrest]; exact List.mem_cons_self
        obtain ⟨name, hname, hnil⟩ := List.mem_map.mp hempty
        exact absurd (String.toList_eq_nil_iff.mp hnil)
          (isName_of_mem_steps (h.subset hname)).ne_empty
    have hle := weight_le_of_sublist hsub'
    have hslash : String.utf8Len ['/'] = 1 := rfl
    have hslash' : Char.utf8Size '/' = 1 := rfl
    rw [weight_cut] at hle
    rw [if_pos rfl, hslash, hcs, String.utf8Len_cons, hslash']
    omega

/-- A character in a path made of first steps is a slash or stands in the path, too. -/
theorem of_mem_pathOf {absolute : Bool} {c : Char} (habove : above <+: p.steps)
    (h : c ∈ (Store.pathOf absolute above).toList) : c = '/' ∨ c ∈ p.toList := by
  rw [toList_pathOf] at h
  rcases List.mem_append.mp h with hslash | h
  · cases absolute with
    | false => exact absurd hslash List.not_mem_nil
    | true => exact .inl (List.mem_singleton.mp hslash)
  · rcases Text.of_mem_glue h with hslash | ⟨piece, hpiece, hc⟩
    · exact .inl (List.mem_singleton.mp hslash)
    · have hcut := ((habove.sublist.map String.toList).trans p.steps_sublist).subset hpiece
      exact .inr (Text.of_mem_cut hcut hc).1

end Path

/-! ### The folders on the way -/

namespace Store

variable {s s' : Store} {p : Path} {place here : Place}

/-- The first steps of a way lead to a folder. -/
theorem follow_append {above more : List String} (habove : above ≠ []) (hmore : more ≠ [])
    (h : s.follow here (above ++ more) = .ok place) :
    ∃ folder, s.follow here above = .ok folder ∧ s.entry? folder = some .folder := by
  induction above generalizing here with
  | nil => exact absurd rfl habove
  | cons name above ih =>
    have hrest : above ++ more ≠ [] := by simp [hmore]
    obtain ⟨next, hstep, hfolder, hnext⟩ := (follow_cons_eq_ok_iff hrest).mp h
    cases above with
    | nil => exact ⟨next, hstep, hfolder⟩
    | cons second above =>
      have hne : second :: above ≠ [] := List.cons_ne_nil second above
      obtain ⟨folder, hfollow, hentry⟩ := ih hne hnext
      exact ⟨folder, (follow_cons_eq_ok_iff hne).mpr ⟨next, hstep, hfolder, hfollow⟩, hentry⟩

/-- Where a path leads anywhere, the paths made of its first steps lead to folders. -/
theorem hasFolder_of_leadsTo (h : s.LeadsTo p place) {above more : List String}
    (hsteps : p.steps = above ++ more) (habove : above ≠ []) (hmore : more ≠ []) :
    s.hasFolder (pathOf p.isAbsolute above) = true := by
  have hfront : above <+: p.steps := ⟨more, hsteps.symm⟩
  have hnames : ∀ name ∈ above, Path.IsName name := fun name hname =>
    Path.isName_of_mem_steps (hfront.subset hname)
  have hstart : s.start (pathOf p.isAbsolute above) = s.start p := by
    rw [start, start, Path.isAbsolute_pathOf p.isAbsolute habove hnames]
  obtain ⟨folder, hfollow, hentry⟩ := follow_append habove hmore (hsteps ▸ h.follows)
  have hleads : s.LeadsTo (pathOf p.isAbsolute above) folder := by
    refine ⟨?_, ?_, (Path.utf8ByteSize_pathOf_le habove hfront).trans h.short, ?_⟩
    · have hzero := h.noZero
      rw [String.contains_char_eq, decide_eq_false_iff_not] at hzero ⊢
      intro hmem
      rcases Path.of_mem_pathOf hfront hmem with hslash | hmem
      · exact absurd hslash (by decide)
      · exact hzero hmem
    · intro hempty
      have hsteps' := Path.steps_pathOf p.isAbsolute habove hnames
      rw [hempty] at hsteps'
      exact habove (hsteps'.symm.trans rfl)
    · rw [hstart, Path.steps_pathOf p.isAbsolute habove hnames]
      exact hfollow
  rw [hasFolder, at?_eq_some_iff.mpr ⟨folder, hleads, hentry, trivial⟩]
  rfl

/-- The paths above a path are made of its first steps, without the last one. -/
theorem of_mem_pathsDown {absolute : Bool} {down : List String} {q : Path}
    (h : q ∈ pathsDown absolute down) :
    ∃ above below, down.reverse = above ++ below ∧ above ≠ [] ∧ q = pathOf absolute above := by
  induction down with
  | nil => exact absurd h List.not_mem_nil
  | cons last down ih =>
    rcases List.mem_cons.mp h with rfl | h
    · exact ⟨(last :: down).reverse, [], by simp, by simp, rfl⟩
    · obtain ⟨above, below, hdown, habove, hq⟩ := ih h
      exact ⟨above, below ++ [last], by simp [hdown], habove, hq⟩

/-! ### Creating folders -/

/-- One of the folders is created, or it is there already. -/
def attempt (p : Path) (s : Store) : Store × Except Fault Unit :=
  match s.createFolder p with
  | .ok s => (s, .ok ())
  | .error fault => (s, if s.hasFolder p then .ok () else .error fault)

theorem createChain_cons (p : Path) (above : List Path) (s : Store) :
    createChain (p :: above) s =
      match s.createFolder p with
      | .error .notFound =>
        match createChain above s with
        | (s, .ok ()) => attempt p s
        | failed => failed
      | _ => attempt p s := rfl

/-- What creating folders may leave: only folders are new, and where it has failed one of those that
were wanted is not there. -/
structure Created (wanted : List Path) (s : Store) (result : Store × Except Fault Unit) : Prop where
  grows : Grows s result.1
  missing (fault : Fault) : result.2 = .error fault → ∃ p ∈ wanted, result.1.hasFolder p = false

theorem created_attempt {above : List Path} (hgrows : Grows s s') :
    Created (p :: above) s (attempt p s') := by
  unfold attempt
  split
  case h_1 s'' hcreate => exact ⟨hgrows.trans (grows_createFolder hcreate), by simp⟩
  case h_2 fault hcreate =>
    refine ⟨hgrows, fun fault herror => ⟨p, List.mem_cons_self, ?_⟩⟩
    cases hfolder : s'.hasFolder p with
    | true => simp [hfolder] at herror
    | false => rfl

theorem created_createChain (wanted : List Path) (s : Store) :
    Created wanted s (createChain wanted s) := by
  induction wanted with
  | nil => exact ⟨.refl s, by simp [createChain]⟩
  | cons p above ih =>
    rw [createChain_cons]
    split
    case h_1 =>
      split
      case h_1 s' habove =>
        rw [habove] at ih
        exact created_attempt ih.grows
      case h_2 =>
        refine ⟨ih.grows, fun fault herror => ?_⟩
        obtain ⟨q, hq, hfolder⟩ := ih.missing fault herror
        exact ⟨q, List.mem_cons_of_mem p hq, hfolder⟩
    case h_2 => exact created_attempt (.refl s)

theorem grows_createFoldersAbove (s : Store) (p : Path) : Grows s (s.createFoldersAbove p).1 :=
  (created_createChain _ s).grows

/-- Where the folders above a path cannot be created, it leads to no plain file. -/
theorem content?_of_createFoldersAbove_error {fault : Fault}
    (h : (s.createFoldersAbove p).2 = .error fault) :
    (s.createFoldersAbove p).1.content? p = none := by
  obtain ⟨q, hq, hfolder⟩ := (created_createChain _ s).missing fault h
  rw [Option.eq_none_iff_forall_ne_some]
  intro content hcontent
  obtain ⟨changed, hat⟩ := content?_eq_some_iff.mp hcontent
  obtain ⟨place, hleads, -⟩ := at?_eq_some_iff.mp hat
  obtain ⟨above, below, hdown, habove, rfl⟩ := of_mem_pathsDown hq
  -- the last step of the path is none of the folders above it
  obtain ⟨last, hlast⟩ : ∃ last, p.steps = p.steps.reverse.tail.reverse ++ [last] := by
    cases hsteps : p.steps.reverse with
    | nil =>
      rw [hsteps] at hdown
      exact absurd (List.append_eq_nil_iff.mp hdown.symm).1 habove
    | cons last down =>
      refine ⟨last, ?_⟩
      rw [List.tail_cons, ← List.reverse_cons, ← hsteps, List.reverse_reverse]
  have hsteps : p.steps = above ++ (below ++ [last]) := by
    rw [hlast, hdown, List.append_assoc]
  have hfound := hasFolder_of_leadsTo hleads hsteps habove (by simp)
  exact absurd (hfound.symm.trans hfolder) (by decide)

end Store

end BranchChat.Files
