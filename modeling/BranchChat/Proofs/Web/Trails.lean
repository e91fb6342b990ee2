import BranchChat.Proofs.Text.Split
import BranchChat.Web.Url.Trail

/-!
# Paths below a path

On the web a path is read segment by segment from the root. After each slash the trail is open: a
new segment begins below the segments above. What is read from there on depends on these alone, so a
text that goes on with a slash after a path leads to a place below it.

## Main definitions

- `IsWeb`: the schemes of the web
- `Trail.below`: the trail that is open below some segments

## Main statements

- `pathAfter_below_cons`, `pathAfter_below`: a segment that is no dot
- `exists_below`: reading goes on below the segments that were read
-/

namespace BranchChat.Web.Url

open BranchChat.Text (cut)
open BranchChat.Text.Percent (encode)

variable {scheme : String} {above : List String} {segment cs : List Char}

/-- The schemes of the web. -/
def IsWeb (scheme : String) : Prop :=
  scheme = "http" ∨ scheme = "https"

theorem IsWeb.isSpecial (h : IsWeb scheme) : Url.isSpecial scheme = true := by
  rcases h with rfl | rfl <;> decide

theorem IsWeb.ne_file (h : IsWeb scheme) : (scheme == "file") = false := by
  rcases h with rfl | rfl <;> decide

/-- A segment without a slash that is neither one dot nor two. -/
structure IsPlainSegment (segment : List Char) : Prop where
  noSlash : ∀ c ∈ segment, isSlash true c = false
  notDouble : isDoubleDot segment = false
  notSingle : isSingleDot segment = false

/-- Whether a text has no slash is read off its characters. -/
theorem noSlash_of_any (h : segment.any (isSlash true) = false) :
    ∀ c ∈ segment, isSlash true c = false :=
  fun c hc => Bool.eq_false_iff.mpr (List.any_eq_false.mp h c hc)

namespace Trail

/-- The trail after a slash: a new segment begins below the segments above. -/
def below (above : List String) : Trail :=
  ⟨"" :: above, false⟩

theorem write_below (above : List String) (segment : List Char) :
    (below above).write false segment = ⟨.ofList (encode keepInPath segment) :: above, false⟩ := by
  show Trail.mk (("" ++ String.ofList (encode keepInPath segment)) :: above) false = _
  rw [String.empty_append]

/-- Outside of files no drive gets a slash of its own. -/
theorem read_false (t : Trail) (more : Bool) (segment : List Char) :
    t.read false more segment =
      if isDoubleDot segment then t.ascend
      else if isSingleDot segment then t
      else if more then (t.write false segment).descend
      else t.write false segment := rfl

/-- A plain segment with a slash after it. -/
theorem read_below_of_isPlain (h : IsPlainSegment segment) (above : List String) :
    (below above).read false true segment =
      below (.ofList (encode keepInPath segment) :: above) := by
  rw [read_false, h.notDouble, h.notSingle, write_below]
  rfl

/-- A plain segment at the end. -/
theorem read_below_last (h : IsPlainSegment segment) (above : List String) :
    (below above).read false false segment =
      ⟨.ofList (encode keepInPath segment) :: above, false⟩ := by
  rw [read_false, h.notDouble, h.notSingle, write_below]
  rfl

theorem ascend_below_cons (last : String) (above : List String) :
    (below (last :: above)).ascend =
      if isAnchor last then below (last :: above) else below above := rfl

theorem exists_ascend_below (above : List String) :
    ∃ above', (below above).ascend = below above' := by
  cases above with
  | nil => exact ⟨[], rfl⟩
  | cons last rest =>
    rw [ascend_below_cons]
    split
    · exact ⟨last :: rest, rfl⟩
    · exact ⟨rest, rfl⟩

/-- After a segment and a slash the trail is open again. -/
theorem exists_read_below (above : List String) (segment : List Char) :
    ∃ above', (below above).read false true segment = below above' := by
  rw [read_false]
  split
  · exact exists_ascend_below above
  · split
    · exact ⟨above, rfl⟩
    · rw [if_pos rfl, write_below]
      exact ⟨_, rfl⟩

theorem exists_foldl_read_below (above : List String) (segments : List (List Char)) :
    ∃ above', segments.foldl (read false true) (below above) = below above' := by
  induction segments generalizing above with
  | nil => exact ⟨above, rfl⟩
  | cons segment segments ih =>
    obtain ⟨above', hread⟩ := exists_read_below above segment
    rw [List.foldl_cons, hread]
    exact ih above'

/-- Segments with more segments behind them all have a slash after them. -/
theorem readAll_append (file : Bool) (t : Trail) (segments : List (List Char))
    {more : List (List Char)} (h : more ≠ []) :
    t.readAll file (segments ++ more) = (segments.foldl (read file true) t).readAll file more := by
  induction segments generalizing t with
  | nil => rfl
  | cons segment segments ih =>
    have hne : segments ++ more ≠ [] := by simp [h]
    obtain ⟨second, rest, hrest⟩ := List.exists_cons_of_ne_nil hne
    rw [List.cons_append, List.foldl_cons, ← ih, hrest]
    rfl

end Trail

open Trail (below)

/-! ### Texts after an open trail -/

theorem pathAfter_of_isWeb (h : IsWeb scheme) (t : Trail) (cs : List Char) :
    pathAfter scheme t cs = (t.readAll false (cut (isSlash true) cs)).segments.reverse := by
  unfold pathAfter follow
  rw [h.ne_file, h.isSpecial]
  rfl

/-- A text that is divided by a slash. -/
theorem pathAfter_append_cons (h : IsWeb scheme) (t : Trail) (cs rest : List Char) :
    pathAfter scheme t (cs ++ '/' :: rest) =
      pathAfter scheme ((cut (isSlash true) cs).foldl (Trail.read false true) t) rest := by
  rw [pathAfter_of_isWeb h, pathAfter_of_isWeb h, Text.cut_append_separator rfl,
    Trail.readAll_append _ _ _ (Text.cut_ne_nil rest)]

/-- A segment with a slash after it. -/
theorem pathAfter_segment_cons (h : IsWeb scheme) (hslash : ∀ c ∈ segment, isSlash true c = false)
    (t : Trail) (rest : List Char) :
    pathAfter scheme t (segment ++ '/' :: rest) =
      pathAfter scheme (t.read false true segment) rest := by
  rw [pathAfter_append_cons h, Text.cut_of_forall hslash, List.foldl_cons, List.foldl_nil]

/-- A segment at the end. -/
theorem pathAfter_segment (h : IsWeb scheme) (hslash : ∀ c ∈ segment, isSlash true c = false)
    (t : Trail) : pathAfter scheme t segment = (t.read false false segment).segments.reverse := by
  rw [pathAfter_of_isWeb h, Text.cut_of_forall hslash]
  rfl

/-- A plain segment with a slash after it. -/
theorem pathAfter_below_cons (h : IsWeb scheme) (hplain : IsPlainSegment segment)
    (above : List String) (rest : List Char) :
    pathAfter scheme (below above) (segment ++ '/' :: rest) =
      pathAfter scheme (below (.ofList (encode keepInPath segment) :: above)) rest := by
  rw [pathAfter_segment_cons h hplain.noSlash, Trail.read_below_of_isPlain hplain]

/-- A plain segment at the end. -/
theorem pathAfter_below (h : IsWeb scheme) (hplain : IsPlainSegment segment)
    (above : List String) :
    pathAfter scheme (below above) segment =
      above.reverse ++ [.ofList (encode keepInPath segment)] := by
  rw [pathAfter_segment h hplain.noSlash, Trail.read_below_last hplain, List.reverse_cons]

theorem isPlainSegment_nil : IsPlainSegment [] :=
  ⟨fun _ h => absurd h List.not_mem_nil, by decide, by decide⟩

/-- Slashes at the end make empty segments. -/
theorem pathAfter_below_slashes (h : IsWeb scheme) (above : List String) (n : Nat) :
    pathAfter scheme (below above) (List.replicate n '/') =
      above.reverse ++ List.replicate (n + 1) "" := by
  induction n generalizing above with
  | zero => exact pathAfter_below h isPlainSegment_nil above
  | succ n ih =>
    rw [List.replicate_succ, ← List.nil_append ('/' :: _),
      pathAfter_below_cons h isPlainSegment_nil, ih, List.replicate_succ]
    show (("" : String) :: above).reverse ++ _ = _
    rw [List.reverse_cons, List.append_assoc]
    rfl

/-- Whatever was read, reading goes on below some segments after the next slash, and without a slash
the path was that of these segments, or they and an empty one. -/
theorem exists_below (h : IsWeb scheme) (start : List String) (cs : List Char) :
    ∃ above, (∀ rest, pathAfter scheme (below start) (cs ++ '/' :: rest) =
        pathAfter scheme (below above) rest) ∧
      ∃ k, pathAfter scheme (below start) cs = above.reverse ++ List.replicate k "" := by
  obtain ⟨segments, last, hcut⟩ := List.eq_nil_or_concat (cut (isSlash true) cs)
    |>.resolve_left (Text.cut_ne_nil cs)
  rw [List.concat_eq_append] at hcut
  obtain ⟨front, hfront⟩ := Trail.exists_foldl_read_below start segments
  have hrest (rest : List Char) : pathAfter scheme (below start) (cs ++ '/' :: rest) =
      pathAfter scheme ((below front).read false true last) rest := by
    rw [pathAfter_append_cons h, hcut, List.foldl_append, hfront]
    rfl
  have hend : pathAfter scheme (below start) cs =
      ((below front).read false false last).segments.reverse := by
    rw [pathAfter_of_isWeb h, hcut, Trail.readAll_append _ _ _ (by simp), hfront]
    rfl
  have hopen (above : List String) : (below above).segments.reverse =
      above.reverse ++ List.replicate 1 "" := List.reverse_cons
  rw [Trail.read_false] at hend
  by_cases hdouble : isDoubleDot last = true
  · obtain ⟨above, habove⟩ := Trail.exists_ascend_below front
    rw [if_pos hdouble, habove] at hend
    refine ⟨above, fun rest => ?_, 1, hend.trans (hopen above)⟩
    rw [hrest, Trail.read_false, if_pos hdouble, habove]
  · rw [if_neg hdouble] at hend
    by_cases hsingle : isSingleDot last = true
    · rw [if_pos hsingle] at hend
      refine ⟨front, fun rest => ?_, 1, hend.trans (hopen front)⟩
      rw [hrest, Trail.read_false, if_neg hdouble, if_pos hsingle]
    · rw [if_neg hsingle, if_neg (by decide), Trail.write_below] at hend
      refine ⟨.ofList (encode keepInPath last) :: front, fun rest => ?_, 0, ?_⟩
      · rw [hrest, Trail.read_false, if_neg hdouble, if_neg hsingle, if_pos rfl, Trail.write_below]
        rfl
      · rw [hend]
        simp

end BranchChat.Web.Url
