import BranchChat.Display.LiveArea
import BranchChat.Proofs.Display.Terminal
import BranchChat.Proofs.Text.Split
import Mathlib.Data.List.Induction

/-!
# Redrawing in place

The live area is used by drawings and keepings, one after the other. A keeping ends a stretch of
drawings, and of each stretch only the last drawing is to be seen. The texts that are written show
this on a terminal, whatever was on its screen before: the invariant is that the area counts the
rows of the last drawing since the last keeping.

## Main definitions

- `LiveArea.Use`, `LiveArea.run`: one use of the area, and many with the text that they write
- `onScreen`: the rows that are to be seen after these uses

## Main statements

- `foldl_feed_draw`: one drawing takes the rows of the one before it away
- `display_run`: any sequence of uses
-/

namespace BranchChat.Display

open BranchChat.Text (cut cut_concat_of_neg cut_concat_of_pos)

namespace LiveArea

/-- What is done with the area. -/
inductive Use where
  | draw (lines : List String)
  | keep

/-- Whether the drawn lines are kept. -/
def Use.isKeep : Use → Bool
  | .draw _ => false
  | .keep => true

/-- The lines that are drawn. -/
def Use.lines : Use → List String
  | .draw lines => lines
  | .keep => []

/-- One use, with the text that it writes. -/
def use (area : LiveArea) : Use → LiveArea × String
  | .draw lines => area.draw lines
  | .keep => (area.keep, "")

/-- Uses one after the other, with all the text that they write. -/
def run (area : LiveArea) (uses : List Use) : LiveArea × String :=
  uses.foldl (fun done u => ((done.1.use u).1, done.2 ++ (done.1.use u).2)) (area, "")

theorem run_concat (area : LiveArea) (uses : List Use) (u : Use) :
    area.run (uses ++ [u]) =
      (((area.run uses).1.use u).1, (area.run uses).2 ++ ((area.run uses).1.use u).2) := by
  rw [run, List.foldl_concat]
  rfl

end LiveArea

open LiveArea (Use)

/-- The lines of the last drawing of a stretch. -/
def lastDrawn (stretch : List Use) : List String :=
  (stretch.getLast?.map Use.lines).getD []

/-- The rows that are to be seen: of each stretch between keepings the last drawing. -/
def onScreen (uses : List Use) : List String :=
  (cut Use.isKeep uses).flatMap lastDrawn

theorem lastDrawn_concat (stretch : List Use) (lines : List String) :
    lastDrawn (stretch ++ [.draw lines]) = lines := by
  rw [lastDrawn, List.getLast?_concat]
  rfl

/-- No control character is drawn. -/
def Plain (uses : List Use) : Prop :=
  ∀ u ∈ uses, ∀ line ∈ u.lines, ∀ c ∈ line.toList, Terminal.isControl c = false

instance (uses : List Use) : Decidable (Plain uses) :=
  decidable_of_iff
    (uses.all fun u => u.lines.all fun line => line.toList.all (!Terminal.isControl ·))
    (by simp [Plain])

/-! ### One drawing -/

theorem toList_erasing {n : Nat} (h : n ≠ 0) :
    (LiveArea.erasing n).toList =
      '\x1b' :: '[' :: (Nat.toDigits 10 n ++ ['A', '\x1b', '[', 'J']) := by
  simp [LiveArea.erasing, h]

theorem toList_draw (area : LiveArea) (lines : List String) :
    (area.draw lines).2.toList =
      (LiveArea.erasing area.drawn).toList ++
        (lines.map String.toList).flatMap (· ++ ['\n']) := by
  rw [LiveArea.draw, String.toList_append, String.toList_join, List.flatMap_map, List.flatMap_map]
  simp only [String.toList_append, String.reduceToList]

/-- The rows of the last drawing are taken away. -/
theorem foldl_feed_erasing (above old : List String) :
    (LiveArea.erasing old.length).toList.foldl Terminal.feed (Terminal.showing (above ++ old)) =
      Terminal.showing above := by
  -- Nothing is written where nothing was drawn: the control text always goes up at least one row.
  rcases Nat.eq_zero_or_pos old.length with hnone | hsome
  · rw [List.eq_nil_of_length_eq_zero hnone, List.append_nil]
    rfl
  · have hne : old.length ≠ 0 := Nat.ne_of_gt hsome
    rw [toList_erasing hne, Terminal.foldl_feed_up_clear _ rfl hne, Terminal.showing,
      List.map_append, ← List.length_map String.toList, Terminal.clearBelow_up_writing]
    rfl

/-- The text of a drawing takes the rows of the last one away and writes its own. -/
theorem foldl_feed_draw (above : List String) {area : LiveArea} {old : List String}
    (harea : area.drawn = old.length) (lines : List String)
    (h : ∀ line ∈ lines, ∀ c ∈ line.toList, Terminal.isControl c = false) :
    (area.draw lines).2.toList.foldl Terminal.feed (Terminal.showing (above ++ old)) =
      Terminal.showing (above ++ lines) := by
  rw [toList_draw, List.foldl_append, harea, foldl_feed_erasing, Terminal.showing,
    Terminal.foldl_feed_rows _ _ (List.forall_mem_map.mpr h), Terminal.showing, List.map_append]

/-! ### Any sequence of uses -/

/-- The area counts the rows of the last drawing since the last keeping, and what was written
shows what is to be seen. -/
structure Shows (above : List String) (uses : List Use) (area : LiveArea) (text : String) :
    Prop where
  drawn : ∃ stretches last, cut Use.isKeep uses = stretches ++ [last] ∧
    area.drawn = (lastDrawn last).length
  screen : text.toList.foldl Terminal.feed (Terminal.showing above) =
    Terminal.showing (above ++ onScreen uses)

theorem Shows.use {above : List String} {uses : List Use} {area : LiveArea} {text : String}
    (h : Shows above uses area text) (u : Use)
    (hu : ∀ line ∈ u.lines, ∀ c ∈ line.toList, Terminal.isControl c = false) :
    Shows above (uses ++ [u]) (area.use u).1 (text ++ (area.use u).2) := by
  obtain ⟨stretches, last, hcut, hdrawn⟩ := h.drawn
  have hscreen (more : String) :
      (text ++ more).toList.foldl Terminal.feed (Terminal.showing above) =
        more.toList.foldl Terminal.feed (Terminal.showing (above ++ onScreen uses)) := by
    rw [String.toList_append, List.foldl_append, h.screen]
  have honScreen : onScreen uses = stretches.flatMap lastDrawn ++ lastDrawn last := by
    rw [onScreen, hcut, List.flatMap_append, List.flatMap_singleton]
  -- A drawing joins the last stretch and takes its rows away; a keeping begins an empty stretch.
  cases u with
  | draw lines =>
    have hcut' := cut_concat_of_neg (x := Use.draw lines) rfl hcut
    refine ⟨⟨stretches, last ++ [.draw lines], hcut', ?_⟩, ?_⟩
    · rw [lastDrawn_concat]
      rfl
    · rw [hscreen, honScreen, ← List.append_assoc, LiveArea.use,
        foldl_feed_draw _ hdrawn lines hu, onScreen, hcut', List.flatMap_append,
        List.flatMap_singleton, lastDrawn_concat, List.append_assoc]
  | keep =>
    have hcut' := cut_concat_of_pos (p := Use.isKeep) (x := Use.keep) rfl uses
    refine ⟨⟨cut Use.isKeep uses, [], hcut', rfl⟩, ?_⟩
    have hsame : onScreen (uses ++ [.keep]) = onScreen uses := by
      rw [onScreen, hcut', List.flatMap_append]
      exact List.append_nil _
    rw [hscreen, hsame]
    rfl

theorem shows_run (above : List String) (uses : List Use) (h : Plain uses) :
    Shows above uses (LiveArea.new.run uses).1 (LiveArea.new.run uses).2 := by
  induction uses using List.reverseRecOn with
  | nil =>
    refine ⟨⟨[], [], rfl, rfl⟩, ?_⟩
    exact congrArg Terminal.showing (List.append_nil above).symm
  | append_singleton uses u ih =>
    rw [LiveArea.run_concat]
    have hbefore : Plain uses := fun v hv => h v (List.mem_append_left _ hv)
    exact (ih hbefore).use u (h u List.mem_concat_self)

/-- What is written by any sequence of drawings and keepings shows, below what was on the screen
before, the last drawing of each stretch between keepings and nothing else, with the cursor at the
start of the row below. -/
theorem display_run (above : List String) (uses : List Use) (h : Plain uses) :
    (Terminal.showing above).display (Text.Utf8.bytes (LiveArea.new.run uses).2.toList) =
      Terminal.showing (above ++ onScreen uses) := by
  rw [Terminal.display_bytes, (shows_run above uses h).screen]

/-- Drawings that grow, shrink and vanish, below a row that was on the screen, with three keepings
of which one keeps nothing. -/
theorem display_run_shrinking :
    let uses : List Use :=
      [.draw ["you> a", "… b"], .draw ["c"], .keep, .draw ["d", "e", "f"], .draw [],
        .draw ["é", "h"], .keep, .keep, .draw ["i"], .draw ["", "j"]]
    Plain uses ∧
      (Terminal.showing ["$ chat"]).display (Text.Utf8.bytes (LiveArea.new.run uses).2.toList) =
        Terminal.showing ["$ chat", "c", "é", "h", "", "j"] := by
  intro uses
  have hplain : Plain uses := by decide +kernel
  have hscreen : onScreen uses = ["c", "é", "h", "", "j"] := by decide +kernel
  refine ⟨hplain, ?_⟩
  rw [display_run ["$ chat"] uses hplain, hscreen]
  rfl

end BranchChat.Display
