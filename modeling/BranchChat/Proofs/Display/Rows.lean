import BranchChat.Display.Lines
import BranchChat.Proofs.Display.Redrawing
import BranchChat.Proofs.Text.Split

/-!
# Lines and rows

A line that holds a newline takes more than one row on the screen. The texts of messages, of
thinking and of parameters are cut into rows or flattened before they are shown. The names of agents
and tools and the text of an error are shown as they are: the lines are one row each exactly when
none of these holds a newline, and the live area counts its rows right in the same case only.

## Main definitions

- `OneRow`: a text without a newline
- `Block.uncut`, `uncutOf`: the texts that are shown as they are, of a block and of an activation

## Main statements

- `forall_labelled_iff`, `oneRow_glimpse`: text behind a label, and in passing
- `Block.forall_lines_iff`: the lines of a block
- `lines_oneRow_iff`: all lines, and the count of the live area
-/

namespace BranchChat.Display

open BranchChat.Execution (Activation)
open BranchChat.Text (cut cut_ne_nil dropReturn flat isBlank of_mem_cut of_mem_glue rows trimEnd)

/-- A text takes one row, for it holds no newline. -/
def OneRow (text : String) : Prop :=
  '\n' ∉ text.toList

instance (text : String) : Decidable (OneRow text) :=
  inferInstanceAs (Decidable ('\n' ∉ text.toList))

theorem oneRow_ofList (cs : List Char) : OneRow (.ofList cs) ↔ '\n' ∉ cs := by
  rw [OneRow, String.toList_ofList]

@[simp] theorem newline_not_mem_toDigits (n : Nat) : '\n' ∉ Nat.toDigits 10 n := fun h =>
  absurd (Nat.isDigit_of_mem_toDigits (by decide) (by decide) h) (by decide)

/-! ### Text that is cut or flattened -/

theorem newline_not_mem_of_mem_rows {cs row : List Char} (h : row ∈ rows cs) : '\n' ∉ row := by
  have hpiece (piece : List Char) (hmem : piece ∈ cut (· == '\n') cs) : '\n' ∉ piece :=
    fun h => absurd (of_mem_cut hmem h).2 (by decide)
  rcases List.mem_append.mp h with hended | hlast
  · obtain ⟨piece, hmem, rfl⟩ := List.mem_map.mp hended
    have hdrop : dropReturn piece ⊆ piece := by
      unfold dropReturn
      split
      · exact List.dropLast_subset piece
      · exact List.Subset.refl piece
    exact fun h => hpiece piece (List.dropLast_subset _ hmem) (hdrop h)
  · -- The text after the last newline is the last of the pieces.
    split at hlast
    · exact absurd hlast List.not_mem_nil
    · rw [List.mem_singleton.mp hlast, List.getLastD_eq_getLast?,
        List.getLast?_eq_getLast_of_ne_nil (cut_ne_nil cs)]
      exact hpiece _ (List.getLast_mem (cut_ne_nil cs))

theorem newline_not_mem_flat (cs : List Char) : '\n' ∉ flat cs := by
  intro h
  rcases of_mem_glue h with hspace | ⟨word, hword, hmem⟩
  · exact absurd hspace (by decide)
  · exact absurd (of_mem_cut (List.mem_filter.mp hword).1 hmem).2 (by decide)

theorem oneRow_glimpse (text : String) : OneRow (glimpse text) := by
  have hflat := newline_not_mem_flat text.toList
  rw [glimpse, oneRow_ofList]
  split
  · exact hflat
  · intro h
    rcases List.mem_append.mp h with hmem | hmem
    · exact hflat (List.mem_of_mem_take hmem)
    · exact absurd hmem (by decide)

/-- Only the space at the end of a label is trimmed. -/
theorem trimEnd_concat_space {mark : List Char} {c : Char} (h : isBlank c = false) :
    trimEnd (mark ++ [c, ' ']) = mark ++ [c] := by
  rw [trimEnd, List.reverse_append]
  show (List.dropWhile isBlank (' ' :: c :: mark.reverse)).reverse = _
  rw [List.dropWhile_cons_of_pos rfl, List.dropWhile_cons_of_neg (ne_true_of_eq_false h),
    List.reverse_cons, List.reverse_reverse]

/-- Whatever the text, it is the label that decides. -/
theorem forall_labelled_iff {label : String} {front : List Char} {c : Char}
    (hlabel : label.toList = front ++ [c, ' ']) (hc : isBlank c = false) (text : String) :
    (∀ line ∈ labelled label text, OneRow line) ↔ OneRow label := by
  unfold labelled
  dsimp only
  split
  case h_1 =>
    -- The label stands alone and loses its last space, but no newline.
    rw [List.forall_mem_singleton, oneRow_ofList, hlabel, trimEnd_concat_space hc, OneRow, hlabel]
    simp
  case h_2 first others hrows =>
    have hrow (row : List Char) (h : row ∈ first :: others) : '\n' ∉ row :=
      newline_not_mem_of_mem_rows (hrows ▸ h)
    have hindent : '\n' ∉ label.toList.map fun _ => ' ' := fun h => by
      obtain ⟨_, _, h⟩ := List.mem_map.mp h
      exact absurd h (by decide)
    have hfirst : OneRow (.ofList (label.toList ++ first)) ↔ OneRow label := by
      rw [oneRow_ofList, List.mem_append, not_or, and_iff_left (hrow first List.mem_cons_self)]
      rfl
    have hothers : ∀ line ∈ others.map fun row => String.ofList
        (label.toList.map (fun _ => ' ') ++ row), OneRow line := by
      rw [List.forall_mem_map]
      intro row h
      rw [oneRow_ofList, List.mem_append, not_or]
      exact ⟨hindent, hrow row (List.mem_cons_of_mem first h)⟩
    rw [List.forall_mem_cons, hfirst, and_iff_left hothers]

/-! ### Blocks -/

/-- The texts of a block that are neither cut into rows nor flattened. -/
def Block.uncut : Block → List String
  | .user _ _ => []
  | .agent name _ => name.toList
  | .thinking name _ _ => [name]
  | .tool name used _ _ => [used, name]
  | .permission asked _ => [asked]
  | .error text => [text]

/-- The lines of a block are one row each exactly when its uncut texts are. -/
theorem Block.forall_lines_iff (verbose : Bool) (b : Block) :
    (∀ line ∈ b.lines verbose, OneRow line) ↔ ∀ text ∈ b.uncut, OneRow text := by
  have hgt (name : String) : (name ++ "> ").toList = name.toList ++ ['>', ' '] := by simp
  cases b with
  | user text branch =>
    simp only [Block.lines, Block.uncut]
    rw [forall_labelled_iff (hgt _) rfl]
    rcases branch with _ | ⟨index, count⟩ <;> simp [OneRow]
  | agent name text =>
    simp only [Block.lines, Block.uncut]
    rw [forall_labelled_iff (hgt _) rfl]
    cases name <;> simp [OneRow]
  | thinking name text active =>
    have hglimpse : '\n' ∉ (glimpse text).toList := oneRow_glimpse text
    have hbracket (label : String) : (label ++ "] ").toList = label.toList ++ [']', ' '] := by simp
    simp only [Block.lines, Block.uncut]
    split
    · rw [forall_labelled_iff (hbracket _) rfl]
      cases active <;> simp [OneRow]
    · cases active <;> simp [OneRow, hglimpse]
  | tool name used status duration =>
    cases status <;> cases duration <;> simp [OneRow, Block.lines, Block.uncut, statusMark]
  | permission asked params =>
    have hglimpse : '\n' ∉ (glimpse params).toList := oneRow_glimpse params
    simp [OneRow, Block.lines, Block.uncut, hglimpse]
  | error text => simp [OneRow, Block.lines, Block.uncut]

/-- The lines of blocks. -/
theorem forall_lines_iff (verbose : Bool) (blocks : List Block) :
    (∀ line ∈ lines verbose blocks, OneRow line) ↔
      ∀ text ∈ blocks.flatMap Block.uncut, OneRow text := by
  rw [lines, List.forall_mem_flatMap, List.forall_mem_flatMap]
  exact forall₂_congr fun b _ => b.forall_lines_iff verbose

/-! ### Activations -/

/-- The texts of an activation that are neither cut into rows nor flattened. -/
def uncutOf (a : Activation) : List String :=
  a.agent :: a.tools.flatMap fun call => [call.tool, call.agent]

/-- The lines of an activation are one row each exactly when its uncut texts are. -/
theorem forall_activationLines_iff (a : Activation) :
    (∀ line ∈ activationLines a, OneRow line) ↔ ∀ text ∈ uncutOf a, OneRow text := by
  have hheading :
      OneRow ("── " ++ a.agent ++ " (" ++ (if a.isComplete then "done" else "running") ++ ")") ↔
        OneRow a.agent := by
    cases a.isComplete <;> simp [OneRow]
  rw [activationLines, List.forall_mem_cons, hheading, forall_lines_iff, uncutOf,
    List.forall_mem_cons]
  -- All other blocks but those of the tools name the agent of the heading.
  refine and_congr_right fun hagent => ?_
  have hthinking : ∀ text ∈ (if a.thinking.isEmpty then [] else
      [Block.thinking a.agent a.thinking a.isThinking]).flatMap Block.uncut, OneRow text := by
    split <;> simp [Block.uncut, hagent]
  have hanswer : ∀ text ∈ (if a.answer.isEmpty then [] else
      [Block.agent (some a.agent) a.answer]).flatMap Block.uncut, OneRow text := by
    split <;> simp [Block.uncut, hagent]
  rw [activationBlocks, List.flatMap_append, List.flatMap_append, List.forall_mem_append,
    List.forall_mem_append, and_iff_right hthinking, and_iff_left hanswer, List.flatMap_map]
  rfl

theorem forall_snapshotLines_iff (activations : List Activation) :
    (∀ line ∈ snapshotLines activations, OneRow line) ↔
      ∀ text ∈ activations.flatMap uncutOf, OneRow text := by
  rw [snapshotLines, List.forall_mem_flatMap, List.forall_mem_flatMap]
  exact forall₂_congr fun a _ => forall_activationLines_iff a

/-! ### The count of the live area -/

theorem count_flatMap_newline (rows : List (List Char)) :
    (rows.flatMap (· ++ ['\n'])).count '\n' = rows.length + rows.flatten.count '\n' := by
  induction rows with
  | nil => rfl
  | cons row rows ih =>
    rw [List.flatMap_cons, List.count_append, List.count_append, ih, List.flatten_cons,
      List.count_append, List.length_cons, List.count_singleton_self]
    omega

/-- A drawing writes as many newlines as the area counts rows exactly when each line is one row. -/
theorem count_draw_eq_iff (area : LiveArea) (drawing : List String) :
    (area.draw drawing).2.toList.count '\n' = (area.draw drawing).1.drawn ↔
      ∀ line ∈ drawing, OneRow line := by
  have herasing : (LiveArea.erasing area.drawn).toList.count '\n' = 0 := by
    rw [List.count_eq_zero]
    by_cases h : area.drawn = 0 <;> simp [LiveArea.erasing, h]
  have hlength : (area.draw drawing).1.drawn = (drawing.map String.toList).length :=
    (List.length_map String.toList).symm
  rw [toList_draw, List.count_append, herasing, Nat.zero_add, count_flatMap_newline, hlength,
    Nat.add_eq_left, List.count_eq_zero]
  simp [OneRow]

/-- The lines of blocks, and those of activations from the archive, are one row each exactly when no
name and no error among them holds a newline; and exactly then the live area, which draws the
activations and the blocks of a completed turn one below the other, counts as many rows as it writes
newlines. -/
theorem lines_oneRow_iff (verbose : Bool) (blocks : List Block) (activations : List Activation)
    (area : LiveArea) :
    ((∀ line ∈ lines verbose blocks, OneRow line) ↔
      ∀ text ∈ blocks.flatMap Block.uncut, OneRow text) ∧
    ((∀ line ∈ snapshotLines activations, OneRow line) ↔
      ∀ text ∈ activations.flatMap uncutOf, OneRow text) ∧
    let drawing := area.draw (snapshotLines activations ++ lines verbose blocks)
    (drawing.2.toList.count '\n' = drawing.1.drawn ↔
      ∀ text ∈ activations.flatMap uncutOf ++ blocks.flatMap Block.uncut, OneRow text) := by
  have hsnapshot := forall_snapshotLines_iff activations
  have hlines := forall_lines_iff verbose blocks
  refine ⟨hlines, hsnapshot, ?_⟩
  dsimp only
  rw [count_draw_eq_iff, List.forall_mem_append, List.forall_mem_append, hsnapshot, hlines]

/-- An error of two rows is shown as one line, which the live area counts as one row. So the next
drawing leaves the first of them on the screen. -/
theorem not_lines_oneRow_error :
    let error := lines false [.error "a\nb"]
    let drawing := LiveArea.new.draw error
    ¬ (∀ line ∈ error, OneRow line) ∧
      drawing.1.drawn = 1 ∧ drawing.2.toList.count '\n' = 2 ∧
      let written := (LiveArea.new.run [.draw error, .draw []]).2
      ((Terminal.showing []).display (Text.Utf8.bytes written.toList)).cells 0 0 = some 'e' := by
  decide +kernel

end BranchChat.Display
