import BranchChat.Proofs.Text.Encoding
import Mathlib.Data.List.Basic

/-!
# A terminal

A screen without an end to the right or below, so that nothing wraps or scrolls. Characters are put
at the cursor, a newline goes to the start of the next row, and two control sequences are obeyed:
one moves the cursor up, the other clears all from the cursor on. What is on the screen is told cell
by cell, so that nothing can be left over unseen.

## Main definitions

- `Terminal`: the screen, the cursor, and how far a control sequence has come
- `Terminal.feed`, `Terminal.display`: one character, and the characters of a text in UTF-8
- `Terminal.showing`: these rows are on the screen, and the cursor is below them

## Main statements

- `foldl_feed_rows`: rows are written
- `foldl_feed_up_clear`, `clearBelow_up_writing`: rows are taken away
-/

namespace BranchChat.Display

/-- How far a control sequence has come. -/
inductive Terminal.Mode where
  /-- There is none. -/
  | text
  /-- The escape character was read. -/
  | escape
  /-- The escape character, a bracket and these digits were read. -/
  | control (digits : List Char)

/-- A terminal: what stands in each row and column, and where the cursor is. -/
structure Terminal where
  cells : Nat → Nat → Option Char
  row : Nat
  column : Nat
  mode : Terminal.Mode

namespace Terminal

/-- The control characters, the newline among them. -/
def isControl (c : Char) : Bool :=
  c.toNat < 0x20 || (0x7F ≤ c.toNat && c.toNat < 0xA0)

/-- Puts a character at the cursor. -/
def put (t : Terminal) (c : Char) : Terminal :=
  { t with
    cells := fun row column =>
      if row = t.row ∧ column = t.column then some c else t.cells row column
    column := t.column + 1 }

/-- Moves the cursor up, at most to the first row. -/
def up (t : Terminal) (n : Nat) : Terminal :=
  { t with row := t.row - n }

/-- Clears the row from the cursor on, and all rows below it. -/
def clearBelow (t : Terminal) : Terminal :=
  { t with
    cells := fun row column =>
      if row < t.row ∨ row = t.row ∧ column < t.column then t.cells row column else none }

/-- Obeys a control sequence: up by a number of rows, where none means one, or clear, which has no
number. Any other is passed over. -/
def obey (t : Terminal) (digits : List Char) (command : Char) : Terminal :=
  match command with
  | 'A' => t.up (max 1 (Nat.ofDigitChars 10 digits 0))
  | 'J' => if digits.isEmpty then t.clearBelow else t
  | _ => t

/-- Reads a character. -/
def feed (t : Terminal) (c : Char) : Terminal :=
  match t.mode with
  | .text =>
    if c = '\n' then { t with row := t.row + 1, column := 0 }
    else if c = '\x1b' then { t with mode := .escape }
    else if isControl c then t
    else t.put c
  | .escape => { t with mode := if c = '[' then .control [] else .text }
  | .control digits =>
    if c.isDigit then { t with mode := .control (digits ++ [c]) }
    else { t.obey digits c with mode := .text }

/-- Reads bytes, which are the characters of a text. -/
def display (t : Terminal) (bs : List UInt8) : Terminal :=
  (Text.Utf8.lenient bs).foldl feed t

theorem display_bytes (t : Terminal) (cs : List Char) :
    t.display (Text.Utf8.bytes cs) = cs.foldl feed t := by
  rw [display, Text.Utf8.lenient_bytes]

/-! ### Rows on the screen -/

/-- The cells of rows, where everything beyond a row and below the last one is clear. -/
def cellsOf (rows : List (List Char)) (row column : Nat) : Option Char :=
  (rows[row]?.getD [])[column]?

/-- These rows are on the screen, and the cursor stands behind what is written below them. -/
def writing (rows : List (List Char)) (written : List Char) : Terminal where
  cells := cellsOf (rows ++ [written])
  row := rows.length
  column := written.length
  mode := .text

/-- These rows are on the screen and nothing else, and the cursor is at the start of the row
below. -/
def showing (rows : List String) : Terminal :=
  writing (rows.map String.toList) []

theorem cellsOf_append_of_lt {rows : List (List Char)} {row : Nat} (h : row < rows.length)
    (below : List (List Char)) (column : Nat) :
    cellsOf (rows ++ below) row column = cellsOf rows row column := by
  rw [cellsOf, cellsOf, List.getElem?_append_left h]

theorem cellsOf_of_le {rows : List (List Char)} {row : Nat} (h : rows.length ≤ row)
    (column : Nat) : cellsOf rows row column = none := by
  rw [cellsOf, List.getElem?_eq_none h]
  rfl

theorem cellsOf_concat_length (rows : List (List Char)) (last : List Char) (column : Nat) :
    cellsOf (rows ++ [last]) rows.length column = last[column]? := by
  rw [cellsOf, List.getElem?_concat_length]
  rfl

theorem cellsOf_concat_nil (rows : List (List Char)) : cellsOf (rows ++ [[]]) = cellsOf rows := by
  funext row column
  rcases Nat.lt_trichotomy row rows.length with hlt | rfl | hgt
  · rw [cellsOf_append_of_lt hlt]
  · rw [cellsOf_concat_length, cellsOf_of_le (Nat.le_refl _)]
    rfl
  · rw [cellsOf_of_le (Nat.le_of_lt hgt), cellsOf_of_le]
    rw [List.length_append]
    exact hgt

theorem cells_put_writing (rows : List (List Char)) (written : List Char) (c : Char) :
    ((writing rows written).put c).cells = cellsOf (rows ++ [written ++ [c]]) := by
  funext row column
  show (if row = rows.length ∧ column = written.length then some c
    else cellsOf (rows ++ [written]) row column) = _
  -- The rows above and below are as they were; in the row of the cursor one cell changes.
  rcases Nat.lt_trichotomy row rows.length with hlt | rfl | hgt
  · rw [if_neg fun h => Nat.ne_of_lt hlt h.1, cellsOf_append_of_lt hlt, cellsOf_append_of_lt hlt]
  · rw [cellsOf_concat_length, cellsOf_concat_length]
    rcases Nat.lt_trichotomy column written.length with hlt | rfl | hgt
    · rw [if_neg fun h => Nat.ne_of_lt hlt h.2, List.getElem?_append_left hlt]
    · rw [if_pos ⟨rfl, rfl⟩, List.getElem?_concat_length]
    · rw [if_neg fun h => Nat.ne_of_gt hgt h.2, List.getElem?_eq_none (Nat.le_of_lt hgt),
        List.getElem?_eq_none]
      rw [List.length_append]
      exact hgt
  · have hlength (last : List Char) : (rows ++ [last]).length ≤ row := by
      rw [List.length_append]
      exact hgt
    rw [if_neg fun h => Nat.ne_of_gt hgt h.1, cellsOf_of_le (hlength _), cellsOf_of_le (hlength _)]

/-- A character that is no control character is put behind what is written. -/
theorem feed_of_not_control (rows : List (List Char)) (written : List Char) {c : Char}
    (h : isControl c = false) : (writing rows written).feed c = writing rows (written ++ [c]) := by
  have hnewline : c ≠ '\n' := by rintro rfl; cases h
  have hescape : c ≠ '\x1b' := by rintro rfl; cases h
  have hput : (writing rows written).feed c = (writing rows written).put c := by
    show (if c = '\n' then _ else if c = '\x1b' then _ else if isControl c then _ else _) = _
    rw [if_neg hnewline, if_neg hescape, h]
    rfl
  calc (writing rows written).feed c
      = ⟨((writing rows written).put c).cells, rows.length, written.length + 1, .text⟩ := hput
    _ = writing rows (written ++ [c]) := by
      rw [cells_put_writing, writing, List.length_append]
      rfl

theorem foldl_feed_text (rows : List (List Char)) (written cs : List Char)
    (h : ∀ c ∈ cs, isControl c = false) :
    cs.foldl feed (writing rows written) = writing rows (written ++ cs) := by
  induction cs generalizing written with
  | nil => rw [List.foldl_nil, List.append_nil]
  | cons c cs ih =>
    obtain ⟨hc, hcs⟩ := List.forall_mem_cons.mp h
    rw [List.foldl_cons, feed_of_not_control rows written hc, ih _ hcs, List.append_assoc]
    rfl

/-- A text and a newline are written as one row. -/
theorem foldl_feed_row (rows : List (List Char)) (cs : List Char)
    (h : ∀ c ∈ cs, isControl c = false) :
    (cs ++ ['\n']).foldl feed (writing rows []) = writing (rows ++ [cs]) [] := by
  rw [List.foldl_append, foldl_feed_text rows [] cs h, List.nil_append]
  show (⟨cellsOf (rows ++ [cs]), rows.length + 1, 0, .text⟩ : Terminal) = _
  rw [writing, cellsOf_concat_nil, List.length_append]
  rfl

/-- So are many. -/
theorem foldl_feed_rows (rows lines : List (List Char))
    (h : ∀ line ∈ lines, ∀ c ∈ line, isControl c = false) :
    (lines.flatMap (· ++ ['\n'])).foldl feed (writing rows []) = writing (rows ++ lines) [] := by
  induction lines generalizing rows with
  | nil => rw [List.flatMap_nil, List.foldl_nil, List.append_nil]
  | cons line lines ih =>
    obtain ⟨hline, hlines⟩ := List.forall_mem_cons.mp h
    rw [List.flatMap_cons, List.foldl_append, foldl_feed_row rows line hline, ih _ hlines,
      List.append_assoc]
    rfl

/-! ### Control sequences -/

theorem foldl_feed_digits (t : Terminal) (digits more : List Char)
    (h : ∀ c ∈ more, c.isDigit = true) :
    more.foldl feed { t with mode := .control digits } =
      { t with mode := .control (digits ++ more) } := by
  induction more generalizing digits with
  | nil => rw [List.foldl_nil, List.append_nil]
  | cons c more ih =>
    obtain ⟨hc, hmore⟩ := List.forall_mem_cons.mp h
    have hfeed : feed { t with mode := .control digits } c =
        { t with mode := .control (digits ++ [c]) } := by
      show (if c.isDigit then _ else _) = _
      rw [if_pos hc]
    rw [List.foldl_cons, hfeed, ih _ hmore, List.append_assoc]
    rfl

/-- Going up by as many rows as there are at the end of the screen, and clearing all from there on,
takes these rows away. -/
theorem clearBelow_up_writing (rows drawn : List (List Char)) :
    ((writing (rows ++ drawn) []).up drawn.length).clearBelow = writing rows [] := by
  have hrow : (rows ++ drawn).length - drawn.length = rows.length := by
    rw [List.length_append, Nat.add_sub_cancel]
  have hcells : ((writing (rows ++ drawn) []).up drawn.length).clearBelow.cells = cellsOf rows := by
    funext row column
    show (if row < (rows ++ drawn).length - drawn.length ∨
        row = (rows ++ drawn).length - drawn.length ∧ column < 0 then
      cellsOf (rows ++ drawn ++ [[]]) row column else none) = cellsOf rows row column
    rw [hrow, cellsOf_concat_nil]
    split
    · next habove => exact cellsOf_append_of_lt (habove.resolve_right fun h => by cases h.2) ..
    · next hbelow => rw [cellsOf_of_le (Nat.not_lt.mp fun h => hbelow (.inl h))]
  calc ((writing (rows ++ drawn) []).up drawn.length).clearBelow
      = ⟨((writing (rows ++ drawn) []).up drawn.length).clearBelow.cells,
          (rows ++ drawn).length - drawn.length, 0, .text⟩ := rfl
    _ = writing rows [] := by rw [hcells, hrow, writing, cellsOf_concat_nil]; rfl

/-- The control text for this, with the number of rows in digits. -/
theorem foldl_feed_up_clear (t : Terminal) (h : t.mode = .text) {n : Nat} (hn : n ≠ 0) :
    ('\x1b' :: '[' :: (Nat.toDigits 10 n ++ ['A', '\x1b', '[', 'J'])).foldl feed t =
      (t.up n).clearBelow := by
  obtain ⟨cells, row, column, mode⟩ := t
  obtain rfl : mode = .text := h
  have hdigits : ∀ c ∈ Nat.toDigits 10 n, c.isDigit = true :=
    fun c hc => Nat.isDigit_of_mem_toDigits (by decide) (by decide) hc
  -- The digits are read back as the number that they were made of, which is not zero.
  have hread : max 1 (Nat.ofDigitChars 10 (Nat.toDigits 10 n) 0) = n := by
    rw [Nat.ofDigitChars_ten_toDigits]
    omega
  have hbegin : ['\x1b', '['].foldl feed ⟨cells, row, column, .text⟩ =
      ⟨cells, row, column, .control []⟩ := rfl
  have hend (t : Terminal) (digits : List Char) :
      ['A', '\x1b', '[', 'J'].foldl feed { t with mode := .control digits } =
        { (t.up (max 1 (Nat.ofDigitChars 10 digits 0))).clearBelow with mode := .text } := rfl
  have hmiddle := foldl_feed_digits ⟨cells, row, column, .text⟩ [] _ hdigits
  rw [List.nil_append] at hmiddle
  show (['\x1b', '['] ++ (Nat.toDigits 10 n ++ ['A', '\x1b', '[', 'J'])).foldl feed _ = _
  rw [List.foldl_append, hbegin, List.foldl_append, hmiddle, hend, hread]
  rfl

end Terminal

end BranchChat.Display
