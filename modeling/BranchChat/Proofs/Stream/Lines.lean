import BranchChat.Proofs.Text.Split
import BranchChat.Stream.Framing

/-!
# Lines of a framing

A framing reads its bytes one at a time. What it gives is the same as if all bytes since its start
were cut into lines at once, and the lines were read one after the other.

## Main definitions

- `wholeLines`: the lines that a newline ends
- `openLine`: the bytes after the last newline
- `readLines`: reads lines one after the other

## Main statements

- `wholeLines_append`: further bytes end the open line and lines of their own
- `feed_eq_readLines`: feeding bytes is reading the lines that end in them
-/

namespace BranchChat.Stream.Framing

open BranchChat.Text (cut)

/-- The lines of a byte string that a newline ends, each without it. -/
def wholeLines (bs : List UInt8) : List (List UInt8) :=
  (cut (· == newline) bs).dropLast

/-- The bytes after the last newline. -/
def openLine (bs : List UInt8) : List UInt8 :=
  (cut (· == newline) bs).getLastD []

/-- Reads lines one after the other, and gives their events in order. -/
def readLines (announced : Option String) : List (List UInt8) → Option String × List WireEvent
  | [] => (announced, [])
  | line :: lines =>
    let read := readLine announced (.ofBytes line)
    let rest := readLines read.1 lines
    (rest.1, read.2.toList ++ rest.2)

variable {bs : List UInt8}

/-! ### Cutting into lines -/

/-- Bytes are one open line, or a line with its newline and then more bytes. -/
theorem lines_induction {motive : List UInt8 → Prop}
    (unended : ∀ bs, newline ∉ bs → motive bs)
    (ended : ∀ bs rest, newline ∉ bs → motive rest → motive (bs ++ newline :: rest))
    (bs : List UInt8) : motive bs := by
  -- By length: what follows the first newline is shorter.
  induction hn : bs.length using Nat.strongRecOn generalizing bs with
  | ind n ih =>
    by_cases h : newline ∈ bs
    · obtain ⟨line, rest, rfl, hline⟩ := List.eq_append_cons_of_mem h
      refine ended line rest hline (ih rest.length ?_ rest rfl)
      simp only [List.length_append, List.length_cons] at hn
      omega
    · exact unended bs h

theorem cut_of_not_mem (h : newline ∉ bs) : cut (· == newline) bs = [bs] :=
  Text.cut_of_forall fun b hb => beq_false_of_ne fun (hn : b = newline) => h (hn ▸ hb)

theorem cut_append_newline (h : newline ∉ bs) (rest : List UInt8) :
    cut (· == newline) (bs ++ newline :: rest) = bs :: cut (· == newline) rest :=
  Text.cut_append_cons (fun b hb => beq_false_of_ne fun (hn : b = newline) => h (hn ▸ hb))
    (beq_self_eq_true _) rest

theorem wholeLines_of_not_mem (h : newline ∉ bs) : wholeLines bs = [] := by
  rw [wholeLines, cut_of_not_mem h]
  rfl

theorem openLine_of_not_mem (h : newline ∉ bs) : openLine bs = bs := by
  rw [openLine, cut_of_not_mem h]
  rfl

/-- The bytes before the first newline are the first line. -/
theorem wholeLines_append_newline (h : newline ∉ bs) (rest : List UInt8) :
    wholeLines (bs ++ newline :: rest) = bs :: wholeLines rest := by
  rw [wholeLines, cut_append_newline h, List.dropLast_cons_of_ne_nil (Text.cut_ne_nil rest)]
  rfl

theorem openLine_append_newline (h : newline ∉ bs) (rest : List UInt8) :
    openLine (bs ++ newline :: rest) = openLine rest := by
  rw [openLine, openLine, cut_append_newline h]
  cases hc : cut (· == newline) rest with
  | nil => exact absurd hc (Text.cut_ne_nil rest)
  | cons piece pieces => rfl

theorem newline_not_mem_openLine (bs : List UInt8) : newline ∉ openLine bs := by
  induction bs using lines_induction with
  | unended bs h => rwa [openLine_of_not_mem h]
  | ended bs rest h ih => rwa [openLine_append_newline h]

/-- Each newline ends one line. -/
theorem length_wholeLines (bs : List UInt8) : (wholeLines bs).length = bs.count newline := by
  induction bs using lines_induction with
  | unended bs h => rw [wholeLines_of_not_mem h, List.count_eq_zero.mpr h, List.length_nil]
  | ended bs rest h ih =>
    rw [wholeLines_append_newline h, List.length_cons, ih, List.count_append,
      List.count_cons_self, List.count_eq_zero.mpr h, Nat.zero_add]

/-- Further bytes end the open line and lines of their own, and leave the earlier lines alone. -/
theorem wholeLines_append (bs more : List UInt8) :
    wholeLines (bs ++ more) = wholeLines bs ++ wholeLines (openLine bs ++ more) := by
  induction bs using lines_induction with
  | unended bs h => rw [wholeLines_of_not_mem h, openLine_of_not_mem h, List.nil_append]
  | ended bs rest h ih =>
    rw [List.append_assoc, List.cons_append, wholeLines_append_newline h,
      wholeLines_append_newline h, openLine_append_newline h, ih, List.cons_append]

/-! ### Feeding -/

/-- Bytes may be fed in two parts. -/
theorem feed_append (f : Framing) (bs more : List UInt8) :
    f.feed (bs ++ more) =
      (((f.feed bs).1.feed more).1, (f.feed bs).2 ++ ((f.feed bs).1.feed more).2) := by
  induction bs generalizing f with
  | nil => rfl
  | cons b bs ih =>
    simp only [List.cons_append, feed]
    split
    · rw [ih]
      simp only [List.append_assoc]
    · rw [ih]

/-- Feeding bytes is reading the lines that end in them, the first of which may have begun before
them. What is left is the line that has not ended. -/
theorem feed_eq_readLines (f : Framing) (h : newline ∉ f.pending) (bs : List UInt8) :
    f.feed bs =
      let read := readLines f.announced (wholeLines (f.pending.reverse ++ bs))
      (⟨(openLine (f.pending.reverse ++ bs)).reverse, read.1⟩, read.2) := by
  induction bs generalizing f with
  | nil =>
    have hr : newline ∉ f.pending.reverse := by rwa [List.mem_reverse]
    rw [List.append_nil, wholeLines_of_not_mem hr, openLine_of_not_mem hr, List.reverse_reverse]
    rfl
  | cons b bs ih =>
    by_cases hb : b = newline
    · -- The pending bytes are a whole line now, and the next one begins with none.
      have hr : newline ∉ f.pending.reverse := by rwa [List.mem_reverse]
      rw [hb, wholeLines_append_newline hr, openLine_append_newline hr]
      simp only [feed, if_pos, ih f.endLine.1 List.not_mem_nil]
      rfl
    · -- The byte joins the pending ones.
      have hp : newline ∉ b :: f.pending := by
        rw [List.mem_cons, not_or]
        exact ⟨Ne.symm hb, h⟩
      rw [feed, if_neg hb, ih _ hp]
      simp only [List.reverse_cons, List.append_assoc, List.singleton_append]

/-- What a framing gives for all bytes since its start. -/
theorem start_feed (bs : List UInt8) :
    start.feed bs =
      (⟨(openLine bs).reverse, (readLines none (wholeLines bs)).1⟩,
        (readLines none (wholeLines bs)).2) :=
  feed_eq_readLines start List.not_mem_nil bs

end BranchChat.Stream.Framing
