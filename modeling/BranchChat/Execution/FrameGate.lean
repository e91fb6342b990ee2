/-!
# Frame gate

A gate lets at most one text through in each frame. A text that comes too early is held back, and
the next one takes its place, so that only the newest is ever let through. Times are in
milliseconds.

## Main definitions

- `FrameGate`: the gate, with the text that it holds
- `FrameGate.offer`: a new text
- `FrameGate.release?`, `FrameGate.releaseDue?`: the held text, at once or when its frame is due
- `FrameGate.remaining?`: the time until the held text is due
-/

namespace BranchChat.Execution

/-- A gate. `lastOpened` is when it last let a text through. -/
structure FrameGate where
  interval : Nat
  lastOpened : Option Nat
  held : Option String
deriving DecidableEq, Inhabited

namespace FrameGate

/-- The frame length where none is configured. -/
def defaultInterval : Nat := 16

/-- A gate that has let nothing through yet. -/
def fresh (interval : Nat) : FrameGate :=
  ⟨interval, none, none⟩

/-- A gate that holds nothing back. -/
def unlimited : FrameGate := fresh 0

/-- Whether a whole frame has passed since the gate last opened. -/
def isDue (g : FrameGate) (now : Nat) : Bool :=
  match g.lastOpened with
  | some last => g.interval ≤ now - last
  | none => true

/-- The held text, whatever the time. -/
def release? (g : FrameGate) (now : Nat) : FrameGate × Option String :=
  match g.held with
  | some text => ({ g with held := none, lastOpened := some now }, some text)
  | none => (g, none)

/-- The held text, if its frame is due. -/
def releaseDue? (g : FrameGate) (now : Nat) : FrameGate × Option String :=
  if g.isDue now then g.release? now else (g, none)

/-- A new text, in place of the one that is held; it is let through if its frame is due. -/
def offer (g : FrameGate) (text : String) (now : Nat) : FrameGate × Option String :=
  { g with held := some text }.releaseDue? now

/-- Forgets the held text. -/
def dropHeld (g : FrameGate) : FrameGate :=
  { g with held := none }

/-- The time until the held text is due. -/
def remaining? (g : FrameGate) (now : Nat) : Option Nat :=
  match g.held, g.lastOpened with
  | some _, some last => some (g.interval - (now - last))
  | _, _ => none

end FrameGate

end BranchChat.Execution
