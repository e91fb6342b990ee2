import BranchChat.Conversation.Message

/-!
# Trees of messages

The messages of a conversation form branches. All structure is read off one list of messages with
distinct identifiers: a message hangs below the message that it names, if the list holds it and it
is another one, and else it is a root. The links come from outside, so they may form cycles.

## Main definitions

- `Tree.ofMessages`: the tree of any list of messages
- `Tree.linkOf`, `Tree.parent?`: the message above
- `Tree.group`: the messages below one message, or the roots
- `Tree.ancestry`: a message and all above it, from below
- `Tree.path`: the way down to a message
- `Tree.newestUnder?`, `Tree.newest?`: the newest leaf of a branch, or of all
-/

namespace BranchChat

/-- The first message of every identifier, in order. -/
def firstOfEach : List Message → List Message
  | [] => []
  | m :: ms => m :: (firstOfEach ms).filter (·.id != m.id)

theorem firstOfEach_nodup (ms : List Message) : ((firstOfEach ms).map Message.id).Nodup := by
  induction ms with
  | nil => simp [firstOfEach]
  | cons m ms ih =>
    simp only [firstOfEach, List.map_cons, List.nodup_cons, List.mem_map, List.mem_filter]
    refine ⟨?_, (List.filter_sublist.map _).nodup ih⟩
    rintro ⟨x, ⟨-, hx⟩, h⟩
    simp [h] at hx

/-- Messages with distinct identifiers. -/
structure Tree where
  messages : List Message
  distinct : (messages.map Message.id).Nodup
deriving DecidableEq

namespace Tree

/-- The tree of a list of messages, of which later ones with the same identifier are dropped. -/
def ofMessages (ms : List Message) : Tree :=
  ⟨firstOfEach ms, firstOfEach_nodup ms⟩

/-- The tree without messages. -/
def empty : Tree := ofMessages []

/-- The message with an identifier. -/
def find? (t : Tree) (id : String) : Option Message :=
  t.messages.find? (·.id == id)

/-- Whether there is a message with an identifier. -/
def has (t : Tree) (id : String) : Bool :=
  t.messages.any (·.id == id)

/-! ### Links -/

/-- The identifier of the message above a message. -/
def linkOf (t : Tree) (m : Message) : Option String :=
  m.parent.filter fun p => p != m.id && t.has p

/-- The identifier of the message above the one with a given identifier. -/
def parent? (t : Tree) (id : String) : Option String :=
  (t.find? id).bind t.linkOf

/-- The identifiers of the messages below `parent`, or of the roots. -/
def group (t : Tree) (parent : Option String) : List String :=
  (t.messages.filter fun m => t.linkOf m == parent).map Message.id

/-- The identifiers of the messages that hang below none. -/
def roots (t : Tree) : List String :=
  t.group none

/-- The identifiers of the messages directly below one. -/
def children (t : Tree) (id : String) : List String :=
  t.group (some id)

/-- The identifiers of the messages with the same place as a given one, itself included. -/
def siblings (t : Tree) (id : String) : List String :=
  match t.find? id with
  | some m => t.group (t.linkOf m)
  | none => []

/-- The place of a message among its siblings. -/
def siblingIndex (t : Tree) (m : Message) : Nat :=
  (t.group (t.linkOf m)).idxOf m.id

/-- The number of siblings of a message, itself included. -/
def siblingCount (t : Tree) (m : Message) : Nat :=
  (t.group (t.linkOf m)).length

/-! ### Branches -/

/-- The message `id` and those above it, as long as they are among `unvisited`. -/
def climb (t : Tree) (unvisited : List Message) (id : String) : List Message :=
  match _found : unvisited.find? (·.id == id) with
  | none => []
  | some m =>
    match t.linkOf m with
    | none => [m]
    | some p => m :: t.climb (unvisited.erase m) p
termination_by unvisited.length
decreasing_by
  have hm := List.mem_of_find?_eq_some _found
  have := List.length_erase_of_mem hm
  have := List.length_pos_of_mem hm
  omega

/-- A message and all above it, from below. A cycle is gone round once. -/
def ancestry (t : Tree) (id : String) : List Message :=
  t.climb t.messages id

/-- Whether a message is `id` or hangs, at any depth, below it. -/
def isUnder (t : Tree) (id : String) (m : Message) : Bool :=
  (t.ancestry m.id).any (·.id == id)

/-- Whether there is nothing below a message. -/
def isLeaf (t : Tree) (m : Message) : Bool :=
  (t.children m.id).isEmpty

/-- The newer of two messages, the second of them if they are of the same time. -/
def newer (best : Option Message) (m : Message) : Option Message :=
  match best with
  | some b => if b.createdAt.rank ≤ m.createdAt.rank then some m else some b
  | none => some m

/-- The newest of some messages. -/
def newestOf (ms : List Message) : Option Message :=
  ms.foldl newer none

/-- The newest of the leaves among some messages, or the newest of all where none is a leaf. -/
def newestAmong (t : Tree) (ms : List Message) : Option Message :=
  newestOf (ms.filter t.isLeaf) <|> newestOf ms

/-- The identifier of the newest leaf of the whole tree. -/
def newest? (t : Tree) : Option String :=
  (t.newestAmong t.messages).map Message.id

/-- The identifier of the newest leaf at or below a message. -/
def newestUnder? (t : Tree) (id : String) : Option String :=
  if t.has id then (t.newestAmong (t.messages.filter (t.isUnder id))).map Message.id else none

/-- The messages from the top down to `leaf`, or to the newest leaf. -/
def path (t : Tree) (leaf : Option String) : List Message :=
  match leaf <|> t.newest? with
  | some id => (t.ancestry id).reverse
  | none => []

end Tree

end BranchChat
