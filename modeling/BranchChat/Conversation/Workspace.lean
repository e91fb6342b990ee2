import BranchChat.Conversation.Record
import BranchChat.Conversation.Tree

/-!
# The workspace

The workspace holds the open conversation and its tree, the branch that is looked at, and the lists
of artifacts and conversations. Everything in it is taken over whole from the backend; the events of
a turn never touch it.

## Main definitions

- `Workspace`: the open conversation and its branch
- `Workspace.load`, `Workspace.refreshed`: a conversation comes from the backend
- `Workspace.select?`, `Workspace.switch?`: another branch is looked at
- `Workspace.path`, `Workspace.newParent?`, `Workspace.visible`: what is seen
-/

namespace BranchChat

/-- The open conversation with its tree, the end of its chosen branch, and two lists. -/
structure Workspace where
  conversation : Option Conversation
  tree : Tree
  leaf : Option String
  artifacts : List Artifact
  catalog : List CatalogEntry
deriving DecidableEq

namespace Workspace

/-- Nothing is open. -/
def empty : Workspace := ⟨none, .empty, none, [], []⟩

/-- The identifier of the open conversation. -/
def id? (w : Workspace) : Option String :=
  w.conversation.map Conversation.id

/-- The title of the open conversation. -/
def title? (w : Workspace) : Option String :=
  w.conversation.bind Conversation.title

/-- Opens a conversation, which brings its tree. Another copy of the one that is open keeps the
artifacts, and the branch if its end is still there. -/
def load (w : Workspace) (c : Conversation) : Workspace :=
  let same := w.id? == some c.id
  let tree := Tree.ofMessages c.messages
  { w with
    conversation := some c
    tree
    artifacts := if same then w.artifacts else []
    leaf := if same then w.leaf.filter tree.has else none }

/-- Takes over a list of artifacts. -/
def withArtifacts (w : Workspace) (artifacts : List Artifact) : Workspace :=
  { w with artifacts }

/-- Takes over a conversation and its artifacts. -/
def refreshed (w : Workspace) (c : Conversation) (artifacts : List Artifact) : Workspace :=
  (w.load c).withArtifacts artifacts

/-- Chooses the branch that ends at a message, or the newest one. There has to be such a message. -/
def select? (w : Workspace) (leaf : Option String) : Option Workspace :=
  if leaf.all w.tree.has then some { w with leaf } else none

/-- The messages on the chosen branch. -/
def path (w : Workspace) : List Message :=
  w.tree.path w.leaf

/-- The message that a new turn answers to. -/
def newParent? (w : Workspace) : Option String :=
  w.path.getLast?.map Message.id

/-- The messages seen while a turn below `parent` is under way. -/
def visible (w : Workspace) (parent : Option String) : List Message :=
  match parent with
  | some id => w.tree.path (some id)
  | none => []

/-- The sibling that lies `offset` places after a message. -/
def sibling? (w : Workspace) (id : String) (offset : Int) : Option String :=
  let siblings := w.tree.siblings id
  if siblings.contains id then
    match (siblings.idxOf id : Int) + offset with
    | .ofNat target => siblings[target]?
    | .negSucc _ => none
  else none

/-- Goes over to a sibling and follows it down to its newest leaf, which ends the new branch. -/
def switch? (w : Workspace) (id : String) (offset : Int) : Option (Workspace × String) := do
  let target ← w.sibling? id offset
  let leaf ← w.tree.newestUnder? target
  some ({ w with leaf := some leaf }, leaf)

end Workspace

end BranchChat
