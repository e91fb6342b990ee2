import BranchChat.Toml.Scalar

/-!
# Documents of TOML

A document is a table that is built statement by statement: a header opens a table or a new entry
of a list of tables, and an assignment puts a value under a path of keys. No statement may define
again what an earlier one has defined. What a table still allows depends on how it came about.

## Main definitions

- `Origin`: how a table came about
- `Node`: a value, a list or a table
- `Statement`: one statement
- `document?`: the table of all statements
-/

namespace BranchChat.Toml

/-- How a table came about. -/
inductive Origin where
  /-- On the way to a table with a header. -/
  | implied
  /-- By a header of its own. -/
  | header
  /-- On the way of a dotted key. -/
  | dotted
  /-- In braces, all at once. -/
  | braces
deriving DecidableEq, Inhabited

/-- A value, a list or a table. A list of tables grows with each of its headers. -/
inductive Node where
  | scalar (value : Scalar)
  | array (items : List Node)
  | table (origin : Origin) (members : List (String × Node))
  | tables (list : List (List (String × Node)))
deriving Inhabited

/-- The members of a table. -/
abbrev Members := List (String × Node)

/-- The members with `node` under `key`, in the key's place when it is there, else at the end. -/
def Members.set (ms : Members) (key : String) (node : Node) : Members :=
  if ms.any (·.1 == key) then ms.map fun m => if m.1 == key then (key, node) else m
  else ms ++ [(key, node)]

/-- How a table comes about that a path leads through. A dotted key makes a table its own that had
only been implied. -/
def Origin.passed (byDots : Bool) (origin : Origin) : Origin :=
  if byDots then .dotted else origin

/-- Changes the table at the end of a path. Tables on the way are made where they are missing. A
dotted key passes only through tables that have no header and no braces of their own, a header not
through braces; and both pass through the newest table of a list. -/
def changeAt (byDots : Bool) (change : Origin → Members → Option (Origin × Members)) :
    List String → Origin → Members → Option (Origin × Members)
  | [], origin, ms => change origin ms
  | key :: path, origin, ms =>
    match ms.lookup key with
    | none => do
      let (o, inner) ← changeAt byDots change path (Origin.implied.passed byDots) []
      some (origin, ms.set key (.table o inner))
    | some (.table o inner) =>
      if o = .braces ∨ (byDots ∧ o = .header) then none
      else do
        let (o, inner) ← changeAt byDots change path (o.passed byDots) inner
        some (origin, ms.set key (.table o inner))
    | some (.tables list) => do
      let newest ← list.getLast?
      let (_, inner) ← changeAt byDots change path .header newest
      some (origin, ms.set key (.tables (list.dropLast ++ [inner])))
    | some _ => none

/-- Puts a node under a key. A table takes keys either by dots or by a header, not by both. -/
def assign (byDots : Bool) (key : String) (node : Node) (origin : Origin) (ms : Members) :
    Option (Origin × Members) :=
  if (origin == .dotted) != byDots || ms.any (·.1 == key) then none
  else some (origin, ms ++ [(key, node)])

/-- Puts a node at a path below a table. -/
def assignAt (path : List String) (key : String) (node : Node) (origin : Origin) (ms : Members) :
    Option (Origin × Members) :=
  changeAt true (assign (!path.isEmpty) key node) path origin ms

/-- Opens the table of a header. -/
def openTable (key : String) (origin : Origin) (ms : Members) : Option (Origin × Members) :=
  match ms.lookup key with
  | none => some (origin, ms.set key (.table .header []))
  | some (.table .implied inner) => some (origin, ms.set key (.table .header inner))
  | some _ => none

/-- Opens a new entry of a list of tables. -/
def openEntry (key : String) (origin : Origin) (ms : Members) : Option (Origin × Members) :=
  match ms.lookup key with
  | none => some (origin, ms.set key (.tables [[]]))
  | some (.tables list) => some (origin, ms.set key (.tables (list ++ [[]])))
  | some _ => none

/-- A statement. A path is given as all keys but the last, and the last. -/
inductive Statement where
  | table (path : List String) (key : String)
  | entry (path : List String) (key : String)
  | assignment (path : List String) (key : String) (node : Node)
deriving Inhabited

/-- The document so far, and the path of the table that assignments go to. -/
structure Document where
  members : Members
  current : List String

/-- Carries one statement out. -/
def Document.step (d : Document) : Statement → Option Document
  | .table path key => do
    let (_, ms) ← changeAt false (openTable key) path .header d.members
    some ⟨ms, path ++ [key]⟩
  | .entry path key => do
    let (_, ms) ← changeAt false (openEntry key) path .header d.members
    some ⟨ms, path ++ [key]⟩
  | .assignment path key node => do
    let (_, ms) ← changeAt false (assignAt path key node) d.current .header d.members
    some { d with members := ms }

/-- The table of all statements. -/
def document? (statements : List Statement) : Option Members :=
  (statements.foldlM Document.step ⟨[], []⟩).map Document.members

/-- The table of the assignments between braces. -/
def braces? (assignments : List (List String × String × Node)) : Option Node :=
  (assignments.foldlM
    (fun (t : Origin × Members) (path, key, node) => assignAt path key node t.1 t.2)
    (.braces, [])).map fun (o, ms) => .table o ms

end BranchChat.Toml
