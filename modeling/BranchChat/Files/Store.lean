import BranchChat.Files.Path
import BranchChat.Text.Utf8

/-!
# A store of files

Files and folders, each with its place under the top folder, and the folder from which relative
paths are followed.

## Main definitions

- `Fault`: why an operation fails
- `Store`: files and folders
- `Store.locate`, `Store.folderAt`: follows a path, or follows it to a folder
- `Store.readText`, `Store.write`, `Store.remove`, `Store.createFolders`
-/

namespace BranchChat.Files

/-- Why an operation on files fails. -/
inductive Fault where
  | notFound
  | alreadyExists
  | notAFolder
  | isAFolder
  | notText
  | nameTooLong
  | holdsZero
deriving DecidableEq, Inhabited

/-- The wording of a fault. -/
def Fault.message : Fault → String
  | notFound => "No such file or directory (os error 2)"
  | alreadyExists => "File exists (os error 17)"
  | notAFolder => "Not a directory (os error 20)"
  | isAFolder => "Is a directory (os error 21)"
  | notText => "stream did not contain valid UTF-8"
  | nameTooLong => "File name too long (os error 36)"
  | holdsZero => "file name contained an unexpected NUL byte"

/-- The greatest length of a name in bytes. -/
def maxNameLength : Nat := 255

/-- The greatest length of a path in bytes. -/
def maxPathLength : Nat := 4095

/-- A file, with the time of its last change in milliseconds since 1970-01-01, or a folder. -/
inductive Entry where
  | file (content : List UInt8) (changed : Int)
  | folder
deriving DecidableEq, Inhabited

/-- The names that lead to an entry from the top folder. -/
abbrev Place := List String

/-- Files and folders, and the place from which relative paths are followed. The top folder is
always there. -/
structure Store where
  workingPlace : Place
  entries : List (Place × Entry)
deriving DecidableEq, Inhabited

namespace Store

/-- What is at a place. -/
def entry? (s : Store) (place : Place) : Option Entry :=
  if place.isEmpty then some .folder else s.entries.lookup place

/-- Puts an entry at a place. -/
def put (s : Store) (place : Place) (e : Entry) : Store :=
  { s with entries := (place, e) :: s.entries.filter (·.1 != place) }

/-- Takes the entry at a place away. -/
def delete (s : Store) (place : Place) : Store :=
  { s with entries := s.entries.filter (·.1 != place) }

/-- The place to which one step leads. -/
def step (here : Place) (name : String) : Except Fault Place :=
  if name = ".." then .ok here.dropLast
  else if maxNameLength < name.utf8ByteSize then .error .nameTooLong
  else .ok (here ++ [name])

/-- Follows steps from a folder. Only the last step may lead to a file or to nothing. -/
def follow (s : Store) (here : Place) : List String → Except Fault Place
  | [] => .ok here
  | [last] => step here last
  | name :: more => do
    let next ← step here name
    match s.entry? next with
    | some .folder => s.follow next more
    | some (.file ..) => throw .notAFolder
    | none => throw .notFound

/-- The place to which a path leads, and what is there. A path that goes on from its last step has
to find something there. -/
def locate (s : Store) (p : Path) : Except Fault (Place × Option Entry) := do
  if p.contains '\x00' then throw .holdsZero
  if p = "" then throw .notFound
  if maxPathLength < p.utf8ByteSize then throw .nameTooLong
  let place ← s.follow (if p.isAbsolute then [] else s.workingPlace) p.steps
  match s.entry? place with
  | some (.file content changed) =>
    if p.wantsFolder then throw .notAFolder else return (place, some (.file content changed))
  | none => if p.endsInPlace then throw .notFound else return (place, none)
  | found => return (place, found)

/-- What a path leads to. -/
def at? (s : Store) (p : Path) : Option Entry :=
  match s.locate p with
  | .ok (_, found) => found
  | .error _ => none

/-- Whether a path leads to anything. -/
def contains (s : Store) (p : Path) : Bool :=
  (s.at? p).isSome

/-- Whether a path leads to a folder. -/
def hasFolder (s : Store) (p : Path) : Bool :=
  s.at? p == some .folder

/-- The text of a file. -/
def readText (s : Store) (p : Path) : Except Fault (List Char) := do
  match ← s.locate p with
  | (_, some (.file content _)) =>
    match Text.Utf8.text? content with
    | some text => return text
    | none => throw .notText
  | (_, some .folder) => throw .isAFolder
  | (_, none) => throw .notFound

/-- Writes a file, at time `now`. -/
def write (s : Store) (p : Path) (content : List UInt8) (now : Int) : Except Fault Store := do
  match ← s.locate p with
  | (_, some .folder) => throw .isAFolder
  | (place, _) => if p.wantsFolder then throw .isAFolder else return s.put place (.file content now)

/-- Removes a file. -/
def remove (s : Store) (p : Path) : Except Fault Store := do
  match ← s.locate p with
  | (place, some (.file ..)) => return s.delete place
  | (_, some .folder) => throw .isAFolder
  | (_, none) => throw .notFound

/-- The place of the folder to which a path leads. -/
def folderAt (s : Store) (p : Path) : Except Fault Place := do
  match ← s.locate p with
  | (place, some .folder) => return place
  | (_, some (.file ..)) => throw .notAFolder
  | (_, none) => throw .notFound

/-- Creates one folder. -/
def createFolder (s : Store) (p : Path) : Except Fault Store := do
  match ← s.locate p.withoutSlashes with
  | (_, some _) => throw .alreadyExists
  | (place, none) => return s.put place .folder

/-- The path that follows given steps. -/
def pathOf (absolute : Bool) (steps : List String) : Path :=
  (if absolute then "/" else "") ++ .ofList (Text.glue ['/'] (steps.map String.toList))

/-- The paths that follow steps, given from the last one back, and all that lead to these. -/
def pathsDown (absolute : Bool) : List String → List Path
  | [] => []
  | last :: above => pathOf absolute (last :: above).reverse :: pathsDown absolute above

/-- Creates the first of some folders, of which each lies in the next one, and for that all the
others that are not there yet. What has been created stays, even where the rest fails. -/
def createChain : List Path → Store → Store × Except Fault Unit
  | [], s => (s, .ok ())
  | p :: above, s =>
    let attempt := fun (s : Store) => match s.createFolder p with
      | .ok s => (s, .ok ())
      | .error fault => (s, if s.hasFolder p then .ok () else .error fault)
    match s.createFolder p with
    | .error .notFound =>
      match createChain above s with
      | (s, .ok ()) => attempt s
      | failed => failed
    | _ => attempt s

/-- Creates all folders on the way to a path that are not there yet. -/
def createFoldersAbove (s : Store) (p : Path) : Store × Except Fault Unit :=
  createChain (pathsDown p.isAbsolute p.steps.reverse.tail) s

/-- Creates a folder and all folders on the way to it that are not there yet. -/
def createFolders (s : Store) (p : Path) : Store × Except Fault Unit :=
  if p.steps.isEmpty then (s, .ok ())
  else createChain (p :: pathsDown p.isAbsolute p.steps.reverse.tail) s

/-- The entries directly in the folder at a place, by name. -/
def inFolder (s : Store) (folder : Place) : List (String × Entry) :=
  s.entries.filterMap fun (place, e) =>
    match place.getLast? with
    | some name => if place.dropLast = folder then some (name, e) else none
    | none => none

end Store

end BranchChat.Files
