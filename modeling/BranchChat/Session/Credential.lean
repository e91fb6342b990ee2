import BranchChat.Files.Store
import BranchChat.Json.Printer
import BranchChat.Json.Record

/-!
# Credentials

The token of the user is held in memory and, where there is a file for it, stored there as well. All
parts of the program look at the same credential, so that a token given up by one is given up by
all.

## Main definitions

- `Credential`: the token, and where it is stored
- `Credential.load`: the credential of a file
- `Credential.keep`: a new token
- `Credential.forget`: gives the token up
-/

namespace BranchChat.Session

open BranchChat.Files (Path Store Fault)
open BranchChat.Json (quoted)

/-- The token of the user, and the file that it is stored in. -/
structure Credential where
  token : Option String
  file : Option Path
deriving DecidableEq, Inhabited

namespace Credential

/-- A credential that is stored nowhere. -/
def unstored (token : Option String) : Credential :=
  ⟨token, none⟩

/-- Whether there is a token. -/
def isPresent (c : Credential) : Bool :=
  c.token.isSome

/-- The text that stores a token. -/
def stored (token : String) : List Char :=
  "\x7b\n  \"token\": ".toList ++ quoted token ++ "\n\x7d".toList

/-- A token that is not empty. -/
def nonempty? (token : Option String) : Option String :=
  token.filter (· != "")

/-- The token that a text stores. -/
def tokenOf? (text : List Char) : Option String :=
  let read : Json.ReaderOf (Option String) := fun raw => do
    let r ← raw.record? ["token"]
    r.optional "token" (Json.readOption Json.readString)
  nonempty? ((Json.decode? read (text.map some)).join)

/-- The token that a file stores. A file that cannot be read stores none. -/
def storedToken? (s : Store) (file : Path) : Option String :=
  match s.readText file with
  | .ok text => tokenOf? text
  | .error _ => none

/-- The credential of a file. A token that is `supplied` counts more than the stored one. -/
def load (s : Store) (file : Path) (supplied : Option String) : Credential :=
  ⟨nonempty? supplied <|> storedToken? s file, some file⟩

/-- Takes a new token, at time `now`. Where it cannot be stored, nothing changes in memory. -/
def keep (c : Credential) (s : Store) (token : String) (now : Int) :
    Store × Except Fault Credential :=
  match c.file with
  | none => (s, .ok { c with token := some token })
  | some file =>
    match s.createFoldersAbove file with
    | (s, .error fault) => (s, .error fault)
    | (s, .ok ()) =>
      match s.write file (Text.Utf8.bytes (stored token)) now with
      | .error fault => (s, .error fault)
      | .ok s => (s, .ok { c with token := some token })

/-- Gives the token up, and removes the file that stores it. -/
def forget (c : Credential) (s : Store) : Store × Credential :=
  let s := match c.file.map s.remove with
    | some (.ok s) => s
    | _ => s
  (s, { c with token := none })

end Credential

end BranchChat.Session
