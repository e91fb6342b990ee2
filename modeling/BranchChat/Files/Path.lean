import BranchChat.Text.Split

/-!
# Paths

A path is kept as its text, because the text is what the user sees. Its steps are the names between
slashes.

## Main definitions

- `isAbsolute`, `steps`: how a path is followed
- `wantsFolder`, `endsInPlace`: what its end says about where it leads
- `join`: a path below another one
-/

namespace BranchChat.Files

/-- A path, as its text. -/
abbrev Path := String

namespace Path

/-- Whether a path starts at the top. -/
def isAbsolute (p : Path) : Bool :=
  p.startsWith "/"

/-- The names along a path, with single dots. Empty names lead nowhere. -/
def names (p : Path) : List String :=
  ((Text.cut (· == '/') p.toList).map String.ofList).filter (· != "")

/-- The names along a path. Single dots lead nowhere. -/
def steps (p : Path) : List String :=
  p.names.filter (· != ".")

/-- Whether a path goes on from where its last step leads, with a single dot. -/
def endsInPlace (p : Path) : Bool :=
  p.names.getLast? == some "."

/-- The path without slashes at its end. -/
def withoutSlashes (p : Path) : Path :=
  if p.names.isEmpty then p else .ofList (p.toList.reverse.dropWhile (· == '/')).reverse

/-- Whether a path can only lead to a folder. -/
def wantsFolder (p : Path) : Bool :=
  p.endsWith "/" || p.endsWith "/."

/-- The path `q`, seen from `p`. -/
def join (p q : Path) : Path :=
  if isAbsolute q then q
  else if p == "" || p.endsWith "/" then p ++ q
  else p ++ "/" ++ q

end Path

end BranchChat.Files
