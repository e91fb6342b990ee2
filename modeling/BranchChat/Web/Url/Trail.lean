import BranchChat.Text.Split
import BranchChat.Web.Url.Basic
import BranchChat.Web.Url.Encoding

/-!
# Paths as they are read

A written path is read segment by segment. Dot segments are carried out on the way: one dot stays
where it is, two go up by one segment. Going up stops at the root and at drives; the path of a file
may start with a drive, whose mark is always written as a colon.

## Main definitions

- `Url.Trail`: a path while it is read
- `Url.follow`: the trail after a written text
- `Url.pathAfter`: the path of a written text
-/

namespace BranchChat.Web.Url

open BranchChat.Text (cut)
open BranchChat.Text.Percent (encode)

/-- Whether a segment stands for the segment above. -/
def isDoubleDot (segment : List Char) : Bool :=
  ["..", ".%2e", "%2e.", "%2e%2e"].contains (String.ofList (segment.map Char.toLower))

/-- Whether a segment stands for the place itself. -/
def isSingleDot (segment : List Char) : Bool :=
  [".", "%2e"].contains (String.ofList (segment.map Char.toLower))

/-- Whether a segment is the letter of a drive with its mark. -/
def isDrive (segment : List Char) : Bool :=
  match segment with
  | [letter, mark] => letter.isAlpha && (mark == ':' || mark == '|')
  | _ => false

/-- Whether a segment is a drive with a colon for its mark. -/
def isPlainDrive (segment : String) : Bool :=
  isDrive segment.toList && segment.endsWith ":"

/-- Whether a segment is never left upwards: a drive, alone or with a backslash after it. -/
def isAnchor (segment : String) : Bool :=
  match segment.toList with
  | letter :: mark :: rest =>
    isDrive [letter, mark] && (rest.isEmpty || rest.head? == some '\\')
  | _ => false

/-- A path while it is read: its segments, of which the first is the one that is still written,
and whether a drive has come to stand at its front. -/
structure Trail where
  segments : List String
  atDrive : Bool
deriving DecidableEq

namespace Trail

/-- The trail that a path leaves. -/
def ofPath (path : List String) : Trail :=
  ⟨path.reverse, false⟩

/-- The trail of the root. -/
def root : Trail :=
  ⟨[""], false⟩

/-- A slash: a new segment begins. -/
def descend (t : Trail) : Trail :=
  { t with segments := "" :: t.segments }

/-- The trail without the last whole segment, unless that is an anchor. -/
def ascend (t : Trail) : Trail :=
  match t.segments with
  | "" :: above :: rest => if isAnchor above then t else { t with segments := "" :: rest }
  | _ => t

/-- A segment is written. The first segment of a file may be a drive, whose mark becomes a
colon. -/
def write (file : Bool) (t : Trail) (segment : List Char) : Trail :=
  match t.segments with
  | [] => { t with segments := [.ofList (encode keepInPath segment)] }
  | last :: above =>
    if file && t.segments == [""] && isDrive segment then
      ⟨[.ofList (segment.take 1 ++ [':'])], true⟩
    else { t with segments := (last ++ .ofList (encode keepInPath segment)) :: above }

/-- A segment is read, with a slash after it where `more` says so. In the path of a file a drive
without a slash gets one before anything else is written. -/
def read (file more : Bool) (t : Trail) (segment : List Char) : Trail :=
  let needsSlash := file && !segment.isEmpty && match t.segments with
    | [drive] => isPlainDrive drive
    | _ => false
  let t := if needsSlash then t.descend else t
  if isDoubleDot segment then t.ascend
  else if isSingleDot segment then t
  else if more then (t.write file segment).descend
  else t.write file segment

/-- Segments are read, with a slash after each but the last. -/
def readAll (file : Bool) (t : Trail) : List (List Char) → Trail
  | [] => t
  | [last] => t.read file false last
  | segment :: more => readAll file (t.read file true segment) more

/-- The path of a trail. In the path of a file, empty segments at the front vanish. -/
def path (file : Bool) (t : Trail) : List String :=
  let list := t.segments.reverse
  if file then
    match list.dropWhile String.isEmpty with
    | [] => [""]
    | list => list
  else list

end Trail

/-- Whether a character divides segments. -/
def isSlash (special : Bool) (c : Char) : Bool :=
  c == '/' || (special && c == '\\')

/-- The trail after a written text. -/
def follow (scheme : String) (t : Trail) (cs : List Char) : Trail :=
  t.readAll (scheme == "file") (cut (isSlash (isSpecial scheme)) cs)

/-- The path of a text that is written after a trail. -/
def pathAfter (scheme : String) (t : Trail) (cs : List Char) : List String :=
  (follow scheme t cs).path (scheme == "file")

end BranchChat.Web.Url
