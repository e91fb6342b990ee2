import BranchChat.Web.Url.Host
import BranchChat.Web.Url.Trail

/-!
# Reading addresses

The reading of the URL standard. Controls and spaces around the text, and tabs and line ends
within it, are dropped. What follows depends on the scheme: special schemes take backslashes for
slashes and always have a host, files have a host that may be empty, all others may have a fixed
path.

A text without a scheme is resolved against a base.

## Main definitions

- `Url.resolve?`: the address of a text, with or without a base
- `Url.parse?`: the address of a text by itself
-/

namespace BranchChat.Web.Url

open BranchChat.Text.Percent (encode)

/-! ### Parts after the path -/

/-- A text divided at its query and its fragment. -/
structure Divided where
  front : List Char
  query : Option (List Char)
  fragment : Option (List Char)

/-- A text divided at its first `#`, and what is before that at its first `?`. -/
def divide (cs : List Char) : Divided :=
  let (body, fragment) := match Text.cutFirst (· == '#') cs with
    | some (body, fragment) => (body, some fragment)
    | none => (cs, none)
  match Text.cutFirst (· == '?') body with
  | some (front, query) => ⟨front, some query, fragment⟩
  | none => ⟨body, none, fragment⟩

/-- The written form of a query. -/
def queryText (scheme : String) (cs : List Char) : String :=
  .ofList (encode (keepInQuery (isSpecial scheme)) cs)

/-- The written form of a fragment. -/
def fragmentText (cs : List Char) : String :=
  .ofList (encode keepInFragment cs)

/-- The address with query and fragment of a divided text. -/
def withTail (u : Url) (d : Divided) : Url :=
  { u with query := d.query.map (queryText u.scheme), fragment := d.fragment.map fragmentText }

/-! ### Authorities -/

/-- The user information with its `@`, and what follows it. The last `@` before the path counts,
and only a user or a password that is not empty is kept. -/
def takeUserinfo (special : Bool) (cs : List Char) : String × List Char :=
  let authority := cs.takeWhile fun c => !isSlash special c
  match Text.cutFirst (· == '@') authority.reverse with
  | none => ("", cs)
  | some (_, before) =>
    let written := before.reverse
    let (user, password) := (Text.cutFirst (· == ':') written).getD (written, [])
    let text := encode keepInUserinfo user ++
      if password.isEmpty then [] else ':' :: encode keepInUserinfo password
    (.ofList (if text.isEmpty then [] else text ++ ['@']), cs.drop (written.length + 1))

/-- The host as written, and what follows it. A colon within brackets belongs to the host. -/
def hostText (special inside : Bool) : List Char → List Char × List Char
  | [] => ([], [])
  | c :: rest =>
    if isSlash special c || (c == ':' && !inside) then ([], c :: rest)
    else
      let inside := if c == '[' then true else if c == ']' then false else inside
      let (host, after) := hostText special inside rest
      (c :: host, after)

/-- The number after a colon, unless it is the one that the scheme implies. -/
def portNumber? (scheme : String) (cs : List Char) : Except Error (Option Nat × List Char) :=
  let digits := cs.takeWhile Char.isDigit
  let rest := cs.dropWhile Char.isDigit
  let n := digits.foldl (fun n c => n * 10 + (c.toNat - 48)) 0
  let wellEnded := match rest with
    | [] => true
    | c :: _ => c == '/' || c == '\\'
  if 65535 < n ∨ !wellEnded then .error .badPortNumber
  else if digits.isEmpty ∨ impliedPortNumber scheme = some n then .ok (none, rest)
  else .ok (some n, rest)

/-- The path after an authority. -/
def authorityPath (scheme : String) (cs : List Char) : List String :=
  match cs with
  | [] => if isSpecial scheme then [""] else []
  | c :: rest =>
    if isSlash (isSpecial scheme) c then pathAfter scheme .root rest else pathAfter scheme .root cs

/-- Whether an authority may have no host: not for special schemes, not with user information or a
number, and after an `@` at its very front only where nothing follows. -/
def allowsNoHost (special : Bool) (user : String) (d : Divided) (rest : List Char) : Bool :=
  let ends := rest.isEmpty && d.query.isNone && d.fragment.isNone
  !special && user.isEmpty && rest.head? != some ':' && (d.front.head? != some '@' || ends)

/-- The address of the text after the two slashes. -/
def afterSlashes (scheme : String) (cs : List Char) : Except Error Url := do
  let d := divide cs
  let special := isSpecial scheme
  let (user, rest) := takeUserinfo special d.front
  let (written, rest) := hostText special false rest
  if written.isEmpty && !allowsNoHost special user d rest then throw Error.emptyHost
  let host ← if special then Host.read? written else Host.readPlain? written
  let (number, rest) ← match rest with
    | ':' :: rest => portNumber? scheme rest
    | rest => pure (none, rest)
  return withTail
    { scheme, userinfo := user, host := some host, portNumber := number
      path := .segments (authorityPath scheme rest), query := none, fragment := none }
    d

/-! ### Files -/

/-- Whether a text starts with a drive that is a whole segment. -/
def startsWithDrive (cs : List Char) : Bool :=
  isDrive (cs.take 2) &&
    match cs.drop 2 with
    | [] => true
    | c :: _ => isSlash true c

/-- The address of a file with a host. -/
def fileUrl (host : String) (trail : Trail) (d : Divided) : Url :=
  withTail
    { scheme := "file", userinfo := "", host := some host, portNumber := none
      path := .segments (trail.path true), query := none, fragment := none }
    d

/-- The segments of an address, none where its path is fixed. -/
def segmentList (u : Url) : List String :=
  match u.path with
  | .segments list => list
  | .fixed _ => []

/-- The trail of the folder that holds a path. A drive is no file in the folder above. -/
def folder (file : Bool) (path : List String) : Trail :=
  match Trail.ofPath path with
  | ⟨[], _⟩ => .root
  | t@⟨last :: above, _⟩ =>
    if file && isPlainDrive last then t else { t with segments := "" :: above }

/-- The address of a file after two slashes. A drive at the front of the path takes the host
away. -/
def fileAfterSlashes (cs : List Char) (d : Divided) : Except Error Url := do
  let written := cs.takeWhile fun c => !isSlash true c
  let after := cs.drop written.length
  if isDrive written then return fileUrl "" (follow "file" .root cs) d
  let host ← if written.isEmpty then pure "" else Host.read? written
  if host.isEmpty || host == "localhost" then return fileUrl "" (follow "file" .root after) d
  let trail := follow "file" .root (after.drop 1)
  return fileUrl (if trail.atDrive then "" else host) trail d

/-- The address of the text after `file:`, or of a text without a scheme where the base is a
file. -/
def file (base : Option Url) (cs : List Char) : Except Error Url :=
  let d := divide cs
  match d.front with
  | a :: rest =>
    if isSlash true a then
      match rest with
      | b :: after =>
        if isSlash true b then fileAfterSlashes after d else .ok (rooted rest d)
      | [] => .ok (rooted rest d)
    else .ok (relative d.front d)
  | [] =>
    match base with
    | some b =>
      match d.query with
      | some _ => .ok (withTail b d)
      | none => .ok { b with fragment := d.fragment.map fragmentText }
    | none => .ok (fileUrl "" .root d)
where
  /-- A path from the root, which keeps the drive of the base, or its host. -/
  rooted (cs : List Char) (d : Divided) : Url :=
    let whole := fun (host : String) (t : Trail) => fileUrl host (follow "file" t cs) d
    match base with
    | none => whole "" .root
    | some b =>
      let drive := b.segmentList.headD ""
      if startsWithDrive cs then whole "" .root
      else if isPlainDrive drive then whole "" (Trail.ofPath [drive]).descend
      else whole (b.host.getD "") .root
  /-- A path from the folder of the base. -/
  relative (cs : List Char) (d : Divided) : Url :=
    match base with
    | some b =>
      if startsWithDrive cs then fileUrl "" (follow "file" .root cs) d
      else fileUrl (b.host.getD "") (follow "file" (folder true b.segmentList) cs) d
    | none => fileUrl "" (follow "file" .root cs) d

/-! ### Relative references -/

/-- The address of a text without a scheme against a base that has a path of segments. -/
def relativeTo (base : Url) (cs : List Char) : Except Error Url :=
  let d := divide cs
  match d.front with
  | [] =>
    match d.query with
    | some _ => .ok (withTail base d)
    | none => .ok { base with fragment := d.fragment.map fragmentText }
  | '/' :: '/' :: _ => afterSlashes base.scheme (cs.drop 2)
  | a :: b :: _ =>
    if isSlash true a && isSlash true b then
      afterSlashes base.scheme (cs.dropWhile (isSlash true))
    else extending d
  | _ => extending d
where
  /-- A path from the root or from the folder of the base. -/
  extending (d : Divided) : Except Error Url :=
    let path := match d.front with
      | c :: rest =>
        if isSlash true c then pathAfter base.scheme .root rest
        else pathAfter base.scheme (folder false base.segmentList) d.front
      | [] => base.segmentList
    .ok (withTail { base with path := .segments path } d)

/-! ### Whole texts -/

/-- The text without controls and spaces around it, and without tabs and line ends within it. -/
def stripped (s : String) : List Char :=
  let isEdge := fun (c : Char) => c.toNat ≤ 0x20
  let inner := ((s.toList.dropWhile isEdge).reverse.dropWhile isEdge).reverse
  inner.filter fun c => c != '\t' && c != '\n' && c != '\r'

/-- The scheme of a text, in lower case, and what follows its colon. -/
def scheme? (cs : List Char) : Option (String × List Char) :=
  match cs with
  | c :: _ =>
    if c.isAlpha then
      match Text.cutFirst (· == ':') cs with
      | some (name, rest) =>
        if name.all fun c => c.isAlphanum || c == '+' || c == '-' || c == '.' then
          some (.ofList (name.map Char.toLower), rest)
        else none
      | none => none
    else none
  | [] => none

/-- The address of the text after a scheme that is neither special nor `file`. -/
def general (scheme : String) (cs : List Char) : Except Error Url :=
  match cs with
  | '/' :: '/' :: rest => afterSlashes scheme rest
  | cs =>
    let d := divide cs
    let path : Path := match d.front with
      | '/' :: rest => .segments (pathAfter scheme .root rest)
      | front => .fixed (.ofList (encode isPlain front))
    .ok (withTail
      { scheme, userinfo := "", host := none, portNumber := none, path
        query := none, fragment := none }
      d)

/-- The address of a text. A text with the special scheme of the base but without two slashes is
relative to it. -/
def resolve? (base : Option Url) (s : String) : Except Error Url :=
  let cs := stripped s
  match scheme? cs with
  | some (scheme, rest) =>
    if scheme = "file" then
      file (base.filter (·.scheme == "file")) rest
    else if isSpecial scheme then
      match base with
      | some b =>
        if b.scheme = scheme ∧ (rest.takeWhile (isSlash true)).length < 2 then relativeTo b rest
        else afterSlashes scheme (rest.dropWhile (isSlash true))
      | none => afterSlashes scheme (rest.dropWhile (isSlash true))
    else general scheme rest
  | none =>
    match base with
    | none => .error .noBase
    | some b =>
      if cs.head? = some '#' then .ok { b with fragment := some (fragmentText cs.tail) }
      else
        match b.path with
        | .fixed _ => .error .fixedBase
        | .segments _ => if b.scheme = "file" then file base cs else relativeTo b cs

/-- The address of a text by itself. -/
def parse? (s : String) : Except Error Url :=
  resolve? none s

end BranchChat.Web.Url
