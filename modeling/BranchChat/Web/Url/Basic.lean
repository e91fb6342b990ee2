import BranchChat.Text.Percent

/-!
# Web addresses

An address has a scheme, optionally an authority (user, host and port number), a path, a query and
a fragment. The path is a list of segments, or one fixed text that no relative reference can
extend. All parts are kept in their written, already encoded form.

## Main definitions

- `Url`: an address
- `Url.Error`: why a text is no address
- `Url.text`: the written form
-/

namespace BranchChat.Web

/-- Why a text is no address. -/
inductive Url.Error where
  | emptyHost
  | badDomain
  | badPortNumber
  | badIpv4
  | badIpv6
  | badHostCharacter
  | noBase
  | fixedBase
deriving DecidableEq

/-- The wording of an error. -/
def Url.Error.message : Url.Error → String
  | emptyHost => "empty host"
  | badDomain => "invalid international domain name"
  | badPortNumber => "invalid port number"
  | badIpv4 => "invalid IPv4 address"
  | badIpv6 => "invalid IPv6 address"
  | badHostCharacter => "invalid domain character"
  | noBase => "relative URL without a base"
  | fixedBase => "relative URL with a cannot-be-a-base base"

/-- The path of an address. -/
inductive Url.Path where
  | segments (list : List String)
  | fixed (text : String)
deriving DecidableEq, Inhabited

/-- An address. `userinfo` is written with its `@`, and `host` is `none` where the address has no
authority. -/
structure Url where
  scheme : String
  userinfo : String
  host : Option String
  portNumber : Option Nat
  path : Url.Path
  query : Option String
  fragment : Option String
deriving DecidableEq, Inhabited

namespace Url

/-- The port number that a scheme implies. -/
def impliedPortNumber : String → Option Nat
  | "http" | "ws" => some 80
  | "https" | "wss" => some 443
  | "ftp" => some 21
  | _ => none

/-- The schemes whose addresses always have a host, or are files. -/
def isSpecial (scheme : String) : Bool :=
  (impliedPortNumber scheme).isSome || scheme == "file"

/-- The written form of a path. -/
def Path.text : Path → String
  | segments list => String.join (list.map ("/" ++ ·))
  | fixed text => text

/-- The authority with the two slashes before it. A path that starts with an empty segment needs
`/.` in front where there is no authority. -/
def authorityText (u : Url) : String :=
  match u.host with
  | some host =>
    "//" ++ u.userinfo ++ host ++
      match u.portNumber with
      | some n => ":" ++ toString n
      | none => ""
  | none =>
    match u.path with
    | .segments ("" :: _ :: _) => "/."
    | _ => ""

/-- Scheme, authority and path. -/
def placeText (u : Url) : String :=
  u.scheme ++ ":" ++ u.authorityText ++ u.path.text

/-- The written form without the fragment. -/
def requestText (u : Url) : String :=
  u.placeText ++
    match u.query with
    | some q => "?" ++ q
    | none => ""

/-- The written form. -/
def text (u : Url) : String :=
  u.requestText ++
    match u.fragment with
    | some f => "#" ++ f
    | none => ""

/-- Whether the address names a host. -/
def hasHost (u : Url) : Bool :=
  match u.host with
  | some host => !host.isEmpty
  | none => false

end Url

end BranchChat.Web
