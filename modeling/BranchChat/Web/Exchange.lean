import BranchChat.Json.Value
import BranchChat.Stream.Connection
import BranchChat.Web.Url.Reader

/-!
# Exchanges with a backend

A request goes out and is answered, or not. What the network will do is given by a list of replies,
one for each request; once they are used up nothing answers any more.

## Main definitions

- `Request`, `Request.make?`: a request, and why there can be none
- `Reply`: what becomes of a request
- `Network`: the replies to come, and the requests that went out
- `Network.exchange`: sends a request and takes its answer
- `wholeBody?`: the body of an answer that has come to its end
-/

namespace BranchChat.Web

open BranchChat.Json (Value)
open BranchChat.Stream (Arrival)

/-- How a request asks. -/
inductive Method where
  | get
  | post
deriving DecidableEq, Inhabited

/-- A request, with the token that it carries. Its answer is a stream of events if `forEvents`. -/
structure Request where
  method : Method
  target : Url
  token : String
  forEvents : Bool
  body : Option Value
deriving Inhabited

/-- Whether a text may stand in the head of a request: no control character but the tab. -/
def isHeadText (s : String) : Bool :=
  s.toList.all fun c => c == '\t' || (0x20 ≤ c.toNat && c.toNat != 0x7F)

/-- The greatest length of an address that can be written into a request. -/
def maxAddressLength : Nat := 65534

/-- Whether an address can be written into a request. -/
def isWritable (u : Url) : Bool :=
  (u.scheme == "http" || u.scheme == "https") &&
    (u.host.getD "").toList.all (fun c => !(c == '"' || c == '`' || c == '\x7b' || c == '\x7d')) &&
    u.text.utf8ByteSize ≤ maxAddressLength

/-- The text that a part of the user information stands for, none where it is no text. -/
def credentialText? (part : List Char) : Option (List Char) :=
  Text.Utf8.text? (Text.Percent.decode part)

/-- Whether the user information of an address is a user, or a password without a user, that can be
told to the other side in a way of its own. The user has to be a text in any case. -/
def namesUser (u : Url) : Bool :=
  let written := u.userinfo.toList.dropLast
  let (user, password) := match Text.cutFirst (· == ':') written with
    | some (user, password) => (user, some password)
    | none => (written, none)
  match credentialText? user with
  | some name => !name.isEmpty || (password.bind credentialText?).isSome
  | none => false

/-- The request to an address. User information that names a user is left out of the address. -/
def Request.make? (method : Method) (address token : String) (forEvents : Bool)
    (body : Option Value) : Except Fault Request :=
  match Url.parse? address with
  | .error _ => .error .unsendable
  | .ok u =>
    if !u.hasHost then .error (.unsendableTo u.text)
    else if !isHeadText token then .error .unsendable
    else
      let target := if namesUser u then { u with userinfo := "" } else u
      if isWritable target then .ok { method, target, token, forEvents, body }
      else .error (.unsendableTo target.text)

/-- What becomes of a request in the end. Redirects are followed on the way, so this is what the
last of them comes to. -/
inductive Reply where
  /-- It reaches nobody. -/
  | unreachable
  /-- It is read, and not answered. -/
  | unanswered
  /-- It is answered with a status, and then the body comes. -/
  | answered (status : UInt16) (body : List Arrival)
deriving DecidableEq, Inhabited

/-- The replies to come, and the requests that were read so far. A request stands for all the
redirects that follow it. -/
structure Network where
  replies : List Reply
  sent : List Request
deriving Inhabited

namespace Network

/-- A network on which nothing can be reached. -/
def offline : Network := ⟨[], []⟩

/-- A network with given replies. -/
def answering (replies : List Reply) : Network := ⟨replies, []⟩

/-- Sends a request: the status and the body of its answer. -/
def exchange (n : Network) (r : Request) : Network × Except Fault (UInt16 × List Arrival) :=
  match n.replies with
  | [] => (n, .error (.unanswered r.target.text))
  | .unreachable :: rest => ({ n with replies := rest }, .error (.unanswered r.target.text))
  | .unanswered :: rest =>
    (⟨rest, n.sent ++ [r]⟩, .error (.unanswered r.target.text))
  | .answered status body :: rest => (⟨rest, n.sent ++ [r]⟩, .ok (status, body))

/-- Sends a request and does not wait for its answer, which is lost. -/
def abandon (n : Network) (r : Request) : Network :=
  (n.exchange r).1

end Network

/-- The bytes of a body that has come to its end. A body that breaks off has none. -/
def wholeBody? : List Arrival → Option (List UInt8)
  | .bytes bs :: rest => (wholeBody? rest).map (bs ++ ·)
  | .finish :: _ => some []
  | .fault _ :: _ | [] => none

/-- Whether a status says that the credential is not accepted. -/
def isUnauthorized (status : UInt16) : Bool :=
  status == 401

/-- Whether a status says that the request was carried out. -/
def isSuccess (status : UInt16) : Bool :=
  200 ≤ status && status < 300

/-- The text of the body of an answer that is no success. -/
def errorText (body : List Arrival) : String :=
  .ofList (Text.Utf8.lenient ((wholeBody? body).getD []))

end BranchChat.Web
