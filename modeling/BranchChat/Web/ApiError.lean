import BranchChat.Web.Url.Basic

/-!
# Errors of requests

A request fails because the credential is gone, because the backend answered with another status
than success, because no whole answer came over the network, or because the answer (or what was
asked for) makes no sense.

## Main definitions

- `Fault`: what went wrong on the network
- `Defect`: what is wrong with an answer or a call
- `ApiError`: why a request failed
- `ApiError.message`: its wording
-/

namespace BranchChat.Web

/-- What went wrong on the way to the backend or back. -/
inductive Fault where
  /-- The request cannot be written down. -/
  | unsendable
  /-- Requests to this address are not possible. -/
  | unsendableTo (address : String)
  /-- No answer came from this address. -/
  | unanswered (address : String)
  /-- The body of the answer broke off. -/
  | brokenBody
  /-- Anything else, in the words of whoever carries the bytes. -/
  | worded (text : String)
deriving DecidableEq, Inhabited

/-- The wording of a fault. -/
def Fault.message : Fault → String
  | unsendable => "builder error"
  | unsendableTo address => "builder error for url (" ++ address ++ ")"
  | unanswered address => "error sending request for url (" ++ address ++ ")"
  | brokenBody => "error decoding response body"
  | worded text => text

/-- What is wrong with an answer, or with a call that needs one. -/
inductive Defect where
  /-- The body is not what was asked for. -/
  | unreadableBody
  | badBase (cause : Url.Error)
  | badStreamAddress (reference : String) (cause : Url.Error)
  /-- A decision was given while no turn waits for one. -/
  | noPausedTurn
  /-- A permission request names neither itself nor by its turn what it belongs to. -/
  | missingIdentifiers
  /-- Anything else, in the words of whoever found it. -/
  | worded (text : String)
deriving DecidableEq, Inhabited

/-- The wording of a defect. -/
def Defect.message : Defect → String
  | unreadableBody => "error decoding response body"
  | badBase cause => "bad base url: " ++ cause.message
  | badStreamAddress reference cause => "bad stream url " ++ reference ++ ": " ++ cause.message
  | noPausedTurn => "no turn is waiting for a permission decision"
  | missingIdentifiers => "permission request is missing conversation, thread or message id"
  | worded text => text

/-- Why a request failed. -/
inductive ApiError where
  /-- There is no credential, or the backend has turned it down. -/
  | sessionExpired
  /-- The backend answered with a status that is no success. -/
  | status (code : UInt16) (body : String)
  | transport (fault : Fault)
  | invalidResponse (defect : Defect)
deriving DecidableEq, Inhabited

namespace ApiError

/-- The wording of an error. -/
def message : ApiError → String
  | sessionExpired => "session expired, please log in again"
  | status code body => "request failed (" ++ toString code.toNat ++ "): " ++ body
  | transport fault => "transport error: " ++ fault.message
  | invalidResponse defect => "invalid response: " ++ defect.message

/-- Whether the user has to log in again. -/
def isExpiry : ApiError → Bool
  | sessionExpired => true
  | _ => false

end ApiError

end BranchChat.Web
