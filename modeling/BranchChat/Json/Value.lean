import BranchChat.Numeral.Binary64

/-!
# JSON values

An object keeps its members in the order in which their keys first came, and holds each key once.

## Main definitions

- `Value`: a JSON value
- `Members.get?`, `Members.set`, `Members.without`: look-up, insertion and removal by key
- `Value.field?` and the views `text?`, `truth?`, `word?`
-/

namespace BranchChat.Json

open BranchChat.Numeral (Binary64)

/-- A number is an integer where its literal was one in the range of 64-bit words, and else a
double. -/
inductive Number where
  | integer (n : Int)
  | real (x : Binary64)
deriving DecidableEq, Inhabited

/-- A JSON value. -/
inductive Value where
  | null
  | bool (b : Bool)
  | number (n : Number)
  | string (s : String)
  | array (items : List Value)
  | object (members : List (String × Value))
deriving Inhabited

/-- The members of an object. -/
abbrev Members := List (String × Value)

namespace Members

/-- The value under a key. -/
def get? (ms : Members) (key : String) : Option Value :=
  ms.lookup key

/-- The members with `value` under `key`: in the key's place when it is there, else at the end. -/
def set (ms : Members) (key : String) (value : Value) : Members :=
  if ms.any (·.1 == key) then ms.map fun m => if m.1 == key then (key, value) else m
  else ms ++ [(key, value)]

/-- The members other than the one under `key`. -/
def without (ms : Members) (key : String) : Members :=
  ms.filter (·.1 != key)

end Members

namespace Value

/-- The value under a key, if this is an object that has the key. -/
def field? (key : String) : Value → Option Value
  | object ms => Members.get? ms key
  | _ => none

/-- The text of a string. -/
def text? : Value → Option String
  | string s => some s
  | _ => none

/-- The truth value of a boolean. -/
def truth? : Value → Option Bool
  | bool b => some b
  | _ => none

/-- The value of a non-negative integer. -/
def word? : Value → Option Nat
  | number (.integer (.ofNat n)) => some n
  | _ => none

/-- The text under a key, if there is a string under it. -/
def textAt? (v : Value) (key : String) : Option String :=
  (v.field? key).bind text?

end Value

end BranchChat.Json
