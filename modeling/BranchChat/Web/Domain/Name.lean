import BranchChat.Text.Canonical
import BranchChat.Text.Percent
import BranchChat.Web.Domain.Direction
import BranchChat.Web.Domain.Joining
import BranchChat.Web.Domain.Letters
import BranchChat.Web.Domain.Punycode

/-!
# Domain names

A domain name consists of labels with dots between them. A label is a text of any script, and has
an ASCII form, which is the text itself where that is ASCII and else starts with `xn--`. Either of
them may be written; the name that is kept is made of ASCII forms.

## Main definitions

- `Label`, `Label.read?`: a label with its ASCII form
- `read?`: the ASCII form of a domain name
-/

namespace BranchChat.Web.Domain

open BranchChat.Text (cut glue)

/-- Whether a character is ASCII. -/
def isAscii (c : Char) : Bool :=
  c.toNat < 128

/-- ASCII characters that no domain name holds: controls, the space, and what has a meaning in an
address. -/
def isReserved (c : Char) : Bool :=
  c.toNat ≤ 0x20 || c == '\x7f' || "%#/:<>?@[\\]^|".toList.contains c

/-- A label, and its ASCII form. -/
structure Label where
  text : List Char
  ascii : List Char
deriving DecidableEq

namespace Label

/-- What the ASCII form of a label starts with if its text is not ASCII. -/
def marker : List Char := "xn--".toList

/-- The greatest number of characters of a label that is not ASCII. -/
def maxLength : Nat := 1000

/-- The greatest number of characters after the marker. -/
def maxFormLength : Nat := 2000

/-- Whether a text may be a label: it does not start with a mark, its joiners fit, and it is not
too long. -/
def isProper (text : List Char) : Bool :=
  !text.head?.any Text.isMark && joinersFit text &&
    (text.all isAscii || text.length ≤ maxLength)

/-- Whether a text is its own folded and composed form, without a dot and without reserved
characters. -/
def isSettled (text : List Char) : Bool :=
  text.all (fun c => image? c == some [c] && !isReserved c && c != '.') &&
    Text.composed text == text

/-- The text of the ASCII form after the marker. -/
def decode? (form : List Char) : Option (List Char) :=
  if form.getLast? == some '-' || maxFormLength < form.length || !form.all isAscii then none
  else (Punycode.decode? form).filter isSettled

/-- The label of a folded and composed text, which may be an ASCII form itself. -/
def read? (label : List Char) : Option Label :=
  match Text.dropFront? marker label with
  | some form =>
    if form.isEmpty then none
    else ((decode? form).filter isProper).map fun text => ⟨text, label⟩
  | none =>
    if !isProper label then none
    else if label.all isAscii then some ⟨label, label⟩
    else some ⟨label, marker ++ Punycode.encode label⟩

end Label

/-- The ASCII form of a domain name. -/
def read? (cs : List Char) : Option (List Char) := do
  let name := Text.composed (← cs.mapM image?).flatten
  let labels ← (cut (· == '.') name).mapM Label.read?
  let twoWays := labels.any fun l => l.text.any runsRight
  if name.any isReserved || (twoWays && !labels.all fun l => isOneWay l.text) then none
  else some (glue ['.'] (labels.map Label.ascii))

end BranchChat.Web.Domain
