import BranchChat.Text.Percent

/-!
# What is encoded in an address

Each part of an address keeps some ASCII characters as they are. All others are written as
percent-encoded bytes.

## Main definitions

- `Url.keepInPath`, `Url.keepInQuery`, `Url.keepInFragment`, `Url.keepInUserinfo`: what stays as it
  is
-/

namespace BranchChat.Web.Url

/-- ASCII characters that can be seen, and the space. -/
def isPlain (c : Char) : Bool :=
  0x20 ≤ c.toNat && c.toNat < 0x7F

/-- What stays as it is in a fragment. -/
def keepInFragment (c : Char) : Bool :=
  isPlain c && !" \"<>`".toList.contains c

/-- What stays as it is in a path. -/
def keepInPath (c : Char) : Bool :=
  keepInFragment c && !(c == '#' || c == '?' || c == '\x7b' || c == '\x7d')

/-- What stays as it is in the user information. -/
def keepInUserinfo (c : Char) : Bool :=
  keepInPath c && !"/:;=@[\\]^|".toList.contains c

/-- What stays as it is in a query. An apostrophe is encoded for special schemes only. -/
def keepInQuery (special : Bool) (c : Char) : Bool :=
  isPlain c && !" \"#<>".toList.contains c && !(special && c == '\'')

end BranchChat.Web.Url
