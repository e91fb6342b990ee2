import BranchChat.Text.Split
import BranchChat.Web.Domain.Name
import BranchChat.Web.Url.Basic

/-!
# Hosts

A host is a domain name, an IPv4 address in any of its numeric spellings, or an IPv6 address in
brackets. Reading one gives its canonical text: domains in lower case and in ASCII form, IPv4
addresses as four decimal numbers, IPv6 addresses with the longest run of zeros left out.

## Main definitions

- `Host.read?`: the host of an address with a special scheme
- `Host.readPlain?`: the host of any other address
-/

namespace BranchChat.Web.Host

open BranchChat.Text (cut)
open BranchChat.Text.Percent (hexValue?)

/-! ### IPv4 -/

/-- The digits of a number and their base: `0x` announces sixteen, a zero before more announces
eight. -/
def numeral (cs : List Char) : Nat × List Char :=
  match cs with
  | '0' :: 'x' :: rest | '0' :: 'X' :: rest => (16, rest)
  | '0' :: c :: rest => (8, c :: rest)
  | cs => (10, cs)

/-- The value of a numeral, if the text is one. No digits at all count as zero. -/
def number? (cs : List Char) : Option Nat :=
  if cs.isEmpty then none
  else
    let (base, digits) := numeral cs
    digits.foldlM
      (fun n c =>
        match hexValue? c with
        | some d => if d < base then some (n * base + d) else none
        | none => none)
      0

/-- The parts of a domain, where an empty one at the end does not count. -/
def parts (domain : List Char) : List (List Char) :=
  let all := cut (· == '.') domain
  if 1 < all.length ∧ all.getLast? = some [] then all.dropLast else all

/-- Whether the last part of a domain is a number. -/
def endsInNumber (domain : List Char) : Bool :=
  match (parts domain).getLast? with
  | some last => (!last.isEmpty && last.all Char.isDigit) || (number? last).isSome
  | none => false

/-- The text of the address of 32 bits. -/
def ipv4Text (n : Nat) : String :=
  toString (n / Nat.pow 2 24) ++ "." ++ toString (n / Nat.pow 2 16 % 256) ++ "." ++
    toString (n / Nat.pow 2 8 % 256) ++ "." ++ toString (n % 256)

/-- The address of up to four numbers, of which the last fills all bytes that are left. -/
def ipv4? (domain : List Char) : Option Nat := do
  let ps := parts domain
  let numbers ← ps.mapM number?
  let last ← numbers.getLast?
  let front := numbers.dropLast
  if 3 < front.length ∨ front.any (255 < ·) ∨ Nat.pow 256 (4 - front.length) ≤ last then none
  else
    some (front.zipIdx.foldl (fun total (n, i) => total + n * Nat.pow 256 (3 - i)) last)

/-! ### IPv6 -/

/-- A group of one to four hexadecimal digits. -/
def group? (cs : List Char) : Option Nat :=
  if cs.isEmpty ∨ 4 < cs.length then none
  else cs.foldlM (fun n c => (hexValue? c).map (n * 16 + ·)) 0

/-- A decimal number up to 255 without a leading zero. -/
def octet? (cs : List Char) : Option Nat :=
  if cs.isEmpty ∨ 3 < cs.length ∨ !cs.all Char.isDigit ∨ (cs.length ≠ 1 ∧ cs.head? = some '0') then
    none
  else
    let n := cs.foldl (fun n c => n * 10 + (c.toNat - 48)) 0
    if n ≤ 255 then some n else none

/-- Four octets as two groups. -/
def octets? (cs : List Char) : Option (List Nat) := do
  match ← (cut (· == '.') cs).mapM octet? with
  | [a, b, c, d] => some [a * 256 + b, c * 256 + d]
  | _ => none

/-- The groups between colons. The last group may be written as octets where `tail` allows it. -/
def groups? (tail : Bool) (cs : List Char) : Option (List Nat) :=
  if cs.isEmpty then some []
  else
    let pieces := cut (· == ':') cs
    let last := pieces.getLastD []
    if tail && last.contains '.' then do
      let front ← pieces.dropLast.mapM group?
      let back ← octets? last
      some (front ++ back)
    else pieces.mapM group?

/-- The two sides of the first double colon. -/
def doubleColon? : List Char → Option (List Char × List Char)
  | ':' :: ':' :: rest => some ([], rest)
  | c :: rest => (doubleColon? rest).map fun (before, after) => (c :: before, after)
  | [] => none

/-- The eight groups of an address. -/
def ipv6? (cs : List Char) : Option (List Nat) :=
  match doubleColon? cs with
  | some (before, after) => do
    let front ← groups? false before
    let back ← groups? true after
    let given := front.length + back.length
    if given ≤ 7 then some (front ++ List.replicate (8 - given) 0 ++ back) else none
  | none => do
    let all ← groups? true cs
    if all.length = 8 then some all else none

/-- The number of zeros at the front of a list. -/
def zeroRun (groups : List Nat) : Nat :=
  (groups.takeWhile (· == 0)).length

/-- Place and length of the first longest run of zeros. -/
def longestZeros (groups : List Nat) : Nat × Nat :=
  (List.range groups.length).foldl
    (fun best i =>
      let run := zeroRun (groups.drop i)
      if best.2 < run then (i, run) else best)
    (0, 0)

/-- A group in lower-case hexadecimal digits. -/
def groupText (n : Nat) : String :=
  String.ofList (Nat.toDigits 16 n)

/-- The text of eight groups, where two colons stand for the longest run of two or more zeros. -/
def ipv6Text (groups : List Nat) : String :=
  let list := fun (gs : List Nat) => String.intercalate ":" (gs.map groupText)
  let (place, run) := longestZeros groups
  if run < 2 then list groups
  else list (groups.take place) ++ "::" ++ list (groups.drop (place + run))

/-! ### Hosts -/

/-- An address in brackets, if the host starts with one. -/
def bracketed? (cs : List Char) : Option (Except Url.Error String) :=
  match cs with
  | '[' :: rest =>
    if rest.getLast? = some ']' then
      match ipv6? rest.dropLast with
      | some groups => some (.ok ("[" ++ ipv6Text groups ++ "]"))
      | none => some (.error .badIpv6)
    else some (.error .badIpv6)
  | _ => none

/-- The host of an address with a special scheme. -/
def read? (cs : List Char) : Except Url.Error String :=
  match bracketed? cs with
  | some answer => answer
  | none =>
    match (Text.Utf8.text? (Text.Percent.decode cs)).bind Domain.read? with
    | none => .error .badDomain
    | some domain =>
      if domain.isEmpty then .error .emptyHost
      else if endsInNumber domain then
        match ipv4? domain with
        | some n => .ok (ipv4Text n)
        | none => .error .badIpv4
      else .ok (.ofList domain)

/-- The host of an address with any other scheme: its text, with controls and characters beyond
ASCII encoded. -/
def readPlain? (cs : List Char) : Except Url.Error String :=
  match bracketed? cs with
  | some answer => answer
  | none =>
    if cs.any fun c => c == '\x00' || " \t\n\r#/:<>?@[\\]^|".toList.contains c then
      .error .badHostCharacter
    else .ok (.ofList (Text.Percent.encode (fun c => 0x20 ≤ c.toNat && c.toNat < 0x7F) cs))

end BranchChat.Web.Host
