import BranchChat.Text.Percent

/-!
# Quoted text of TOML

Text stands in double quotes, where a backslash begins an escape, or in single quotes, where all
characters stand for themselves. Three quotes on each side allow line ends within. Control
characters other than the tab must not stand in text.

## Main definitions

- `quoted?`: the text at the front of a document, and what follows its closing quotes
-/

namespace BranchChat.Toml

open BranchChat.Text.Percent (hexValue?)

/-- Whether a character may stand in text and comments. -/
def isTextual (c : Char) : Bool :=
  c == '\t' || (0x20 ≤ c.toNat && c.toNat != 0x7F)

/-- The character with the number that some hexadecimal digits name. -/
def coded? (cs : List Char) (width : Nat) : Option (Char × List Char) := do
  let digits := cs.take width
  if digits.length ≠ width then none
  let n ← digits.foldlM (fun n c => (hexValue? c).map (n * 16 + ·)) 0
  if n < 0xD800 ∨ (0xDFFF < n ∧ n < 0x110000) then some (Char.ofNat n, cs.drop width) else none

/-- The character of an escape of which the backslash has been read. -/
def escape? : List Char → Option (Char × List Char)
  | 'b' :: rest => some ('\x08', rest)
  | 't' :: rest => some ('\t', rest)
  | 'n' :: rest => some ('\n', rest)
  | 'f' :: rest => some ('\x0c', rest)
  | 'r' :: rest => some ('\r', rest)
  | 'e' :: rest => some ('\x1b', rest)
  | '"' :: rest => some ('"', rest)
  | '\\' :: rest => some ('\\', rest)
  | 'x' :: rest => coded? rest 2
  | 'u' :: rest => coded? rest 4
  | 'U' :: rest => coded? rest 8
  | _ => none

/-- What follows a line end. -/
def afterLineEnd? : List Char → Option (List Char)
  | '\n' :: rest | '\r' :: '\n' :: rest => some rest
  | _ => none

/-- Whether a character is a space or a tab. -/
def isGap (c : Char) : Bool :=
  c == ' ' || c == '\t'

/-- The text after a backslash at the end of a line, from its next visible character on. -/
def afterFold? (cs : List Char) : Option (List Char) :=
  (afterLineEnd? (cs.dropWhile isGap)).map
    (·.dropWhile fun c => isGap c || c == '\n' || c == '\r')

/-- The characters up to a closing quote on the same line. `done` is newest first, and the first
argument bounds the length. -/
def plain? (quote : Char) : Nat → List Char → List Char → Option (List Char × List Char)
  | 0, _, _ => none
  | _ + 1, _, [] => none
  | fuel + 1, done, c :: rest =>
    if c = quote then some (done.reverse, rest)
    else if c = '\\' ∧ quote = '"' then do
      let (e, rest) ← escape? rest
      plain? quote fuel (e :: done) rest
    else if isTextual c then plain? quote fuel (c :: done) rest
    else none

/-- The characters up to three closing quotes. One or two quotes more belong to the text. -/
def long? (quote : Char) : Nat → List Char → List Char → Option (List Char × List Char)
  | 0, _, _ => none
  | _ + 1, _, [] => none
  | fuel + 1, done, c :: rest =>
    if (c :: rest).take 3 = [quote, quote, quote] then
      let extra := ((rest.drop 2).take 2).takeWhile (· == quote)
      some (done.reverse ++ extra, rest.drop (2 + extra.length))
    else if c = '\\' ∧ quote = '"' then
      match afterFold? rest with
      | some rest => long? quote fuel done rest
      | none => do
        let (e, rest) ← escape? rest
        long? quote fuel (e :: done) rest
    else if isTextual c || c == '\n' || (c == '\r' && rest.head? == some '\n') then
      long? quote fuel (c :: done) rest
    else none

/-- The text at the front of a document in either kind of quote, `long` or on one line. -/
def quoted? (allowLong : Bool) (cs : List Char) : Option (String × List Char) :=
  match cs with
  | [] => none
  | quote :: rest =>
    if quote ≠ '"' ∧ quote ≠ '\'' then none
    else
      let found :=
        if allowLong && rest.take 2 == [quote, quote] then
          let body := rest.drop 2
          long? quote (body.length + 1) [] ((afterLineEnd? body).getD body)
        else plain? quote (rest.length + 1) [] rest
      found.map fun (text, rest) => (.ofList text, rest)

end BranchChat.Toml
