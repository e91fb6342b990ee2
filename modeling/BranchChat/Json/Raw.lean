import BranchChat.Text.Utf8

/-!
# The written form of JSON

Reading has two stages. The first, here, follows the grammar only: it gives a tree in which numbers
are still digits and strings still hold their escapes, and it puts no bound on nesting. The second
stage gives the meaning of the parts that somebody asks for. What nobody asks for, such as an
unknown member of a record, is only held to the grammar.

## Main definitions

- `Literal`: the digits of a number
- `Raw`: the tree of a text
- `Raw.read?`: the tree of a whole text
-/

namespace BranchChat.Json

open BranchChat.Text.Utf8 (Symbol)

/-- A number as written. The exponent comes with whether its sign is minus. -/
structure Literal where
  negative : Bool
  whole : List Nat
  fraction : Option (List Nat)
  exponent : Option (Bool × List Nat)
deriving DecidableEq, Inhabited

/-- A JSON text by its grammar. Strings are the symbols between the quotes, escapes included. -/
inductive Raw where
  | null
  | bool (b : Bool)
  | number (literal : Literal)
  | string (body : List Symbol)
  | array (items : List Raw)
  | object (members : List (List Symbol × Raw))
deriving Inhabited

namespace Raw

/-- The four characters that may stand between tokens. -/
def isSpace (s : Symbol) : Bool :=
  s == some ' ' || s == some '\n' || s == some '\r' || s == some '\t'

/-- The text from its first token on. -/
def skip (ss : List Symbol) : List Symbol :=
  ss.dropWhile isSpace

/-- The value of a decimal digit. -/
def digit? : Symbol → Option Nat
  | some c => if c.isDigit then some (c.toNat - 48) else none
  | none => none

/-- Whether a symbol is a hexadecimal digit. -/
def isHex : Symbol → Bool
  | some c => c.isDigit || ('a' ≤ c && c ≤ 'f') || ('A' ≤ c && c ≤ 'F')
  | none => false

/-- The digits at the front of a text, and the rest. -/
def digits : List Symbol → List Nat × List Symbol
  | [] => ([], [])
  | s :: rest =>
    match digit? s with
    | some d => let (ds, after) := digits rest; (d :: ds, after)
    | none => ([], s :: rest)

/-- The digits at the front of a text that has one. -/
def digits? (ss : List Symbol) : Option (List Nat × List Symbol) :=
  match digits ss with
  | ([], _) => none
  | found => some found

/-- The whole part of a number: a zero alone, or digits of which the first is not zero. -/
def whole? (ss : List Symbol) : Option (List Nat × List Symbol) :=
  match digits? ss with
  | some (0 :: _ :: _, _) => none
  | found => found

/-- The fraction of a number, if a point follows. -/
def fraction? : List Symbol → Option (Option (List Nat) × List Symbol)
  | some '.' :: rest => (digits? rest).map fun (ds, after) => (some ds, after)
  | rest => some (none, rest)

/-- The exponent of a number, if an `e` follows. -/
def exponent? : List Symbol → Option (Option (Bool × List Nat) × List Symbol)
  | some 'e' :: rest | some 'E' :: rest =>
    let (negative, after) : Bool × List Symbol :=
      match rest with
      | some '+' :: after => (false, after)
      | some '-' :: after => (true, after)
      | after => (false, after)
    (digits? after).map fun (ds, after) => (some (negative, ds), after)
  | rest => some (none, rest)

/-- The number at the front of a text. -/
def literal? (ss : List Symbol) : Option (Literal × List Symbol) := do
  let (negative, ss) := match ss with
    | some '-' :: rest => (true, rest)
    | rest => (false, rest)
  let (whole, ss) ← whole? ss
  let (fraction, ss) ← fraction? ss
  let (exponent, ss) ← exponent? ss
  some (⟨negative, whole, fraction, exponent⟩, ss)

/-- Whether a symbol is one that must not stand unescaped in a string. -/
def isControl : Symbol → Bool
  | some c => c.toNat < 0x20
  | none => false

/-- Whether a character makes an escape together with the backslash before it. -/
def isEscape (c : Char) : Bool :=
  c == '"' || c == '\\' || c == '/' || c == 'b' || c == 'f' || c == 'n' || c == 'r' || c == 't'

/-- The body of a string whose opening quote has been read, and what follows its closing quote.
`done` is the part already read, newest first. -/
def body? (done : List Symbol) : List Symbol → Option (List Symbol × List Symbol)
  | [] => none
  | some '"' :: rest => some (done.reverse, rest)
  | some '\\' :: some 'u' :: a :: b :: c :: d :: rest =>
    if isHex a && isHex b && isHex c && isHex d then
      body? (d :: c :: b :: a :: some 'u' :: some '\\' :: done) rest
    else none
  | some '\\' :: some e :: rest =>
    if isEscape e then body? (some e :: some '\\' :: done) rest else none
  | some '\\' :: _ => none
  | s :: rest => if isControl s then none else body? (s :: done) rest

/-- The text after a given word at its front. -/
def word? (word : String) (ss : List Symbol) : Option (List Symbol) :=
  if ss.take word.length = word.toList.map some then some (ss.drop word.length) else none

mutual

/-- The tree at the front of a text that starts with a token. The first argument bounds the number
of tokens. -/
def readValue? : Nat → List Symbol → Option (Raw × List Symbol)
  | 0, _ => none
  | _ + 1, [] => none
  | fuel + 1, some '\x7b' :: rest =>
    match skip rest with
    | some '\x7d' :: after => some (object [], after)
    | after => (readMembers? fuel after).map fun (ms, after) => (object ms, after)
  | fuel + 1, some '[' :: rest =>
    match skip rest with
    | some ']' :: after => some (array [], after)
    | after => (readItems? fuel after).map fun (items, after) => (array items, after)
  | _ + 1, some '"' :: rest => (body? [] rest).map fun (b, after) => (string b, after)
  | _ + 1, some 'n' :: rest => (word? "ull" rest).map fun after => (null, after)
  | _ + 1, some 't' :: rest => (word? "rue" rest).map fun after => (bool true, after)
  | _ + 1, some 'f' :: rest => (word? "alse" rest).map fun after => (bool false, after)
  | _ + 1, rest => (literal? rest).map fun (l, after) => (number l, after)

/-- The items of an array from the next item on, and what follows the closing bracket. -/
def readItems? : Nat → List Symbol → Option (List Raw × List Symbol)
  | 0, _ => none
  | fuel + 1, ss => do
    let (item, ss) ← readValue? fuel ss
    match skip ss with
    | some ']' :: after => some ([item], after)
    | some ',' :: rest =>
      let (items, after) ← readItems? fuel (skip rest)
      some (item :: items, after)
    | _ => none

/-- The members of an object from the next key on, and what follows the closing brace. -/
def readMembers? : Nat → List Symbol → Option (List (List Symbol × Raw) × List Symbol)
  | 0, _ => none
  | fuel + 1, ss => do
    let some '"' :: ss := ss | none
    let (key, ss) ← body? [] ss
    let some ':' :: ss := skip ss | none
    let (value, ss) ← readValue? fuel (skip ss)
    match skip ss with
    | some '\x7d' :: after => some ([(key, value)], after)
    | some ',' :: rest =>
      let (members, after) ← readMembers? fuel (skip rest)
      some ((key, value) :: members, after)
    | _ => none

end

/-- The tree of a text that holds one value and else only spaces. -/
def read? (ss : List Symbol) : Option Raw := do
  let (raw, after) ← readValue? (ss.length + 1) (skip ss)
  if (skip after).isEmpty then some raw else none

end Raw

end BranchChat.Json
