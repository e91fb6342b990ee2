import BranchChat.Toml.Document
import BranchChat.Toml.Quoted

/-!
# Reading TOML

A document is a list of lines, each with a header, an assignment, or nothing but blanks and a
comment. Lists and tables in braces may go over several lines.

## Main definitions

- `statements?`: the statements of a document
- `read?`: the table of a document
-/

namespace BranchChat.Toml

/-- The document from its next character that is no space or tab. -/
def skipGaps (cs : List Char) : List Char :=
  cs.dropWhile isGap

/-- What follows a comment, which must hold text only. -/
def comment? (cs : List Char) : Option (List Char) :=
  match cs with
  | '#' :: rest =>
    let after := rest.dropWhile isTextual
    match after with
    | [] | '\n' :: _ | '\r' :: '\n' :: _ => some after
    | _ => none
  | cs => some cs

/-- What follows the end of a statement: the next line, or nothing. -/
def endOfLine? (cs : List Char) : Option (List Char) := do
  let cs ← comment? (skipGaps cs)
  if cs.isEmpty then some [] else afterLineEnd? cs

/-- The document from its next token on, over blanks, comments and line ends. -/
def skipLines? : Nat → List Char → Option (List Char)
  | 0, _ => none
  | fuel + 1, cs =>
    match skipGaps cs with
    | '#' :: rest => (comment? ('#' :: rest)).bind (skipLines? fuel)
    | cs =>
      match afterLineEnd? cs with
      | some rest => skipLines? fuel rest
      | none => some cs

/-! ### Keys -/

/-- Whether a character may stand in a key without quotes. -/
def isBare (c : Char) : Bool :=
  c.isAlphanum || c == '_' || c == '-'

/-- One key. -/
def key? (cs : List Char) : Option (String × List Char) :=
  match cs.takeWhile isBare with
  | [] => quoted? false cs
  | bare => some (.ofList bare, cs.dropWhile isBare)

/-- The greatest number of keys between dots. -/
def maxKeys : Nat := 80

/-- At most a number of keys with dots between them: all but the last, and the last. -/
def keysUpTo? : Nat → List Char → Option ((List String × String) × List Char)
  | 0, _ => none
  | count + 1, cs => do
    let (key, cs) ← key? (skipGaps cs)
    match skipGaps cs with
    | '.' :: rest =>
      let ((path, last), rest) ← keysUpTo? count rest
      some ((key :: path, last), rest)
    | rest => some (([], key), rest)

/-- Keys with dots between them: all but the last, and the last. -/
def keys? (cs : List Char) : Option ((List String × String) × List Char) :=
  keysUpTo? maxKeys cs

/-! ### Values -/

/-- Whether a character may stand in an unquoted value. -/
def isWordly (c : Char) : Bool :=
  c.isAlphanum || c == '_' || c == '-' || c == '+' || c == '.' || c == ':'

/-- The unquoted word at the front of a document. A time may follow a date after one space. -/
def word (cs : List Char) : List Char × List Char :=
  let first := cs.takeWhile isWordly
  let rest := cs.dropWhile isWordly
  match isDate first, rest with
  | true, ' ' :: d :: more =>
    if d.isDigit then
      (first ++ ' ' :: (d :: more).takeWhile isWordly, (d :: more).dropWhile isWordly)
    else (first, rest)
  | _, _ => (first, rest)

/-- How deep lists and braces may lie in each other. -/
def maxDepth : Nat := 80

mutual

/-- A value. The first argument bounds the number of tokens, the second one how deep lists and
braces may still go. -/
def value? : Nat → Nat → List Char → Option (Node × List Char)
  | 0, _, _ => none
  | _ + 1, _, [] => none
  | _ + 1, 0, '[' :: _ | _ + 1, 0, '\x7b' :: _ => none
  | fuel + 1, depth + 1, '[' :: rest =>
    (items? fuel depth rest).map fun (items, rest) => (.array items, rest)
  | fuel + 1, depth + 1, '\x7b' :: rest => do
    let (members, rest) ← members? fuel depth rest
    let node ← braces? members
    some (node, rest)
  | _ + 1, _, c :: rest =>
    if c = '"' ∨ c = '\'' then
      (quoted? true (c :: rest)).map fun (s, rest) => (.scalar (.string s), rest)
    else
      let (w, rest) := word (c :: rest)
      (Scalar.ofWord? w).map fun s => (.scalar s, rest)

/-- The items of a list from the next one on, and what follows the closing bracket. -/
def items? : Nat → Nat → List Char → Option (List Node × List Char)
  | 0, _, _ => none
  | fuel + 1, depth, cs => do
    match ← skipLines? (cs.length + 1) cs with
    | ']' :: rest => some ([], rest)
    | cs =>
      let (item, cs) ← value? fuel depth cs
      match ← skipLines? (cs.length + 1) cs with
      | ']' :: rest => some ([item], rest)
      | ',' :: rest =>
        let (items, rest) ← items? fuel depth rest
        some (item :: items, rest)
      | _ => none

/-- The assignments between braces from the next one on, and what follows the closing brace. -/
def members? : Nat → Nat → List Char → Option (List (List String × String × Node) × List Char)
  | 0, _, _ => none
  | fuel + 1, depth, cs => do
    match ← skipLines? (cs.length + 1) cs with
    | '\x7d' :: rest => some ([], rest)
    | cs =>
      let ((path, key), cs) ← keys? cs
      match ← skipLines? (cs.length + 1) cs with
      | '=' :: cs =>
        let (node, cs) ← value? fuel depth (← skipLines? (cs.length + 1) cs)
        match ← skipLines? (cs.length + 1) cs with
        | '\x7d' :: rest => some ([(path, key, node)], rest)
        | ',' :: rest =>
          let (members, rest) ← members? fuel depth rest
          some ((path, key, node) :: members, rest)
        | _ => none
      | _ => none

end

/-! ### Statements -/

/-- The statement at the front of a line, up to the end of its last token. -/
def statement? (cs : List Char) : Option (Statement × List Char) :=
  match cs with
  | '[' :: '[' :: rest => do
    match ← keys? rest with
    | ((path, key), ']' :: ']' :: rest) => some (.entry path key, rest)
    | _ => none
  | '[' :: rest => do
    match ← keys? rest with
    | ((path, key), ']' :: rest) => some (.table path key, rest)
    | _ => none
  | cs => do
    match ← keys? cs with
    | ((path, key), '=' :: rest) =>
      let (node, rest) ← value? (cs.length + 1) maxDepth (skipGaps rest)
      some (.assignment path key node, rest)
    | _ => none

/-- The statements of a document. The first argument bounds their number. -/
def statements? : Nat → List Char → Option (List Statement)
  | 0, _ => none
  | fuel + 1, cs => do
    let cs ← skipLines? (cs.length + 1) cs
    if cs.isEmpty then some []
    else do
      let (statement, cs) ← statement? cs
      let cs ← endOfLine? cs
      let more ← statements? fuel cs
      some (statement :: more)

/-- The table of a document. A byte order mark at its front counts for nothing. -/
def read? (cs : List Char) : Option Members :=
  let cs := if cs.head? = some '\uFEFF' then cs.tail else cs
  (statements? (cs.length + 1) cs).bind document?

end BranchChat.Toml
