import BranchChat.Text.Alphanumeric
import BranchChat.Text.Blank

/-!
# The filter of log lines

Which lines are logged is given by rules with commas between them. A rule may name a target, a span
in brackets with fields in braces, and after an equals sign the level down to which lines are
logged. A rule that is not well formed does not count, and the user is told so.

The level of the settings stands at the end of a rule for the program itself, so that it may go on
with rules of its own.

## Main definitions

- `LogFilter.Flaw`: why a rule does not count
- `LogFilter.flaw?`: the flaw of a rule
- `LogFilter.complaints`: what is said about the rules of a level
-/

namespace BranchChat.LogFilter

open BranchChat.Text (cut trim)

/-- Why a rule does not count. -/
inductive Flaw where
  | malformed
  | unknownLevel
deriving DecidableEq, Inhabited

/-- The wording of a flaw. -/
def Flaw.message : Flaw → String
  | malformed => "invalid filter directive"
  | unknownLevel =>
    "error parsing level filter: expected one of \"off\", \"error\", \"warn\", \"info\", " ++
      "\"debug\", \"trace\", or a number 0-5"

/-- The names of levels. -/
def levelNames : List String :=
  ["off", "error", "warn", "info", "debug", "trace"]

/-- The number of the last level. -/
def lastLevel : Nat := 5

/-- Whether a text is a number of at most `most`, with or without a plus sign. -/
def isNumberUpTo (most : Nat) (cs : List Char) : Bool :=
  let digits := if cs.head? == some '+' then cs.tail else cs
  !digits.isEmpty && digits.all Char.isDigit &&
    digits.foldl (fun n c => n * 10 + (c.toNat - 48)) 0 ≤ most

/-- Whether a text is a level, by its name in letters of any case or by its number. -/
def isLevel (cs : List Char) : Bool :=
  isNumberUpTo lastLevel cs || levelNames.contains (.ofList (cs.map Char.toLower))

/-- The part of a rule that is being read. -/
inductive Part where
  | start
  | target
  | span
  /-- A field, and whether it has a character yet. -/
  | field (begun : Bool)
  /-- After the braces. -/
  | fields
  /-- After the brackets. -/
  | scope
  /-- The level, with its characters in reverse order. -/
  | level (read : List Char)
deriving DecidableEq, Inhabited

/-- Whether a target may start with a character. -/
def startsTarget (c : Char) : Bool :=
  c == '-' || c == ':' || c == '_' || Text.isAlphanumeric c

/-- The part of a rule after one more character, none where it must not stand there. -/
def Part.next? (p : Part) (c : Char) : Option Part :=
  match p, c with
  | start, '[' => some span
  | start, c => if startsTarget c then some target else none
  | target, '=' => some (level [])
  | target, '[' => some span
  | target, _ => some target
  | span, ']' => some scope
  | span, '\x7b' => some (field false)
  | span, _ => some span
  | field begun, '\x7d' => if begun then some fields else none
  | field _, _ => some (field true)
  | fields, ']' => some scope
  | fields, _ => none
  | scope, '=' => some (level [])
  | scope, _ => none
  | level read, c => some (level (c :: read))

/-- The flaw of a rule. Blanks around a rule spoil its level. -/
def flaw? (rule : List Char) : Option Flaw :=
  let inner := trim rule
  match inner.foldlM Part.next? .start with
  | some .target | some .scope => none
  | some (.level read) =>
    if inner == rule && (read.isEmpty || isLevel read.reverse) then none else some .unknownLevel
  | _ => some .malformed

/-- The rules of a level in the settings. -/
def rules (level : String) : List (List Char) :=
  (cut (· == ',') ("canopy=" ++ level).toList).filter (!·.isEmpty)

/-- What is said about the rules of a level. -/
def complaints (level : String) : List String :=
  (rules level).filterMap fun rule =>
    (flaw? rule).map fun flaw => "ignoring `" ++ .ofList rule ++ "`: " ++ flaw.message

end BranchChat.LogFilter
