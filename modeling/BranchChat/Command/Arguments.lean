/-!
# Arguments of a command line

Arguments are options, with or without a value, and free words. They are read from left to right,
and the first argument that makes no sense, or asks for help, ends the reading. After two dashes
all arguments are free words.

## Main definitions

- `Switch`: an option
- `Grammar`: the options of a command, and how many words it takes
- `Given`: the options and words that were read
- `Grammar.read`: reads arguments
-/

namespace BranchChat.Command

/-- Why the reading ends early. -/
inductive Stop where
  /-- An argument makes no sense, or one is missing. -/
  | misuse
  | help
  | version
deriving DecidableEq, Inhabited

/-- What comes after the name of an option. -/
inductive Operand where
  | absent
  /-- A value that some test accepts. It may start with a dash only if `dashed`. -/
  | value (dashed : Bool) (accepts : String → Bool)

/-- An option, by its long name and perhaps by a letter. -/
structure Switch where
  name : String
  letter : Option Char
  operand : Operand

/-- The options of a command, and the greatest number of words. A command may have a version, and
it may have commands of its own. -/
structure Grammar where
  switches : List Switch
  maxWords : Nat
  hasVersion : Bool
  commands : List String

/-- The options and words that were read, each option once. -/
structure Given where
  values : List (String × String)
  flags : List String
  words : List String
deriving DecidableEq, Inhabited

namespace Given

/-- Nothing was read. -/
def none : Given := ⟨[], [], []⟩

/-- The value of an option. -/
def value? (g : Given) (name : String) : Option String :=
  g.values.lookup name

/-- Whether an option without a value was read. -/
def hasFlag (g : Given) (name : String) : Bool :=
  g.flags.contains name

/-- One value more. An option must not come twice. -/
def withValue (g : Given) (name value : String) : Except Stop Given :=
  if (g.value? name).isSome then .error .misuse
  else .ok { g with values := (name, value) :: g.values }

/-- One option without a value more. -/
def withFlag (g : Given) (name : String) : Except Stop Given :=
  if g.hasFlag name then .error .misuse else .ok { g with flags := name :: g.flags }

end Given

/-- Whether an argument is taken for an option. -/
def isDashed (arg : String) : Bool :=
  arg.startsWith "-" && arg != "-"

namespace Grammar

/-- Some words more. -/
def takeWords (grammar : Grammar) (g : Given) (words : List String) : Except Stop Given :=
  if g.words.length + words.length ≤ grammar.maxWords then
    .ok { g with words := g.words ++ words }
  else .error .misuse

/-- The options that are written as letters after one dash. -/
def takeLetters (grammar : Grammar) (g : Given) : List Char → Except Stop Given
  | [] => .ok g
  | letter :: letters =>
    if letter = 'h' then .error .help
    else if letter = 'V' ∧ grammar.hasVersion then .error .version
    else
      match grammar.switches.find? (·.letter == some letter) with
      | some switch => do
        let g ← g.withFlag switch.name
        grammar.takeLetters g letters
      | none => .error .misuse

/-- The name of a long option and the value that is joined to it. -/
def longName (arg : String) : String × Option String :=
  let body := arg.toList.drop 2
  match body.dropWhile (· != '=') with
  | _ :: value => (.ofList (body.takeWhile (· != '=')), some (.ofList value))
  | [] => (.ofList body, none)

/-- A value of an option, if the option accepts it. -/
def takeValue (g : Given) (name value : String) (accepts : String → Bool) : Except Stop Given :=
  if accepts value then g.withValue name value else .error .misuse

/-- Takes a long option with the argument after it, and says whether that argument is its value. -/
def takeLong (grammar : Grammar) (g : Given) (arg : String) (next : Option String) :
    Except Stop (Given × Bool) :=
  let (name, joined) := longName arg
  if name = "help" then if joined.isSome then .error .misuse else .error .help
  else if name = "version" ∧ grammar.hasVersion then
    if joined.isSome then .error .misuse else .error .version
  else
    match grammar.switches.find? (·.name == name) with
    | none => .error .misuse
    | some switch =>
      match switch.operand, joined, next with
      | .absent, none, _ => (g.withFlag name).map fun g => (g, false)
      | .value _ accepts, some value, _ =>
        (takeValue g name value accepts).map fun g => (g, false)
      | .value dashed accepts, none, some value =>
        if isDashed value && !dashed then .error .misuse
        else (takeValue g name value accepts).map fun g => (g, true)
      | .absent, some _, _ | .value .., none, none => .error .misuse

/-- Takes an argument that is an option or a word, with the argument after it. -/
def take (grammar : Grammar) (g : Given) (arg : String) (next : Option String) :
    Except Stop (Given × Bool) :=
  if arg.startsWith "--" then grammar.takeLong g arg next
  else if isDashed arg then
    (grammar.takeLetters g (arg.toList.drop 1)).map fun g => (g, false)
  else (grammar.takeWords g [arg]).map fun g => (g, false)

/-- Reads arguments, up to the name of a command if the grammar has commands: what was read, the
name, and the arguments after it. -/
def read (grammar : Grammar) (g : Given) :
    List String → Except Stop (Given × Option (String × List String))
  | [] => .ok (g, none)
  | arg :: rest =>
    if arg = "--" then (grammar.takeWords g rest).map fun g => (g, none)
    else if grammar.commands.contains arg then .ok (g, some (arg, rest))
    else
      match grammar.take g arg rest.head? with
      | .error stop => .error stop
      | .ok (g, false) => grammar.read g rest
      | .ok (g, true) =>
        match rest with
        | [] => .ok (g, none)
        | _ :: rest => grammar.read g rest

end Grammar

end BranchChat.Command
