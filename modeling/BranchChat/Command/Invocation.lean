import BranchChat.Command.Arguments

/-!
# Invocations of the program

The commands of the program and their arguments.

## Main definitions

- `Command`: what the program is asked to do
- `Invocation`: a command, with the server that it is meant for
- `Invocation.read`: the invocation of a command line
-/

namespace BranchChat

/-- What the program is asked to do. -/
inductive Command where
  | login (token : String)
  | logout
  | conversations
  | show (id : String) (leaf sibling : Option String) (offset : Option Int) (verbose : Bool)
  | artifacts (id : String)
  | chat (conversation parent : Option String) (verbose : Bool) (text : String)
deriving DecidableEq, Inhabited

/-- A command, and the server that takes the place of the one in the settings. -/
structure Invocation where
  server : Option String
  command : Command
deriving DecidableEq, Inhabited

namespace Command

/-- A signed integer of 64 bits. -/
def integer64? (s : String) : Option Int :=
  let digits? : List Char → Option Nat := fun cs =>
    if cs.isEmpty || !cs.all Char.isDigit then none
    else some (cs.foldl (fun n c => n * 10 + (c.toNat - 48)) 0)
  let n? : Option Int := match s.toList with
    | '-' :: rest => (digits? rest).map fun n => -(n : Int)
    | '+' :: rest => (digits? rest).map Int.ofNat
    | cs => (digits? cs).map Int.ofNat
  n?.filter fun n => decide (-(Nat.pow 2 63 : Int) ≤ n) && decide (n < (Nat.pow 2 63 : Int))

/-- An option with any value. -/
def textSwitch (name : String) : Switch :=
  ⟨name, none, .value false fun _ => true⟩

/-- The option that names the server, which every command takes. -/
def serverSwitch : Switch := textSwitch "server"

/-- The option that asks for all thinking. -/
def verboseSwitch : Switch := ⟨"verbose", some 'v', .absent⟩

/-- The option that says how far to go among siblings. -/
def offsetSwitch : Switch := ⟨"offset", none, .value true fun s => (integer64? s).isSome⟩

/-- The names of commands. One has two names. -/
def names : List String :=
  ["login", "logout", "conversations", "ls", "show", "artifacts", "chat"]

/-- The grammar before a command. -/
def topGrammar : Grammar :=
  { switches := [serverSwitch], maxWords := 0, hasVersion := true, commands := names ++ ["help"] }

/-- The grammar of a command that takes some options and words. -/
def grammar (switches : List Switch) (maxWords : Nat) : Grammar :=
  { switches := serverSwitch :: switches, maxWords, hasVersion := false, commands := [] }

/-- The grammar of a command, by its name. -/
def grammarOf : String → Grammar
  | "login" => grammar [textSwitch "token"] 0
  | "show" =>
    grammar [textSwitch "leaf", textSwitch "at", offsetSwitch, verboseSwitch] 1
  | "artifacts" => grammar [] 1
  | "chat" => grammar [textSwitch "conversation", textSwitch "parent", verboseSwitch] 1
  | _ => grammar [] 0

/-- The command of a name and its arguments, where none that it needs may be missing. -/
def ofGiven? (name : String) (g : Given) : Option Command :=
  match name with
  | "login" => (g.value? "token").map login
  | "logout" => some logout
  | "conversations" | "ls" => some conversations
  | "show" => do
    let id ← g.words.head?
    let offset := (g.value? "offset").bind integer64?
    if (g.value? "at").isSome ∧ offset.isNone then none
    else some (.show id (g.value? "leaf") (g.value? "at") offset (g.hasFlag "verbose"))
  | "artifacts" => g.words.head?.map artifacts
  | "chat" => do
    let text ← g.words.head?
    if (g.value? "parent").isSome ∧ (g.value? "conversation").isNone then none
    else some (.chat (g.value? "conversation") (g.value? "parent") (g.hasFlag "verbose") text)
  | _ => none

end Command

namespace Invocation

open Command (Stop Given)

/-- The invocation of a command line. -/
def read (args : List String) : Except Stop Invocation :=
  match Command.topGrammar.read .none args with
  | .error stop => .error stop
  | .ok (_, none) => .error .misuse
  | .ok (_, some ("help", topics)) =>
    match topics with
    | [] => .error .help
    | [topic] =>
      if Command.topGrammar.commands.contains topic then .error .help else .error .misuse
    | _ => .error .misuse
  | .ok (top, some (name, rest)) =>
    match (Command.grammarOf name).read .none rest with
    | .error stop => .error stop
    | .ok (given, _) =>
      match Command.ofGiven? name given with
      | some command => .ok ⟨given.value? "server" <|> top.value? "server", command⟩
      | none => .error .misuse

end Invocation

end BranchChat
