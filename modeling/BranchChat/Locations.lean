import BranchChat.Files.Path

/-!
# Locations

Where the program keeps its own files, and where it looks for settings. All of it hangs on the
environment of the process.

## Main definitions

- `Environment`: the variables that the program looks at
- `Environment.programFolder`, `Environment.tokenFile`, `Environment.logFolder`
- `Environment.settingsFiles`: the places of settings, most important first
-/

namespace BranchChat

open BranchChat.Files (Path)

/-- The variables that the program looks at: the home folder of the user, the folder of settings,
the folder of the program, a settings file, and a token. -/
structure Environment where
  home : Option String
  settingsHome : Option String
  programHome : Option String
  settingsFile : Option String
  token : Option String
deriving DecidableEq, Inhabited

namespace Environment

/-- The home folder of the user. -/
def homeFolder? (e : Environment) : Option Path :=
  e.home.filter (· != "")

/-- The folder of the program. -/
def programFolder (e : Environment) : Path :=
  match e.programHome.filter (· != "") with
  | some folder => folder
  | none => (e.homeFolder?.getD ".").join ".canopy"

/-- The file that stores the token. -/
def tokenFile (e : Environment) : Path :=
  e.programFolder.join "session.json"

/-- The folder of logs. -/
def logFolder (e : Environment) : Path :=
  e.programFolder.join "logs"

/-- The folder of the user's settings for all programs. -/
def settingsFolder? (e : Environment) : Option Path :=
  e.settingsHome.filter Path.isAbsolute <|> e.homeFolder?.map (·.join ".config")

/-- The places of settings, most important first. -/
def settingsFiles (e : Environment) : List Path :=
  e.settingsFile.toList ++ ["canopy.toml"] ++
    (e.settingsFolder?.map fun folder => (folder.join "canopy").join "canopy.toml").toList ++
    [e.programFolder.join "canopy.toml"]

/-- A path in which `~/` at the front stands for the home folder. -/
def expand (e : Environment) (p : Path) : Path :=
  match p.toList, e.homeFolder? with
  | '~' :: '/' :: rest, some home => home.join (.ofList rest)
  | _, _ => p

end Environment

end BranchChat
