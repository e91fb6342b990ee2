import BranchChat.Command.Program
import Mathlib.Tactic.DeprecateTo

/-!
# The entry point

Reads the clock and the files that a run can look at, runs the program, and writes back what it has
changed. No network can be reached from here, so every request ends like one without a connection.

The wall clock is that of `Std.Time`, which comes with the second import.
-/

namespace BranchChat.Main

open BranchChat.Files (Entry Path Place Store)

/-- The environment of the process. -/
def environment : IO Environment := do
  return {
    home := ← IO.getEnv "HOME"
    settingsHome := ← IO.getEnv "XDG_CONFIG_HOME"
    programHome := ← IO.getEnv "CANOPY_HOME"
    settingsFile := ← IO.getEnv "CANOPY_CONFIG"
    token := ← IO.getEnv "CANOPY_TOKEN" }

/-- The milliseconds since 1970-01-01, by the wall clock. -/
def wallClock : IO Int := do
  return (← Std.Time.Timestamp.now).toMillisecondsSinceUnixEpoch.val

/-- The store with the folders above a path. -/
def withFoldersAbove (s : Store) (p : Path) : Store :=
  (s.createFoldersAbove p).1

/-- The store with what is at a path, if there is a file. -/
def load (s : Store) (p : Path) : IO Store := do
  try
    let content ← IO.FS.readBinFile p
    let s := withFoldersAbove s p
    return (s.write p content.toList 0).toOption.getD s
  catch _ => return s

/-- Brings the file at a path to the state that it has in the store. -/
def save (before after : Store) (p : Path) : IO Unit := do
  if after.at? p ≠ before.at? p then
    match after.at? p with
    | some (.file content _) => do
      IO.FS.createDirAll (Store.pathOf p.isAbsolute p.steps.dropLast)
      IO.FS.writeBinFile p ⟨content.toArray⟩
    | some .folder => return
    | none => IO.FS.removeFile p

/-- The store with the working folder of the process and nothing in it. -/
def emptyStore : IO Store := do
  let here : Path := toString (← IO.currentDir)
  let s : Store := ⟨here.steps, []⟩
  return (s.createFolders here).1

end BranchChat.Main

open BranchChat in
/-- Runs the program on the arguments of the process. -/
def main (args : List String) : IO UInt32 := do
  let e ← Main.environment
  let files ← (e.settingsFiles ++ [e.tokenFile]).foldlM Main.load (← Main.emptyStore)
  let now ← Main.wallClock
  let outcome := Program.run ⟨now, e, files, .offline, [], []⟩ args
  Main.save files outcome.files e.tokenFile
  IO.print outcome.output
  IO.eprint outcome.errors
  return UInt32.ofNat (outcome.exit.getD 0)
