import BranchChat.Calendar.Date
import BranchChat.Files.Store
import BranchChat.Locations

/-!
# The folder of logs

Each day has a log file of its own. Files that are older than the retention are removed when the
program starts. The greatest age is a checked product of 64-bit words: where it does not fit, the
program ends before it has looked at any file. It also ends where the log file of the day cannot be
opened, but goes on without logs where there can be no folder for them.

## Main definitions

- `dailyName`: the name of the log file of a day
- `maxAge?`: how old a log file may become
- `isStale`: whether a file is removed
- `sweep`: removes stale files
- `prepare`: makes the folder ready for logging
-/

namespace BranchChat.LogFolder

open BranchChat.Files (Path Place Store Entry Fault)

/-- What the names of log files start with. -/
def stem : String := "canopy"

/-- The retention in days where none is set. -/
def defaultRetention : UInt64 := 14

/-- The length of a day in milliseconds. -/
def dayLength : Int := 86400000

/-- The name of the log file of the day of a time. -/
def dailyName (now : Int) : String :=
  stem ++ "." ++ Calendar.dayText (now.fdiv dayLength)

/-- Why the folder is not swept or not made ready. -/
inductive Failure where
  /-- The folder cannot be created or read. -/
  | files (fault : Fault)
  /-- No word holds the greatest age. -/
  | overflow
  /-- The log file of the day cannot be opened. -/
  | unopened (fault : Fault)
deriving DecidableEq, Inhabited

/-- Whether a failure ends the program. -/
def Failure.isFatal : Failure → Bool
  | files _ => false
  | overflow | unopened _ => true

/-- The wording of a failure. -/
def Failure.message : Failure → String
  | files fault => "Failed to initialize logging: " ++ fault.message
  | overflow => "attempt to multiply with overflow"
  | unopened _ => "initializing rolling file appender failed"

/-- The greatest age of a log file in seconds, if a word of 64 bits holds it. -/
def maxAge? (retention : UInt64) : Option UInt64 :=
  let seconds := 60 * 60 * 24 * retention.toNat
  if seconds < UInt64.size then some (.ofNat seconds) else none

/-- Whether an entry is a file, named like a log, that is older than a number of seconds. -/
def isStale (limit : UInt64) (now : Int) (name : String) : Entry → Bool
  | .file _ changed => name.startsWith stem && decide ((limit.toNat * 1000 : Int) < now - changed)
  | .folder => false

/-- Removes the stale files of a folder. -/
def clear (s : Store) (folder : Place) (limit : UInt64) (now : Int) : Store :=
  (s.inFolder folder).foldl
    (fun s (name, e) => if isStale limit now name e then s.delete (folder ++ [name]) else s) s

/-- Removes the files of the folder at a path that are older than the retention. -/
def sweep (s : Store) (folder : Path) (retention : UInt64) (now : Int) :
    Store × Except Failure Unit :=
  match maxAge? retention with
  | none => (s, .error .overflow)
  | some limit =>
    match s.folderAt folder with
    | .ok place => (clear s place limit now, .ok ())
    | .error fault => (s, .error (.files fault))

/-- The folder that logs go to. -/
def folderOf (e : Environment) (configured : Option Path) : Path :=
  match configured with
  | some p => e.expand p
  | none => e.logFolder

/-- Opens the log file of the day, and begins it where it is not there yet. -/
def openToday (s : Store) (folder : Path) (now : Int) : Except Fault Store :=
  let today := folder.join (dailyName now)
  match s.at? today with
  | some (.file ..) => .ok s
  | _ => s.write today [] now

/-- Creates the folder, sweeps it and opens the log file of the day. A folder that cannot be read is
left as it is, but nothing follows an overflow. -/
def prepare (s : Store) (folder : Path) (retention : Option UInt64) (now : Int) :
    Store × Except Failure Unit :=
  match s.createFolders folder with
  | (s, .error fault) => (s, .error (.files fault))
  | (s, .ok ()) =>
    match sweep s folder (retention.getD defaultRetention) now with
    | (s, .error .overflow) => (s, .error .overflow)
    | (s, _) =>
      match openToday s folder now with
      | .ok s => (s, .ok ())
      | .error fault => (s, .error (.unopened fault))

end BranchChat.LogFolder
