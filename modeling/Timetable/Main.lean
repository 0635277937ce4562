import Std.Time.DateTime.Timestamp
import Timetable.Json.Printer
import Timetable.Session
import Timetable.Settings

/-!
# The program

Serves one client, whose lines come in on standard input and whose replies go out on standard
output. The settings are taken from the environment, and the journal is kept in the data directory.
-/

set_option autoImplicit false

namespace Timetable.Program

/-- The settings that the environment gives. -/
def settings : IO Settings := do
  let held ← Settings.variableNames.mapM fun name => return (name, ← IO.getEnv name)
  match Settings.ofLookup fun name => (held.lookup name).join with
  | .ok settings => return settings
  | .error e => throw (IO.userError e.message)

/-- The users that the file of profiles names. -/
def directory (s : Settings) : IO Directory := do
  let some path := s.directory | return []
  match Directory.ofText? (← IO.FS.readFile path) with
  | some directory => return directory
  | none => throw (IO.userError (path ++ " is no list of profiles"))

/-- A disk with the journal that has been kept so far. -/
def disk (path : String) : IO Journal.Disk := do
  try
    let bytes ← IO.FS.readBinFile path
    return { Journal.Disk.empty with log := .file bytes.toList }
  catch
    | .noFileOrDirectory _ _ _ => return Journal.Disk.empty
    | e => throw e

/-- Replaces the journal file, unless nothing has changed. -/
def save (path : String) (before after : Journal.Disk) : IO Unit := do
  let bytes := after.bytes .log
  if before.bytes .log ≠ bytes then
    IO.FS.writeBinFile (path ++ ".tmp") ⟨bytes.toArray⟩
    IO.FS.rename (path ++ ".tmp") path

/-- Milliseconds since the start of 1 January 1970. -/
def now : IO Int := return (← Std.Time.Timestamp.now).toMillisecondsSinceUnixEpoch.toInt

/-- Ids that count up from a random number; the instant stands in their upper bits. -/
def ids : IO (Nat → Ident) := do
  let first := (← now).toNat <<< 80 + (← IO.rand 0 (1 <<< 80 - 1))
  return fun n => Ident.ofNat (first + n)

/-- Answers line after line. A change is kept before the reply that tells of it goes out. -/
partial def serve (s : Settings) (rules : Rules) (p : Planner) (client : Session) : IO Unit := do
  let line ← (← IO.getStdin).getLine
  let client := if line.isEmpty then client.closeInput else client.send (Journal.utf8 line)
  let (replies, after, client) := client.run p rules (← now) s.token
  let (_, after) := after.compactIfDue s.compactThreshold
  save s.journalPath p.log.disk after.log.disk
  let output ← IO.getStdout
  replies.forM fun reply => output.putStrLn reply.text
  output.flush
  if client.ending.isNone then serve s rules after client
  else save s.journalPath after.log.disk after.log.close

def run : IO Unit := do
  let s ← settings
  IO.FS.createDirAll s.dataDir
  let rules : Rules :=
    { bells := s.bells, policy := s.policy, directory := ← directory s, ids := ← ids }
  match Planner.start (← disk s.journalPath) Hub.empty [] 0 with
  | .ok planner => serve s rules planner Session.new
  | .error e => throw (IO.userError e.message)

end Timetable.Program

def main : IO Unit := Timetable.Program.run
