/-!
# The disk

What the journal needs of a file system: the journal file, and the temporary file that takes its
place when the journal is compacted. Every call may fail. Which calls fail is part of the disk, so
that a statement about all disks is one about all failures.
-/

set_option autoImplicit false

namespace Timetable.Journal

inductive DiskError where
  | fileTooLarge
  | isADirectory
  deriving DecidableEq

/-- The text of the operating system. -/
def DiskError.message : DiskError → String
  | fileTooLarge => "File too large (os error 27)"
  | isADirectory => "Is a directory (os error 21)"

inductive FileName where
  | log
  /-- Stands beside the journal while it is compacted. -/
  | temp
  deriving DecidableEq

/-- What stands under a name. -/
inductive Entry where
  | absent
  | directory
  | file (bytes : List UInt8)
  deriving DecidableEq

inductive Call where
  /-- Makes a file that is empty, or empties it. -/
  | create
  /-- Opens a file for writing at its end, and makes it if need be. -/
  | openEnd
  | write
  | sync
  | rename
  deriving DecidableEq

/-- A call that fails. A write may have written the first `kept` bytes. -/
structure Failure where
  kept : Nat
  error : DiskError

/-- What a call comes to; the disk may change even if it fails. -/
abbrev Outcome := Except DiskError Unit

structure Disk where
  log : Entry
  temp : Entry
  /-- The failure of the n-th call, if it is to fail. -/
  fate : Nat → Call → Option Failure
  /-- How many calls have been made. -/
  calls : Nat

namespace Disk

/-- An empty disk on which no call fails. -/
def empty : Disk := ⟨.absent, .absent, fun _ _ => none, 0⟩

def entry (d : Disk) : FileName → Entry
  | .log => d.log
  | .temp => d.temp

def setEntry (d : Disk) (name : FileName) (e : Entry) : Disk :=
  match name with
  | .log => { d with log := e }
  | .temp => { d with temp := e }

/-- The bytes under a name. -/
def bytes (d : Disk) (name : FileName) : List UInt8 :=
  match d.entry name with
  | .file bytes => bytes
  | _ => []

/-- The failure of a call that is made now. -/
def failure? (d : Disk) (c : Call) : Option Failure := d.fate d.calls c

def counted (d : Disk) : Disk := { d with calls := d.calls + 1 }

/-- Puts bytes at the end of a file. A file whose name has gone to something else is lost. -/
def append (d : Disk) (name : Option FileName) (bytes : List UInt8) : Disk :=
  match name with
  | none => d
  | some name =>
    match d.entry name with
    | .file before => d.setEntry name (.file (before ++ bytes))
    | _ => d

/-- Writes at the end of a file. The failure is part of the answer, as it tells how much was
written. -/
def write (d : Disk) (name : Option FileName) (bytes : List UInt8) : Option Failure × Disk :=
  match d.failure? .write with
  | some f => (some f, (d.append name (bytes.take f.kept)).counted)
  | none => (none, (d.append name bytes).counted)

/-- Makes a call other than a write. -/
def attempt (d : Disk) (c : Call) (act : Disk → Outcome × Disk) : Outcome × Disk :=
  match d.failure? c with
  | some f => (.error f.error, d.counted)
  | none => act d.counted

def sync (d : Disk) : Outcome × Disk := d.attempt .sync fun d => (.ok (), d)

def create (d : Disk) (name : FileName) : Outcome × Disk :=
  d.attempt .create fun d =>
    match d.entry name with
    | .directory => (.error .isADirectory, d)
    | _ => (.ok (), d.setEntry name (.file []))

/-- Opens a file for writing at its end. -/
def openEnd (d : Disk) (name : FileName) : Outcome × Disk :=
  d.attempt .openEnd fun d =>
    match d.entry name with
    | .directory => (.error .isADirectory, d)
    | .absent => (.ok (), d.setEntry name (.file []))
    | .file _ => (.ok (), d)

/-- Lets the temporary file take the place of the journal, at once or not at all. -/
def rename (d : Disk) : Outcome × Disk :=
  d.attempt .rename fun d =>
    match d.log with
    | .directory => (.error .isADirectory, d)
    | _ => (.ok (), { d with log := d.temp, temp := .absent })

end Disk

end Timetable.Journal
