import Timetable.Bells
import Timetable.Policy

/-!
# Settings

The settings of a server, each from a variable of its own. A variable that is absent leaves the
default, and so does a number that cannot be read; a bad bell schedule or a bound that reaches too
far ahead is an error.
-/

set_option autoImplicit false

namespace Timetable

inductive SettingsError where
  | bells (error : BellError)
  | lookahead (name : String) (days : Nat)
  deriving DecidableEq

def SettingsError.message : SettingsError → String
  | bells error => "SLOTBOOK_SCHOOL_UNITS: " ++ error.message
  | lookahead name days => s!"{name}: {days} days exceeds the maximum of {maxLookaheadDays}"

structure Settings where
  bind : String
  listenPort : Nat
  dataDir : String
  token : String
  maxConnections : Nat
  compactThreshold : Nat
  metricsPort : Option Nat
  /-- File of user profiles; without one nobody is known. -/
  directory : Option String
  bells : BellSchedule
  policy : BookingPolicy

namespace Settings

def standard : Settings where
  bind := "0.0.0.0"
  listenPort := 5480
  dataDir := "./data"
  token := "slotbook"
  maxConnections := 256
  compactThreshold := 1000
  metricsPort := none
  directory := none
  bells := BellSchedule.standard
  policy := BookingPolicy.standard

/-- A number below `bound`; blanks around it do not count. -/
def number? (lookup : String → Option String) (bound : Nat) (name : String) : Option Nat :=
  (lookup name).bind fun s => Text.unsigned? bound (Text.trim s.toList)

def lookahead (lookup : String → Option String) (name : String) (otherwise : Nat) :
    Except SettingsError Nat :=
  let days := (number? lookup UInt32.size name).getD otherwise
  if maxLookaheadDays < days then .error (.lookahead name days) else .ok days

def bellsOf (lookup : String → Option String) : Except SettingsError BellSchedule :=
  match lookup "SLOTBOOK_SCHOOL_UNITS" with
  | some s => (BellSchedule.ofText s).mapError .bells
  | none => .ok standard.bells

def policyOf (lookup : String → Option String) : Except SettingsError BookingPolicy := do
  return {
    studentDays := ← lookahead lookup "SLOTBOOK_STUDENT_LOOKAHEAD_DAYS" standard.policy.studentDays
    supervisorDays :=
      ← lookahead lookup "SLOTBOOK_SUPERVISOR_LOOKAHEAD_DAYS" standard.policy.supervisorDays
    listingDays := ← lookahead lookup "SLOTBOOK_MY_SLOTS_WINDOW_DAYS" standard.policy.listingDays }

/-- The settings that the variables of `lookup` give. The bell schedule is read first, then the
bounds. -/
def ofLookup (lookup : String → Option String) : Except SettingsError Settings := do
  let bells ← bellsOf lookup
  let policy ← policyOf lookup
  return {
    bind := (lookup "SLOTBOOK_BIND").getD standard.bind
    listenPort := (number? lookup UInt16.size "SLOTBOOK_PORT").getD standard.listenPort
    dataDir := (lookup "SLOTBOOK_DATA_DIR").getD standard.dataDir
    token := (lookup "SLOTBOOK_TOKEN").getD standard.token
    maxConnections :=
      (number? lookup UInt64.size "SLOTBOOK_MAX_CONNECTIONS").getD standard.maxConnections
    compactThreshold :=
      (number? lookup UInt64.size "SLOTBOOK_COMPACT_THRESHOLD").getD standard.compactThreshold
    metricsPort := number? lookup UInt16.size "SLOTBOOK_METRICS_PORT"
    directory := lookup "SLOTBOOK_DIRECTORY"
    bells
    policy }

/-- The variables that are looked up. -/
def variableNames : List String :=
  ["SLOTBOOK_SCHOOL_UNITS", "SLOTBOOK_STUDENT_LOOKAHEAD_DAYS", "SLOTBOOK_SUPERVISOR_LOOKAHEAD_DAYS",
    "SLOTBOOK_MY_SLOTS_WINDOW_DAYS", "SLOTBOOK_BIND", "SLOTBOOK_PORT", "SLOTBOOK_DATA_DIR",
    "SLOTBOOK_TOKEN", "SLOTBOOK_MAX_CONNECTIONS", "SLOTBOOK_COMPACT_THRESHOLD",
    "SLOTBOOK_METRICS_PORT", "SLOTBOOK_DIRECTORY"]

/-- Where the journal is kept: a file in the data directory. -/
def journalPath (s : Settings) : String :=
  if s.dataDir.isEmpty || s.dataDir.endsWith "/" then s.dataDir ++ "slotbook.wal"
  else s.dataDir ++ "/slotbook.wal"

end Settings

end Timetable
