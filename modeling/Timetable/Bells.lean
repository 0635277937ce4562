import Timetable.Span
import Timetable.Text.Quoted

/-!
# The bell schedule

The times at which the units of a school day begin. A session starts with one unit and ends when a
later one begins, so the last unit only ends sessions.
-/

set_option autoImplicit false

namespace Timetable

/-- What is wrong with a bell schedule or with a question put to one. -/
inductive BellError where
  | outOfRange (unit : UInt32) (max : Nat)
  | badTime (item : String)
  | empty
  | notIncreasing (unit : Nat)
  /-- The session would take place after the last date there is. -/
  | afterLastDate
  deriving DecidableEq

namespace BellError

def message : BellError → String
  | outOfRange unit max => s!"school unit {unit} out of range [1, {max}]"
  | badTime item =>
      "invalid unit start time: " ++ String.ofList (Text.quoted item.toList) ++
        " (expected HH:MM)"
  | empty => "calendar has no units"
  | notIncreasing unit => s!"unit {unit} does not start after the previous unit"
  | afterLastDate => "the next session lies after the last date"

end BellError

/-- Start times of the units, unit 1 first. There is at least one, and each unit starts later than
the one before. -/
structure BellSchedule where
  starts : List TimeOfDay
  ne_nil : starts ≠ []
  increasing : starts.Pairwise (· < ·)
  deriving DecidableEq

namespace BellSchedule

/-- The number of the first unit that does not start after the one before it, where `previous` is
the start of unit `unit`. -/
def disorder? (unit : Nat) (previous : TimeOfDay) : List TimeOfDay → Option Nat
  | [] => none
  | time :: rest => if previous < time then disorder? (unit + 1) time rest else some (unit + 1)

theorem pairwise_of_disorder? {unit : Nat} {previous : TimeOfDay} {rest : List TimeOfDay}
    (h : disorder? unit previous rest = none) : (previous :: rest).Pairwise (· < ·) := by
  induction rest generalizing unit previous with
  | nil => exact List.pairwise_singleton _ _
  | cons time rest ih =>
    rw [disorder?] at h
    split at h
    · rename_i first
      have later := ih h
      refine List.pairwise_cons.2 ⟨fun t ht => ?_, later⟩
      rcases List.mem_cons.1 ht with rfl | ht
      · exact first
      · exact Nat.lt_trans first (List.rel_of_pairwise_cons later ht)
    · cases h

def ofStarts (starts : List TimeOfDay) : Except BellError BellSchedule :=
  match starts with
  | [] => .error .empty
  | first :: rest =>
    match h : disorder? 1 first rest with
    | some unit => .error (.notIncreasing unit)
    | none => .ok ⟨first :: rest, List.cons_ne_nil _ _, pairwise_of_disorder? h⟩

/-- The items of a list, without the blanks around them and without the empty ones. -/
def items (s : List Char) : List (List Char) :=
  ((s.splitOn ',').map Text.trim).filter (· ≠ [])

def time (item : List Char) : Except BellError TimeOfDay :=
  match TimeOfDay.ofChars? item with
  | some time => .ok time
  | none => .error (.badTime (String.ofList item))

/-- Reads a list of times with commas between them. All times are read before their order counts. -/
def ofText (s : String) : Except BellError BellSchedule := do
  ofStarts (← (items s.toList).mapM time)

/-- The times at which the units of an ordinary school begin. -/
def standard : BellSchedule where
  starts := [480, 530, 590, 640, 690, 750, 800, 850, 910, 960, 1020, 1065, 1125, 1170, 1215,
    1260].map TimeOfDay.mk
  ne_nil := by decide
  increasing := by decide

def maxUnit (b : BellSchedule) : Nat := b.starts.length

/-- When a unit starts. Units are counted from 1. -/
def start (b : BellSchedule) (unit : UInt32) : Except BellError TimeOfDay :=
  match unit.toNat with
  | 0 => .error (.outOfRange unit b.maxUnit)
  | n + 1 =>
    match b.starts[n]? with
    | some time => .ok time
    | none => .error (.outOfRange unit b.maxUnit)

/-- The unit that comes `duration` units after `unit`; the largest number there is where the sum
is larger still. -/
def unitAfter (unit duration : UInt32) : UInt32 :=
  UInt32.ofNat (min (unit.toNat + duration.toNat) 4294967295)

/-- The span of a session on `date`, from the start of its first unit to the start of the unit
after its last. -/
def span (b : BellSchedule) (date : Date) (unit duration : UInt32) : Except BellError Span := do
  let start ← b.start unit
  let stop ← b.start (unitAfter unit duration)
  return ⟨instant date start, instant date stop⟩

end BellSchedule

end Timetable
