import Timetable.Records

/-!
# Actions

What a caller can ask for by name, and how the arguments are read. The arguments are read in order
of name and those that are missing are missed afterwards; the first trouble is the one that is told.
Arguments that an action does not have are passed over.
-/

set_option autoImplicit false

namespace Timetable

inductive Action where
  | createSlot (startUnit duration : UInt32) (weekday : Weekday) (room : String)
      (capacity : UInt32)
  | updateSlot (slot : Ident) (patch : SlotPatch)
  | deleteSlot (slot : Ident)
  | getAllSlots
  | getMySlots
  | getStudentSlots (user : UserId)
  | getSupervisorSlots
  | addSlotFilter (slot : Ident) (course : Option CourseId) (cohort : Option String)
  | deleteSlotFilter (filter : Ident)
  | getSlotFilters (slot : Ident)
  | addSlotSupervisor (slot : Ident) (user : UserId)
  | removeSlotSupervisor (slot : Ident) (user : UserId)
  /-- Without a user the caller is booked. -/
  | bookReservation (slot : Ident) (date : Date) (user : Option UserId)
  /-- A nice caller asks the student instead of removing the reservation. -/
  | unbookReservation (reservation : Ident) (nice strict : Bool)
  | getSlotReservations (slot : Ident)
  | getMyReservations
  | listen
  | unlisten
  deriving DecidableEq

/-- Why arguments cannot be read. -/
inductive ParamError where
  | notAnObject
  /-- A number of a byte that is no weekday. -/
  | weekday (n : Nat)
  /-- An unknown action, or arguments that do not fit it. -/
  | mismatch
  deriving DecidableEq

def ParamError.message : ParamError → String
  | notAnObject => "args must be an object"
  | weekday n => s!"weekday must be 1 (Monday) to 7 (Sunday), got {n}"
  | mismatch => "the arguments do not fit the function"

namespace Weekday

def ofParam (j : Json) : Except ParamError Weekday :=
  match j.nat? 256 with
  | none => .error .mismatch
  | some n =>
    match ofNumber? n with
    | some day => .ok day
    | none => .error (.weekday n)

end Weekday

namespace Action

open Json

/-- Arguments by name. -/
abbrev Args := List (String × Json)

def fits {α : Type} (read : Json → Option α) (j : Json) : Except ParamError α :=
  match read j with
  | some a => .ok a
  | none => .error .mismatch

/-- An argument that may be absent. -/
def given {α : Type} (args : Args) (name : String) (read : Json → Except ParamError α) :
    Except ParamError (Option α) :=
  match args.lookup name with
  | some j => (read j).map some
  | none => .ok none

def needed {α : Type} : Option α → Except ParamError α
  | some a => .ok a
  | none => .error .mismatch

/-- An argument that must be there. -/
def arg {α : Type} (args : Args) (name : String) (read : Json → Option α) :
    Except ParamError α := do needed (← given args name (fits read))

/-- Null stands for absence. -/
def orNull {α : Type} (read : Json → Except ParamError α) : Json → Except ParamError (Option α)
  | .null => .ok none
  | j => (read j).map some

/-- An argument that may be absent or null. -/
def option {α : Type} (args : Args) (name : String) (read : Json → Except ParamError α) :
    Except ParamError (Option α) := do return (← given args name (orNull read)).join

def patch (args : Args) : Except ParamError SlotPatch := do
  let duration ← option args "duration" (fits uint32?)
  let room ← option args "room" (fits str?)
  let capacity ← option args "size" (fits uint32?)
  let startUnit ← option args "startunit" (fits uint32?)
  let weekday ← option args "weekday" Weekday.ofParam
  return { startUnit, duration, weekday, room, capacity }

def createSlotOf (args : Args) : Except ParamError Action := do
  let duration ← given args "duration" (fits uint32?)
  let room ← given args "room" (fits str?)
  let capacity ← given args "size" (fits uint32?)
  let startUnit ← given args "startunit" (fits uint32?)
  let weekday ← given args "weekday" Weekday.ofParam
  return .createSlot (← needed startUnit) (← needed duration) (← needed weekday) (← needed room)
    (← needed capacity)

/-- The action of a name with its arguments. -/
def ofArgs (name : String) (args : Args) : Except ParamError Action := do
  match name with
  | "create_slot" => createSlotOf args
  | "update_slot" => return .updateSlot (← arg args "slotid" Ident.ofJson?) (← patch args)
  | "delete_slot" => return .deleteSlot (← arg args "slotid" Ident.ofJson?)
  | "get_all_slots" => return .getAllSlots
  | "get_my_slots" => return .getMySlots
  | "get_student_slots" => return .getStudentSlots (← arg args "userid" uint64?)
  | "get_supervisor_slots" => return .getSupervisorSlots
  | "add_slot_filter" =>
    return .addSlotFilter (← arg args "slotid" Ident.ofJson?)
      (← option args "courseid" (fits uint64?)) (← option args "vintage" (fits str?))
  | "delete_slot_filter" => return .deleteSlotFilter (← arg args "filterid" Ident.ofJson?)
  | "get_slot_filters" => return .getSlotFilters (← arg args "slotid" Ident.ofJson?)
  | "add_slot_supervisor" =>
    return .addSlotSupervisor (← arg args "slotid" Ident.ofJson?) (← arg args "userid" uint64?)
  | "remove_slot_supervisor" =>
    return .removeSlotSupervisor (← arg args "slotid" Ident.ofJson?) (← arg args "userid" uint64?)
  | "book_reservation" =>
    return .bookReservation (← arg args "slotid" Ident.ofJson?) (← arg args "date" Date.ofJson?)
      (← option args "userid" (fits uint64?))
  | "unbook_reservation" =>
    return .unbookReservation (← arg args "reservationid" Ident.ofJson?)
      ((← given args "nice" (fits bool?)).getD true)
      ((← given args "strict" (fits bool?)).getD false)
  | "get_slot_reservations" => return .getSlotReservations (← arg args "slotid" Ident.ofJson?)
  | "get_my_reservations" => return .getMyReservations
  | "listen" => return .listen
  | "unlisten" => return .unlisten
  | _ => throw .mismatch

/-- The name by which an action is asked for and counted. -/
def name : Action → String
  | createSlot _ _ _ _ _ => "create_slot"
  | updateSlot _ _ => "update_slot"
  | deleteSlot _ => "delete_slot"
  | getAllSlots => "get_all_slots"
  | getMySlots => "get_my_slots"
  | getStudentSlots _ => "get_student_slots"
  | getSupervisorSlots => "get_supervisor_slots"
  | addSlotFilter _ _ _ => "add_slot_filter"
  | deleteSlotFilter _ => "delete_slot_filter"
  | getSlotFilters _ => "get_slot_filters"
  | addSlotSupervisor _ _ => "add_slot_supervisor"
  | removeSlotSupervisor _ _ => "remove_slot_supervisor"
  | bookReservation _ _ _ => "book_reservation"
  | unbookReservation _ _ _ => "unbook_reservation"
  | getSlotReservations _ => "get_slot_reservations"
  | getMyReservations => "get_my_reservations"
  | listen => "listen"
  | unlisten => "unlisten"

/-- How many ids are drawn for an action. -/
def draws : Action → Nat
  | createSlot _ _ _ _ _ => 2
  | addSlotFilter _ _ _ | addSlotSupervisor _ _ | bookReservation _ _ _ => 1
  | _ => 0

end Action

end Timetable
