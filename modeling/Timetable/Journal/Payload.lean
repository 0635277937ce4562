import Timetable.Journal.Binary
import Timetable.Date.Text
import Timetable.Event

/-!
# Events as bytes

An event is the number of its kind followed by its fields. Ids and dates are written as text.
Whatever follows an event in a payload is passed over when it is read.
-/

set_option autoImplicit false

namespace Timetable.Journal

def putIdent (i : Ident) : List UInt8 := putText i.text

def takeIdent : Reader Ident := do require (Ident.ofText? (← takeText))

def putDate (d : Date) : List UInt8 := putText d.text

def takeDate : Reader Date := do require (Date.ofText? (← takeText))

def putWeekday (d : Weekday) : List UInt8 := littleEndian 1 d.number

def takeWeekday : Reader Weekday := do require (Weekday.ofNumber? (← takeNat 1))

def putSlot (s : Slot) : List UInt8 :=
  putIdent s.id ++ putUInt32 s.startUnit ++ putUInt32 s.duration ++ putWeekday s.weekday ++
    putText s.room ++ putUInt32 s.capacity

def takeSlot : Reader Slot := do
  return {
    id := ← takeIdent
    startUnit := ← takeUInt32
    duration := ← takeUInt32
    weekday := ← takeWeekday
    room := ← takeText
    capacity := ← takeUInt32 }

def putFilter (f : SlotFilter) : List UInt8 :=
  putIdent f.id ++ putIdent f.slotId ++ putOption putUInt64 f.courseId ++
    putOption putText f.cohort

def takeFilter : Reader SlotFilter := do
  return {
    id := ← takeIdent
    slotId := ← takeIdent
    courseId := ← takeOption takeUInt64
    cohort := ← takeOption takeText }

def putSupervisor (s : Supervisor) : List UInt8 :=
  putIdent s.id ++ putIdent s.slotId ++ putUInt64 s.userId

def takeSupervisor : Reader Supervisor := do
  return { id := ← takeIdent, slotId := ← takeIdent, userId := ← takeUInt64 }

def putReservation (r : Reservation) : List UInt8 :=
  putIdent r.id ++ putIdent r.slotId ++ putDate r.date ++ putUInt64 r.userId ++
    putUInt64 r.reserverId

def takeReservation : Reader Reservation := do
  return {
    id := ← takeIdent
    slotId := ← takeIdent
    date := ← takeDate
    userId := ← takeUInt64
    reserverId := ← takeUInt64 }

/-- The number of a kind of event. -/
def kind : Event → UInt32
  | .slotCreated _ _ => 0
  | .slotUpdated _ => 1
  | .slotDeleted _ => 2
  | .filterAdded _ => 3
  | .filterRemoved _ _ => 4
  | .supervisorAdded _ => 5
  | .supervisorRemoved _ _ => 6
  | .reservationBooked _ => 7
  | .reservationCancelled _ _ => 8

def putFields : Event → List UInt8
  | .slotCreated slot supervisors => putSlot slot ++ putList putSupervisor supervisors
  | .slotUpdated slot => putSlot slot
  | .slotDeleted id => putIdent id
  | .filterAdded filter => putFilter filter
  | .filterRemoved id slotId => putIdent id ++ putIdent slotId
  | .supervisorAdded supervisor => putSupervisor supervisor
  | .supervisorRemoved slotId userId => putIdent slotId ++ putUInt64 userId
  | .reservationBooked reservation => putReservation reservation
  | .reservationCancelled id slotId => putIdent id ++ putIdent slotId

def takeFields (kind : Nat) : Reader Event := do
  match kind with
  | 0 => return .slotCreated (← takeSlot) (← takeList takeSupervisor)
  | 1 => return .slotUpdated (← takeSlot)
  | 2 => return .slotDeleted (← takeIdent)
  | 3 => return .filterAdded (← takeFilter)
  | 4 => return .filterRemoved (← takeIdent) (← takeIdent)
  | 5 => return .supervisorAdded (← takeSupervisor)
  | 6 => return .supervisorRemoved (← takeIdent) (← takeUInt64)
  | 7 => return .reservationBooked (← takeReservation)
  | 8 => return .reservationCancelled (← takeIdent) (← takeIdent)
  | _ => failure

def payload (e : Event) : List UInt8 := putUInt32 (kind e) ++ putFields e

def takeEvent : Reader Event := do takeFields (← takeNat 4)

/-- The event at the front of a payload. -/
def ofPayload? (bytes : List UInt8) : Option Event := (takeEvent.run bytes).map (·.1)

end Timetable.Journal
