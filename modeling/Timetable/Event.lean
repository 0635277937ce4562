import Timetable.Roster

/-!
# Events

What the journal records. Each event belongs to one slot.
-/

set_option autoImplicit false

namespace Timetable

inductive Event where
  /-- A slot with the supervisors it has from the start. -/
  | slotCreated (slot : Slot) (supervisors : List Supervisor)
  | slotUpdated (slot : Slot)
  | slotDeleted (id : Ident)
  | filterAdded (filter : SlotFilter)
  | filterRemoved (id slotId : Ident)
  | supervisorAdded (supervisor : Supervisor)
  | supervisorRemoved (slotId : Ident) (userId : UserId)
  | reservationBooked (reservation : Reservation)
  | reservationCancelled (id slotId : Ident)
  deriving DecidableEq

namespace Event

def slotId : Event → Ident
  | slotCreated slot _ => slot.id
  | slotUpdated slot => slot.id
  | slotDeleted id => id
  | filterAdded filter => filter.slotId
  | filterRemoved _ slotId => slotId
  | supervisorAdded supervisor => supervisor.slotId
  | supervisorRemoved slotId _ => slotId
  | reservationBooked reservation => reservation.slotId
  | reservationCancelled _ slotId => slotId

end Event

/-- What an event changes in the roster of its slot. Creation and deletion are no changes of
a roster. -/
def Roster.apply (roster : Roster) : Event → Roster
  | .slotCreated _ _ => roster
  | .slotUpdated slot => { roster with slot }
  | .slotDeleted _ => roster
  | .filterAdded filter => roster.addFilter filter
  | .filterRemoved id _ => roster.removeFilter id
  | .supervisorAdded supervisor => roster.linkSupervisor supervisor
  | .supervisorRemoved _ user => roster.unlinkSupervisor user
  | .reservationBooked reservation => roster.addReservation reservation
  | .reservationCancelled id _ => roster.removeReservation id

/-- The shortest list of events that leads to a roster. -/
def Roster.events (roster : Roster) : List Event :=
  .slotCreated roster.slot roster.supervisors :: roster.filters.map .filterAdded ++
    roster.reservations.map .reservationBooked

end Timetable
