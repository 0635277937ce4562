import Timetable.Reservation

/-!
# The roster of a slot

All that belongs to one slot: its record, its filters and supervisors, and its reservations in order
of date.
-/

set_option autoImplicit false

namespace Timetable

structure Roster where
  slot : Slot
  filters : List SlotFilter
  supervisors : List Supervisor
  reservations : List Reservation
  deriving DecidableEq

namespace Roster

def new (slot : Slot) (supervisors : List Supervisor) : Roster := ⟨slot, [], supervisors, []⟩

def hasSupervisor (roster : Roster) (user : UserId) : Bool :=
  roster.supervisors.any (·.userId == user)

def supervisorIds (roster : Roster) : List UserId := roster.supervisors.map (·.userId)

/-- Slot masters supervise every slot, others those they are linked to. -/
def isSupervisedBy (roster : Roster) (user : UserProfile) : Bool :=
  user.isSlotMaster || roster.hasSupervisor user.id

def addReservation (roster : Roster) (r : Reservation) : Roster :=
  { roster with reservations := r.insert roster.reservations }

def reservation? (roster : Roster) (id : Ident) : Option Reservation :=
  roster.reservations.find? (·.id == id)

/-- Without the first reservation of that id. -/
def removeReservation (roster : Roster) (id : Ident) : Roster :=
  { roster with reservations := roster.reservations.eraseP (·.id == id) }

def filter? (roster : Roster) (id : Ident) : Option SlotFilter := roster.filters.find? (·.id == id)

def addFilter (roster : Roster) (f : SlotFilter) : Roster :=
  { roster with filters := roster.filters ++ [f] }

/-- Without the first filter of that id. -/
def removeFilter (roster : Roster) (id : Ident) : Roster :=
  { roster with filters := roster.filters.eraseP (·.id == id) }

def addSupervisor (roster : Roster) (s : Supervisor) : Roster :=
  { roster with supervisors := roster.supervisors ++ [s] }

/-- Links a supervisor whose user is not linked yet. -/
def linkSupervisor (roster : Roster) (s : Supervisor) : Roster :=
  if roster.hasSupervisor s.userId then roster else roster.addSupervisor s

def unlinkSupervisor (roster : Roster) (user : UserId) : Roster :=
  { roster with supervisors := roster.supervisors.filter (·.userId != user) }

/-- The reservations of one date, in the order in which they were made. -/
def reservationsOn (roster : Roster) (date : Date) : List Reservation :=
  Reservation.onDate date roster.reservations

def countOn (roster : Roster) (date : Date) : Nat := (roster.reservationsOn date).length

/-- The reservation of a user on a date. -/
def bookedBy? (roster : Roster) (date : Date) (user : UserId) : Option Reservation :=
  (roster.reservationsOn date).find? (·.userId == user)

end Roster

end Timetable
