import Timetable.Change

/-!
# Booking

Students book for themselves, supervisors of a slot for any student. A booking by a supervisor takes
the place of the reservations that the student has at the same time in other slots: it cancels them
in the same transaction.

The rosters that a booking looks at are held until it is durable. Which ones that are is settled
first: the slot's own, and for a booking by a supervisor those of all slots on the same weekday.
-/

set_option autoImplicit false

namespace Timetable.Registry

structure Booking where
  slot : Ident
  date : Date
  student : UserId
  /-- Who books: the student or a supervisor. -/
  reserver : UserId

/-- Somebody books for somebody else. -/
def Booking.isOnBehalf (b : Booking) : Bool := b.student != b.reserver

/-- The slots whose rosters have to be held, in order of id. -/
def heldFor (r : Registry) (b : Booking) : Except Refusal (List Ident) := do
  if b.isOnBehalf then
    let weekday := (← r.rosterOf b.slot).slot.weekday
    return (r.rosters.toList.filter fun (id, other) =>
      id == b.slot || other.slot.weekday == weekday).map (·.1)
  else return [b.slot]

/-- How many days ahead the booking may reach. -/
def bound (rules : Rules) (b : Booking) (roster : Roster) : Except Refusal Nat :=
  if b.isOnBehalf then
    if roster.isSupervisedBy (rules.directory.profile b.reserver) then
      .ok rules.policy.supervisorDays
    else .error (.forbidden "only supervisors of the slot may book for others")
  else .ok rules.policy.studentDays

/-- The seat is free and the student may take it. -/
def requireSeat (rules : Rules) (today : Date) (b : Booking) (student : UserProfile)
    (roster : Roster) : Except Refusal Unit := do
  let days ← bound rules b roster
  if (days : Int) < today.daysUntil b.date then throw (.tooFarInFuture days)
  if !isEligible student roster.filters then throw (.noAccess b.slot b.student)
  if b.date.weekday ≠ roster.slot.weekday then throw (.weekdayMismatch b.date roster.slot.weekday)
  if (roster.bookedBy? b.date b.student).isSome then throw (.alreadyBooked b.slot b.date)
  if roster.slot.capacity.toNat ≤ roster.countOn b.date then
    throw (.slotFull b.slot b.date roster.slot.capacity)
  if maxReservations ≤ roster.reservations.length then
    throw (.limitExceeded "too many reservations on slot")

/-- The cancellations of what the student has in another slot at the same time. -/
def displaced (b : Booking) (slot : Slot) (other : Roster) : List Event :=
  if other.slot.overlaps slot then
    ((other.reservationsOn b.date).filter (·.userId == b.student)).map fun r =>
      .reservationCancelled r.id other.slot.id
  else []

/-- The part of a booking for which the rosters of `held` are held. -/
def bookHeld (r : Registry) (rules : Rules) (today : Date) (b : Booking) (student : UserProfile)
    (held : List Ident) (id : Ident) : Except Refusal (Change Reservation) := do
  let roster ← r.rosterOf b.slot
  requireSeat rules today b student roster
  let others := (held.filter (· ≠ b.slot)).filterMap r.roster?
  let cancellations := if b.isOnBehalf then others.flatMap (displaced b roster.slot) else []
  let reservation : Reservation := ⟨id, b.slot, b.date, b.student, b.reserver⟩
  return {
    events := cancellations ++ [.reservationBooked reservation]
    answer := reservation
    notices := if b.isOnBehalf then [(b.student, id, .bookForced)] else [] }

def book (r : Registry) (rules : Rules) (now : Int) (b : Booking) (id : Ident) :
    Except Refusal (Change Reservation) := do
  let today := dateOf now
  if b.date < today then throw (.pastDate b.date)
  let student ← rules.directory.require b.student
  let held ← r.heldFor b
  r.bookHeld rules today b student held id

end Timetable.Registry
