import Timetable.Change

/-!
# Changes of slots

Slots are created by anybody, who then supervises them, and changed and deleted by their
supervisors. No change of a slot drops a reservation; where too many are left for the seats, the
answer says so. When a slot is deleted, those who had a reservation for a session to come are told.
-/

set_option autoImplicit false

namespace Timetable

/-- A date on which a slot has more reservations than seats. -/
structure Overfull where
  date : Date
  count : Nat
  capacity : UInt32
  deriving DecidableEq

namespace Overfull

/-- Puts a date among dates in ascending order, once. -/
def addDate (date : Date) : List Date → List Date
  | [] => [date]
  | other :: rest =>
    if date < other then date :: other :: rest
    else if date = other then other :: rest
    else other :: addDate date rest

/-- The dates of reservations in ascending order, each once. -/
def dates (rs : List Reservation) : List Date := rs.foldr (fun r ds => addDate r.date ds) []

/-- Those of the dates on which there are more reservations than seats and the session is not
over. -/
def among (s : Slot) (bells : BellSchedule) (now : Int) (rs : List Reservation) :
    List Date → Except Refusal (List Overfull)
  | [] => .ok []
  | date :: rest =>
    let count := rs.countP (·.date = date)
    if count ≤ s.capacity.toNat then among s bells now rs rest
    else do
      let phase ← s.phaseOn bells now date
      let rest ← among s bells now rs rest
      return if phase = .past then rest else ⟨date, count, s.capacity⟩ :: rest

def of (s : Slot) (bells : BellSchedule) (now : Int) (rs : List Reservation) :
    Except Refusal (List Overfull) := among s bells now rs (dates rs)

end Overfull

namespace Registry

/-- Creates a slot; its creator becomes its first supervisor. -/
def create (r : Registry) (rules : Rules) (slot : Slot) (link : Ident) (creator : UserId) :
    Except Refusal (Change Slot) := do
  slot.validate rules.bells
  if maxSlots ≤ r.rosters.size then throw (.limitExceeded "too many slots")
  return .one (.slotCreated slot [⟨link, slot.id, creator⟩]) slot

/-- Reservations keep their dates, so a slot with reservations for sessions to come stays on its
weekday. -/
def requireOver (slot : Slot) (bells : BellSchedule) (now : Int) :
    List Reservation → Except Refusal Unit
  | [] => .ok ()
  | r :: rs => do
    if (← slot.phaseOn bells now r.date) ≠ .past then
      throw (.invalid "weekday" "can't move a slot with live reservations to another day")
    requireOver slot bells now rs

def update (r : Registry) (rules : Rules) (now : Int) (slot : Ident) (patch : SlotPatch)
    (user : UserId) : Except Refusal (Change (List Overfull)) := do
  let roster ← r.supervisedRoster rules slot user
  let updated := patch.apply roster.slot
  updated.validate rules.bells
  if updated.weekday ≠ roster.slot.weekday then
    requireOver roster.slot rules.bells now roster.reservations
  return .one (.slotUpdated updated) (← Overfull.of updated rules.bells now roster.reservations)

/-- The session of a reservation is not known to be over. -/
def mayBeLive (slot : Slot) (bells : BellSchedule) (now : Int) (r : Reservation) : Bool :=
  match slot.phaseOn bells now r.date with
  | .ok phase => phase != .past
  | .error _ => true

def delete (r : Registry) (rules : Rules) (now : Int) (slot : Ident) (user : UserId) :
    Except Refusal (Change Unit) := do
  let roster ← r.supervisedRoster rules slot user
  return {
    events := [.slotDeleted slot]
    answer := ()
    notices := (roster.reservations.filter (mayBeLive roster.slot rules.bells now)).map fun r =>
      (r.userId, r.id, .unbookForced) }

end Registry

end Timetable
