import Timetable.Change

/-!
# Listings

What users see of slots and reservations. Nothing is changed by looking.
-/

set_option autoImplicit false

namespace Timetable

structure SlotInfo where
  slot : Slot
  /-- Reservations for the next session. -/
  fullness : Nat
  /-- Whether the one who looks has a reservation for a session that is not over. -/
  forViewer : Bool
  supervisors : List UserId
  filters : List SlotFilter

namespace Roster

/-- Some reservation of the viewer is for a session that is not over. Reservations after the first
such one are not looked at. -/
def hasLive (slot : Slot) (bells : BellSchedule) (now : Int) (viewer : UserId) :
    List Reservation → Except Refusal Bool
  | [] => .ok false
  | r :: rs =>
    if r.userId = viewer then do
      if (← slot.phaseOn bells now r.date) ≠ .past then return true
      hasLive slot bells now viewer rs
    else hasLive slot bells now viewer rs

def info (roster : Roster) (bells : BellSchedule) (now : Int) (viewer : UserId) :
    Except Refusal SlotInfo := do
  let next ← roster.slot.nextDate bells now
  return {
    slot := roster.slot
    fullness := roster.countOn next
    forViewer := ← hasLive roster.slot bells now viewer roster.reservations
    supervisors := roster.supervisorIds
    filters := roster.filters }

/-- How many days there are until the next session. -/
def daysUntilNext (roster : Roster) (bells : BellSchedule) (now : Int) : Except Refusal Int := do
  return (dateOf now).daysUntil (← roster.slot.nextDate bells now)

end Roster

/-- Which slots a listing shows. -/
inductive Listing where
  | all
  | supervisedBy (user : UserId)
  /-- Those a user may book whose next session is at most `days` days away. -/
  | bookable (user : UserProfile) (days : Nat)
  /-- Those a supervisor may book a student into, whose next session is less than `days` days
  away. -/
  | bookableBy (supervisor student : UserProfile) (days : Nat)

namespace Listing

def shows (l : Listing) (bells : BellSchedule) (now : Int) (roster : Roster) :
    Except Refusal Bool :=
  match l with
  | all => .ok true
  | supervisedBy user => .ok (roster.hasSupervisor user)
  | bookable user days => do
    let away ← roster.daysUntilNext bells now
    return isEligible user roster.filters && decide (away ≤ days)
  | bookableBy supervisor student days => do
    let away ← roster.daysUntilNext bells now
    return roster.isSupervisedBy supervisor && isEligible student roster.filters &&
      decide (away < days)

/-- The records of the rosters that are shown, in their order. -/
def of (l : Listing) (bells : BellSchedule) (now : Int) (viewer : UserId) :
    List Roster → Except Refusal (List SlotInfo)
  | [] => .ok []
  | roster :: rest => do
    if ← l.shows bells now roster then
      let info ← roster.info bells now viewer
      return info :: (← l.of bells now viewer rest)
    else l.of bells now viewer rest

end Listing

namespace Registry

/-- The slots that a listing shows, in order of id. -/
def list (r : Registry) (rules : Rules) (now : Int) (l : Listing) (viewer : UserId) :
    Except Refusal (List SlotInfo) := l.of rules.bells now viewer r.rosterList

def allSlots (r : Registry) (rules : Rules) (now : Int) (user : UserId) :
    Except Refusal (List SlotInfo) :=
  if (rules.directory.profile user).isSlotMaster then r.list rules now .all user
  else .error (.forbidden "listing all slots requires the slot master capability")

/-- The slots a user may book within the next few days. -/
def mySlots (r : Registry) (rules : Rules) (now : Int) (user : UserId) :
    Except Refusal (List SlotInfo) := do
  let profile ← rules.directory.require user
  r.list rules now (.bookable profile rules.policy.listingDays) user

/-- The slots into which a supervisor could book a student. -/
def studentSlots (r : Registry) (rules : Rules) (now : Int) (user student : UserId) :
    Except Refusal (List SlotInfo) := do
  let profile ← rules.directory.require student
  let supervisor := rules.directory.profile user
  r.list rules now (.bookableBy supervisor profile rules.policy.supervisorDays) student

def supervisorSlots (r : Registry) (rules : Rules) (now : Int) (user : UserId) :
    Except Refusal (List SlotInfo) := r.list rules now (.supervisedBy user) user

def slotFilters (r : Registry) (rules : Rules) (slot : Ident) (user : UserId) :
    Except Refusal (List SlotFilter) := do
  return (← r.supervisedRoster rules slot user).filters

def slotReservations (r : Registry) (rules : Rules) (now : Int) (slot : Ident) (user : UserId) :
    Except Refusal (List Reservation) := do
  let roster ← r.supervisedRoster rules slot user
  roster.slot.live rules.bells now roster.reservations

/-- By date, and by id on one date. -/
def comesBefore (a b : Reservation) : Bool :=
  decide (a.date < b.date) || (a.date == b.date && decide (a.id.toNat ≤ b.id.toNat))

def myReservations (r : Registry) (rules : Rules) (now : Int) (user : UserId) :
    Except Refusal (List Reservation) := do
  let found ← r.rosterList.mapM fun roster =>
    roster.slot.live rules.bells now (roster.reservations.filter (·.userId == user))
  return found.flatten.mergeSort comesBefore

def slot (r : Registry) (id : Ident) : Except Refusal Slot := do return (← r.rosterOf id).slot

/-- Every slot, in order of id. -/
def slots (r : Registry) : List Slot := r.rosterList.map (·.slot)

def isSupervisor (r : Registry) (rules : Rules) (user : UserId) (slot : Ident) :
    Except Refusal Bool := do
  return (← r.rosterOf slot).isSupervisedBy (rules.directory.profile user)

/-- The slots to which a user is linked, in order of id. -/
def slotsSupervisedBy (r : Registry) (user : UserId) : List Slot :=
  (r.rosterList.filter (·.hasSupervisor user)).map (·.slot)

/-- Those of the slots that a user may book. -/
def slotsFor (r : Registry) (user : UserProfile) (slots : List Ident) : List Ident :=
  slots.filter fun id => (r.roster? id).any fun roster => isEligible user roster.filters

end Registry

end Timetable
