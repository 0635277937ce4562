import Timetable.Notice
import Timetable.Occurrence
import Timetable.Policy
import Timetable.Registry

/-!
# Changes

What an operation that is not refused will do: the events of one transaction, the notices to be sent
once it is durable, and the answer. To decide on a change alters nothing.
-/

set_option autoImplicit false

namespace Timetable

/-- What stays the same while a school books. -/
structure Rules where
  bells : BellSchedule
  policy : BookingPolicy
  directory : Directory
  /-- The ids that are given to what is created, in this order. -/
  ids : Nat → Ident

structure Change (α : Type) where
  events : List Event
  answer : α
  notices : List (UserId × Ident × Trigger)

namespace Change

/-- Answers and changes nothing. -/
def none {α : Type} (answer : α) : Change α := ⟨[], answer, []⟩

def one {α : Type} (event : Event) (answer : α) : Change α := ⟨[event], answer, []⟩

/-- A change with its answer in another form. -/
def map {α β : Type} (form : α → β) (c : Change α) : Change β :=
  ⟨c.events, form c.answer, c.notices⟩

end Change

namespace Registry

def rosterOf (r : Registry) (slot : Ident) : Except Refusal Roster :=
  match r.roster? slot with
  | some roster => .ok roster
  | none => .error (.notFound slot)

/-- The roster that holds a filter or reservation. -/
def rosterHolding (r : Registry) (entity : Ident) : Except Refusal Roster :=
  match (r.slotOf? entity).bind r.roster? with
  | some roster => .ok roster
  | none => .error (.notFound entity)

end Registry

/-- Refuses users who do not supervise the slot. -/
def Roster.requireSupervisor (roster : Roster) (user : UserProfile) : Except Refusal Unit :=
  if roster.isSupervisedBy user then .ok () else .error (.notSupervisor roster.slot.id user.id)

/-- The roster of a slot, for a user who supervises it. -/
def Registry.supervisedRoster (r : Registry) (rules : Rules) (slot : Ident) (user : UserId) :
    Except Refusal Roster := do
  let roster ← r.rosterOf slot
  roster.requireSupervisor (rules.directory.profile user)
  return roster

/-- The profile of a user who must be known. -/
def Directory.require (d : Directory) (user : UserId) : Except Refusal UserProfile :=
  match d.profile? user with
  | some profile => .ok profile
  | none => .error (.unknownUser user)

end Timetable
