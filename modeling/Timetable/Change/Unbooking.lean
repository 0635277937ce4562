import Timetable.Change
import Timetable.Counters

/-!
# Unbooking

Students give up a reservation until its session starts. Supervisors remove one until its session
ends, or ask the student to give it up.
-/

set_option autoImplicit false

namespace Timetable.Registry

/-- How a user may give up a reservation whose session is in the given phase. With `strict`, a
student is not asked to give up a session that is under way. -/
def unbookMode (rules : Rules) (roster : Roster) (r : Reservation) (phase : Phase) (user : UserId)
    (force strict : Bool) : Except Refusal UnbookMode :=
  if r.userId = user then
    match phase with
    | .past => .error (.alreadyEnded r.id)
    | .active => .error (.alreadyStarted r.id)
    | .future => .ok .self
  else if roster.isSupervisedBy (rules.directory.profile user) then
    if phase = .past then .error (.alreadyEnded r.id)
    else if force then .ok .forced
    else if strict ∧ phase = .active then .error (.forceRequired r.id)
    else .ok .requested
  else .error (.forbidden "only the owner or a supervisor may unbook")

def unbook (r : Registry) (rules : Rules) (now : Int) (id : Ident) (user : UserId)
    (force strict : Bool) : Except Refusal (Change UnbookMode) := do
  let roster ← r.rosterHolding id
  let some reservation := roster.reservation? id | throw (.notFound id)
  let phase ← roster.slot.phaseOn rules.bells now reservation.date
  let mode ← unbookMode rules roster reservation phase user force strict
  let cancelled : List Event := [.reservationCancelled id reservation.slotId]
  match mode with
  | .self => return ⟨cancelled, mode, []⟩
  | .forced => return ⟨cancelled, mode, [(reservation.userId, id, .unbookForced)]⟩
  | .requested => return ⟨[], mode, [(reservation.userId, id, .unbookRequested)]⟩

end Timetable.Registry
