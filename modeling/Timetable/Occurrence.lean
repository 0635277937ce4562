import Timetable.Limits
import Timetable.Refusal
import Timetable.Reservation

/-!
# Occurrences

When a slot takes place on a date, which session of it comes next, and which reservations are for
sessions that are not over.
-/

set_option autoImplicit false

namespace Timetable

namespace Slot

/-- From the start of the first unit to the start of the unit after the last. -/
def spanOn (s : Slot) (bells : BellSchedule) (date : Date) : Except Refusal Span :=
  (bells.span date s.startUnit s.duration).mapError .bells

/-- Where the session on a date stands. -/
def phaseOn (s : Slot) (bells : BellSchedule) (now : Int) (date : Date) : Except Refusal Phase := do
  return (← s.spanOn bells date).phaseAt now

def later (date : Date) (days : Nat) : Except Refusal Date :=
  match date.plusDays? days with
  | some date => .ok date
  | none => .error (.bells .afterLastDate)

/-- The date of the next session that has not started: the one of this week if it is still to come,
otherwise the one a week after it. -/
def nextDate (s : Slot) (bells : BellSchedule) (now : Int) : Except Refusal Date := do
  let today := dateOf now
  let date ← later today (today.weekday.daysUntil s.weekday)
  if (← s.spanOn bells date).start < now then
    let date ← later date 7
    let _ ← s.spanOn bells date
    return date
  return date

/-- A slot fits into the school day, and its room has a name of a sensible length. -/
def validate (s : Slot) (bells : BellSchedule) : Except Refusal Unit :=
  let max := bells.maxUnit
  if s.startUnit.toNat < 1 then .error (.invalid "startunit" "can't be smaller than 1")
  else if max < s.startUnit.toNat then .error (.invalid "startunit" s!"can't be larger than {max}")
  else if s.duration.toNat < 1 then .error (.invalid "duration" "must be at least 1")
  else if max < s.startUnit.toNat + s.duration.toNat then
    .error (.invalid "duration" s!"slot goes past the max unit {max}")
  else if s.room.length < minRoomLength then .error (.invalid "room" "name is too short")
  else if maxRoomLength < s.room.length then
    .error (.invalid "room" s!"name is too long ({s.room.length} > {maxRoomLength})")
  else .ok ()

/-- The reservations whose sessions are not over, in their order. -/
def live (s : Slot) (bells : BellSchedule) (now : Int) :
    List Reservation → Except Refusal (List Reservation)
  | [] => .ok []
  | r :: rs => do
    let phase ← s.phaseOn bells now r.date
    let rest ← s.live bells now rs
    return if phase = .past then rest else r :: rest

end Slot

def validateCohort (cohort : String) : Except Refusal Unit :=
  if cohort.isEmpty then .error (.invalid "vintage" "must not be empty")
  else if maxCohortLength < cohort.length then
    .error (.invalid "vintage" s!"longer than {maxCohortLength} characters")
  else .ok ()

end Timetable
