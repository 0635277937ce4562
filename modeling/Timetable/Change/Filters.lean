import Timetable.Change

/-!
# Changes of filters

The supervisors of a slot say who may book it. A filter must set a criterion.
-/

set_option autoImplicit false

namespace Timetable.Registry

def addFilter (r : Registry) (rules : Rules) (slot : Ident) (course : Option CourseId)
    (cohort : Option String) (user : UserId) (id : Ident) :
    Except Refusal (Change SlotFilter) := do
  if course.isNone ∧ cohort.isNone then
    throw (.invalid "filter" "one of courseid or vintage must be set")
  if let some cohort := cohort then validateCohort cohort
  let roster ← r.supervisedRoster rules slot user
  if maxFilters ≤ roster.filters.length then throw (.limitExceeded "too many filters on slot")
  let filter : SlotFilter := ⟨id, slot, course, cohort⟩
  return .one (.filterAdded filter) filter

def removeFilter (r : Registry) (rules : Rules) (filter : Ident) (user : UserId) :
    Except Refusal (Change Unit) := do
  let roster ← r.rosterHolding filter
  if (roster.filter? filter).isNone then throw (.notFound filter)
  roster.requireSupervisor (rules.directory.profile user)
  return .one (.filterRemoved filter roster.slot.id) ()

end Timetable.Registry
