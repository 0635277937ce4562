import Timetable.Change

/-!
# Changes of supervisors

Supervisors of a slot link others to it and unlink them. To link a user twice, or to unlink one who
is not linked, changes nothing.
-/

set_option autoImplicit false

namespace Timetable.Registry

def addSupervisor (r : Registry) (rules : Rules) (slot : Ident) (linked user : UserId)
    (id : Ident) : Except Refusal (Change Unit) := do
  let roster ← r.supervisedRoster rules slot user
  if roster.hasSupervisor linked then return .none ()
  if maxSupervisors ≤ roster.supervisors.length then
    throw (.limitExceeded "too many supervisors on slot")
  return .one (.supervisorAdded ⟨id, slot, linked⟩) ()

def removeSupervisor (r : Registry) (rules : Rules) (slot : Ident) (linked user : UserId) :
    Except Refusal (Change Unit) := do
  let roster ← r.supervisedRoster rules slot user
  if roster.hasSupervisor linked then return .one (.supervisorRemoved slot linked) ()
  return .none ()

end Timetable.Registry
