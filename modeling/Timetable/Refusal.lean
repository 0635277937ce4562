import Timetable.Bells
import Timetable.Date.Text
import Timetable.Journal.Disk
import Timetable.Slot

/-!
# Refusals

Every reason for which an operation is refused, with the code and the message that tell it.
-/

set_option autoImplicit false

namespace Timetable

inductive Refusal where
  | invalid (field reason : String)
  | forbidden (reason : String)
  | notSupervisor (slot : Ident) (user : UserId)
  | notFound (id : Ident)
  | unknownUser (user : UserId)
  | pastDate (date : Date)
  | tooFarInFuture (days : Nat)
  | noAccess (slot : Ident) (user : UserId)
  | weekdayMismatch (date : Date) (expected : Weekday)
  | alreadyBooked (slot : Ident) (date : Date)
  | slotFull (slot : Ident) (date : Date) (capacity : UInt32)
  | alreadyStarted (reservation : Ident)
  | alreadyEnded (reservation : Ident)
  /-- The session is under way, so asking its student to cancel is too late. -/
  | forceRequired (reservation : Ident)
  | bells (error : BellError)
  | limitExceeded (limit : String)
  | storage (error : Journal.DiskError)
  deriving DecidableEq

namespace Refusal

def code : Refusal → String
  | invalid _ _ => "validation_error"
  | forbidden _ => "forbidden"
  | notSupervisor _ _ => "not_supervisor"
  | notFound _ => "not_found"
  | unknownUser _ => "unknown_user"
  | pastDate _ => "past_date"
  | tooFarInFuture _ => "too_far_in_future"
  | noAccess _ _ => "no_access"
  | weekdayMismatch _ _ => "weekday_mismatch"
  | alreadyBooked _ _ => "already_booked"
  | slotFull _ _ _ => "slot_full"
  | alreadyStarted _ => "already_started"
  | alreadyEnded _ => "already_ended"
  | forceRequired _ => "already_started_or_force_required"
  | bells _ => "calendar_error"
  | limitExceeded _ => "limit_exceeded"
  | storage _ => "storage_error"

def message : Refusal → String
  | invalid field reason => s!"invalid {field}: {reason}"
  | forbidden reason => s!"insufficient permission: {reason}"
  | notSupervisor slot user =>
    s!"insufficient permission: user {user} is not supervisor of slot " ++ slot.text
  | notFound id => "not found: " ++ id.text
  | unknownUser user => s!"unknown user: {user}"
  | pastDate date => "can't reserve date in the past: " ++ date.text
  | tooFarInFuture days => s!"date is past allowed date ({days} days in the future)"
  | noAccess slot user => s!"user {user} does not have access to slot " ++ slot.text
  | weekdayMismatch date expected => date.text ++ " is not a " ++ expected.name
  | alreadyBooked slot date => "user is already in slot " ++ slot.text ++ " on " ++ date.text
  | slotFull slot date capacity =>
    "slot " ++ slot.text ++ " is already full on " ++ date.text ++ s!" (capacity {capacity})"
  | alreadyStarted id => "can't unbook reservation " ++ id.text ++ ": it has already started"
  | alreadyEnded id => "can't unbook reservation " ++ id.text ++ ": it has already ended"
  | forceRequired id =>
    "reservation " ++ id.text ++
      " has already started; students can't unbook it, force to remove it regardless"
  | bells error => "calendar error: " ++ error.message
  | limitExceeded limit => "limit exceeded: " ++ limit
  | storage error => "WAL error: " ++ error.message

end Refusal

end Timetable
