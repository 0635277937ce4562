/-!
# How far ahead

The bounds, in days from today, within which bookings may be made and listings look.
-/

set_option autoImplicit false

namespace Timetable

structure BookingPolicy where
  /-- For students who book for themselves. -/
  studentDays : Nat
  /-- For supervisors who book for a student. -/
  supervisorDays : Nat
  /-- For the listing of the slots a user may book. -/
  listingDays : Nat
  deriving DecidableEq

def BookingPolicy.standard : BookingPolicy := ⟨7, 7, 3⟩

/-- No bound may be set above this one. -/
def maxLookaheadDays : Nat := 366

end Timetable
