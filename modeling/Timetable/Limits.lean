/-!
# Limits

How much of everything there may be.
-/

set_option autoImplicit false

namespace Timetable

def maxSlots : Nat := 10000

def maxFilters : Nat := 256

def maxSupervisors : Nat := 256

/-- Reservations of a slot, all dates together. -/
def maxReservations : Nat := 100000

/-- Shortest and longest name of a room, in characters. -/
def minRoomLength : Nat := 2

def maxRoomLength : Nat := 7

/-- Longest name of a cohort in a filter, in characters. -/
def maxCohortLength : Nat := 7

/-- Longest line of a request, in bytes. -/
def maxLineLength : Nat := 65536

end Timetable
