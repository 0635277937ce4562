import Timetable.Ident
import Timetable.User
import Timetable.Weekday

/-!
# Slots

A slot is a session that recurs every week: a weekday, a run of units, a room, and seats for each
date. Its filters say who may book it, its supervisors run it, and its reservations each take a seat
on one date.
-/

set_option autoImplicit false

namespace Timetable

structure Slot where
  id : Ident
  startUnit : UInt32
  duration : UInt32
  weekday : Weekday
  room : String
  /-- Seats for each date. Without seats a slot cannot be booked but keeps its history. -/
  capacity : UInt32
  deriving DecidableEq

namespace Slot

/-- The unit whose start ends the session. -/
def endUnit (s : Slot) : UInt32 := s.startUnit + s.duration

/-- The slots recur on the same weekday and share a unit. -/
def overlaps (a b : Slot) : Bool :=
  a.weekday == b.weekday && decide (a.startUnit < b.endUnit) && decide (b.startUnit < a.endUnit)

theorem overlaps_comm (a b : Slot) : a.overlaps b = b.overlaps a := by
  rw [Bool.eq_iff_iff]
  simp only [overlaps, Bool.and_eq_true, beq_iff_eq, decide_eq_true_eq]
  exact ⟨fun h => ⟨⟨h.1.1.symm, h.2⟩, h.1.2⟩, fun h => ⟨⟨h.1.1.symm, h.2⟩, h.1.2⟩⟩

theorem weekday_eq_of_overlaps {a b : Slot} (h : a.overlaps b = true) : a.weekday = b.weekday := by
  simp only [overlaps, Bool.and_eq_true, beq_iff_eq] at h
  exact h.1.1

end Slot

/-- New values for some fields of a slot. -/
structure SlotPatch where
  startUnit : Option UInt32
  duration : Option UInt32
  weekday : Option Weekday
  room : Option String
  capacity : Option UInt32
  deriving DecidableEq

def SlotPatch.apply (p : SlotPatch) (s : Slot) : Slot where
  id := s.id
  startUnit := p.startUnit.getD s.startUnit
  duration := p.duration.getD s.duration
  weekday := p.weekday.getD s.weekday
  room := p.room.getD s.room
  capacity := p.capacity.getD s.capacity

/-- Admits the users who meet each of the criteria that are set. -/
structure SlotFilter where
  id : Ident
  slotId : Ident
  courseId : Option CourseId
  cohort : Option String
  deriving DecidableEq

def SlotFilter.admits (f : SlotFilter) (u : UserProfile) : Bool :=
  f.courseId.all u.attends && f.cohort.all fun c => u.cohort == some c

/-- A user may book where some filter admits them; without filters nobody may. -/
def isEligible (u : UserProfile) (filters : List SlotFilter) : Bool := filters.any (·.admits u)

structure Supervisor where
  id : Ident
  slotId : Ident
  userId : UserId
  deriving DecidableEq

end Timetable
