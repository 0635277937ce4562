import Timetable.Date
import Timetable.TimeOfDay

/-!
# Spans of time

Instants are milliseconds since the start of 1 January 1970. A span holds its first instant and not
its last one; seen from an instant it is still ahead, under way or over.
-/

set_option autoImplicit false

namespace Timetable

/-- The instant at which a minute of a day begins. -/
def instant (date : Date) (time : TimeOfDay) : Int :=
  date.day * 86400000 + (time.minutes.val : Int) * 60000

/-- The date of an instant; 1 January 1970 where it has none. -/
def dateOf (now : Int) : Date := (Date.ofDay? (now / 86400000)).getD Date.epoch

/-- From `start` up to but not including `stop`. -/
structure Span where
  start : Int
  stop : Int
  deriving DecidableEq, Repr

/-- Where a session stands. -/
inductive Phase where
  | future
  | active
  | past
  deriving DecidableEq, Repr

def Span.phaseAt (s : Span) (now : Int) : Phase :=
  if s.stop ≤ now then .past else if s.start ≤ now then .active else .future

theorem Span.phaseAt_eq_past_iff {s : Span} {now : Int} :
    s.phaseAt now = .past ↔ s.stop ≤ now := by
  unfold phaseAt
  split
  · simpa
  · rename_i h
    split <;> simp [h]

theorem dateOf_instant (date : Date) (time : TimeOfDay) : dateOf (instant date time) = date := by
  have h : instant date time / 86400000 = date.day := by
    have := time.minutes.isLt
    simp only [instant]
    omega
  simp [dateOf, h]

end Timetable
