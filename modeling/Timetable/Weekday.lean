/-!
# Weekdays

The day of the week on which a slot recurs. Its number is 1 for Monday up to 7 for Sunday, on
the wire and in the journal alike.
-/

set_option autoImplicit false

namespace Timetable

inductive Weekday where
  | monday
  | tuesday
  | wednesday
  | thursday
  | friday
  | saturday
  | sunday
  deriving DecidableEq, Repr

namespace Weekday

/-- 1 for Monday up to 7 for Sunday. -/
def number : Weekday → Nat
  | monday => 1
  | tuesday => 2
  | wednesday => 3
  | thursday => 4
  | friday => 5
  | saturday => 6
  | sunday => 7

def ofNumber? : Nat → Option Weekday
  | 1 => some monday
  | 2 => some tuesday
  | 3 => some wednesday
  | 4 => some thursday
  | 5 => some friday
  | 6 => some saturday
  | 7 => some sunday
  | _ => none

/-- The English name, as messages give it. -/
def name : Weekday → String
  | monday => "Monday"
  | tuesday => "Tuesday"
  | wednesday => "Wednesday"
  | thursday => "Thursday"
  | friday => "Friday"
  | saturday => "Saturday"
  | sunday => "Sunday"

/-- The weekday that lies `n` days after Monday. -/
def afterMonday (n : Int) : Weekday := (ofNumber? ((n % 7).toNat + 1)).getD monday

/-- How many days to wait from this weekday for the next `day`; none if they are the same. -/
def daysUntil (today day : Weekday) : Nat := (day.number + 7 - today.number) % 7

@[simp] theorem ofNumber?_number (d : Weekday) : ofNumber? d.number = some d := by
  cases d <;> rfl

theorem number_of_ofNumber? {n : Nat} {d : Weekday} (h : ofNumber? n = some d) :
    d.number = n := by
  unfold ofNumber? at h
  split at h <;> simp_all [number] <;> subst h <;> rfl

theorem number_le (d : Weekday) : 1 ≤ d.number ∧ d.number ≤ 7 := by
  cases d <;> decide

theorem number_afterMonday (n : Int) : ((afterMonday n).number : Int) = n % 7 + 1 := by
  have lower := Int.emod_nonneg n (by decide : (7 : Int) ≠ 0)
  have upper := Int.emod_lt_of_pos n (by decide : (0 : Int) < 7)
  unfold afterMonday
  generalize n % 7 = k at lower upper ⊢
  obtain rfl | rfl | rfl | rfl | rfl | rfl | rfl : k = 0 ∨ k = 1 ∨ k = 2 ∨ k = 3 ∨ k = 4 ∨
    k = 5 ∨ k = 6 := by omega
  all_goals rfl

end Weekday

end Timetable
