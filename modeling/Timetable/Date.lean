import Timetable.Weekday

/-!
# Dates

A date is a day counted from 1 January 1970. Years, months and days are a view of it in the
Gregorian calendar, carried on in both directions without a break. The dates reach from
1 January −262143 to 31 December 262142.
-/

set_option autoImplicit false

namespace Timetable

/-- A day in years, months and days. Nothing is promised about the numbers. -/
structure Civil where
  year : Int
  month : Nat
  day : Nat
  deriving DecidableEq, Repr

namespace Civil

def isLeap (year : Int) : Bool := year % 4 == 0 && (year % 100 != 0 || year % 400 == 0)

def monthLength (year : Int) : Nat → Nat
  | 2 => if isLeap year then 29 else 28
  | 4 | 6 | 9 | 11 => 30
  | _ => 31

/-- The numbers name a day of the calendar. -/
def Valid (c : Civil) : Prop :=
  1 ≤ c.month ∧ c.month ≤ 12 ∧ 1 ≤ c.day ∧ c.day ≤ monthLength c.year c.month

instance (c : Civil) : Decidable c.Valid := by unfold Valid; infer_instance

/-- Days from 1 March of the year 0 to 1 March of `year`. Years that begin in March have the leap
day at their end. -/
def daysBefore (year : Int) : Int := year * 365 + year / 4 - year / 100 + year / 400

/-- Days from 1 March to the first of a month that is `month` months later. -/
def daysBeforeMonth (month : Int) : Int := (153 * month + 2) / 5

/-- Days from 1 January 1970. -/
def dayNumber (c : Civil) : Int :=
  let year := if c.month ≤ 2 then c.year - 1 else c.year
  daysBefore year + daysBeforeMonth ((c.month + 9) % 12) + c.day - 719469

/-- The year beginning in March into which a day falls, counted from 1 March of the year 0. A cycle
of 400 years is taken apart into centuries, these into groups of four years, and these into years;
of each the last is the longest. -/
def marchYear (n : Int) : Int :=
  let dayOfCycle := n % 146097
  let century := min (dayOfCycle / 36524) 3
  let dayOfCentury := dayOfCycle - century * 36524
  let group := dayOfCentury / 1461
  let dayOfGroup := dayOfCentury - group * 1461
  n / 146097 * 400 + century * 100 + group * 4 + min (dayOfGroup / 365) 3

/-- The day that comes `dayOfYear` days after 1 March of `year`. -/
def ofMarch (year dayOfYear : Int) : Civil :=
  let month := (5 * dayOfYear + 2) / 153
  let day := (dayOfYear - daysBeforeMonth month + 1).toNat
  if month < 10 then ⟨year, (month + 3).toNat, day⟩ else ⟨year + 1, (month - 9).toNat, day⟩

/-- The day that lies `n` days after 1 January 1970. -/
def ofDayNumber (n : Int) : Civil :=
  let year := marchYear (n + 719468)
  ofMarch year (n + 719468 - daysBefore year)

/-- Where a day is, counted from 1 March of the year 0: behind so many cycles of 400 years,
centuries, groups of four years and years, and so far into its year. Only the last year of a group
may have 366 days, and that of the last group of a century only in the last century of a cycle. -/
structure Position (n cycle century group year day : Int) : Prop where
  year_eq : marchYear n = cycle * 400 + century * 100 + group * 4 + year
  day_eq : n = cycle * 146097 + century * 36524 + group * 1461 + year * 365 + day
  century_lt : 0 ≤ century ∧ century < 4
  group_lt : 0 ≤ group ∧ group < 25
  year_lt : 0 ≤ year ∧ year < 4
  day_le : 0 ≤ day ∧ day ≤ 365
  last : day = 365 → year = 3 ∧ (group = 24 → century = 3)

theorem exists_position (n : Int) :
    ∃ cycle century group year day, Position n cycle century group year day := by
  have lower := Int.emod_nonneg n (by decide : (146097 : Int) ≠ 0)
  have upper := Int.emod_lt_of_pos n (by decide : (0 : Int) < 146097)
  have split := Int.mul_ediv_add_emod n 146097
  generalize d_eq : n % 146097 = d at lower upper split
  generalize c_eq : min (d / 36524) 3 = c
  generalize g_eq : (d - c * 36524) / 1461 = g
  generalize y_eq : min ((d - c * 36524 - g * 1461) / 365) 3 = y
  have years : marchYear n = n / 146097 * 400 + c * 100 + g * 4 + y := by
    subst d_eq c_eq g_eq y_eq
    rfl
  refine ⟨n / 146097, c, g, y, d - c * 36524 - g * 1461 - y * 365, years, ?_, ?_, ?_, ?_, ?_, ?_⟩
  all_goals omega

/-- The days before the year that a day is in. -/
theorem Position.daysBefore_eq {n q c g y r : Int} (at_day : Position n q c g y r) :
    daysBefore (marchYear n) = n - r := by
  obtain ⟨years, days, c_lt, g_lt, y_lt, -, -⟩ := at_day
  unfold daysBefore
  omega

theorem daysBefore_marchYear (n : Int) :
    0 ≤ n - daysBefore (marchYear n) ∧ n - daysBefore (marchYear n) ≤ 365 := by
  obtain ⟨q, c, g, y, r, at_day⟩ := exists_position n
  rw [at_day.daysBefore_eq, Int.sub_sub_self]
  exact at_day.day_le

theorem dayNumber_ofMarch {year dayOfYear : Int} (lower : 0 ≤ dayOfYear)
    (upper : dayOfYear ≤ 365) :
    (ofMarch year dayOfYear).dayNumber = daysBefore year + dayOfYear - 719468 := by
  have bounds : 0 ≤ (5 * dayOfYear + 2) / 153 ∧ (5 * dayOfYear + 2) / 153 ≤ 11 := by omega
  unfold ofMarch
  dsimp only
  split
  · have month : ((((5 * dayOfYear + 2) / 153 + 3).toNat : Int) + 9) % 12 =
        (5 * dayOfYear + 2) / 153 := by omega
    simp only [dayNumber, daysBeforeMonth, month]
    rw [if_neg (by omega)]
    omega
  · have month : ((((5 * dayOfYear + 2) / 153 - 9).toNat : Int) + 9) % 12 =
        (5 * dayOfYear + 2) / 153 := by omega
    simp only [dayNumber, daysBeforeMonth, month]
    rw [if_pos (by omega), Int.add_sub_cancel]
    omega

@[simp] theorem dayNumber_ofDayNumber (n : Int) : (ofDayNumber n).dayNumber = n := by
  have h := daysBefore_marchYear (n + 719468)
  rw [ofDayNumber, dayNumber_ofMarch h.1 h.2]
  omega

end Civil

/-- A day between 1 January −262143 and 31 December 262142, counted from 1 January 1970. -/
structure Date where
  day : Int
  first_le : -96465292 ≤ day
  le_last : day ≤ 95026236
  deriving DecidableEq

namespace Date

def ofDay? (day : Int) : Option Date :=
  if h : -96465292 ≤ day ∧ day ≤ 95026236 then some ⟨day, h.1, h.2⟩ else none

/-- 1 January 1970. -/
def epoch : Date := ⟨0, by decide, by decide⟩

def ofCivil? (c : Civil) : Option Date := if c.Valid then ofDay? c.dayNumber else none

def civil (d : Date) : Civil := Civil.ofDayNumber d.day

/-- 1 January 1970 was a Thursday. -/
def weekday (d : Date) : Weekday := Weekday.afterMonday (d.day + 3)

/-- The date `n` days later, if it is one. -/
def plusDays? (d : Date) (n : Nat) : Option Date := ofDay? (d.day + n)

/-- How many days `later` comes after this date. -/
def daysUntil (d later : Date) : Int := later.day - d.day

instance : LE Date := ⟨fun a b => a.day ≤ b.day⟩
instance : LT Date := ⟨fun a b => a.day < b.day⟩
instance (a b : Date) : Decidable (a ≤ b) := inferInstanceAs (Decidable (a.day ≤ b.day))
instance (a b : Date) : Decidable (a < b) := inferInstanceAs (Decidable (a.day < b.day))

@[ext] theorem ext {a b : Date} (h : a.day = b.day) : a = b := by
  cases a; cases b; simp_all

theorem le_iff {a b : Date} : a ≤ b ↔ a.day ≤ b.day := Iff.rfl

theorem lt_iff {a b : Date} : a < b ↔ a.day < b.day := Iff.rfl

theorem ofDay?_eq_some_iff {n : Int} {d : Date} : ofDay? n = some d ↔ d.day = n := by
  unfold ofDay?
  have first := d.first_le
  have last := d.le_last
  split
  · rw [Option.some_inj, Date.ext_iff]
    exact eq_comm
  · simp only [reduceCtorEq, false_iff]
    omega

@[simp] theorem ofDay?_day (d : Date) : ofDay? d.day = some d := ofDay?_eq_some_iff.2 rfl

end Date

end Timetable
