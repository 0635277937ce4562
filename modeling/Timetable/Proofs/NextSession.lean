import Timetable.Proofs.Sessions

/-!
# The session that comes next

Of a valid slot the session that comes next is found on one of the eight days from today on, unless
the calendar ends before. It is the first that has not started, and one that starts right now has not.
-/

set_option autoImplicit false

namespace Timetable

/-- The day of an instant is a date, and so are the two weeks after it. -/
structure Dated (now : Int) : Prop where
  first_le : -96465292 ≤ now / 86400000
  le_last : now / 86400000 + 14 ≤ 95026236

theorem Dated.day_dateOf {now : Int} (dated : Dated now) : (dateOf now).day = now / 86400000 := by
  obtain ⟨first_le, le_last⟩ := dated
  have within : -96465292 ≤ now / 86400000 ∧ now / 86400000 ≤ 95026236 := ⟨first_le, by omega⟩
  rw [dateOf, Date.ofDay?, dif_pos within]
  rfl

theorem Weekday.number_injective {a b : Weekday} (h : a.number = b.number) : a = b := by
  have same := congrArg ofNumber? h
  rw [ofNumber?_number, ofNumber?_number] at same
  exact Option.some.inj same

/-- Dates on one weekday are whole weeks apart. -/
theorem Date.weekday_eq_iff {date : Date} {weekday : Weekday} :
    date.weekday = weekday ↔ (date.day + 3) % 7 + 1 = (weekday.number : Int) := by
  have number := Weekday.number_afterMonday (date.day + 3)
  rw [Date.weekday]
  constructor
  · rintro rfl
    exact number.symm
  · intro same
    exact Weekday.number_injective (Int.ofNat.inj (number.trans same))

namespace Slot

variable {s : Slot} {bells : BellSchedule} {now : Int} {date : Date}

/-- The session of the date has not started yet. -/
def IsAhead (s : Slot) (bells : BellSchedule) (now : Int) (date : Date) : Prop :=
  ∃ span, s.spanOn bells date = .ok span ∧ now ≤ span.start

/-- The date is that of the first session that has not started, at most a week from today. -/
structure IsNext (s : Slot) (bells : BellSchedule) (now : Int) (date : Date) : Prop where
  weekday : date.weekday = s.weekday
  not_past : dateOf now ≤ date
  in_a_week : (dateOf now).daysUntil date ≤ 7
  ahead : s.IsAhead bells now date
  first : ∀ other : Date, other.weekday = s.weekday → s.IsAhead bells now other → date ≤ other

/-- A valid slot starts on every date at the same time of day. -/
theorem exists_spanOn_eq_ok (valid : s.validate bells = .ok ()) :
    ∃ start stop, ∀ date, s.spanOn bells date = .ok ⟨instant date start, instant date stop⟩ := by
  obtain ⟨first, -, last, -⟩ := (s.validate_eq_ok_iff bells).1 valid
  obtain ⟨start, stop, spans⟩ := bells.span_eq_ok first last
  refine ⟨start, stop, fun date => ?_⟩
  rw [spanOn, spans]
  rfl

theorem later_eq_ok (date : Date) {days : Nat} (le_last : date.day + days ≤ 95026236) :
    ∃ after, later date days = .ok after ∧ after.day = date.day + days := by
  have first_le := date.first_le
  have within : -96465292 ≤ date.day + (days : Int) ∧ date.day + (days : Int) ≤ 95026236 :=
    ⟨by omega, le_last⟩
  refine ⟨⟨date.day + days, within.1, within.2⟩, ?_, rfl⟩
  rw [later, Date.plusDays?, Date.ofDay?, dif_pos within]

/-- The first day from today on that is on the weekday of the slot. -/
theorem exists_first_day (dated : Dated now) (s : Slot) :
    ∃ day, later (dateOf now) ((dateOf now).weekday.daysUntil s.weekday) = .ok day ∧
      day.weekday = s.weekday ∧ dateOf now ≤ day ∧ (dateOf now).daysUntil day ≤ 6 ∧
      ∀ other : Date, other.weekday = s.weekday → dateOf now ≤ other → day ≤ other := by
  have today := dated.day_dateOf
  have le_last := dated.le_last
  have on_today : ((dateOf now).day + 3) % 7 + 1 = ((dateOf now).weekday.number : Int) :=
    Date.weekday_eq_iff.1 rfl
  have days := s.weekday.number_le
  have near : (dateOf now).day + ((dateOf now).weekday.daysUntil s.weekday : Nat) ≤ 95026236 := by
    rw [Weekday.daysUntil]
    omega
  obtain ⟨day, found, away⟩ := later_eq_ok (dateOf now) near
  rw [Weekday.daysUntil] at away
  have on_day : (day.day + 3) % 7 + 1 = (s.weekday.number : Int) := by omega
  refine ⟨day, found, Date.weekday_eq_iff.2 on_day, ?_, ?_, ?_⟩
  · rw [Date.le_iff]
    omega
  · rw [Date.daysUntil]
    omega
  · intro other on_other not_past
    rw [Date.weekday_eq_iff] at on_other
    rw [Date.le_iff] at not_past ⊢
    omega

/-- The next session is found. -/
theorem nextDate_spec (valid : s.validate bells = .ok ()) (dated : Dated now) :
    ∃ next, s.nextDate bells now = .ok next ∧ s.IsNext bells now next := by
  obtain ⟨start, stop, spans⟩ := exists_spanOn_eq_ok valid
  have ahead_iff (date : Date) : s.IsAhead bells now date ↔ now ≤ instant date start := by
    simp only [IsAhead, spans, Except.ok.injEq, exists_eq_left']
  have today := dated.day_dateOf
  have le_last := dated.le_last
  have minutes := start.minutes.isLt
  -- What has not started is not before today.
  have from_today (other : Date) (ahead : s.IsAhead bells now other) : dateOf now ≤ other := by
    rw [ahead_iff, instant] at ahead
    rw [Date.le_iff]
    omega
  obtain ⟨day, found, on_day, not_past, in_six, first⟩ := exists_first_day dated s
  rw [Date.le_iff] at not_past
  rw [Date.daysUntil] at in_six
  by_cases started : instant day start < now
  · -- Only the session of today may have started.
    have is_today : day.day = (dateOf now).day := by
      rw [instant] at started
      omega
    obtain ⟨next, found', away⟩ := later_eq_ok day (show day.day + (7 : Nat) ≤ 95026236 by omega)
    refine ⟨next, ?_, ?_, ?_, ?_, ?_, ?_⟩
    · simp only [nextDate, found, spans, started, found', bind, Except.bind, ↓reduceIte, pure,
        Except.pure]
    · rw [Date.weekday_eq_iff] at on_day ⊢
      omega
    · rw [Date.le_iff]
      omega
    · rw [Date.daysUntil]
      omega
    · rw [ahead_iff, instant]
      omega
    · intro other on_other ahead
      have not_before := first other on_other (from_today other ahead)
      rw [ahead_iff, instant] at ahead
      rw [Date.weekday_eq_iff] at on_day on_other
      rw [instant] at started
      rw [Date.le_iff] at not_before ⊢
      omega
  · refine ⟨day, ?_, on_day, Date.le_iff.2 not_past, ?_, ?_, ?_⟩
    · simp only [nextDate, found, spans, started, bind, Except.bind, ↓reduceIte, pure, Except.pure]
    · rw [Date.daysUntil]
      omega
    · rw [ahead_iff]
      exact Int.not_lt.1 started
    · intro other on_other ahead
      exact first other on_other (from_today other ahead)

theorem isNext_of_nextDate (valid : s.validate bells = .ok ()) (dated : Dated now)
    (found : s.nextDate bells now = .ok date) : s.IsNext bells now date := by
  obtain ⟨next, found', is_next⟩ := nextDate_spec valid dated
  cases found.symm.trans found'
  exact is_next

/-- **The session that comes next**, of a valid slot and at a time whose day and the two weeks after
it are dates, be it before or after the start of 1970. It is on the weekday of the slot, from today
on and at most a week ahead, it has not started, and of all sessions of the slot that have not
started it is the first. It is a whole week ahead just if today is the weekday of the slot and the
session of today has started. -/
theorem exists_next_session (valid : s.validate bells = .ok ()) (dated : Dated now) :
    ∃ next span, s.nextDate bells now = .ok next ∧ s.spanOn bells next = .ok span ∧
      next.weekday = s.weekday ∧ (dateOf now).day = now / 86400000 ∧ dateOf now ≤ next ∧
      (dateOf now).daysUntil next ≤ 7 ∧ now ≤ span.start ∧
      (∀ other other_span, other.weekday = s.weekday → s.spanOn bells other = .ok other_span →
        now ≤ other_span.start → next ≤ other) ∧
      ((dateOf now).daysUntil next = 7 ↔ (dateOf now).weekday = s.weekday ∧
        ∃ span_today, s.spanOn bells (dateOf now) = .ok span_today ∧ span_today.start < now) := by
  obtain ⟨next, found, on_day, not_past, in_a_week, ⟨span, at_next, ahead⟩, first⟩ :=
    nextDate_spec valid dated
  refine ⟨next, span, found, at_next, on_day, dated.day_dateOf, not_past, in_a_week, ahead, ?_, ?_⟩
  · intro other other_span on_day at_other ahead
    exact first other on_day ⟨other_span, at_other, ahead⟩
  · have on_next := Date.weekday_eq_iff.1 on_day
    rw [Date.le_iff] at not_past
    rw [Date.daysUntil] at in_a_week ⊢
    constructor
    · intro week
      have today_on : (dateOf now).weekday = s.weekday := by
        rw [Date.weekday_eq_iff]
        omega
      obtain ⟨start, stop, spans⟩ := exists_spanOn_eq_ok valid
      refine ⟨today_on, _, spans (dateOf now), Int.not_le.1 fun not_started => ?_⟩
      have sooner := first (dateOf now) today_on ⟨_, spans (dateOf now), not_started⟩
      rw [Date.le_iff] at sooner
      omega
    · rintro ⟨today_on, span_today, at_today, started⟩
      have other : next ≠ dateOf now := by
        rintro rfl
        cases at_next.symm.trans at_today
        omega
      have later : next.day ≠ (dateOf now).day := fun same => other (Date.ext same)
      rw [Date.weekday_eq_iff] at today_on
      omega

/-- On Thursday, 29 February 1968, ten minutes after the start of a session of that weekday. -/
theorem exists_next_session_leapDay : ∃ next,
    nextDate ⟨.ofNat 0, 1, 2, .thursday, "101", 1⟩ .standard (-58031400000) = .ok next ∧
      (dateOf (-58031400000)).civil = ⟨1968, 2, 29⟩ ∧ next.civil = ⟨1968, 3, 7⟩ := by
  have valid : validate ⟨.ofNat 0, 1, 2, .thursday, "101", 1⟩ .standard = .ok () := rfl
  have dated : Dated (-58031400000) := ⟨by decide, by decide⟩
  obtain ⟨next, -, found, -, -, -, -, -, -, -, a_week⟩ := exists_next_session valid dated
  have away := a_week.2 ⟨by decide, _, rfl, by decide⟩
  have day : next.day = -665 := by
    rw [Date.daysUntil, dated.day_dateOf] at away
    omega
  refine ⟨next, found, by decide, ?_⟩
  rw [Date.civil, day]
  decide

end Slot

end Timetable
