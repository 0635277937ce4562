import Mathlib.Data.Fintype.Card
import Timetable.Proofs.Sessions

/-!
# Sessions at the same time

Whether slots overlap is told by their weekdays and units. On any one date it comes to the same as
whether their sessions share an instant: each unit starts later than the one before it, so units are
in the order of their times. A session that starts when another one stops shares no instant with it.
-/

set_option autoImplicit false

namespace Timetable

namespace Span

variable {s t : Span} {date : Date}

/-- The instant is one of the span. -/
def Holds (s : Span) (now : Int) : Prop := s.start ≤ now ∧ now < s.stop

/-- The span is not empty, and it starts and stops on that day. -/
structure IsOfDay (s : Span) (date : Date) : Prop where
  starts : date.day * 86400000 ≤ s.start
  lasts : s.start < s.stop
  stops : s.stop < (date.day + 1) * 86400000

/-- Spans that are not empty share an instant just if each starts before the other one stops. -/
theorem exists_holds_iff (lasts : s.start < s.stop) (lasts' : t.start < t.stop) :
    (∃ now, s.Holds now ∧ t.Holds now) ↔ s.start < t.stop ∧ t.start < s.stop := by
  constructor
  · rintro ⟨now, ⟨started, stops⟩, started', stops'⟩
    exact ⟨Int.lt_of_le_of_lt started stops', Int.lt_of_le_of_lt started' stops⟩
  · rintro ⟨before, before'⟩
    -- If they share an instant at all, they share the start of the later one.
    refine ⟨max s.start t.start, ⟨Int.le_max_left .., ?_⟩, Int.le_max_right .., ?_⟩
    · exact Int.max_lt.2 ⟨lasts, before'⟩
    · exact Int.max_lt.2 ⟨before, lasts'⟩

end Span

theorem instant_lt_instant_iff {date : Date} {time time' : TimeOfDay} :
    instant date time < instant date time' ↔ time < time' := by
  change _ ↔ time.minutes.val < time'.minutes.val
  simp only [instant]
  omega

theorem isOfDay_of_lt {date : Date} {time time' : TimeOfDay} (lt : time < time') :
    Span.IsOfDay ⟨instant date time, instant date time'⟩ date := by
  have last := time'.minutes.isLt
  refine ⟨?_, instant_lt_instant_iff.2 lt, ?_⟩
  · simp only [instant]
    omega
  · simp only [instant]
    omega

namespace BellSchedule

variable {bells : BellSchedule} {unit unit' : UInt32} {time time' : TimeOfDay}

/-- There are no more units than minutes in a day. -/
theorem maxUnit_le (bells : BellSchedule) : bells.maxUnit ≤ 1440 := by
  have increasing : (bells.starts.map (·.minutes)).Pairwise (· < ·) :=
    List.pairwise_map.2 bells.increasing
  have distinct : (bells.starts.map (·.minutes)).Nodup := increasing.imp Fin.ne_of_lt
  have few := distinct.length_le_card
  rwa [List.length_map, Fintype.card_fin] at few

theorem getElem?_of_start_eq_ok (starts : bells.start unit = .ok time) :
    ∃ n, unit.toNat = n + 1 ∧ bells.starts[n]? = some time := by
  unfold start at starts
  split at starts
  · cases starts
  · rename_i n place
    split at starts
    · rename_i found
      cases starts
      exact ⟨n, place, found⟩
    · cases starts

/-- Units are in the order of their times. -/
theorem lt_iff_of_start_eq_ok (starts : bells.start unit = .ok time)
    (starts' : bells.start unit' = .ok time') : time < time' ↔ unit < unit' := by
  obtain ⟨n, place, found⟩ := getElem?_of_start_eq_ok starts
  obtain ⟨n', place', found'⟩ := getElem?_of_start_eq_ok starts'
  obtain ⟨below, rfl⟩ := List.getElem?_eq_some_iff.1 found
  obtain ⟨below', rfl⟩ := List.getElem?_eq_some_iff.1 found'
  have increasing := List.pairwise_iff_getElem.1 bells.increasing
  rw [UInt32.lt_iff_toNat_lt, place, place', Nat.succ_lt_succ_iff]
  constructor
  · intro lt
    by_contra not_before
    rcases Nat.eq_or_lt_of_le (Nat.not_lt.1 not_before) with rfl | after
    · exact Nat.lt_irrefl _ lt
    · exact Nat.lt_asymm lt (increasing n' n below' below after)
  · exact increasing n n' below below'

end BellSchedule

namespace Slot

variable {bells : BellSchedule} {a b s : Slot}

/-- The end of a slot that fits the bell schedule is reckoned without overflow. -/
theorem toNat_endUnit (valid : s.validate bells = .ok ()) :
    s.endUnit.toNat = s.startUnit.toNat + s.duration.toNat := by
  obtain ⟨-, -, last, -⟩ := (s.validate_eq_ok_iff bells).1 valid
  have few := bells.maxUnit_le
  rw [endUnit, UInt32.toNat_add, Nat.mod_eq_of_lt]
  omega

theorem startUnit_lt_endUnit (valid : s.validate bells = .ok ()) : s.startUnit < s.endUnit := by
  obtain ⟨-, lasts, -⟩ := (s.validate_eq_ok_iff bells).1 valid
  rw [UInt32.lt_iff_toNat_lt, toNat_endUnit valid]
  omega

/-- The times of a slot: its sessions last from when its first unit starts until its end unit
does. -/
theorem exists_times (valid : s.validate bells = .ok ()) :
    ∃ start stop, bells.start s.startUnit = .ok start ∧ bells.start s.endUnit = .ok stop ∧
      ∀ date, s.spanOn bells date = .ok ⟨instant date start, instant date stop⟩ := by
  obtain ⟨first, -, last, -⟩ := (s.validate_eq_ok_iff bells).1 valid
  have sum := toNat_endUnit valid
  have after : BellSchedule.unitAfter s.startUnit s.duration = s.endUnit := by
    have few := bells.maxUnit_le
    rw [← UInt32.toNat_inj, BellSchedule.toNat_unitAfter, sum]
    omega
  obtain ⟨start, starts⟩ := bells.start_eq_ok first (Nat.le_trans (Nat.le_add_right ..) last)
  obtain ⟨stop, stops⟩ : ∃ stop, bells.start s.endUnit = .ok stop :=
    bells.start_eq_ok (by omega) (by omega)
  refine ⟨start, stop, starts, stops, fun date => ?_⟩
  rw [spanOn, BellSchedule.span, after, starts, stops]
  rfl

/-- **Slots overlap just if they have a weekday in common and sessions on one date share an
instant.** In any bell schedule and for slots that fit it, the ends of the slots are reckoned
without overflow, and on every date both have a session, which starts and stops on that day. Back to
back they do not overlap. Slots overlap each other, and nothing but their weekdays and units
tells. -/
theorem overlaps_iff_share_instant (valid : a.validate bells = .ok ())
    (valid' : b.validate bells = .ok ()) (date : Date) :
    a.startUnit.toNat + a.duration.toNat < UInt32.size ∧
    b.startUnit.toNat + b.duration.toNat < UInt32.size ∧
    ∃ span span', a.spanOn bells date = .ok span ∧ b.spanOn bells date = .ok span' ∧
      span.IsOfDay date ∧ span'.IsOfDay date ∧
      (a.overlaps b = true ↔ a.weekday = b.weekday ∧ ∃ now, span.Holds now ∧ span'.Holds now) ∧
      (span.stop = span'.start → a.overlaps b = false) ∧
      a.overlaps b = b.overlaps a ∧
      ∀ a' b' : Slot, a'.startUnit = a.startUnit → a'.duration = a.duration →
        a'.weekday = a.weekday → b'.startUnit = b.startUnit → b'.duration = b.duration →
        b'.weekday = b.weekday → a'.overlaps b' = a.overlaps b := by
  have no_overflow {s : Slot} (valid : s.validate bells = .ok ()) :
      s.startUnit.toNat + s.duration.toNat < UInt32.size := by
    rw [← toNat_endUnit valid]
    exact s.endUnit.toNat_lt_size
  obtain ⟨start, stop, starts, stops, spans⟩ := exists_times valid
  obtain ⟨start', stop', starts', stops', spans'⟩ := exists_times valid'
  have lasts : start < stop :=
    (BellSchedule.lt_iff_of_start_eq_ok starts stops).2 (startUnit_lt_endUnit valid)
  have lasts' : start' < stop' :=
    (BellSchedule.lt_iff_of_start_eq_ok starts' stops').2 (startUnit_lt_endUnit valid')
  have overlap_iff : a.overlaps b = true ↔ a.weekday = b.weekday ∧ ∃ now,
      Span.Holds ⟨instant date start, instant date stop⟩ now ∧
        Span.Holds ⟨instant date start', instant date stop'⟩ now := by
    rw [Span.exists_holds_iff (instant_lt_instant_iff.2 lasts) (instant_lt_instant_iff.2 lasts'),
      instant_lt_instant_iff, instant_lt_instant_iff,
      BellSchedule.lt_iff_of_start_eq_ok starts stops',
      BellSchedule.lt_iff_of_start_eq_ok starts' stops]
    simp only [overlaps, Bool.and_eq_true, beq_iff_eq, decide_eq_true_eq, and_assoc]
  refine ⟨no_overflow valid, no_overflow valid', _, _, spans date, spans' date, isOfDay_of_lt lasts,
    isOfDay_of_lt lasts', overlap_iff, ?_, overlaps_comm a b, ?_⟩
  · intro back_to_back
    rw [Bool.eq_false_iff, Ne, overlap_iff]
    rintro ⟨-, now, ⟨-, stops⟩, starts, -⟩
    exact Int.not_lt.2 starts (back_to_back ▸ stops)
  · intro a' b' start_eq duration_eq weekday_eq start_eq' duration_eq' weekday_eq'
    rw [overlaps, overlaps, endUnit, endUnit, endUnit, endUnit, start_eq, duration_eq, weekday_eq,
      start_eq', duration_eq', weekday_eq']

/-- A slot on Mondays. -/
def onMonday (unit duration : UInt32) : Slot := ⟨.ofNat 0, unit, duration, .monday, "101", 1⟩

/-- Of three slots on Mondays the first two are back to back, and the third one overlaps the
first. -/
theorem overlaps_iff_share_instant_backToBack :
    (onMonday 1 2).overlaps (onMonday 3 1) = false ∧
      ∃ span span', (onMonday 1 2).spanOn .standard .epoch = .ok span ∧
        (onMonday 2 2).spanOn .standard .epoch = .ok span' ∧
        ∃ now, span.Holds now ∧ span'.Holds now := by
  have valid : (onMonday 1 2).validate .standard = .ok () := rfl
  constructor
  · obtain ⟨-, -, span, span', at_first, at_second, -, -, -, back_to_back, -⟩ :=
      overlaps_iff_share_instant valid (b := onMonday 3 1) rfl .epoch
    refine back_to_back ?_
    cases (rfl : (onMonday 1 2).spanOn .standard .epoch = _).symm.trans at_first
    cases (rfl : (onMonday 3 1).spanOn .standard .epoch = _).symm.trans at_second
    rfl
  · obtain ⟨-, -, span, span', at_first, at_third, -, -, overlap_iff, -⟩ :=
      overlaps_iff_share_instant valid (b := onMonday 2 2) rfl .epoch
    exact ⟨span, span', at_first, at_third, (overlap_iff.1 rfl).2⟩

end Slot

end Timetable
