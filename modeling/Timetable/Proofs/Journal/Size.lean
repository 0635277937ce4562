import Timetable.Proofs.Journal.Replay
import Timetable.Proofs.Registry.WellFormed

/-!
# The size of records

An event that is valid by itself is short: rooms and cohorts are bounded, dates have at most six
digits for their year, and only a creation has a list in it, which is bounded as well.
-/

set_option autoImplicit false

namespace Timetable

/-! ## What validity bounds -/

theorem Slot.validate_eq_ok_iff (s : Slot) (bells : BellSchedule) :
    s.validate bells = .ok () ↔
      1 ≤ s.startUnit.toNat ∧ 1 ≤ s.duration.toNat ∧
        s.startUnit.toNat + s.duration.toNat ≤ bells.maxUnit ∧
        minRoomLength ≤ s.room.length ∧ s.room.length ≤ maxRoomLength := by
  unfold Slot.validate
  dsimp only
  split
  · simp only [reduceCtorEq, false_iff]
    omega
  split
  · simp only [reduceCtorEq, false_iff]
    omega
  split
  · simp only [reduceCtorEq, false_iff]
    omega
  split
  · simp only [reduceCtorEq, false_iff]
    omega
  split
  · simp only [reduceCtorEq, false_iff]
    omega
  split
  · simp only [reduceCtorEq, false_iff]
    omega
  · simp only [true_iff]
    omega

theorem validateCohort_eq_ok_iff (cohort : String) :
    validateCohort cohort = .ok () ↔ cohort ≠ "" ∧ cohort.length ≤ maxCohortLength := by
  unfold validateCohort
  split
  · rename_i empty
    simp [String.isEmpty_iff.1 empty]
  split
  · simp only [reduceCtorEq, false_iff]
    omega
  · rename_i not_empty _
    simp only [true_iff]
    refine ⟨fun h => not_empty (String.isEmpty_iff.2 h), by omega⟩

theorem Civil.natAbs_marchYear_lt {n : Int} (first : -95745824 ≤ n) (last : n ≤ 95745704) :
    (marchYear n).natAbs < 999999 := by
  unfold marchYear
  dsimp only
  omega

theorem Civil.monthLength_le (year : Int) (month : Nat) : monthLength year month ≤ 31 := by
  unfold monthLength
  split
  · split <;> decide
  all_goals decide

namespace Date

theorem natAbs_year_lt (d : Date) : d.civil.year.natAbs < 1000000 := by
  have first := d.first_le
  have last := d.le_last
  have bound := Civil.natAbs_marchYear_lt (n := d.day + 719468) (by omega) (by omega)
  unfold civil Civil.ofDayNumber Civil.ofMarch
  dsimp only
  split
  · exact Nat.lt_of_lt_of_le bound (by decide)
  · dsimp only
    omega

theorem length_padded_le {width n : Nat} {digits : Nat} (pos : 0 < digits) (wide : width ≤ digits)
    (h : n < Nat.pow 10 digits) : (Text.padded width n).length ≤ digits := by
  rw [Text.length_padded]
  exact Nat.max_le.2 ⟨wide, (Nat.length_toDigits_le_iff (by decide) pos).2 h⟩

theorem length_text_le (d : Date) : d.text.length ≤ 13 := by
  have year : (yearText d.civil.year).length ≤ 7 := by
    have bound := d.natAbs_year_lt
    unfold yearText
    split
    · have := length_padded_le (by decide : 0 < 6) (by decide : 4 ≤ 6)
        (by omega : d.civil.year.toNat < 1000000)
      omega
    · have := length_padded_le (by decide : 0 < 6) (by decide : 4 ≤ 6) bound
      rw [List.length_cons]
      omega
  obtain ⟨-, month, -, day⟩ : d.civil.Valid := Civil.valid_ofDayNumber d.day
  have day := Nat.le_trans day (Civil.monthLength_le ..)
  have two := Text.length_padded_of_lt (by decide : 0 < 2) (by omega : d.civil.month < 100)
  have two' := Text.length_padded_of_lt (by decide : 0 < 2) (by omega : d.civil.day < 100)
  rw [text, String.length_ofList, chars]
  simp only [List.length_append, List.length_cons, two, two']
  omega

end Date

/-! ## What an event takes -/

/-- The links that an event carries with it. -/
def Event.links : Event → List Supervisor
  | slotCreated _ supervisors => supervisors
  | _ => []

namespace Journal

variable {bells : BellSchedule}

theorem length_putSlot_le {slot : Slot} (valid : slot.validate bells = .ok ()) :
    (putSlot slot).length ≤ 83 := by
  obtain ⟨-, -, -, -, room⟩ := (slot.validate_eq_ok_iff bells).1 valid
  have bytes := length_utf8_le slot.room
  simp only [putSlot, putWeekday, List.length_append, length_putIdent, length_putUInt32,
    length_littleEndian, length_putText]
  rw [maxRoomLength] at room
  omega

theorem length_putFilter_le {filter : SlotFilter} (valid : filter.Valid) :
    (putFilter filter).length ≤ 114 := by
  have course : (putOption putUInt64 filter.courseId).length ≤ 9 := by
    cases filter.courseId <;> simp [putOption, putUInt64]
  have cohort : (putOption putText filter.cohort).length ≤ 37 := by
    have short := valid.cohort
    cases h : filter.cohort with
    | none => simp [putOption]
    | some c =>
      have few := ((validateCohort_eq_ok_iff c).1 (short c h)).2
      have bytes := length_utf8_le c
      rw [maxCohortLength] at few
      simp only [putOption, List.length_cons, length_putText]
      omega
  simp only [putFilter, List.length_append, length_putIdent]
  omega

theorem length_putReservation_le (r : Reservation) : (putReservation r).length ≤ 144 := by
  have bytes := length_utf8_le r.date.text
  have short := r.date.length_text_le
  simp only [putReservation, putDate, putUInt64, List.length_append, length_putIdent,
    length_putText, length_littleEndian]
  omega

/-- A valid event is short, but for the links that it carries. -/
theorem length_payload_le {e : Event} (valid : e.Valid bells) :
    (payload e).length ≤ 200 + 76 * e.links.length := by
  rw [payload, List.length_append, length_putUInt32]
  cases e with
  | slotCreated slot supervisors =>
    have of_slot := length_putSlot_le valid.1
    simp only [putFields, putList, List.length_append, length_littleEndian,
      length_flatMap_putSupervisor, Event.links]
    omega
  | slotUpdated slot =>
    have of_slot := length_putSlot_le valid
    simp only [putFields, Event.links, List.length_nil]
    omega
  | slotDeleted id => simp [putFields, Event.links]
  | filterAdded filter =>
    have of_filter := length_putFilter_le valid
    simp only [putFields, Event.links, List.length_nil]
    omega
  | filterRemoved id slot => simp [putFields, Event.links]
  | supervisorAdded supervisor => simp [putFields, Event.links]
  | supervisorRemoved slot user => simp [putFields, putUInt64, Event.links]
  | reservationBooked reservation =>
    have of_reservation := length_putReservation_le reservation
    simp only [putFields, Event.links, List.length_nil]
    omega
  | reservationCancelled id slot => simp [putFields, Event.links]

/-- A valid event fits into a record. -/
theorem fits_of_valid {e : Event} (valid : e.Valid bells) : Fits e := by
  have few : e.links.length ≤ maxSupervisors := by
    cases e with
    | slotCreated slot supervisors => exact valid.2.length_le
    | _ => exact Nat.zero_le _
  have short := length_payload_le valid
  rw [Fits, maxPayload]
  rw [maxSupervisors] at few
  omega

end Journal

end Timetable
