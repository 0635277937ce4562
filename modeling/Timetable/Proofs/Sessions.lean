import Timetable.Change.Slots
import Timetable.Proofs.Journal.Size

/-!
# When sessions are over

A valid slot ends at some time of day, on every date at the same one. So a session that is over stays
over, and one that is over under other units but not under these is one of today.
-/

set_option autoImplicit false

namespace Timetable

namespace BellSchedule

variable {bells : BellSchedule} {unit duration : UInt32}

theorem start_eq_ok (first : 1 ≤ unit.toNat) (last : unit.toNat ≤ bells.maxUnit) :
    ∃ time, bells.start unit = .ok time := by
  obtain ⟨n, place⟩ : ∃ n, unit.toNat = n + 1 := ⟨unit.toNat - 1, by omega⟩
  have lt : n < bells.starts.length := by
    rw [maxUnit] at last
    omega
  refine ⟨bells.starts[n], ?_⟩
  rw [start, place]
  simp only [List.getElem?_eq_getElem lt]

theorem toNat_unitAfter (unit duration : UInt32) :
    (unitAfter unit duration).toNat = min (unit.toNat + duration.toNat) 4294967295 := by
  rw [unitAfter, UInt32.toNat_ofNat']
  omega

/-- The span of a session, whose times do not depend on the date. -/
theorem span_eq_ok (first : 1 ≤ unit.toNat)
    (last : unit.toNat + duration.toNat ≤ bells.maxUnit) :
    ∃ start stop, ∀ date, bells.span date unit duration =
      .ok ⟨instant date start, instant date stop⟩ := by
  have after := toNat_unitAfter unit duration
  obtain ⟨start, starts⟩ := bells.start_eq_ok first (by omega)
  obtain ⟨stop, stops⟩ : ∃ time, bells.start (unitAfter unit duration) = .ok time :=
    bells.start_eq_ok (by omega) (by omega)
  refine ⟨start, stop, fun date => ?_⟩
  rw [span, starts, stops]
  rfl

end BellSchedule

namespace Slot

variable {s : Slot} {bells : BellSchedule} {now : Int} {date : Date}

/-- The session of a date is over. -/
def IsOver (s : Slot) (bells : BellSchedule) (now : Int) (date : Date) : Prop :=
  s.phaseOn bells now date = .ok .past

instance (s : Slot) (bells : BellSchedule) (now : Int) (date : Date) :
    Decidable (s.IsOver bells now date) :=
  match h : s.phaseOn bells now date with
  | .ok .past => .isTrue h
  | .ok .active => .isFalse fun ended => nomatch h.symm.trans ended
  | .ok .future => .isFalse fun ended => nomatch h.symm.trans ended
  | .error _ => .isFalse fun ended => nomatch h.symm.trans ended

theorem isOver_iff_of_phaseOn {phase : Phase} (in_phase : s.phaseOn bells now date = .ok phase) :
    s.IsOver bells now date ↔ phase = .past := by
  rw [IsOver, in_phase, Except.ok.injEq]

/-- On every date a valid slot has a session, which is in some phase. -/
theorem exists_phaseOn_eq_ok (valid : s.validate bells = .ok ()) (now : Int) (date : Date) :
    ∃ phase, s.phaseOn bells now date = .ok phase := by
  obtain ⟨first, -, last, -⟩ := (s.validate_eq_ok_iff bells).1 valid
  obtain ⟨start, stop, spans⟩ := bells.span_eq_ok first last
  refine ⟨Span.phaseAt ⟨instant date start, instant date stop⟩ now, ?_⟩
  rw [phaseOn, spanOn, spans]
  rfl

/-- A valid slot ends on every date at the same time of day. -/
theorem exists_isOver_iff (valid : s.validate bells = .ok ()) :
    ∃ stop, ∀ now date, s.IsOver bells now date ↔ instant date stop ≤ now := by
  obtain ⟨first, -, last, -⟩ := (s.validate_eq_ok_iff bells).1 valid
  obtain ⟨start, stop, spans⟩ := bells.span_eq_ok first last
  refine ⟨stop, fun now date => ?_⟩
  have phase : s.phaseOn bells now date =
      .ok (Span.phaseAt ⟨instant date start, instant date stop⟩ now) := by
    rw [phaseOn, spanOn, spans]
    rfl
  rw [IsOver, phase, Except.ok.injEq, Span.phaseAt_eq_past_iff]

/-- What is over stays over. -/
theorem IsOver.mono (valid : s.validate bells = .ok ()) (ended : s.IsOver bells now date)
    {later : Int} (le : now ≤ later) : s.IsOver bells later date := by
  obtain ⟨stop, over_iff⟩ := exists_isOver_iff valid
  rw [over_iff] at ended ⊢
  exact Int.le_trans ended le

/-- Only a session of today can be over for one slot and not for another one. -/
theorem IsOver.date_eq {t : Slot} (valid : s.validate bells = .ok ())
    (valid' : t.validate bells = .ok ()) (ended : s.IsOver bells now date)
    (not_over : ¬ t.IsOver bells now date) : date = dateOf now := by
  obtain ⟨stop, over_iff⟩ := exists_isOver_iff valid
  obtain ⟨stop', over_iff'⟩ := exists_isOver_iff valid'
  rw [over_iff] at ended
  rw [over_iff'] at not_over
  have day : now / 86400000 = date.day := by
    have := stop'.minutes.isLt
    simp only [instant] at ended not_over
    omega
  rw [dateOf, day, Date.ofDay?_day]
  rfl

end Slot

/-- A slot changes its weekday only when all its sessions are over. -/
theorem Registry.requireOver_eq_ok_iff {s : Slot} {bells : BellSchedule} {now : Int}
    {rs : List Reservation} :
    requireOver s bells now rs = .ok () ↔ ∀ r ∈ rs, s.IsOver bells now r.date := by
  induction rs with
  | nil => exact iff_of_true rfl (List.forall_mem_nil _)
  | cons r rs ih =>
    rw [List.forall_mem_cons, requireOver]
    cases phase : s.phaseOn bells now r.date with
    | error e => exact ⟨nofun, fun h => nomatch phase.symm.trans h.1⟩
    | ok phase' =>
      by_cases ended : phase' = .past
      · subst ended
        exact ih.trans (and_iff_right phase).symm
      · simp only [bind, Except.bind, ne_eq, ended, not_false_eq_true, ↓reduceIte]
        exact ⟨nofun, fun h => absurd (Except.ok.inj (phase.symm.trans h.1)) ended⟩

end Timetable
