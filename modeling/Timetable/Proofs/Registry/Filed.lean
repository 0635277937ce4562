import Mathlib.Data.List.Nodup
import Timetable.Proofs.Planner.Decisions
import Timetable.Proofs.Registry.Seats

/-!
# What belongs to whom

Whatever the events, a roster stands under the id of its slot and its reservations say so. Of a list
of events a slot is changed by its own alone, and cancellations take from it just the reservations
that they name, if these have different ids.
-/

set_option autoImplicit false

namespace Timetable

/-- The slot has this id, its reservations say that they belong to it, and they are in order of
date. -/
structure Roster.Filed (id : Ident) (roster : Roster) : Prop where
  slot_id : roster.slot.id = id
  reservation_slot : ∀ x ∈ roster.reservations, x.slotId = id
  sorted : Reservation.Sorted roster.reservations

/-- Every roster stands under the id of its slot. -/
def Registry.Filed (r : Registry) : Prop :=
  ∀ id roster, r.roster? id = some roster → roster.Filed id

namespace Roster

theorem Filed.new (slot : Slot) (supervisors : List Supervisor) :
    (Roster.new slot supervisors).Filed slot.id :=
  ⟨rfl, List.forall_mem_nil _, List.Pairwise.nil⟩

theorem Filed.apply {roster : Roster} {e : Event} (filed : roster.Filed e.slotId) :
    (roster.apply e).Filed e.slotId where
  slot_id := by
    cases e with
    | slotUpdated slot => rfl
    | supervisorAdded s =>
      simp only [Roster.apply, linkSupervisor]
      split <;> exact filed.slot_id
    | _ => exact filed.slot_id
  reservation_slot := by
    cases e with
    | supervisorAdded s =>
      simp only [Roster.apply, linkSupervisor]
      split <;> exact filed.reservation_slot
    | reservationBooked x =>
      intro y hy
      rcases Reservation.mem_insert.1 hy with rfl | hy
      · rfl
      · exact filed.reservation_slot y hy
    | reservationCancelled id slot =>
      intro y hy
      exact filed.reservation_slot y (List.mem_of_mem_eraseP hy)
    | _ => exact filed.reservation_slot
  sorted := sorted_apply filed.sorted e

end Roster

namespace Registry

theorem filed_ofEvents (es : List Event) : (ofEvents es).Filed :=
  forall_roster_ofEvents Roster.Filed.new (fun _ _ _ => Roster.Filed.apply) es

/-! ## The events of one slot -/

variable {r : Registry} {id : Ident}

/-- Of a list of events only its own change a slot. -/
theorem roster?_applyAll (r : Registry) (es : List Event) (id : Ident) :
    (r.applyAll es).roster? id =
      (es.filter (·.slotId = id)).foldl (fun roster e => e.act roster) (r.roster? id) := by
  induction es generalizing r with
  | nil => rfl
  | cons e es ih =>
    rw [applyAll_cons, ih, roster?_apply, List.filter_cons]
    by_cases at_slot : e.slotId = id
    · simp only [at_slot, decide_true, ↓reduceIte, List.foldl_cons]
    · simp only [at_slot, decide_false, Bool.false_eq_true, ↓reduceIte]

end Registry

/-! ## Cancellations -/

theorem Reservation.eraseP_eq_filter {rs : List Reservation} (unique : (rs.map (·.id)).Nodup)
    (id : Ident) : rs.eraseP (·.id == id) = rs.filter (·.id != id) := by
  induction rs with
  | nil => rfl
  | cons x rs ih =>
    obtain ⟨new, unique⟩ := List.nodup_cons.1 unique
    rw [List.eraseP_cons, List.filter_cons]
    by_cases same : x.id = id
    · subst same
      have others : ∀ y ∈ rs, (y.id != x.id) = true := by
        intro y hy
        rw [bne_iff_ne]
        intro same
        have mem := List.mem_map_of_mem hy (f := fun y => y.id)
        rw [same] at mem
        exact new mem
      simp only [BEq.rfl, ↓reduceIte, bne_self_eq_false, Bool.false_eq_true]
      exact (List.filter_eq_self.2 others).symm
    · rw [beq_false_of_ne same, bne_iff_ne.2 same, ih unique]
      rfl

/-- What cancellations leave of a roster: its reservations without some that they name, and if
these have different ids, without all that they name. -/
theorem Roster.foldl_cancelled {es : List Event}
    (cancelled : ∀ e ∈ es, ∃ x slot, e = .reservationCancelled x slot) (roster : Roster) :
    ∃ kept, es.foldl (fun roster e => e.act roster) (some roster) =
        some { roster with reservations := kept } ∧
      kept.Sublist roster.reservations ∧
      (∀ y ∈ roster.reservations, y ∉ kept → ∃ e ∈ es, e.removes? = some y.id) ∧
      ((roster.reservations.map (·.id)).Nodup →
        kept = roster.reservations.filter fun x => decide (∀ e ∈ es, e.removes? ≠ some x.id)) := by
  induction es generalizing roster with
  | nil =>
    refine ⟨roster.reservations, rfl, List.Sublist.refl _, fun y hy gone => absurd hy gone,
      fun _ => ?_⟩
    simp
  | cons e es ih =>
    obtain ⟨x, slot, rfl⟩ := cancelled e List.mem_cons_self
    obtain ⟨kept, folded, fewer, named, exact_of⟩ :=
      ih (fun e he => cancelled e (List.mem_cons_of_mem _ he)) (roster.removeReservation x)
    have first : (roster.removeReservation x).reservations.Sublist roster.reservations :=
      List.eraseP_sublist
    refine ⟨kept, folded, fewer.trans first, ?_, fun unique => ?_⟩
    · intro y hy gone
      by_cases this : y.id = x
      · exact ⟨_, List.mem_cons_self, congrArg some this.symm⟩
      · have left : y ∈ (roster.removeReservation x).reservations := by
          refine (List.mem_eraseP_of_neg ?_).2 hy
          exact beq_iff_eq.not.2 this
        obtain ⟨e, he, names⟩ := named y left gone
        exact ⟨e, List.mem_cons_of_mem _ he, names⟩
    · rw [exact_of (unique.sublist (first.map _)), removeReservation,
        Reservation.eraseP_eq_filter unique, List.filter_filter]
      refine List.filter_congr fun y _ => ?_
      have other : (Event.reservationCancelled x slot).removes? ≠ some y.id ↔ y.id ≠ x := by
        rw [Event.removes?, ne_eq, Option.some_inj, eq_comm]
      rw [Bool.eq_iff_iff, Bool.and_eq_true, decide_eq_true_iff, decide_eq_true_iff,
        List.forall_mem_cons, other, bne_iff_ne, and_comm]

namespace Registry

variable {r : Registry} {id : Ident} {b : Booking} {s : Slot} {held : List Ident}

/-- The cancellations of a slot among these name what the student has there for that date. -/
theorem mem_displacedFrom_at_iff (filed : r.Filed) {before : Roster}
    (found : r.roster? id = some before) {e : Event} :
    e ∈ r.displacedFrom b s held ∧ e.slotId = id ↔
      (b.isOnBehalf = true ∧ id ∈ held ∧ id ≠ b.slot ∧ before.slot.overlaps s = true) ∧
        ∃ x ∈ before.reservations, (x.date = b.date ∧ x.userId = b.student) ∧
          e = .reservationCancelled x.id id := by
  obtain ⟨slot_id, -, sorted⟩ := filed id before found
  have on_date_iff {x : Reservation} : x ∈ before.reservationsOn b.date ↔
      x ∈ before.reservations ∧ x.date = b.date := by
    rw [Roster.reservationsOn, sorted.onDate_eq_filter, List.mem_filter, decide_eq_true_iff]
  rw [mem_displacedFrom_iff]
  constructor
  · rintro ⟨⟨on_behalf, other, in_held, elsewhere, roster, found', overlaps, x, on_date, by_student,
      rfl⟩, at_slot⟩
    obtain rfl : other = id := ((filed other roster found').slot_id).symm.trans at_slot
    cases found.symm.trans found'
    obtain ⟨mem, on_date⟩ := on_date_iff.1 on_date
    rw [slot_id]
    exact ⟨⟨on_behalf, in_held, elsewhere, overlaps⟩, x, mem, ⟨on_date, by_student⟩, rfl⟩
  · rintro ⟨⟨on_behalf, in_held, elsewhere, overlaps⟩, x, mem, ⟨on_date, by_student⟩, rfl⟩
    have same : Event.reservationCancelled x.id id = .reservationCancelled x.id before.slot.id := by
      rw [slot_id]
    exact ⟨⟨on_behalf, id, in_held, elsewhere, before, found, overlaps, x,
      on_date_iff.2 ⟨mem, on_date⟩, by_student, same⟩, rfl⟩

/-- What displacement leaves of a roster that it reaches: its reservations without some that have
the id of one of the student's for that date. If the ids are different, these are just the student's
for that date. -/
theorem roster?_applyAll_displacedFrom_of_reached (filed : r.Filed) {before : Roster}
    (found : r.roster? id = some before)
    (reached : b.isOnBehalf = true ∧ id ∈ held ∧ id ≠ b.slot ∧ before.slot.overlaps s = true) :
    ∃ kept, (r.applyAll (r.displacedFrom b s held)).roster? id =
        some { before with reservations := kept } ∧
      kept.Sublist before.reservations ∧
      (∀ y ∈ before.reservations, y ∉ kept → ∃ x ∈ before.reservations, x.id = y.id ∧
        x.date = b.date ∧ x.userId = b.student) ∧
      ((before.reservations.map (·.id)).Nodup → kept = before.reservations.filter fun x =>
        decide (¬ (x.date = b.date ∧ x.userId = b.student))) := by
  have cancelled_iff {e : Event} : e ∈ (r.displacedFrom b s held).filter (·.slotId = id) ↔
      ∃ x ∈ before.reservations, (x.date = b.date ∧ x.userId = b.student) ∧
        e = .reservationCancelled x.id id := by
    rw [List.mem_filter, decide_eq_true_iff, mem_displacedFrom_at_iff filed found,
      and_iff_right reached]
  obtain ⟨kept, folded, fewer, named, exact_of⟩ := Roster.foldl_cancelled (fun e he => by
    obtain ⟨x, -, -, rfl⟩ := cancelled_iff.1 he
    exact ⟨x.id, id, rfl⟩) before
  refine ⟨kept, ?_, fewer, ?_, fun unique => ?_⟩
  · rw [roster?_applyAll, found, folded]
  · intro y hy gone
    obtain ⟨e, he, names⟩ := named y hy gone
    obtain ⟨x, hx, of_student, rfl⟩ := cancelled_iff.1 he
    exact ⟨x, hx, Option.some.inj names, of_student⟩
  · rw [exact_of unique]
    refine List.filter_congr fun y hy => decide_eq_decide.2 ⟨?_, ?_⟩
    · intro not_named of_student
      exact not_named _ (cancelled_iff.2 ⟨y, hy, of_student, rfl⟩) rfl
    · intro of_another e he names
      obtain ⟨x, hx, of_student, rfl⟩ := cancelled_iff.1 he
      obtain rfl : x = y := List.inj_on_of_nodup_map unique hx hy (Option.some.inj names)
      exact of_another of_student

theorem roster?_applyAll_displacedFrom_of_not_reached (filed : r.Filed) {before : Roster}
    (found : r.roster? id = some before)
    (spared : ¬ (b.isOnBehalf = true ∧ id ∈ held ∧ id ≠ b.slot ∧
      before.slot.overlaps s = true)) :
    (r.applyAll (r.displacedFrom b s held)).roster? id = some before := by
  refine (roster?_applyAll_of_others fun e he at_slot => ?_).trans found
  exact spared ((mem_displacedFrom_at_iff filed found).1 ⟨he, at_slot⟩).1

/-- What displacement leaves of a roster: all of it, or, if the slots overlap, what it leaves of
one that it reaches. -/
theorem roster?_applyAll_displacedFrom (filed : r.Filed) {before : Roster}
    (found : r.roster? id = some before) :
    (r.applyAll (r.displacedFrom b s held)).roster? id = some before ∨
      before.slot.overlaps s = true ∧ ∃ kept,
        (r.applyAll (r.displacedFrom b s held)).roster? id =
            some { before with reservations := kept } ∧
          kept.Sublist before.reservations ∧
          (∀ y ∈ before.reservations, y ∉ kept → ∃ x ∈ before.reservations, x.id = y.id ∧
            x.date = b.date ∧ x.userId = b.student) ∧
          ((before.reservations.map (·.id)).Nodup → kept = before.reservations.filter fun x =>
            decide (¬ (x.date = b.date ∧ x.userId = b.student))) := by
  by_cases reached : b.isOnBehalf = true ∧ id ∈ held ∧ id ≠ b.slot ∧ before.slot.overlaps s = true
  · exact .inr ⟨reached.2.2.2, roster?_applyAll_displacedFrom_of_reached filed found reached⟩
  · exact .inl (roster?_applyAll_displacedFrom_of_not_reached filed found reached)

end Registry

end Timetable
