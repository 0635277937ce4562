import Mathlib.Logic.Unique
import Timetable.Planner
import Timetable.Proofs.Registry.Unbooking
import Timetable.Proofs.Registry.WellFormed

/-!
# When a change is decided on

For every operation, what has to hold for it not to be refused, and which change it then decides
on.
-/

set_option autoImplicit false

namespace Timetable

/-! ## What is not refused -/

section Except

variable {ε α β : Type}

theorem bind_eq_ok_iff {x : Except ε α} {f : α → Except ε β} {b : β} :
    (x >>= f) = .ok b ↔ ∃ a, x = .ok a ∧ f a = .ok b := by
  cases x with
  | error e => exact ⟨nofun, fun ⟨_, h, _⟩ => nomatch h⟩
  | ok a =>
    constructor
    · intro h
      exact ⟨a, rfl, h⟩
    · rintro ⟨_, h, h'⟩
      cases h
      exact h'

theorem pure_eq_ok_iff {a b : α} : (pure a : Except ε α) = .ok b ↔ b = a := by
  constructor
  · intro h
    exact (Except.ok.inj h).symm
  · rintro rfl
    rfl

/-- What is done with a result cannot fail, so there is an outcome if there is a result. -/
theorem exists_bind_pure_eq_ok_iff {x : Except ε α} (f : α → β) :
    (∃ b, (x >>= fun a => pure (f a)) = .ok b) ↔ ∃ a, x = .ok a := by
  constructor
  · rintro ⟨b, h⟩
    obtain ⟨a, result, -⟩ := bind_eq_ok_iff.1 h
    exact ⟨a, result⟩
  · rintro ⟨a, rfl⟩
    exact ⟨f a, rfl⟩

theorem unless_eq_ok_iff {c : Prop} [Decidable c] {e : ε} {x : Except ε β} {b : β} :
    (if c then throw e else x) = .ok b ↔ ¬ c ∧ x = .ok b := by
  split
  · rename_i h
    exact ⟨nofun, fun h' => absurd h h'.1⟩
  · rename_i h
    exact ⟨fun h' => ⟨h, h'⟩, fun h' => h'.2⟩

/-- A guard in front of other steps. -/
theorem unless_bind_eq_ok_iff {c : Prop} [Decidable c] {e : ε} {f : α → Except ε β}
    {x : Except ε β} {b : β} : (if c then throw e >>= f else x) = .ok b ↔ ¬ c ∧ x = .ok b :=
  unless_eq_ok_iff

theorem exists_and_congr {p q q' : α → Prop} (h : ∀ a, p a → (q a ↔ q' a)) :
    (∃ a, p a ∧ q a) ↔ ∃ a, p a ∧ q' a := by
  apply exists_congr
  intro a
  exact and_congr_right (h a)

end Except

namespace Registry

variable {r : Registry} {rules : Rules} {now : Int} {slot : Ident} {user : UserId}

/-! ## Finding the roster -/

theorem rosterOf_eq_ok_iff {roster : Roster} :
    r.rosterOf slot = .ok roster ↔ r.roster? slot = some roster := by
  rw [rosterOf]
  split
  · rename_i found
    simp [found]
  · rename_i missing
    simp [missing]

theorem rosterHolding_eq_ok_iff {entity : Ident} {roster : Roster} :
    r.rosterHolding entity = .ok roster ↔
      ∃ slot, r.slotOf? entity = some slot ∧ r.roster? slot = some roster := by
  rw [← Option.bind_eq_some_iff, rosterHolding]
  split
  · rename_i found
    simp [found]
  · rename_i missing
    simp [missing]

theorem requireSupervisor_eq_ok_iff {roster : Roster} {user : UserProfile} :
    roster.requireSupervisor user = .ok () ↔ roster.isSupervisedBy user = true := by
  rw [Roster.requireSupervisor]
  split <;> simp [*]

theorem supervisedRoster_eq_ok_iff {roster : Roster} :
    r.supervisedRoster rules slot user = .ok roster ↔
      r.roster? slot = some roster ∧ roster.isSupervisedBy (rules.directory.profile user) = true := by
  simp only [supervisedRoster, bind_eq_ok_iff, rosterOf_eq_ok_iff, Unique.exists_iff,
    PUnit.default_eq_unit, requireSupervisor_eq_ok_iff, pure_eq_ok_iff]
  constructor
  · rintro ⟨_, found, supervised, rfl⟩
    exact ⟨found, supervised⟩
  · rintro ⟨found, supervised⟩
    exact ⟨roster, found, supervised, rfl⟩

/-! ## Slots -/

theorem create_eq_ok_iff {slot : Slot} {link : Ident} {creator : UserId} {c : Change Slot} :
    r.create rules slot link creator = .ok c ↔
      slot.validate rules.bells = .ok () ∧ r.rosters.size < maxSlots ∧
        c = .one (.slotCreated slot [⟨link, slot.id, creator⟩]) slot := by
  simp only [create, bind_eq_ok_iff, unless_bind_eq_ok_iff, pure_eq_ok_iff, Unique.exists_iff,
    PUnit.default_eq_unit, Nat.not_le]

theorem update_eq_ok_iff {patch : SlotPatch} {c : Change (List Overfull)} :
    r.update rules now slot patch user = .ok c ↔
      ∃ roster, r.supervisedRoster rules slot user = .ok roster ∧
        (patch.apply roster.slot).validate rules.bells = .ok () ∧
        ((patch.apply roster.slot).weekday ≠ roster.slot.weekday →
          requireOver roster.slot rules.bells now roster.reservations = .ok ()) ∧
        ∃ overfull,
          Overfull.of (patch.apply roster.slot) rules.bells now roster.reservations = .ok overfull ∧
          c = .one (.slotUpdated (patch.apply roster.slot)) overfull := by
  simp only [update, bind_eq_ok_iff, Unique.exists_iff, PUnit.default_eq_unit]
  apply exists_and_congr
  intro roster _
  apply and_congr_right
  intro _
  split
  · rename_i moved
    simp only [bind_eq_ok_iff, Unique.exists_iff, PUnit.default_eq_unit, pure_eq_ok_iff]
    exact and_congr_left fun _ => ⟨fun h _ => h, fun h => h moved⟩
  · rename_i stays
    simp only [bind_eq_ok_iff, pure_eq_ok_iff]
    exact ⟨fun h => ⟨fun moved => absurd moved stays, h⟩, fun h => h.2⟩

theorem delete_eq_ok_iff {c : Change Unit} :
    r.delete rules now slot user = .ok c ↔
      ∃ roster, r.supervisedRoster rules slot user = .ok roster ∧
        c = ⟨[.slotDeleted slot], (),
          (roster.reservations.filter (mayBeLive roster.slot rules.bells now)).map fun r =>
            (r.userId, r.id, .unbookForced)⟩ := by
  simp only [delete, bind_eq_ok_iff, pure_eq_ok_iff]

/-! ## Filters -/

theorem addFilter_eq_ok_iff {course : Option CourseId} {cohort : Option String} {id : Ident}
    {c : Change SlotFilter} :
    r.addFilter rules slot course cohort user id = .ok c ↔
      SlotFilter.Valid ⟨id, slot, course, cohort⟩ ∧
        ∃ roster, r.supervisedRoster rules slot user = .ok roster ∧
          roster.filters.length < maxFilters ∧
          c = .one (.filterAdded ⟨id, slot, course, cohort⟩) ⟨id, slot, course, cohort⟩ := by
  have valid_iff : SlotFilter.Valid ⟨id, slot, course, cohort⟩ ↔
      ¬ (course.isNone ∧ cohort.isNone) ∧ ∀ c ∈ cohort, validateCohort c = .ok () := by
    constructor
    · rintro ⟨sets, valid⟩
      refine ⟨?_, valid⟩
      rintro ⟨no_course, no_cohort⟩
      simp_all
    · rintro ⟨sets, valid⟩
      refine ⟨?_, valid⟩
      cases course <;> cases cohort <;> simp_all
  rw [valid_iff, and_assoc]
  simp only [addFilter, unless_bind_eq_ok_iff]
  apply and_congr_right
  intro _
  cases cohort with
  | none =>
    simp only [bind_eq_ok_iff, unless_bind_eq_ok_iff, pure_eq_ok_iff, Nat.not_le, Option.mem_def,
      reduceCtorEq, false_implies, implies_true, true_and]
  | some cohort =>
    simp only [bind_eq_ok_iff, unless_bind_eq_ok_iff, pure_eq_ok_iff, Unique.exists_iff,
      PUnit.default_eq_unit, Nat.not_le, Option.mem_def, Option.some.injEq, forall_eq']

theorem removeFilter_eq_ok_iff {filter : Ident} {c : Change Unit} :
    r.removeFilter rules filter user = .ok c ↔
      ∃ roster, r.rosterHolding filter = .ok roster ∧ (roster.filter? filter).isSome ∧
        roster.isSupervisedBy (rules.directory.profile user) = true ∧
        c = .one (.filterRemoved filter roster.slot.id) () := by
  simp only [removeFilter, bind_eq_ok_iff, unless_bind_eq_ok_iff, Unique.exists_iff,
    PUnit.default_eq_unit, requireSupervisor_eq_ok_iff, pure_eq_ok_iff, Option.isNone_iff_eq_none,
    ← ne_eq, Option.ne_none_iff_isSome]

/-! ## Supervisors -/

theorem addSupervisor_eq_ok_iff {linked : UserId} {id : Ident} {c : Change Unit} :
    r.addSupervisor rules slot linked user id = .ok c ↔
      ∃ roster, r.supervisedRoster rules slot user = .ok roster ∧
        (roster.hasSupervisor linked = true ∧ c = .none () ∨
          roster.hasSupervisor linked = false ∧ roster.supervisors.length < maxSupervisors ∧
            c = .one (.supervisorAdded ⟨id, slot, linked⟩) ()) := by
  simp only [addSupervisor, bind_eq_ok_iff]
  apply exists_and_congr
  intro roster _
  cases roster.hasSupervisor linked with
  | true => simp [pure_eq_ok_iff]
  | false =>
    simp only [Bool.false_eq_true, ↓reduceIte, unless_bind_eq_ok_iff, pure_eq_ok_iff, Nat.not_le,
      false_and, true_and, false_or]

theorem removeSupervisor_eq_ok_iff {linked : UserId} {c : Change Unit} :
    r.removeSupervisor rules slot linked user = .ok c ↔
      ∃ roster, r.supervisedRoster rules slot user = .ok roster ∧
        (roster.hasSupervisor linked = true ∧ c = .one (.supervisorRemoved slot linked) () ∨
          roster.hasSupervisor linked = false ∧ c = .none ()) := by
  simp only [removeSupervisor, bind_eq_ok_iff]
  apply exists_and_congr
  intro roster _
  cases roster.hasSupervisor linked <;> simp [pure_eq_ok_iff]

/-! ## Reservations -/

theorem requireSeat_eq_ok_iff {today : Date} {b : Booking} {student : UserProfile}
    {roster : Roster} :
    requireSeat rules today b student roster = .ok () ↔
      ∃ days, bound rules b roster = .ok days ∧ today.daysUntil b.date ≤ days ∧
        isEligible student roster.filters = true ∧ b.date.weekday = roster.slot.weekday ∧
        roster.bookedBy? b.date b.student = none ∧
        roster.countOn b.date < roster.slot.capacity.toNat ∧
        roster.reservations.length < maxReservations := by
  simp only [requireSeat, bind_eq_ok_iff, unless_bind_eq_ok_iff]
  apply exists_and_congr
  intro days _
  simp [unless_eq_ok_iff, pure_eq_ok_iff]

/-- The cancellations of what the student has at the same time in other slots of `held`. -/
def displacedFrom (r : Registry) (b : Booking) (slot : Slot) (held : List Ident) : List Event :=
  if b.isOnBehalf then ((held.filter (· ≠ b.slot)).filterMap r.roster?).flatMap (displaced b slot)
  else []

/-- What a booking displaces: the reservations that the student has for that date in other slots
of `held` that overlap. -/
theorem mem_displacedFrom_iff {b : Booking} {s : Slot} {held : List Ident} {e : Event} :
    e ∈ r.displacedFrom b s held ↔ b.isOnBehalf = true ∧
      ∃ other ∈ held, other ≠ b.slot ∧ ∃ roster, r.roster? other = some roster ∧
        roster.slot.overlaps s = true ∧ ∃ x ∈ roster.reservationsOn b.date,
          x.userId = b.student ∧ e = .reservationCancelled x.id roster.slot.id := by
  rw [displacedFrom]
  split
  · rename_i on_behalf
    simp only [List.mem_flatMap, List.mem_filterMap, List.mem_filter, decide_eq_true_eq, displaced,
      List.mem_ite_nil_right, List.mem_map, beq_iff_eq, on_behalf, true_and]
    constructor
    · rintro ⟨roster, ⟨other, ⟨mem, elsewhere⟩, found⟩, overlaps, x, ⟨on_date, by_student⟩, rfl⟩
      exact ⟨other, mem, elsewhere, roster, found, overlaps, x, on_date, by_student, rfl⟩
    · rintro ⟨other, mem, elsewhere, roster, found, overlaps, x, on_date, by_student, rfl⟩
      exact ⟨roster, ⟨other, ⟨mem, elsewhere⟩, found⟩, overlaps, x, ⟨on_date, by_student⟩, rfl⟩
  · rename_i self
    simp [self]

theorem bookHeld_eq_ok_iff {today : Date} {b : Booking} {student : UserProfile}
    {held : List Ident} {id : Ident} {c : Change Reservation} :
    r.bookHeld rules today b student held id = .ok c ↔
      ∃ roster, r.roster? b.slot = some roster ∧
        requireSeat rules today b student roster = .ok () ∧
        c = ⟨r.displacedFrom b roster.slot held ++
            [.reservationBooked ⟨id, b.slot, b.date, b.student, b.reserver⟩],
          ⟨id, b.slot, b.date, b.student, b.reserver⟩,
          if b.isOnBehalf then [(b.student, id, .bookForced)] else []⟩ := by
  simp only [bookHeld, bind_eq_ok_iff, rosterOf_eq_ok_iff, Unique.exists_iff, PUnit.default_eq_unit,
    pure_eq_ok_iff]
  rfl

theorem book_eq_ok_iff {b : Booking} {id : Ident} {c : Change Reservation} :
    r.book rules now b id = .ok c ↔
      ¬ b.date < dateOf now ∧ ∃ student, rules.directory.require b.student = .ok student ∧
        ∃ held, r.heldFor b = .ok held ∧
          r.bookHeld rules (dateOf now) b student held id = .ok c := by
  simp only [book, unless_bind_eq_ok_iff, bind_eq_ok_iff]

theorem unbook_eq_ok_iff {id : Ident} {force strict : Bool} {c : Change UnbookMode} :
    r.unbook rules now id user force strict = .ok c ↔
      ∃ roster, r.rosterHolding id = .ok roster ∧
        ∃ reservation, roster.reservation? id = some reservation ∧
        ∃ phase, roster.slot.phaseOn rules.bells now reservation.date = .ok phase ∧
        ∃ mode, unbookMode rules roster reservation phase user force strict = .ok mode ∧
          c = match mode with
            | .self => ⟨[.reservationCancelled id reservation.slotId], mode, []⟩
            | .forced =>
              ⟨[.reservationCancelled id reservation.slotId], mode,
                [(reservation.userId, id, .unbookForced)]⟩
            | .requested => ⟨[], mode, [(reservation.userId, id, .unbookRequested)]⟩ := by
  simp only [unbook, bind_eq_ok_iff]
  apply exists_and_congr
  intro roster _
  cases roster.reservation? id with
  | none => simp [throw, throwThe, MonadExceptOf.throw]
  | some reservation =>
    simp only [Option.some.injEq, exists_eq_left', bind_eq_ok_iff]
    apply exists_and_congr
    intro phase _
    apply exists_and_congr
    intro mode _
    cases mode <;> exact pure_eq_ok_iff

end Registry

end Timetable
