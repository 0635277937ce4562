import Timetable.Proofs.Planner.Displacement
import Timetable.Proofs.Planner.FirstCome

/-!
# Why bookings are refused

There are eleven reasons to refuse a booking. They are looked for in a fixed order, and the first
that holds is told; a booking against which there is none is granted. The reasons are about all
reservations of the slot, in whatever order these are kept.
-/

set_option autoImplicit false

namespace Timetable

/-- The refusal of the first reason that holds, and `otherwise` if there is none. -/
def refuseFor {α : Type} : List (Bool × Refusal) → Except Refusal α → Except Refusal α
  | [], otherwise => otherwise
  | (holds, refusal) :: rest, otherwise =>
    if holds then .error refusal else refuseFor rest otherwise

/-- A reason that is looked for. -/
theorem refuseFor_cons {α : Type} {P : Prop} [Decidable P] (refusal : Refusal)
    (rest : List (Bool × Refusal)) (otherwise : Except Refusal α) :
    refuseFor ((decide P, refusal) :: rest) otherwise =
      if P then .error refusal else refuseFor rest otherwise := by
  rw [refuseFor]
  simp only [decide_eq_true_iff]

theorem refuseFor_append {α : Type} (reasons more : List (Bool × Refusal))
    (otherwise : Except Refusal α) :
    refuseFor (reasons ++ more) otherwise = refuseFor reasons (refuseFor more otherwise) := by
  induction reasons with
  | nil => rfl
  | cons reason reasons ih => rw [List.cons_append, refuseFor, refuseFor, ih]

theorem bind_refuseFor {α β : Type} (reasons : List (Bool × Refusal)) (x : Except Refusal α)
    (f : α → Except Refusal β) : refuseFor reasons x >>= f = refuseFor reasons (x >>= f) := by
  induction reasons with
  | nil => rfl
  | cons reason reasons ih =>
    obtain ⟨_ | _, refusal⟩ := reason
    · exact ih
    · rfl

/-- The user meets each of the criteria that are set. -/
def SlotFilter.MetBy (f : SlotFilter) (u : UserProfile) : Prop :=
  (∀ course ∈ f.courseId, course ∈ u.courses) ∧ ∀ cohort ∈ f.cohort, u.cohort = some cohort

theorem SlotFilter.admits_iff {f : SlotFilter} {u : UserProfile} :
    f.admits u = true ↔ f.MetBy u := by
  simp only [SlotFilter.admits, SlotFilter.MetBy, Bool.and_eq_true, Option.all_eq_true,
    UserProfile.attends, List.contains_iff_mem, beq_iff_eq, Option.mem_def]

-- Decided by the filter: what is found for the quantifier over courses may try them all.
instance (f : SlotFilter) (u : UserProfile) : Decidable (f.MetBy u) :=
  decidable_of_iff (f.admits u = true) SlotFilter.admits_iff

theorem isEligible_iff {u : UserProfile} {filters : List SlotFilter} :
    isEligible u filters = true ↔ ∃ f ∈ filters, f.MetBy u := by
  rw [isEligible, List.any_eq_true]
  exact exists_congr fun f => and_congr_right fun _ => SlotFilter.admits_iff

theorem Directory.id_profile (d : Directory) (user : UserId) : (d.profile user).id = user := by
  rw [profile]
  cases known : d.profile? user with
  | none => rfl
  | some u =>
    have found := List.find?_some known
    exact beq_iff_eq.1 found

namespace Registry.Booking

/-- How many days ahead it may reach: as far as students book for themselves, also where the student
runs the slot, and otherwise as far as supervisors do. -/
def reach (b : Booking) (rules : Rules) : Nat :=
  if b.student = b.reserver then rules.policy.studentDays else rules.policy.supervisorDays

/-- The reasons that a slot gives to refuse it. -/
def reasonsAt (b : Booking) (rules : Rules) (today : Date) (roster : Roster) :
    List (Bool × Refusal) :=
  [(b.student ≠ b.reserver ∧ (∀ s ∈ roster.supervisors, s.userId ≠ b.reserver) ∧
      ¬ (rules.directory.profile b.reserver).isSlotMaster,
      .forbidden "only supervisors of the slot may book for others"),
    (b.reach rules < today.daysUntil b.date, .tooFarInFuture (b.reach rules)),
    (∀ f ∈ roster.filters, ¬ f.MetBy (rules.directory.profile b.student),
      .noAccess b.slot b.student),
    (b.date.weekday ≠ roster.slot.weekday, .weekdayMismatch b.date roster.slot.weekday),
    (∃ x ∈ roster.reservations, x.date = b.date ∧ x.userId = b.student,
      .alreadyBooked b.slot b.date),
    (roster.slot.capacity.toNat ≤ roster.reservations.countP (·.date = b.date),
      .slotFull b.slot b.date roster.slot.capacity),
    (100000 ≤ roster.reservations.length, .limitExceeded "too many reservations on slot")]

/-- Who may book at all, and how far ahead. -/
theorem bound_eq (b : Booking) (rules : Rules) (roster : Roster) :
    bound rules b roster = refuseFor
      [(b.student ≠ b.reserver ∧ (∀ s ∈ roster.supervisors, s.userId ≠ b.reserver) ∧
          ¬ (rules.directory.profile b.reserver).isSlotMaster,
        .forbidden "only supervisors of the slot may book for others")] (.ok (b.reach rules)) := by
  have supervised : roster.isSupervisedBy (rules.directory.profile b.reserver) = true ↔
      ¬ ((∀ s ∈ roster.supervisors, s.userId ≠ b.reserver) ∧
        ¬ (rules.directory.profile b.reserver).isSlotMaster) := by
    rw [Roster.isSupervisedBy, Roster.hasSupervisor, Directory.id_profile, Bool.or_eq_true,
      List.any_eq_true, not_and_or, not_not, or_comm]
    simp
  rw [bound, Booking.isOnBehalf, reach, refuseFor_cons, refuseFor]
  by_cases self : b.student = b.reserver
  · simp [self]
  · by_cases runs : roster.isSupervisedBy (rules.directory.profile b.reserver) = true
    · rw [if_pos (bne_iff_ne.2 self), if_pos runs, if_neg fun h => supervised.1 runs h.2,
        if_neg self]
    · rw [if_pos (bne_iff_ne.2 self), if_neg runs, if_pos ⟨self, not_not.1 (supervised.not.1 runs)⟩]

/-- A seat is refused for the first reason that the slot gives. -/
theorem requireSeat_eq (b : Booking) (rules : Rules) (today : Date) {roster : Roster}
    (sorted : Reservation.Sorted roster.reservations) :
    requireSeat rules today b (rules.directory.profile b.student) roster =
      refuseFor (b.reasonsAt rules today roster) (.ok ()) := by
  have eligible : (!isEligible (rules.directory.profile b.student) roster.filters) = true ↔
      ∀ f ∈ roster.filters, ¬ f.MetBy (rules.directory.profile b.student) := by
    rw [Bool.not_eq_true', ← Bool.not_eq_true, isEligible_iff]
    simp
  have booked : (roster.bookedBy? b.date b.student).isSome = true ↔
      ∃ x ∈ roster.reservations, x.date = b.date ∧ x.userId = b.student := by
    rw [← Option.ne_none_iff_isSome, ne_eq, Roster.bookedBy?_eq_none_iff sorted]
    simp
  rw [requireSeat, bound_eq, bind_refuseFor, reasonsAt]
  simp only [refuseFor, decide_eq_true_iff, eligible, booked, Roster.countOn_eq sorted]
  exact if_congr Iff.rfl rfl rfl

/-- The reasons that count before the slot is looked for. -/
def reasonsBefore (b : Booking) (rules : Rules) (today : Date) : List (Bool × Refusal) :=
  [(b.date < today, .pastDate b.date),
    (∀ u ∈ rules.directory, u.id ≠ b.student, .unknownUser b.student)]

/-- What is decided on for a known student, once the rosters are held. -/
theorem bookHeld_eq (b : Booking) (rules : Rules) (today : Date) {r : Registry} (filed : r.Filed)
    (new : Ident) : (r.heldFor b >>= fun held =>
        r.bookHeld rules today b (rules.directory.profile b.student) held new) =
      match r.roster? b.slot with
      | none => .error (.notFound b.slot)
      | some roster => refuseFor (b.reasonsAt rules today roster) (.ok
          ⟨r.bookingEvents roster.slot (b.reservation new), b.reservation new,
            if b.isOnBehalf then [(b.student, new, .bookForced)] else []⟩) := by
  cases found : r.roster? b.slot with
  | none =>
    have missing : r.rosterOf b.slot = .error (.notFound b.slot) := by rw [rosterOf, found]
    rw [heldFor]
    split
    · simp only [missing]
      rfl
    · simp only [bookHeld, missing]
      rfl
  | some roster =>
    obtain ⟨held, holds⟩ := exists_heldFor_eq_ok found
    have there : r.rosterOf b.slot = .ok roster := rosterOf_eq_ok_iff.2 found
    have seat := b.requireSeat_eq rules today (filed _ roster found).sorted
    dsimp only
    rw [holds, ← bookingEvents_eq filed holds found new]
    show r.bookHeld rules today b _ held new = _
    rw [bookHeld, there]
    show requireSeat rules today b _ roster >>= _ = _
    rw [seat]
    exact bind_refuseFor ..

/-- A booking is decided on for the first reason that holds. -/
theorem book_eq (b : Booking) (rules : Rules) (now : Int) {r : Registry} (filed : r.Filed)
    (new : Ident) : r.book rules now b new = refuseFor (b.reasonsBefore rules (dateOf now))
      (match r.roster? b.slot with
      | none => .error (.notFound b.slot)
      | some roster => refuseFor (b.reasonsAt rules (dateOf now) roster) (.ok
          ⟨r.bookingEvents roster.slot (b.reservation new), b.reservation new,
            if b.isOnBehalf then [(b.student, new, .bookForced)] else []⟩)) := by
  have unknown : (∀ u ∈ rules.directory, u.id ≠ b.student) ↔
      rules.directory.profile? b.student = none := by
    rw [Directory.profile?, List.find?_eq_none]
    simp
  rw [← bookHeld_eq b rules (dateOf now) filed new]
  simp only [reasonsBefore, refuseFor, decide_eq_true_iff, unknown, book]
  split
  · rfl
  · rw [Directory.require, Directory.profile]
    cases rules.directory.profile? b.student with
    | none => rfl
    | some profile => rfl

end Registry.Booking

namespace Planner

variable {p q : Planner} {rules : Rules} {steps : List Step}

/-- The reasons against a booking, each with the refusal that tells it, in the order in which they
count. -/
def reasons (q : Planner) (rules : Rules) (now : Int) (b : Registry.Booking) :
    List (Bool × Refusal) :=
  b.reasonsBefore rules (dateOf now) ++
    match q.registry.roster? b.slot with
    | none => [(true, .notFound b.slot)]
    | some roster => b.reasonsAt rules (dateOf now) roster ++
      match (q.log.commit [q.registry.bookingEvents roster.slot
        (b.reservation (rules.ids q.drawn))]).1 with
      | .ok () => []
      | .error error => [(true, .storage error)]

theorem settle_refuseFor {α : Type} (p : Planner) (now : Int) (reasons : List (Bool × Refusal))
    (decision : Except Refusal (Change α)) :
    (p.settle now (refuseFor reasons decision)).1 =
      refuseFor reasons (p.settle now decision).1 := by
  induction reasons with
  | nil => rfl
  | cons reason reasons ih =>
    obtain ⟨_ | _, refusal⟩ := reason
    · exact ih
    · rfl

/-- The outcome of a change that writes something is that of the journal. -/
theorem settle_ok {α : Type} (p : Planner) (now : Int) {c : Change α} (some_event : c.events ≠ []) :
    (p.settle now (.ok c)).1 = match (p.log.commit [c.events]).1 with
      | .ok () => .ok c.answer
      | .error error => .error (.storage error) := by
  have settling := p.settling now (.ok c)
  generalize p.settle now (.ok c) = result at settling
  cases settling with
  | unwritten => exact absurd rfl some_event
  | denied _ commit => rw [commit]
  | taken _ commit => rw [commit]

/-- **A booking is answered with the first reason against it**, and granted if there is none, at any
moment of a run, whatever was in the journal at the start and on any disk. -/
theorem book_refused_for {disk : Journal.Disk} {hub : Hub} {counters : Counters} {drawn : Nat}
    (started : start disk hub counters drawn = .ok p) (ran : p.run rules steps = .ok q) (now : Int)
    (reserver : UserId) (slot : Ident) (date : Date) (student : UserId) :
    (q.book rules now reserver slot date student).1 =
      refuseFor (q.reasons rules now ⟨slot, date, student, reserver⟩)
        (.ok ⟨rules.ids q.drawn, slot, date, student, reserver⟩) := by
  obtain ⟨result, counters, settled, booked⟩ :=
    q.book_eq_settle rules now reserver slot date student
  rw [booked, settled, Registry.Booking.book_eq _ rules now (filed_of_start started ran),
    settle_refuseFor, reasons, refuseFor_append]
  dsimp only
  congr 1
  cases q.registry.roster? slot with
  | none => rfl
  | some roster =>
    rw [settle_refuseFor, refuseFor_append]
    rw [settle_ok _ now (List.append_ne_nil_of_right_ne_nil _ (List.cons_ne_nil _ _))]
    dsimp only
    cases (q.log.commit _).1 with
    | ok u => rfl
    | error error => rfl

/-! A student who has a seat already -/

set_option maxRecDepth 2000 in
theorem book_refused_for_alreadyBooked : ∃ q,
    opened.run .oneStudent ((Demand.displacing.take 6).map .request) = .ok q ∧
      (q.book .oneStudent 0 1 (.ofNat 0) .epoch 7).1 =
        .error (.alreadyBooked (.ofNat 0) .epoch) := by
  obtain ⟨q, ran, reason⟩ : ∃ q,
      opened.run .oneStudent ((Demand.displacing.take 6).map .request) = .ok q ∧
        refuseFor (q.reasons .oneStudent 0 ⟨.ofNat 0, .epoch, 7, 1⟩)
          (.ok (⟨Rules.oneStudent.ids q.drawn, .ofNat 0, .epoch, 7, 1⟩ : Reservation)) =
            .error (.alreadyBooked (.ofNat 0) .epoch) :=
    ⟨_, rfl, rfl⟩
  refine ⟨q, ran, ?_⟩
  rw [book_refused_for start_opened ran 0 1 (.ofNat 0) .epoch 7]
  exact reason

end Planner

end Timetable
