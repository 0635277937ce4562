import Timetable.Proofs.Planner.Removals
import Timetable.Proofs.Planner.WellKept

/-!
# Displacement

Whoever books somebody else puts the student into one slot and takes the student out of all others
at the same time. Nothing else of any slot is touched, and the journal gets the cancellations and
then the booking as one transaction. Who books for himself takes nothing from anybody.
-/

set_option autoImplicit false

namespace Timetable

/-! ## What a booking cancels -/

namespace Roster

/-- The reservations of a student for a date. -/
def ofStudent (roster : Roster) (date : Date) (student : UserId) : List Reservation :=
  roster.reservations.filter fun x => x.date = date ∧ x.userId = student

/-- The student gives up what is reserved for a date. -/
def withoutStudent (roster : Roster) (date : Date) (student : UserId) : Roster :=
  { roster with reservations :=
      roster.reservations.filter fun x => ¬ (x.date = date ∧ x.userId = student) }

theorem ofStudent_withoutStudent (roster : Roster) (date : Date) (student : UserId) :
    (roster.withoutStudent date student).ofStudent date student = [] := by
  refine List.filter_eq_nil_iff.2 fun x mem => ?_
  have given_up := of_decide_eq_true (List.mem_filter.1 mem).2
  exact fun there => given_up (of_decide_eq_true there)

/-- Among reservations in order of date those of a student are found on the date. -/
theorem filter_reservationsOn {roster : Roster} (sorted : Reservation.Sorted roster.reservations)
    (date : Date) (student : UserId) :
    (roster.reservationsOn date).filter (·.userId == student) = roster.ofStudent date student := by
  rw [reservationsOn, sorted.onDate_eq_filter, List.filter_filter, ofStudent]
  refine List.filter_congr fun x _ => ?_
  rw [Bool.eq_iff_iff, Bool.and_eq_true, decide_eq_true_iff, decide_eq_true_iff, beq_iff_eq,
    and_comm]

/-- A student who has nothing on the date has the new reservation and no other. -/
theorem ofStudent_addReservation {roster : Roster} {x : Reservation}
    (none_there : roster.ofStudent x.date x.userId = []) :
    (roster.addReservation x).ofStudent x.date x.userId = [x] := by
  refine List.perm_singleton.1 ?_
  have inserted := (Reservation.perm_insert x roster.reservations).filter fun y =>
    decide (y.date = x.date ∧ y.userId = x.userId)
  rw [List.filter_cons_of_pos (by simp)] at inserted
  exact inserted.trans (List.Perm.cons x (.of_eq none_there))

end Roster

namespace Registry

variable {r : Registry} {id : Ident} {b : Booking} {held : List Ident} {target : Roster}

/-- The other slots at the time of a slot, in order of id. -/
def rivals (r : Registry) (slot : Slot) : List Roster :=
  r.rosterList.filter fun other => other.slot.id ≠ slot.id ∧ other.slot.overlaps slot

/-- The cancellations of what a student has in other slots at the time of a slot. -/
def cancellations (r : Registry) (slot : Slot) (date : Date) (student : UserId) : List Event :=
  (r.rivals slot).flatMap fun other =>
    (other.ofStudent date student).map fun x => .reservationCancelled x.id other.slot.id

/-- What is written to the journal when `x` is booked. -/
def bookingEvents (r : Registry) (slot : Slot) (x : Reservation) : List Event :=
  (if x.userId = x.reserverId then [] else r.cancellations slot x.date x.userId) ++
    [.reservationBooked x]

/-- The slots are looked up by id that were found by weekday. Those that overlap are among them. -/
theorem displacedFrom_eq (filed : r.Filed) (holds : r.heldFor b = .ok held)
    (on_behalf : b.isOnBehalf = true) (found : r.roster? b.slot = some target) :
    r.displacedFrom b target.slot held = r.cancellations target.slot b.date b.student := by
  rw [heldFor, if_pos on_behalf] at holds
  simp only [bind_eq_ok_iff, rosterOf_eq_ok_iff, pure_eq_ok_iff] at holds
  obtain ⟨target', found', rfl⟩ := holds
  cases found.symm.trans found'
  rw [displacedFrom, if_pos on_behalf, cancellations, rivals, rosterList,
    (filed _ target found).slot_id]
  have listed : ∀ e ∈ r.rosters.toList, r.roster? e.1 = some e.2 := fun e => mem_toList_iff.1
  generalize r.rosters.toList = listing at listed
  induction listing with
  | nil => rfl
  | cons e rest ih =>
    obtain ⟨id, other⟩ := e
    have there : r.roster? id = some other := listed (id, other) List.mem_cons_self
    obtain ⟨rfl, -, sorted⟩ := filed id other there
    have rest_eq := ih fun e mem => listed e (List.mem_cons_of_mem _ mem)
    by_cases elsewhere : other.slot.id = b.slot
    · simpa [elsewhere] using rest_eq
    · by_cases overlaps : other.slot.overlaps target.slot = true
      · have same_day := Slot.weekday_eq_of_overlaps overlaps
        simpa [elsewhere, overlaps, same_day, there, displaced,
          Roster.filter_reservationsOn sorted] using rest_eq
      · -- on the same weekday it is among the slots that are held, but nothing is displaced
        by_cases same_day : other.slot.weekday = target.slot.weekday
        · simpa [elsewhere, overlaps, same_day, there, displaced] using rest_eq
        · simpa [elsewhere, overlaps, same_day] using rest_eq

/-- The ids of the reservations of each slot are different. -/
def Distinct (r : Registry) : Prop :=
  ∀ id roster, r.roster? id = some roster → (roster.reservations.map (·.id)).Nodup

/-- What becomes of a roster when a student gives up what overlaps in the slots that are held. -/
theorem roster?_applyAll_displacedFrom_eq (filed : r.Filed) (distinct : r.Distinct)
    (on_behalf : b.isOnBehalf = true) (s : Slot) (held : List Ident) :
    (r.applyAll (r.displacedFrom b s held)).roster? id = (r.roster? id).map fun other =>
      if id ∈ held ∧ id ≠ b.slot ∧ other.slot.overlaps s then other.withoutStudent b.date b.student
      else other := by
  cases there : r.roster? id with
  | none =>
    refine roster?_applyAll_of_quiet (fun e mem => ?_) there
    obtain ⟨-, _, -, -, _, -, -, x, -, -, rfl⟩ := mem_displacedFrom_iff.1 mem
    rfl
  | some other =>
    rw [Option.map_some]
    split
    · rename_i reached
      obtain ⟨kept, left, -, -, exact_of⟩ :=
        roster?_applyAll_displacedFrom_of_reached filed there ⟨on_behalf, reached⟩
      rw [left, exact_of (distinct id other there)]
      rfl
    · rename_i spared
      exact roster?_applyAll_displacedFrom_of_not_reached filed there fun reached =>
        spared reached.2

/-- What becomes of a roster whose student is booked elsewhere at the same time. -/
theorem roster?_applyAll_cancellations (filed : r.Filed) (distinct : r.Distinct)
    (holds : r.heldFor b = .ok held) (on_behalf : b.isOnBehalf = true)
    (found : r.roster? b.slot = some target) (elsewhere : id ≠ b.slot) :
    (r.applyAll (r.displacedFrom b target.slot held)).roster? id =
      (r.roster? id).map fun other =>
        if other.slot.overlaps target.slot then other.withoutStudent b.date b.student
        else other := by
  rw [roster?_applyAll_displacedFrom_eq filed distinct on_behalf]
  cases there : r.roster? id with
  | none => rfl
  | some other =>
    have reached : (id ∈ held ∧ id ≠ b.slot ∧ other.slot.overlaps target.slot = true) ↔
        other.slot.overlaps target.slot = true := by
      refine ⟨fun reached => reached.2.2, fun overlaps => ⟨?_, elsewhere, overlaps⟩⟩
      have same_day := Slot.weekday_eq_of_overlaps overlaps
      exact mem_of_heldFor holds on_behalf found there same_day
    simp only [Option.map_some, reached]

/-- The reservation that a booking makes. -/
def Booking.reservation (b : Booking) (id : Ident) : Reservation :=
  ⟨id, b.slot, b.date, b.student, b.reserver⟩

/-- What is displaced from the slots that are held, and then the booking. -/
theorem bookingEvents_eq (filed : r.Filed) (holds : r.heldFor b = .ok held)
    (found : r.roster? b.slot = some target) (new : Ident) :
    r.displacedFrom b target.slot held ++ [.reservationBooked (b.reservation new)] =
      r.bookingEvents target.slot (b.reservation new) := by
  dsimp only [bookingEvents, Booking.reservation]
  congr 1
  split
  · rename_i self
    rw [displacedFrom, Booking.isOnBehalf, self, bne_self_eq_false]
    rfl
  · rename_i other
    exact displacedFrom_eq filed holds (bne_iff_ne.2 other) found

/-- What is decided on when a booking is granted: the student has nothing in the slot on that
date, and the cancellations come before the booking. -/
theorem granted_of_book {rules : Rules} {now : Int} {new : Ident} {c : Change Reservation}
    (filed : r.Filed) (h : r.book rules now b new = .ok c) :
    ∃ target held, r.roster? b.slot = some target ∧ r.heldFor b = .ok held ∧
      target.ofStudent b.date b.student = [] ∧ c.answer = b.reservation new ∧
      c.events = r.displacedFrom b target.slot held ++ [.reservationBooked (b.reservation new)] ∧
      c.events = r.bookingEvents target.slot (b.reservation new) := by
  obtain ⟨-, profile, -, held, holds, h⟩ := book_eq_ok_iff.1 h
  obtain ⟨target, found, seat, rfl⟩ := bookHeld_eq_ok_iff.1 h
  obtain ⟨-, -, -, -, -, not_booked, -⟩ := requireSeat_eq_ok_iff.1 seat
  have sorted := (filed b.slot target found).sorted
  refine ⟨target, held, found, holds, ?_, rfl, rfl, bookingEvents_eq filed holds found new⟩
  refine List.filter_eq_nil_iff.2 fun x mem there => ?_
  obtain ⟨on_date, by_student⟩ := of_decide_eq_true there
  exact (Roster.bookedBy?_eq_none_iff sorted).1 not_booked x mem on_date by_student

/-- What becomes of the slot that is booked. -/
theorem roster?_applyAll_booked_self (filed : r.Filed) (found : r.roster? b.slot = some target)
    (held : List Ident) (new : Ident) : (r.applyAll (r.displacedFrom b target.slot held ++
        [.reservationBooked (b.reservation new)])).roster? b.slot =
      some (target.addReservation (b.reservation new)) := by
  have spared : (r.applyAll (r.displacedFrom b target.slot held)).roster? b.slot = some target :=
    roster?_applyAll_displacedFrom_of_not_reached filed found fun reached => reached.2.2.1 rfl
  rw [applyAll_append, applyAll_singleton, roster?_apply, spared]
  exact if_pos rfl

/-- What becomes of the other slots. -/
theorem roster?_applyAll_booked_other (filed : r.Filed)
    (distinct : b.student ≠ b.reserver → r.Distinct) (holds : r.heldFor b = .ok held)
    (found : r.roster? b.slot = some target) (new : Ident) (elsewhere : id ≠ b.slot) :
    (r.applyAll (r.displacedFrom b target.slot held ++
        [.reservationBooked (b.reservation new)])).roster? id =
      (r.roster? id).map fun other =>
        if b.student ≠ b.reserver ∧ other.slot.overlaps target.slot then
          other.withoutStudent b.date b.student
        else other := by
  have passes : (Event.reservationBooked (b.reservation new)).slotId ≠ id := elsewhere.symm
  rw [applyAll_append, applyAll_singleton, roster?_apply, if_neg passes]
  by_cases other : b.student ≠ b.reserver
  · rw [roster?_applyAll_cancellations filed (distinct other) holds (bne_iff_ne.2 other) found
      elsewhere]
    simp only [other, true_and, ne_eq, not_false_eq_true]
  · have self : b.isOnBehalf = false := bne_eq_false_iff_eq.2 (not_not.1 other)
    simp [displacedFrom, self, other, applyAll]

end Registry

namespace Planner

variable {p q : Planner} {rules : Rules} {now : Int} {reserver student : UserId} {slot : Ident}
  {date : Date} {x : Reservation} {steps : List Step}

/-- A booking that is granted has been decided on, and the journal has taken its transaction. -/
theorem taken_of_book (booked : (q.book rules now reserver slot date student).1 = .ok x) :
    ∃ c, q.registry.book rules now ⟨slot, date, student, reserver⟩ (rules.ids q.drawn) = .ok c ∧
      c.answer = x ∧
      q.log.commit [c.events] = (.ok (), (q.book rules now reserver slot date student).2.log) ∧
      (q.book rules now reserver slot date student).2.registry = q.registry.applyAll c.events := by
  obtain ⟨result, counters, settled, eq⟩ := q.book_eq_settle rules now reserver slot date student
  rw [eq] at booked ⊢
  dsimp only at booked ⊢
  have settling := settling { q with drawn := q.drawn + 1 } now
    (q.registry.book rules now ⟨slot, date, student, reserver⟩ (rules.ids q.drawn))
  rw [← settled] at settling
  generalize decision : q.registry.book rules now _ _ = decided at settling
  cases settling with
  | refused | denied => cases booked
  | unwritten answer notices =>
    obtain ⟨-, _, -, held, -, decision⟩ := Registry.book_eq_ok_iff.1 decision
    obtain ⟨_, -, -, change⟩ := Registry.bookHeld_eq_ok_iff.1 decision
    have none_written := congrArg Change.events change
    exact absurd none_written.symm (List.append_ne_nil_of_right_ne_nil _ (List.cons_ne_nil _ _))
  | taken some_event commit => exact ⟨_, rfl, Except.ok.inj booked, commit, rfl⟩

theorem History.distinct (h : History rules p steps q) : q.registry.Distinct :=
  fun _ _ there => h.nodup there

/-- **What a booking that is granted changes**, at any moment of a run, whatever was in the journal
at the start and on any disk. The slot gets one reservation more. If a supervisor books, the student
loses what is reserved for the date in the other slots that overlap, which is exact where the
reservations of a slot have different ids, as in every history. Nothing else of any slot changes,
and nothing at all of the other slots if the student books. The journal takes the cancellations and
then the booking as one transaction. The student whom a supervisor has booked has exactly one
reservation for the date in the slot and all that overlap it. -/
theorem book_displaces {disk : Journal.Disk} {hub : Hub} {counters : Counters} {drawn : Nat}
    (started : start disk hub counters drawn = .ok p) (ran : p.run rules steps = .ok q)
    (distinct : student ≠ reserver → History rules p steps q ∨ q.registry.Distinct)
    (booked : (q.book rules now reserver slot date student).1 = .ok x) :
    ∃ target after, q.registry.roster? slot = some target ∧
      (q.book rules now reserver slot date student).2 = after ∧
      x = ⟨rules.ids q.drawn, slot, date, student, reserver⟩ ∧
      (∃ front back, target.reservations = front ++ back ∧
        after.registry.roster? slot = some { target with reservations := front ++ x :: back }) ∧
      (∀ id ≠ slot, after.registry.roster? id = (q.registry.roster? id).map fun other =>
        if student ≠ reserver ∧ other.slot.overlaps target.slot then
          other.withoutStudent date student
        else other) ∧
      q.log.commit [q.registry.bookingEvents target.slot x] = (.ok (), after.log) ∧
      (∀ bytes, q.log.Holds bytes → after.log.disk.log =
        .file (bytes ++ Journal.records (q.registry.bookingEvents target.slot x))) ∧
      (student ≠ reserver → ∀ id other, after.registry.roster? id = some other →
        id = slot ∨ other.slot.overlaps target.slot →
        other.ofStudent date student = if id = slot then [x] else []) := by
  have filed := filed_of_start started ran
  have distinct (other : student ≠ reserver) : q.registry.Distinct :=
    (distinct other).elim History.distinct id
  obtain ⟨c, decision, rfl, commit, registry⟩ := taken_of_book booked
  obtain ⟨target, held, found, holds, none_there, answer, events, transaction⟩ :=
    Registry.granted_of_book filed decision
  rw [answer]
  have at_slot := Registry.roster?_applyAll_booked_self filed found held (rules.ids q.drawn)
  have at_others (id : Ident) (elsewhere : id ≠ slot) :=
    Registry.roster?_applyAll_booked_other filed distinct holds found (rules.ids q.drawn) elsewhere
  rw [← events, ← registry] at at_slot
  simp only [← events, ← registry] at at_others
  rw [transaction] at commit
  refine ⟨target, _, found, rfl, rfl, ?_, at_others, commit, ?_, ?_⟩
  · exact ⟨_, _, List.takeWhile_append_dropWhile.symm, at_slot⟩
  · intro bytes taken
    obtain ⟨n, taken', -, whole, -⟩ := Journal.Log.commit_spec taken [_]
    rw [commit] at taken' whole
    obtain ⟨all, none_waits⟩ := whole rfl
    rw [all, List.flatten_singleton] at taken'
    exact taken'.log_eq none_waits
  · intro other id roster there at_time
    by_cases here : id = slot
    · subst here
      cases at_slot.symm.trans there
      rw [if_pos rfl]
      exact Roster.ofStudent_addReservation (x := Registry.Booking.reservation _ _) none_there
    · rw [if_neg here]
      rw [at_others id here] at there
      obtain ⟨before, -, rfl⟩ := Option.map_eq_some_iff.1 there
      by_cases displaced : student ≠ reserver ∧ before.slot.overlaps target.slot = true
      · rw [if_pos displaced]
        exact before.ofStudent_withoutStudent date student
      · rw [if_neg displaced] at at_time
        exact absurd ⟨other, at_time.resolve_left here⟩ displaced

/-! A supervisor books a student who is booked at the same time -/

set_option maxRecDepth 2000 in
theorem book_displaces_displacing : ∃ q x target after,
    opened.run .oneStudent ((Demand.displacing.take 6).map .request) = .ok q ∧
      (q.book .oneStudent 0 1 (.ofNat 2) .epoch 7).1 = .ok x ∧
      q.registry.roster? (.ofNat 2) = some target ∧
      (q.book .oneStudent 0 1 (.ofNat 2) .epoch 7).2 = after ∧
      ∀ id other, after.registry.roster? id = some other →
        id = .ofNat 2 ∨ other.slot.overlaps target.slot →
        other.ofStudent .epoch 7 = if id = .ofNat 2 then [x] else [] := by
  obtain ⟨q, x, ran, booked⟩ : ∃ q x,
      opened.run .oneStudent ((Demand.displacing.take 6).map .request) = .ok q ∧
        (q.book .oneStudent 0 1 (.ofNat 2) .epoch 7).1 = .ok x :=
    ⟨_, _, rfl, rfl⟩
  obtain ⟨q', h⟩ := History.of_works ((Demand.displacing.take 6).map .request) (d := .empty)
    (fun _ _ => rfl) (.inl rfl) (by decide) start_opened (Rules.freshBelow_oneStudent (by decide))
  cases ran.symm.trans h.ran
  obtain ⟨target, after, found, same, -, -, -, -, -, exactly⟩ :=
    book_displaces start_opened ran (fun _ => .inl h) booked
  exact ⟨q, x, target, after, ran, booked, found, same, exactly (by decide)⟩

end Planner

end Timetable
