import Timetable.Proofs.Planner.Cut
import Timetable.Proofs.Planner.Turn

/-!
# Nobody is booked twice

The reservations of a slot on one date are its bucket for that date. No bucket has two reservations
of one user, none grows but by a booking into it that succeeds, and after such a booking it has no
more reservations than there are seats.

All of that is lost with a restart behind a refusal: what was refused may then be read from the
journal.
-/

set_option autoImplicit false

namespace Timetable

/-- No user has two reservations for one date. -/
def Roster.Single (roster : Roster) : Prop :=
  roster.reservations.Pairwise fun r s => r.date = s.date → r.userId ≠ s.userId

instance (roster : Roster) : Decidable roster.Single := by
  unfold Roster.Single
  infer_instance

/-- The reservations of a slot on one date; none where there is no such slot. -/
def Registry.bucket (r : Registry) (slot : Ident) (date : Date) : List Reservation :=
  ((r.roster? slot).map (·.reservationsOn date)).getD []

namespace Roster

variable {roster : Roster} {date : Date} {user : UserId}

theorem Single.thinned {before after : Roster} (single : before.Single)
    (thinned : before.Thinned after) : after.Single := single.sublist thinned.reservations

theorem Single.addReservation (single : roster.Single)
    (sorted : Reservation.Sorted roster.reservations) {s : Reservation}
    (new : roster.bookedBy? s.date s.userId = none) : (roster.addReservation s).Single := by
  have symm {r t : Reservation} (h : r.date = t.date → r.userId ≠ t.userId)
      (same : t.date = r.date) : t.userId ≠ r.userId := (h same.symm).symm
  refine ((Reservation.perm_insert s roster.reservations).pairwise_iff symm).2 ?_
  refine List.pairwise_cons.2 ⟨?_, single⟩
  intro t ht same
  exact ((bookedBy?_eq_none_iff sorted).1 new t ht same.symm).symm

/-- A seat that is free can be taken. -/
theorem HasSeat.countOn_le (seat : roster.HasSeat date user)
    (sorted : Reservation.Sorted roster.reservations) {s : Reservation} (on_date : s.date = date) :
    (roster.addReservation s).countOn date ≤ roster.slot.capacity.toNat := by
  rw [countOn_addReservation sorted, if_pos on_date]
  exact seat.free

end Roster

namespace Planner

variable {rules : Rules} {p q q' : Planner} {s : Step} {id : Ident} {before after : Option Roster}

/-! ## What a turn does to buckets -/

theorem Turn.single (turn : Turn rules q s id before after)
    (sorted : ∀ roster ∈ before, Reservation.Sorted roster.reservations)
    (single : ∀ roster ∈ before, roster.Single) : ∀ roster ∈ after, roster.Single := by
  rintro roster ⟨⟩
  cases turn with
  | thinned thinned => exact (single _ rfl).thinned thinned
  | created slot supervisors => exact List.Pairwise.nil
  | @updated before =>
    have unmoved : before.Single := single before rfl
    exact unmoved
  | booked asked answered seat => exact (single _ rfl).addReservation (sorted _ rfl) seat.new

/-- A bucket only grows by a booking into it. -/
theorem Turn.booked_of_lt (turn : Turn rules q s id before after)
    (sorted : ∀ roster ∈ before, Reservation.Sorted roster.reservations) {date : Date}
    (more : ((before.map (·.reservationsOn date)).getD []).length <
      ((after.map (·.reservationsOn date)).getD []).length) :
    ∃ now caller user reservation, s = .request ⟨now, caller, .bookReservation id date user⟩ ∧
      (q.book rules now caller id date (user.getD caller)).1 = .ok reservation := by
  cases turn with
  | absent => exact absurd more (Nat.lt_irrefl _)
  | thinned thinned =>
    exact absurd more (Nat.not_lt.2 (thinned.countOn_le (sorted _ rfl) date))
  | created slot supervisors => exact absurd more (Nat.lt_irrefl _)
  | deleted before => exact absurd more (Nat.not_lt_zero _)
  | updated asked answered takes => exact absurd more (Nat.lt_irrefl _)
  | @booked before now caller booked user reservation asked answered seat =>
    have grown := before.countOn_addReservation (sorted _ rfl)
      ⟨rules.ids q.drawn, id, booked, user.getD caller, caller⟩ date
    by_cases here : booked = date
    · subst here
      exact ⟨now, caller, user, reservation, asked, answered⟩
    · rw [if_neg here] at grown
      exact absurd more (Nat.not_lt.2 (Nat.le_of_eq grown))

/-- A booking that succeeds leaves no more reservations than seats. -/
theorem Stands.book_countOn_le (stands : q.Stands rules) {now : Int} {caller : UserId}
    {slot : Ident} {date : Date} {student : UserId} {reservation : Reservation}
    (answered : (q.book rules now caller slot date student).1 = .ok reservation) :
    ∃ roster, (q.book rules now caller slot date student).2.registry.roster? slot = some roster ∧
      roster.countOn date ≤ roster.slot.capacity.toNat := by
  have settled := (settled_book q rules now caller slot date student).1
  obtain ⟨c, decision, -, registry⟩ := settled.of_ok answered
  obtain ⟨roster, found, seat, booked⟩ := Registry.booked_of_book stands.wellFormed decision
  rw [registry]
  exact ⟨_, booked, seat.countOn_le (stands.wellFormed.roster slot roster found).sorted rfl⟩

/-! ## Histories -/

theorem History.single {steps : List Step} (h : History rules p steps q) (id : Ident) :
    ∀ roster ∈ q.registry.roster? id, roster.Single := by
  refine h.induction (P := fun _ q => ∀ roster ∈ q.registry.roster? id, roster.Single) ?_ ?_
  · intro first roster found
    rw [first.registry_eq_empty.1, Registry.roster?_empty] at found
    cases found
  · intro before s q q' h stepped h' single
    have sorted (roster : Roster) (found : roster ∈ q.registry.roster? id) :=
      (h.stands.1.wellFormed.roster id roster found).sorted
    exact (h.turn h' id).single sorted single

/-- **At every moment of a history nobody is booked twice** for one date of a slot; a booking that
succeeds leaves no more reservations in its bucket than there are seats; and of all further steps
only such a booking makes a bucket grow, and no bucket but its own. -/
theorem buckets_of_history {steps : List Step} (h : History rules p steps q) :
    (∀ id roster, q.registry.roster? id = some roster → roster.Single) ∧
    (∀ now caller slot date student reservation,
      (q.book rules now caller slot date student).1 = .ok reservation →
      ∃ roster, (q.book rules now caller slot date student).2.registry.roster? slot = some roster ∧
        roster.countOn date ≤ roster.slot.capacity.toNat) ∧
    ∀ s q', History rules p (steps ++ [s]) q' → ∀ slot date,
      (q.registry.bucket slot date).length < (q'.registry.bucket slot date).length →
      ∃ now caller user reservation, s = .request ⟨now, caller, .bookReservation slot date user⟩ ∧
        (q.book rules now caller slot date (user.getD caller)).1 = .ok reservation := by
  refine ⟨fun id => h.single id, fun _ _ _ _ _ _ => h.stands.1.book_countOn_le, ?_⟩
  intro s q' h' slot date
  exact (h.turn h' slot).booked_of_lt fun roster found =>
    (h.stands.1.wellFormed.roster slot roster found).sorted

/-- A run in which a booking displaces another one, and which then goes on after a restart. -/
theorem buckets_of_history_displacing : ∃ q,
    History .oneStudent opened (Demand.displacing.map .request ++ [.compact, .restart]) q ∧
      ∀ id roster, q.registry.roster? id = some roster → roster.Single := by
  obtain ⟨q, h⟩ := History.of_works (Demand.displacing.map .request ++ [.compact, .restart])
    (d := .empty) (fun _ _ => rfl) (.inl rfl) (by decide) start_opened
    (Rules.freshBelow_oneStudent (by decide))
  exact ⟨q, h, (buckets_of_history h).1⟩

/-- A student is booked, which is refused, and is booked again. -/
def bookedAgain : List Step := [
  .request ⟨0, 1, .createSlot 1 1 .thursday "101" 5⟩,
  .request ⟨0, 1, .addSlotFilter (.ofNat 0) none (some "1a")⟩,
  .request ⟨0, 7, .bookReservation (.ofNat 0) .epoch none⟩,
  .request ⟨0, 7, .bookReservation (.ofNat 0) .epoch none⟩]

/-- What is in the journal then: the booking that was refused as well as the other one. -/
def bothBookings : List Event := [
  .slotCreated ⟨.ofNat 0, 1, 1, .thursday, "101", 5⟩ [⟨.ofNat 1, .ofNat 0, 1⟩],
  .filterAdded ⟨.ofNat 2, .ofNat 0, none, some "1a"⟩,
  .reservationBooked ⟨.ofNat 3, .ofNat 0, .epoch, 7, 7⟩,
  .reservationBooked ⟨.ofNat 4, .ofNat 0, .epoch, 7, 7⟩]

set_option maxRecDepth 2000 in
theorem single_lost_by_restart : Rules.oneStudent.FreshBelow (Step.drawsAll bookedAgain) ∧
    ∃ p q q' roster, start (.failingAt 5) .empty [] 0 = .ok p ∧
      p.run .oneStudent bookedAgain = .ok q ∧ q.restart = .ok q' ∧
      q'.registry.roster? (.ofNat 0) = some roster ∧ ¬ roster.Single := by
  refine ⟨Rules.freshBelow_oneStudent (by decide), _, _, _, _, rfl, rfl,
    restart_of_records bothBookings ?_ ?_ rfl, rfl, ?_⟩
  · decide +kernel
  · decide +kernel
  · decide +kernel

end Planner

end Timetable
