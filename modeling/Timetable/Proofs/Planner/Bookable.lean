import Timetable.Proofs.Planner.FirstCome
import Timetable.Proofs.Planner.Removals
import Timetable.Proofs.Registry.Listed

/-!
# What is listed can be booked

A student is shown the slots that are open to the student within the next few days. A booking for the
session that comes next of such a slot can be refused only for want of a seat, and the record of the
slot tells whether there is one. The same is true of the slots into which a supervisor could book a
student.
-/

set_option autoImplicit false

namespace Timetable.Planner

variable {rules : Rules} {p q : Planner} {steps : List Step} {now : Int} {roster : Roster}
  {info : SlotInfo} {student caller : UserId} {profile : UserProfile}

/-- A booking that can be refused only for want of a seat is answered as the roster responds,
unless the disk fails. -/
theorem book_of_admissible {b : Registry.Booking} (found : q.registry.roster? b.slot = some roster)
    (admissible : Registry.Admissible rules (dateOf now) b roster)
    (room : roster.respond b.slot b.date b.student = .ok () →
      roster.reservations.length < maxReservations) :
    (q.book rules now b.reserver b.slot b.date b.student).1 =
        (roster.respond b.slot b.date b.student).map
          (fun _ => ⟨rules.ids q.drawn, b.slot, b.date, b.student, b.reserver⟩) ∨
      roster.respond b.slot b.date b.student = .ok () ∧ ¬ q.log.disk.Works ∧
        ∃ e, (q.book rules now b.reserver b.slot b.date b.student).1 = .error (.storage e) := by
  obtain ⟨held, decision⟩ := Registry.book_of_admissible (rules.ids q.drawn) found admissible room
  obtain ⟨settled, -⟩ := q.settled_book rules now b.reserver b.slot b.date b.student
  change q.Settled (q.registry.book rules now b (rules.ids q.drawn)) _ at settled
  rw [decision] at settled
  obtain ⟨⟨some_event, denied⟩, stored, -⟩ | ⟨answered, -⟩ := settled
  · refine .inr ⟨?_, fun works => denied (Journal.Log.commit_ok_of_works works _).1, stored⟩
    cases respond : roster.respond b.slot b.date b.student with
    | ok u => rfl
    | error refusal =>
      rw [respond] at some_event
      exact absurd rfl some_event
  · rw [answered]
    cases roster.respond b.slot b.date b.student <;> exact .inl rfl

/-- The student is booked for the session that comes next as the record of the slot tells: who is
booked already is told so, otherwise the slot is full if as many are booked as there are seats, and
otherwise the student gets a seat, unless a limit is reached or the disk fails. -/
structure AnsweredAsListed (q : Planner) (rules : Rules) (now : Int) (info : SlotInfo)
    (student caller : UserId) (roster : Roster) (next : Date) : Prop where
  found : q.registry.roster? info.slot.id = some roster
  slot : info.slot = roster.slot
  fullness : info.fullness = roster.countOn next
  next_found : info.slot.nextDate rules.bells now = .ok next
  is_next : info.slot.IsNext rules.bells now next
  booked : student ∈ roster.usersOn next →
    (q.book rules now caller info.slot.id next student).1 =
      .error (.alreadyBooked info.slot.id next)
  full : student ∉ roster.usersOn next → info.slot.capacity.toNat ≤ info.fullness →
    (q.book rules now caller info.slot.id next student).1 =
      .error (.slotFull info.slot.id next info.slot.capacity)
  free : student ∉ roster.usersOn next → info.fullness < info.slot.capacity.toNat →
    roster.reservations.length < maxReservations →
      (∃ r : Reservation, (q.book rules now caller info.slot.id next student).1 = .ok r ∧
        r.slotId = info.slot.id ∧ r.date = next ∧ r.userId = student ∧ r.reserverId = caller) ∨
      ¬ q.log.disk.Works ∧
        ∃ e, (q.book rules now caller info.slot.id next student).1 = .error (.storage e)

/-- What may be booked is answered as it is listed. -/
theorem answeredAsListed (filed : q.registry.Filed) (fits : q.registry.Fits rules.bells)
    (dated : Dated now) {id : Ident} {viewer : UserId} (found : q.registry.roster? id = some roster)
    (told : roster.info rules.bells now viewer = .ok info)
    (known : rules.directory.profile? student = some profile)
    (eligible : isEligible profile roster.filters = true)
    (ahead : ∀ next, roster.slot.nextDate rules.bells now = .ok next → ∃ days,
      Registry.bound rules ⟨info.slot.id, next, student, caller⟩ roster = .ok days ∧
        (dateOf now).daysUntil next ≤ days) :
    ∃ next, q.AnsweredAsListed rules now info student caller roster next := by
  obtain ⟨same, next, next_found, fullness⟩ := Roster.of_info_eq_ok told
  have valid := fits id roster found
  obtain rfl := (filed id roster found).slot_id
  rw [← same] at found valid ahead
  have is_next := Slot.isNext_of_nextDate valid dated next_found
  have admissible :
      Registry.Admissible rules (dateOf now) ⟨info.slot.id, next, student, caller⟩ roster :=
    ⟨Int.not_lt.2 is_next.not_past, ahead next next_found, same ▸ is_next.weekday, profile, known,
      eligible⟩
  have answers := book_of_admissible (q := q) found admissible
  rw [Roster.respond, ← same, ← fullness] at answers
  refine ⟨next, found, same, fullness, next_found, is_next, fun there => ?_,
    fun new none_left => ?_, fun new left room => ?_⟩
  · rw [if_pos there] at answers
    obtain answered | ⟨⟨⟩, -⟩ := answers (by rintro ⟨⟩)
    exact answered
  · rw [if_neg new, if_pos none_left] at answers
    obtain answered | ⟨⟨⟩, -⟩ := answers (by rintro ⟨⟩)
    exact answered
  · rw [if_neg new, if_neg (Nat.not_le.2 left)] at answers
    obtain answered | ⟨-, failed⟩ := answers fun _ => room
    · exact .inl ⟨_, answered, rfl, rfl, rfl, rfl⟩
    · exact .inr failed

/-- How far ahead a supervisor may book somebody else. -/
theorem bound_supervised {b : Registry.Booking} (other : b.reserver ≠ b.student)
    (supervised : roster.isSupervisedBy (rules.directory.profile b.reserver) = true) :
    Registry.bound rules b roster = .ok rules.policy.supervisorDays := by
  have on_behalf : b.isOnBehalf = true := bne_iff_ne.2 (Ne.symm other)
  rw [Registry.bound, if_pos on_behalf, if_pos supervised]

/-- A student is shown just the slots that admit the student and have a session within the days
that are listed which has not started yet. -/
theorem listed_iff (filed : q.registry.Filed) (fits : q.registry.Fits rules.bells)
    (dated : Dated now) {days : Nat} {viewer : UserId} (id : Ident) :
    (∃ info, (∃ id roster, q.registry.roster? id = some roster ∧
        (Listing.bookable profile days).shows rules.bells now roster = .ok true ∧
        roster.info rules.bells now viewer = .ok info) ∧ info.slot.id = id) ↔
      ∃ roster, q.registry.roster? id = some roster ∧ isEligible profile roster.filters = true ∧
        ∃ date : Date, date.weekday = roster.slot.weekday ∧ dateOf now ≤ date ∧
          (dateOf now).daysUntil date ≤ days ∧ roster.slot.IsAhead rules.bells now date := by
  constructor
  · rintro ⟨info, ⟨id, roster, found, shown, told⟩, rfl⟩
    obtain ⟨next, next_found, is_next⟩ := Slot.nextDate_spec (fits id roster found) dated
    obtain ⟨eligible, near⟩ := (Listing.shows_bookable_iff next_found).1 shown
    rw [(Roster.of_info_eq_ok told).1, (filed id roster found).slot_id]
    exact ⟨roster, found, eligible, next, is_next.weekday, is_next.not_past, near, is_next.ahead⟩
  · rintro ⟨roster, found, eligible, date, on_day, -, near, ahead⟩
    have valid := fits id roster found
    obtain ⟨next, next_found, is_next⟩ := Slot.nextDate_spec valid dated
    obtain ⟨info, told⟩ := Roster.exists_info_eq_ok valid dated viewer
    -- The next session does not come after this one, so it is within the days too.
    have first := is_next.first date on_day ahead
    have shown := (Listing.shows_bookable_iff next_found).2
      ⟨eligible, Int.le_trans (Int.sub_le_sub_right first _) near⟩
    refine ⟨info, ⟨id, roster, found, shown, told⟩, ?_⟩
    rw [(Roster.of_info_eq_ok told).1, (filed id roster found).slot_id]

/-- **What is listed can be booked**, at every moment of a run at which the slots fit the bell
schedule, as they do in a history. A student is shown just the slots that admit the student and have a
session within the days that are listed which has not started yet. Where students may book as far
ahead as is listed, those who book for themselves the next session of a slot that is listed are
answered as the record of the slot tells, and so are supervisors who book a student into one of the
slots that they are shown for the student. -/
theorem bookable_as_listed {disk : Journal.Disk} {hub : Hub} {counters : Counters} {drawn : Nat}
    (started : start disk hub counters drawn = .ok p) (ran : p.run rules steps = .ok q)
    (fitting : q.registry.Fits rules.bells ∨ History rules p steps q) (dated : Dated now)
    (known : rules.directory.profile? student = some profile) :
    (∃ infos, q.registry.mySlots rules now student = .ok infos ∧
      (∀ id, (∃ info ∈ infos, info.slot.id = id) ↔
        ∃ roster, q.registry.roster? id = some roster ∧ isEligible profile roster.filters = true ∧
          ∃ date : Date, date.weekday = roster.slot.weekday ∧ dateOf now ≤ date ∧
            (dateOf now).daysUntil date ≤ rules.policy.listingDays ∧
            roster.slot.IsAhead rules.bells now date) ∧
      (rules.policy.listingDays ≤ rules.policy.studentDays → ∀ info ∈ infos, ∃ roster next,
        q.AnsweredAsListed rules now info student student roster next)) ∧
    ∀ supervisor, supervisor ≠ student →
      ∃ infos, q.registry.studentSlots rules now supervisor student = .ok infos ∧
        ∀ info ∈ infos, ∃ roster next,
          q.AnsweredAsListed rules now info student supervisor roster next := by
  have fits : q.registry.Fits rules.bells := fitting.elim id History.fits
  have filed := filed_of_start started ran
  have required : rules.directory.require student = .ok profile := by
    rw [Directory.require, known]
  constructor
  · obtain ⟨infos, listed, mem_iff⟩ := Registry.list_spec fits dated
      (.bookable profile rules.policy.listingDays) student
    refine ⟨infos, ?_, fun id => ?_, fun further info mem => ?_⟩
    · rw [Registry.mySlots, required]
      exact listed
    · simp only [mem_iff]
      exact listed_iff filed fits dated id
    · obtain ⟨id, roster, found, shown, told⟩ := (mem_iff info).1 mem
      refine ⟨roster, answeredAsListed filed fits dated found told known ?_ ?_⟩
      · obtain ⟨next, next_found, -⟩ := Slot.nextDate_spec (fits id roster found) dated
        exact ((Listing.shows_bookable_iff next_found).1 shown).1
      · intro next next_found
        obtain ⟨-, near⟩ := (Listing.shows_bookable_iff next_found).1 shown
        exact ⟨_, Registry.bound_self .., Int.le_trans near (Int.ofNat_le.2 further)⟩
  · intro supervisor other
    obtain ⟨infos, listed, mem_iff⟩ := Registry.list_spec fits dated
      (.bookableBy (rules.directory.profile supervisor) profile rules.policy.supervisorDays) student
    refine ⟨infos, ?_, fun info mem => ?_⟩
    · rw [Registry.studentSlots, required]
      exact listed
    · obtain ⟨id, roster, found, shown, told⟩ := (mem_iff info).1 mem
      obtain ⟨next, next_found, -⟩ := Slot.nextDate_spec (fits id roster found) dated
      obtain ⟨⟨supervised, eligible⟩, near⟩ := (Listing.shows_bookableBy_iff next_found).1 shown
      refine ⟨roster, answeredAsListed filed fits dated found told known eligible ?_⟩
      intro next' next_found'
      cases next_found.symm.trans next_found'
      exact ⟨_, bound_supervised other supervised, Int.le_of_lt near⟩

/-- A slot with one seat, which one of two students takes. -/
def takenSeat : List Step := [
  .request ⟨0, 1, .createSlot 1 1 .thursday "101" 1⟩,
  .request ⟨0, 1, .addSlotFilter (.ofNat 0) none (some "1a")⟩,
  .request ⟨0, 7, .bookReservation (.ofNat 0) .epoch none⟩]

set_option maxRecDepth 2000 in
/-- Both students are shown the slot. The one is told to have the seat, and the other that there is
none left. -/
theorem bookable_as_listed_taken : ∃ q, opened.run .twoStudents takenSeat = .ok q ∧
    (∀ student ∈ [7, 8], ∃ infos, q.registry.mySlots .twoStudents 0 student = .ok infos ∧
      ∃ info ∈ infos, info.slot.id = .ofNat 0) ∧
    (q.book .twoStudents 0 7 (.ofNat 0) .epoch 7).1 = .error (.alreadyBooked (.ofNat 0) .epoch) ∧
    (q.book .twoStudents 0 8 (.ofNat 0) .epoch 8).1 = .error (.slotFull (.ofNat 0) .epoch 1) := by
  have fresh : Rules.twoStudents.FreshBelow (Step.drawsAll takenSeat) :=
    Rules.freshBelow_oneStudent (by decide)
  obtain ⟨q, h⟩ := History.of_works takenSeat (d := .empty) (fun _ _ => rfl) (.inl rfl) (by decide)
    start_opened fresh
  obtain ⟨roster, found, slot, filters, users, count⟩ : ∃ roster,
      q.registry.roster? (.ofNat 0) = some roster ∧
        roster.slot = ⟨.ofNat 0, 1, 1, .thursday, "101", 1⟩ ∧
        roster.filters = [⟨.ofNat 2, .ofNat 0, none, some "1a"⟩] ∧
        roster.usersOn .epoch = [7] ∧ roster.countOn .epoch = 1 := by
    cases (rfl : opened.run .twoStudents takenSeat = _).symm.trans h.ran
    exact ⟨_, rfl, rfl, rfl, rfl, rfl⟩
  have answers (student : UserId) (known : student ∈ [7, 8]) :
      ∃ infos, q.registry.mySlots .twoStudents 0 student = .ok infos ∧
        ∃ info ∈ infos, info.slot.id = .ofNat 0 ∧
          q.AnsweredAsListed .twoStudents 0 info student student roster .epoch := by
    have profile : Rules.twoStudents.directory.profile? student =
        some ⟨student, .empty, [], some "1a"⟩ := by
      simp only [List.mem_cons, List.not_mem_nil, or_false] at known
      rcases known with rfl | rfl <;> rfl
    have dated : Dated 0 := ⟨by decide, by decide⟩
    obtain ⟨⟨infos, listed, listed_iff, answered⟩, -⟩ :=
      bookable_as_listed start_opened h.ran (.inr h) dated profile
    obtain ⟨info, mem, same⟩ := (listed_iff (.ofNat 0)).2 ⟨roster, found, by rw [filters]; rfl, .epoch,
      by rw [slot]; decide, by decide, by decide, _, by rw [slot]; rfl, by decide⟩
    obtain ⟨roster', next, as_listed⟩ := answered (by decide) info mem
    have found' := as_listed.found
    rw [same, found] at found'
    cases found'
    have next_found := as_listed.next_found
    rw [as_listed.slot, slot] at next_found
    have next_is : (⟨.ofNat 0, 1, 1, .thursday, "101", 1⟩ : Slot).nextDate .standard 0 = .ok .epoch :=
      rfl
    cases next_is.symm.trans next_found
    exact ⟨infos, listed, info, mem, same, as_listed⟩
  refine ⟨q, h.ran, fun student known => ?_, ?_, ?_⟩
  · obtain ⟨infos, listed, info, mem, same, -⟩ := answers student known
    exact ⟨infos, listed, info, mem, same⟩
  · obtain ⟨-, -, info, -, same, as_listed⟩ := answers 7 (by decide)
    rw [← same]
    exact as_listed.booked (by rw [users]; decide)
  · obtain ⟨-, -, info, -, same, as_listed⟩ := answers 8 (by decide)
    have one_seat : info.slot.capacity = 1 := by rw [as_listed.slot, slot]
    rw [← same, ← one_seat]
    refine as_listed.full (by rw [users]; decide) ?_
    rw [as_listed.fullness, count, one_seat]
    decide

end Timetable.Planner
