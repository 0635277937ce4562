import Timetable.Proofs.Planner.Buckets
import Timetable.Proofs.Registry.Served

/-!
# First come, first served

Students who book for themselves get the seats of a slot in the order in which they ask: who is not
booked yet gets one as long as there are seats left, who is booked is told so, and all others are
told that the slot is full.
-/

set_option autoImplicit false

namespace Timetable

namespace Roster

variable {roster : Roster} {date : Date} {user : UserId}

/-- The slot is open to a student for a date: it is a day of the slot, today or one of the days
ahead for which students book, and the student is known and admitted by a filter. -/
structure OpenTo (rules : Rules) (today date : Date) (roster : Roster) (user : UserId) : Prop where
  not_past : ¬ date < today
  ahead : today.daysUntil date ≤ rules.policy.studentDays
  weekday : date.weekday = roster.slot.weekday
  known : ∃ profile, rules.directory.profile? user = some profile ∧
    isEligible profile roster.filters = true

theorem OpenTo.of_same {rules : Rules} {today : Date} {after : Roster}
    (open_to : roster.OpenTo rules today date user) (slot : after.slot = roster.slot)
    (filters : after.filters = roster.filters) : after.OpenTo rules today date user where
  not_past := open_to.not_past
  ahead := open_to.ahead
  weekday := by
    rw [slot]
    exact open_to.weekday
  known := by
    rw [filters]
    exact open_to.known

/-- Who is booked is told so, and who is not is told that the slot is full or gets a seat. -/
theorem map_respond (roster : Roster) {slot : Ident} (r : Reservation) :
    ((∃ s, (roster.respond slot date user).map (fun _ => r) = .ok s) ↔
      roster.respond slot date user = .ok ()) ∧
    ((roster.respond slot date user).map (fun _ => r) = .error (.alreadyBooked slot date) ↔
      user ∈ roster.usersOn date) ∧
    ((∃ s, (roster.respond slot date user).map (fun _ => r) = .ok s) ∨
      (roster.respond slot date user).map (fun _ => r) = .error (.alreadyBooked slot date) ∨
      (roster.respond slot date user).map (fun _ => r) =
        .error (.slotFull slot date roster.slot.capacity)) := by
  rw [respond]
  split
  · rename_i there
    simp [Except.map, there]
  · rename_i away
    split <;> simp [Except.map, away]

end Roster

/-! ## One student asks -/

namespace Registry

variable {r : Registry} {rules : Rules} {slot : Ident} {date : Date} {user : UserId} {now : Int}
  {roster : Roster} {b : Booking}

/-- The booking can be refused only for want of a seat: it is for a day of the slot, today or one of
the days ahead for which the booker may book, and the student is known and admitted by a filter. -/
structure Admissible (rules : Rules) (today : Date) (b : Booking) (roster : Roster) : Prop where
  not_past : ¬ b.date < today
  ahead : ∃ days, bound rules b roster = .ok days ∧ today.daysUntil b.date ≤ days
  weekday : b.date.weekday = roster.slot.weekday
  known : ∃ profile, rules.directory.profile? b.student = some profile ∧
    isEligible profile roster.filters = true

/-- How far ahead students may book for themselves. -/
theorem bound_self (rules : Rules) (slot : Ident) (date : Date) (user : UserId) (roster : Roster) :
    bound rules ⟨slot, date, user, user⟩ roster = .ok rules.policy.studentDays := by
  have self : Booking.isOnBehalf ⟨slot, date, user, user⟩ = false := bne_self_eq_false user
  rw [bound, self]
  rfl

theorem Admissible.of_openTo {today : Date} (open_to : roster.OpenTo rules today date user) :
    Admissible rules today ⟨slot, date, user, user⟩ roster where
  not_past := open_to.not_past
  ahead := ⟨_, bound_self rules slot date user roster, open_to.ahead⟩
  weekday := open_to.weekday
  known := open_to.known

theorem exists_heldFor_eq_ok (found : r.roster? b.slot = some roster) :
    ∃ held, r.heldFor b = .ok held := by
  rw [heldFor, rosterOf, found]
  split
  · exact ⟨_, rfl⟩
  · exact ⟨_, rfl⟩

/-- What is decided on a booking that can be refused only for want of a seat. -/
theorem book_of_admissible (id : Ident) (found : r.roster? b.slot = some roster)
    (admissible : Admissible rules (dateOf now) b roster)
    (room : roster.respond b.slot b.date b.student = .ok () →
      roster.reservations.length < maxReservations) :
    ∃ held, r.book rules now b id = (roster.respond b.slot b.date b.student).map fun _ =>
      ⟨r.displacedFrom b roster.slot held ++
          [.reservationBooked ⟨id, b.slot, b.date, b.student, b.reserver⟩],
        ⟨id, b.slot, b.date, b.student, b.reserver⟩,
        if b.isOnBehalf then [(b.student, id, .bookForced)] else []⟩ := by
  obtain ⟨not_past, ⟨days, bounded, near⟩, weekday, profile, known, eligible⟩ := admissible
  have near : ¬ (days : Int) < (dateOf now).daysUntil b.date := Int.not_lt.2 near
  have seat : requireSeat rules (dateOf now) b profile roster =
      roster.respond b.slot b.date b.student := by
    rw [Roster.respond] at room ⊢
    simp only [requireSeat, bounded, bind, Except.bind, near, eligible, Bool.not_true,
      Bool.false_eq_true, ↓reduceIte, weekday, ne_eq, not_true_eq_false, Roster.isSome_bookedBy?]
    split
    · rfl
    · rename_i new
      split
      · rfl
      · rename_i free
        rw [if_neg new, if_neg free] at room
        exact if_neg (Nat.not_le.2 (room rfl))
  have student : rules.directory.require b.student = .ok profile := by
    rw [Directory.require, known]
  obtain ⟨held, holds⟩ := exists_heldFor_eq_ok found
  refine ⟨held, ?_⟩
  simp only [book, not_past, ↓reduceIte, student, holds, bind, Except.bind, bookHeld, rosterOf,
    found, seat]
  cases roster.respond b.slot b.date b.student <;> rfl

/-- What is decided on a booking for oneself where the slot is open to the student. -/
theorem book_self (id : Ident) (found : r.roster? slot = some roster)
    (open_to : roster.OpenTo rules (dateOf now) date user)
    (room : roster.respond slot date user = .ok () → roster.reservations.length < maxReservations) :
    r.book rules now ⟨slot, date, user, user⟩ id = (roster.respond slot date user).map fun _ =>
      ⟨[.reservationBooked ⟨id, slot, date, user, user⟩], ⟨id, slot, date, user, user⟩, []⟩ := by
  have self : Booking.isOnBehalf ⟨slot, date, user, user⟩ = false := bne_self_eq_false user
  obtain ⟨held, decision⟩ := book_of_admissible id found (.of_openTo open_to) room
  rw [decision]
  simp only [displacedFrom, self, Bool.false_eq_true, ↓reduceIte, List.nil_append]

end Registry

namespace Planner

variable {p q : Planner} {rules : Rules} {slot : Ident} {date : Date} {user : UserId} {now : Int}
  {roster : Roster}

/-- A student who books where the slot is open is answered as the roster responds, and then has
the seat that was to be had. -/
theorem book_self (works : p.log.disk.Works) (found : p.registry.roster? slot = some roster)
    (open_to : roster.OpenTo rules (dateOf now) date user)
    (room : roster.respond slot date user = .ok () → roster.reservations.length < maxReservations) :
    ∃ s, s.date = date ∧ s.userId = user ∧
      (p.book rules now user slot date user).1 = (roster.respond slot date user).map (fun _ => s) ∧
      (p.book rules now user slot date user).2.registry.roster? slot =
        some (if roster.respond slot date user = .ok () then roster.addReservation s else roster) ∧
      (p.book rules now user slot date user).2.log.disk.Works := by
  have decision := Registry.book_self (rules.ids p.drawn) found open_to room
  obtain ⟨result, counters, settled, booked⟩ := p.book_eq_settle rules now user slot date user
  obtain ⟨answered, registry, works'⟩ := settle_of_works (p := { p with drawn := p.drawn + 1 })
    works now (p.registry.book rules now ⟨slot, date, user, user⟩ (rules.ids p.drawn))
  rw [← settled, decision] at answered registry
  rw [← settled] at works'
  refine ⟨⟨rules.ids p.drawn, slot, date, user, user⟩, rfl, rfl, ?_, ?_, ?_⟩
  · rw [booked, answered]
    cases roster.respond slot date user <;> rfl
  · rw [booked]
    dsimp only
    rw [registry]
    cases roster.respond slot date user with
    | error refusal => exact found
    | ok u =>
      refine (Registry.roster?_apply p.registry (.reservationBooked _) slot).trans ?_
      rw [found]
      exact if_pos rfl
  · rw [booked]
    exact works'

/-! ## Many ask -/

/-- Students book for themselves, one after the other; each asks at some time. -/
def bookAll (p : Planner) (rules : Rules) (slot : Ident) (date : Date) :
    List (Int × UserId) → List (Except Refusal Reservation) × Planner
  | [] => ([], p)
  | (now, user) :: rest =>
    let (answer, p) := p.book rules now user slot date user
    let (answers, p) := p.bookAll rules slot date rest
    (answer :: answers, p)

theorem bookAll_snoc (p : Planner) (rules : Rules) (slot : Ident) (date : Date)
    (asks : List (Int × UserId)) (now : Int) (user : UserId) :
    p.bookAll rules slot date (asks ++ [(now, user)]) =
      ((p.bookAll rules slot date asks).1 ++
        [((p.bookAll rules slot date asks).2.book rules now user slot date user).1],
      ((p.bookAll rules slot date asks).2.book rules now user slot date user).2) := by
  induction asks generalizing p with
  | nil => rfl
  | cons ask asks ih =>
    obtain ⟨now', user'⟩ := ask
    simp only [List.cons_append, bookAll, ih]

end Planner

namespace Planner

variable {p q : Planner} {rules : Rules} {slot : Ident} {date : Date} {roster : Roster}
  {asks : List (Int × UserId)}

/-- Where students have asked, another one asks. -/
theorem book_served {after : Roster} {users : List UserId} {now : Int} {user : UserId}
    (served : roster.Served date users after) (works : p.log.disk.Works)
    (found : p.registry.roster? slot = some after)
    (open_to : roster.OpenTo rules (dateOf now) date user)
    (room : roster.reservations.length + roster.given date (users ++ [user]) ≤ maxReservations) :
    ∃ s, s.date = date ∧ s.userId = user ∧
      (p.book rules now user slot date user).1 = (after.respond slot date user).map (fun _ => s) ∧
      (p.book rules now user slot date user).2.registry.roster? slot =
        some (if after.respond slot date user = .ok () then after.addReservation s else after) ∧
      (p.book rules now user slot date user).2.log.disk.Works := by
  refine book_self works found (open_to.of_same served.slot served.filters) fun ok => ?_
  have given := served.given_snoc slot user
  rw [if_pos ok] at given
  rw [served.length]
  omega

/-- **When students have asked one after the other** on a disk that works, the roster is what has
become of it by their asking, and as many have been answered well as seats have been given away. -/
theorem bookAll_served (asks : List (Int × UserId)) (works : p.log.disk.Works)
    (found : p.registry.roster? slot = some roster)
    (sorted : Reservation.Sorted roster.reservations)
    (open_to : ∀ ask ∈ asks, roster.OpenTo rules (dateOf ask.1) date ask.2)
    (room : roster.reservations.length + roster.given date (asks.map (·.2)) ≤ maxReservations) :
    ∃ after, (p.bookAll rules slot date asks).2.registry.roster? slot = some after ∧
      (p.bookAll rules slot date asks).2.log.disk.Works ∧
      roster.Served date (asks.map (·.2)) after ∧
      (p.bookAll rules slot date asks).1.countP (·.isOk) = roster.given date (asks.map (·.2)) := by
  induction asks using List.reverseRecOn with
  | nil =>
    refine ⟨roster, found, works, Roster.served_nil sorted, ?_⟩
    simp [bookAll, Roster.given, newcomers]
  | append_singleton asks ask ih =>
    obtain ⟨now, user⟩ := ask
    simp only [List.map_append, List.map_cons, List.map_nil] at room ⊢
    have fewer : roster.given date (asks.map (·.2)) ≤
        roster.given date (asks.map (·.2) ++ [user]) :=
      Roster.given_mono (List.subset_append_left _ _)
    obtain ⟨after, found', works', served, successes⟩ :=
      ih (fun ask h => open_to ask (List.mem_append_left _ h)) (by omega)
    obtain ⟨s, on_date, by_user, answered, found'', works''⟩ := book_served served works' found'
      (open_to (now, user) (List.mem_append_right _ List.mem_cons_self)) room
    rw [bookAll_snoc]
    refine ⟨_, found'', works'', served.snoc slot on_date by_user, ?_⟩
    rw [List.countP_append, successes, served.given_snoc slot user, List.countP_singleton, answered]
    cases after.respond slot date user <;> rfl

/-- Each is answered as after those who have asked before. -/
theorem getElem?_bookAll (p : Planner) (rules : Rules) (slot : Ident) (date : Date)
    (asks : List (Int × UserId)) (i : Nat) (hi : i < asks.length) :
    (p.bookAll rules slot date asks).1[i]? =
      some ((p.bookAll rules slot date (asks.take i)).2.book rules asks[i].1 asks[i].2 slot date
        asks[i].2).1 := by
  induction asks generalizing p i with
  | nil => cases hi
  | cons ask asks ih =>
    obtain ⟨now, user⟩ := ask
    cases i with
    | zero => rfl
    | succ i => exact ih _ i (Nat.lt_of_succ_lt_succ hi)

/-! ## At every moment -/

/-- From now on no call to the disk fails. -/
def mended (p : Planner) : Planner := { p with log := p.log.mended }

theorem mended_of_works (works : p.log.disk.Works) : p.mended = p := by
  have same : (fun _ _ => none) = p.log.disk.fate :=
    funext fun n => funext fun c => (works n c).symm
  rw [mended, Journal.Log.mended, same]

/-- Whatever has happened to a planner, its reservations are in order of date. -/
theorem ordered_of_start {disk : Journal.Disk} {hub : Hub} {counters : Counters} {drawn : Nat}
    {steps : List Step} (started : start disk hub counters drawn = .ok p)
    (ran : p.run rules steps = .ok q) : q.registry.Ordered := by
  obtain ⟨es, -, _, -, rfl⟩ := start_eq_ok_iff.1 started
  refine rosters_of_run (P := fun _ roster => Reservation.Sorted roster.reservations)
    (fun _ _ => List.Pairwise.nil) (fun _ e _ sorted => Roster.sorted_apply sorted e) ?_ ran
  exact Registry.ordered_ofEvents es

/-- **First come, first served.** At any moment of a run, on any disk that works from then on, let
students to whom a slot is open for a date book for themselves, and let there be room for the
reservations that they can get. Then a student gets a seat exactly if it is the student's first
request, the student was not booked at the start, and fewer newcomers have asked before than there
were seats left. Who is booked is told so, and all others are told that the slot is full. In whatever
order they ask, as many get a seat as there were seats left, or all newcomers. And there are never
more reservations than seats, except for those that were there at the start. -/
theorem first_come_first_served {d : Journal.Disk} {hub : Hub} {counters : Counters} {drawn : Nat}
    {steps : List Step} (started : start d hub counters drawn = .ok p)
    (ran : p.run rules steps = .ok q) (found : q.registry.roster? slot = some roster)
    (open_to : ∀ ask ∈ asks, roster.OpenTo rules (dateOf ask.1) date ask.2)
    (room : roster.reservations.length + roster.given date (asks.map (·.2)) ≤ maxReservations) :
    (∀ i (hi : i < asks.length), ∃ answer,
      (q.mended.bookAll rules slot date asks).1[i]? = some answer ∧
      ((∃ r, answer = .ok r) ↔ roster.InTime date ((asks.take i).map (·.2)) asks[i].2) ∧
      (answer = .error (.alreadyBooked slot date) ↔
        asks[i].2 ∈ ((q.mended.bookAll rules slot date (asks.take i)).2.registry.bucket slot
          date).map (·.userId)) ∧
      ((∃ r, answer = .ok r) ∨ answer = .error (.alreadyBooked slot date) ∨
        answer = .error (.slotFull slot date roster.slot.capacity))) ∧
    (∀ asks', asks'.Perm asks → (q.mended.bookAll rules slot date asks').1.countP (·.isOk) =
      min (roster.seatsLeft date)
        (newcomers (roster.usersOn date) (asks.map (·.2))).card) ∧
    ∀ i, ((q.mended.bookAll rules slot date (asks.take i)).2.registry.bucket slot date).length ≤
      max (roster.countOn date) roster.slot.capacity.toNat := by
  have works : q.mended.log.disk.Works := fun _ _ => rfl
  have sorted := ordered_of_start started ran slot roster found
  have served_take (i : Nat) := bookAll_served (asks.take i) works found sorted
    (fun ask h => open_to ask (List.mem_of_mem_take h)) (Nat.le_trans (Nat.add_le_add_left
      (Roster.given_mono (List.map_subset _ (List.take_subset i asks))) _) room)
  refine ⟨?_, ?_, ?_⟩
  · intro i hi
    obtain ⟨after, found', works', served, -⟩ := served_take i
    have next : (asks.take i).map (·.2) ++ [asks[i].2] = (asks.take (i + 1)).map (·.2) := by
      rw [List.take_succ_eq_append_getElem hi, List.map_append, List.map_singleton]
    have room' : roster.reservations.length +
        roster.given date ((asks.take i).map (·.2) ++ [asks[i].2]) ≤ maxReservations := by
      rw [next]
      exact Nat.le_trans (Nat.add_le_add_left (Roster.given_mono
        (List.map_subset _ (List.take_subset _ asks))) _) room
    obtain ⟨s, -, -, answered, -⟩ := book_served served works' found'
      (open_to _ (List.getElem_mem hi)) room'
    refine ⟨_, getElem?_bookAll _ rules slot date asks i hi, ?_⟩
    rw [answered, Registry.bucket, found', ← served.respond_eq_ok_iff slot, ← served.slot]
    exact after.map_respond s
  · intro asks' perm
    have as_many : roster.given date (asks'.map (·.2)) = roster.given date (asks.map (·.2)) :=
      Roster.given_of_perm (perm.map _)
    obtain ⟨-, -, -, -, successes⟩ := bookAll_served asks' works found sorted
      (fun ask h => open_to ask (perm.mem_iff.1 h)) (as_many ▸ room)
    rw [successes, as_many, Roster.given]
  · intro i
    obtain ⟨after, found', -, served, -⟩ := served_take i
    have count := served.count
    rw [Registry.bucket, found']
    rw [Roster.given, Roster.seatsLeft] at count
    change after.countOn date ≤ _
    omega

end Planner

/-! One seat and two students -/

def Rules.twoStudents : Rules where
  bells := .standard
  policy := .standard
  directory := [⟨7, .empty, [], some "1a"⟩, ⟨8, .empty, [], some "1a"⟩]
  ids := .ofNat

def Roster.oneSeat : Roster where
  slot := ⟨.ofNat 0, 1, 1, .thursday, "101", 1⟩
  filters := [⟨.ofNat 2, .ofNat 0, none, some "1a"⟩]
  supervisors := [⟨.ofNat 1, .ofNat 0, 1⟩]
  reservations := []

set_option maxRecDepth 2000 in
theorem Planner.first_come_first_served_oneSeat : ∃ q,
    opened.run .twoStudents [.request ⟨0, 1, .createSlot 1 1 .thursday "101" 1⟩,
      .request ⟨0, 1, .addSlotFilter (.ofNat 0) none (some "1a")⟩] = .ok q ∧
    ∀ asks', asks'.Perm [(0, 7), (0, 8), (0, 7)] →
      (q.bookAll .twoStudents (.ofNat 0) .epoch asks').1.countP (·.isOk) = 1 := by
  have open_to (user : UserId) (known : user = 7 ∨ user = 8) :
      Roster.oneSeat.OpenTo .twoStudents (dateOf 0) .epoch user := by
    rcases known with rfl | rfl
    · exact ⟨by decide, by decide, by decide, _, rfl, by decide⟩
    · exact ⟨by decide, by decide, by decide, _, rfl, by decide⟩
  have all_open : ∀ ask ∈ ([(0, 7), (0, 8), (0, 7)] : List (Int × UserId)),
      Roster.oneSeat.OpenTo .twoStudents (dateOf ask.1) .epoch ask.2 := by
    simp [open_to]
  obtain ⟨q, ran, found, works⟩ : ∃ q, opened.run .twoStudents
      [.request ⟨0, 1, .createSlot 1 1 .thursday "101" 1⟩,
        .request ⟨0, 1, .addSlotFilter (.ofNat 0) none (some "1a")⟩] = .ok q ∧
      q.registry.roster? (.ofNat 0) = some .oneSeat ∧ q.log.disk.Works :=
    ⟨_, rfl, rfl, fun _ _ => rfl⟩
  have served := first_come_first_served start_opened ran found all_open (by decide)
  rw [mended_of_works works] at served
  exact ⟨q, ran, served.2.1⟩

end Timetable
