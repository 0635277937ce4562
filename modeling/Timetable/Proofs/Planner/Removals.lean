import Timetable.Proofs.Planner.Authority
import Timetable.Proofs.Sessions

/-!
# How reservations go

A reservation goes with its slot when that is deleted. Otherwise there are two ways. It is given up,
by its student before the session or by order of a supervisor before that is over. Or a supervisor of
another slot at the same time books its student there. The second way is open when the session is
over, too.
-/

set_option autoImplicit false

namespace Timetable

/-- The event changes something of a slot other than its reservations. -/
def Event.keepsReservations : Event → Bool
  | slotCreated _ _ | slotDeleted _ | reservationBooked _ | reservationCancelled _ _ => false
  | _ => true

theorem Event.isChange_of_keepsReservations {e : Event} (keeps : e.keepsReservations) :
    e.isChange := by
  cases e <;> first | rfl | cases keeps

theorem Roster.reservations_apply (roster : Roster) {e : Event} (keeps : e.keepsReservations) :
    (roster.apply e).reservations = roster.reservations := by
  cases e with
  | supervisorAdded s =>
    simp only [Roster.apply, linkSupervisor]
    split <;> rfl
  | slotCreated | slotDeleted | reservationBooked | reservationCancelled => cases keeps
  | _ => rfl

namespace Registry

/-- The reservation of that id in the slot to which the index leads. -/
def reservation? (r : Registry) (id : Ident) : Option Reservation :=
  ((r.slotOf? id).bind r.roster?).bind (·.reservation? id)

/-- It is asked to book the student of the reservation, which is one of slot `id`, into another slot
at the same time. -/
def Displaces (r : Registry) (d : Demand) (id : Ident) (before : Roster) (x : Reservation) : Prop :=
  ∃ target roster, d.action = .bookReservation target x.date (some x.userId) ∧
    x.userId ≠ d.caller ∧ target ≠ id ∧ r.roster? target = some roster ∧
    before.slot.overlaps roster.slot = true

/-- What may take a reservation from a slot that stays. -/
inductive Taken (r : Registry) (rules : Rules) (d : Demand) (id : Ident) (before : Roster)
    (x : Reservation) : Prop where
  /-- It is given up by its student or by order of somebody else, before its session is over. -/
  | unbooked (nice strict : Bool) (asked : d.action = .unbookReservation x.id nice strict)
      (held : r.reservation? x.id = some x)
      (live : ¬ before.slot.IsOver rules.bells d.now x.date)
      (ordered : x.userId = d.caller ∨ nice = false)
  /-- It is displaced, or another one with the same id. -/
  | displaced {y : Reservation} (mem : y ∈ before.reservations) (same : y.id = x.id)
      (displaces : r.Displaces d id before y)

variable {r : Registry} {rules : Rules} {d : Demand} {id slot : Ident} {before : Roster}
  {es : List Event}

/-- The slot is to be deleted, or it stays with each of its reservations that is not taken. -/
def Accounted (r : Registry) (rules : Rules) (d : Demand) (id : Ident) (es : List Event) : Prop :=
  ∀ before, r.roster? id = some before → d.action = .deleteSlot id ∨
    ∃ after, (r.applyAll es).roster? id = some after ∧
      ∀ x ∈ before.reservations, x ∈ after.reservations ∨ r.Taken rules d id before x

theorem accounted_of_keeps (keeps : ∀ e ∈ es, e.slotId = id → e.keepsReservations) :
    r.Accounted rules d id es := by
  suffices kept : ∀ before, r.roster? id = some before → ∃ after,
      (r.applyAll es).roster? id = some after ∧ after.reservations = before.reservations by
    intro before there
    obtain ⟨after, there', same⟩ := kept before there
    exact .inr ⟨after, there', fun x mem => .inl (same ▸ mem)⟩
  induction es generalizing r with
  | nil => exact fun before there => ⟨before, there, rfl⟩
  | cons e es ih =>
    intro before there
    have rest := ih (r := r.apply e) fun e he => keeps e (List.mem_cons_of_mem _ he)
    by_cases at_slot : e.slotId = id
    · have keeps_first := keeps e List.mem_cons_self at_slot
      have next : (r.apply e).roster? id = some (before.apply e) := by
        rw [roster?_apply, if_pos at_slot, there,
          act_of_isChange (Event.isChange_of_keepsReservations keeps_first)]
      obtain ⟨after, there', same⟩ := rest _ next
      exact ⟨after, there', same.trans (before.reservations_apply keeps_first)⟩
    · have next : (r.apply e).roster? id = some before := by
        rw [roster?_apply, if_neg at_slot, there]
      exact rest _ next

/-- Every slot that recurs on the weekday is held for a booking on behalf of another. -/
theorem mem_of_heldFor {b : Booking} {held : List Ident} (h : r.heldFor b = .ok held)
    (on_behalf : b.isOnBehalf = true) {roster : Roster} (found : r.roster? b.slot = some roster)
    (there : r.roster? id = some before) (same : before.slot.weekday = roster.slot.weekday) :
    id ∈ held := by
  rw [heldFor, if_pos on_behalf] at h
  simp only [bind_eq_ok_iff, rosterOf_eq_ok_iff, pure_eq_ok_iff] at h
  obtain ⟨roster', found', rfl⟩ := h
  cases found.symm.trans found'
  refine List.mem_map.2 ⟨(id, before), List.mem_filter.2 ⟨mem_toList_iff.2 there, ?_⟩, rfl⟩
  simp [same]

/-- A booking takes what it displaces, and no more. -/
theorem accounted_book {date : Date} {student : Option UserId} {new : Ident} {c : Change Reservation}
    (filed : r.Filed) (asked : d.action = .bookReservation slot date student)
    (h : r.book rules d.now ⟨slot, date, student.getD d.caller, d.caller⟩ new = .ok c) :
    r.Accounted rules d id c.events := by
  obtain ⟨-, profile, -, held, -, h⟩ := book_eq_ok_iff.1 h
  obtain ⟨roster, found, -, rfl⟩ := bookHeld_eq_ok_iff.1 h
  intro before there
  right
  obtain ⟨left, there', accounted⟩ : ∃ left,
      (r.applyAll (r.displacedFrom ⟨slot, date, student.getD d.caller, d.caller⟩ roster.slot
        held)).roster? id = some left ∧
      ∀ x ∈ before.reservations, x ∈ left.reservations ∨ r.Taken rules d id before x := by
    by_cases reached : Booking.isOnBehalf ⟨slot, date, student.getD d.caller, d.caller⟩ = true ∧
        id ∈ held ∧ id ≠ slot ∧ before.slot.overlaps roster.slot = true
    · obtain ⟨kept, left, -, named, -⟩ :=
        roster?_applyAll_displacedFrom_of_reached filed there reached
      refine ⟨_, left, fun x mem => ?_⟩
      by_cases stays : x ∈ kept
      · exact .inl stays
      · obtain ⟨y, mem', same, rfl, by_student⟩ := named x mem stays
        obtain ⟨on_behalf, -, elsewhere, overlaps⟩ := reached
        have other : student.getD d.caller ≠ d.caller := bne_iff_ne.1 on_behalf
        cases student with
        | none => exact absurd rfl other
        | some student =>
          obtain rfl : y.userId = student := by_student
          refine .inr (.displaced mem' same ?_)
          exact ⟨slot, roster, asked, other, elsewhere.symm, found, overlaps⟩
    · exact ⟨before, roster?_applyAll_displacedFrom_of_not_reached filed there reached,
        fun x mem => .inl mem⟩
  rw [applyAll_append, applyAll_singleton, roster?_apply]
  split
  · rw [there']
    refine ⟨_, rfl, fun x mem => (accounted x mem).imp_left fun kept => ?_⟩
    exact Reservation.mem_insert.2 (.inr kept)
  · exact ⟨left, there', accounted⟩

/-- A booking takes all that it displaces. -/
theorem not_mem_of_book {now : Int} {caller : UserId} {target new : Ident} {x : Reservation}
    {roster : Roster} {c : Change Reservation} (filed : r.Filed)
    (there : r.roster? id = some before) (unique : (before.reservations.map (·.id)).Nodup)
    (other : x.userId ≠ caller) (elsewhere : target ≠ id) (found : r.roster? target = some roster)
    (overlaps : before.slot.overlaps roster.slot = true)
    (h : r.book rules now ⟨target, x.date, x.userId, caller⟩ new = .ok c) :
    ∃ after, (r.applyAll c.events).roster? id = some after ∧ x ∉ after.reservations := by
  obtain ⟨-, profile, -, held, holds, h⟩ := book_eq_ok_iff.1 h
  obtain ⟨roster', found', -, rfl⟩ := bookHeld_eq_ok_iff.1 h
  cases found.symm.trans found'
  have on_behalf : Booking.isOnBehalf ⟨target, x.date, x.userId, caller⟩ = true := bne_iff_ne.2 other
  have same_day := Slot.weekday_eq_of_overlaps overlaps
  have in_held := mem_of_heldFor holds on_behalf found there same_day
  obtain ⟨kept, left, -, -, of_student⟩ := roster?_applyAll_displacedFrom_of_reached filed there
    ⟨on_behalf, in_held, elsewhere.symm, overlaps⟩
  refine ⟨{ before with reservations := kept }, ?_, ?_⟩
  · rw [applyAll_append, applyAll_singleton, roster?_apply]
    exact (if_neg elsewhere).trans left
  · rw [of_student unique]
    intro mem
    have of_another := (List.mem_filter.1 mem).2
    simp at of_another

/-- What is unbooked is one reservation, whose session is not over. -/
theorem accounted_unbook {x : Ident} {nice strict : Bool} {c : Change UnbookMode}
    (filed : r.Filed) (asked : d.action = .unbookReservation x nice strict)
    (h : r.unbook rules d.now x d.caller (!nice) strict = .ok c) :
    r.Accounted rules d id c.events := by
  obtain ⟨roster, holding, reservation, has, phase, in_phase, mode, decided, rfl⟩ :=
    unbook_eq_ok_iff.1 h
  obtain ⟨slot, indexed, found⟩ := rosterHolding_eq_ok_iff.1 holding
  obtain ⟨there, rfl⟩ := Roster.of_reservation?_eq_some has
  have at_slot : reservation.slotId = slot := (filed slot roster found).reservation_slot _ there
  obtain ⟨live, how⟩ := unbookMode_eq_ok decided
  have cancelled (ordered : reservation.userId = d.caller ∨ nice = false) : r.Accounted rules d id
      [.reservationCancelled reservation.id reservation.slotId] := by
    by_cases here : slot = id
    · subst here
      intro before there'
      cases found.symm.trans there'
      obtain ⟨front, back, split, left⟩ := Roster.removeReservation_of_has has
      refine .inr ⟨{ roster with reservations := front ++ back }, ?_, fun x mem => ?_⟩
      · rw [applyAll_singleton, roster?_apply, at_slot, found, ← left]
        exact if_pos rfl
      · rw [split, List.mem_append, List.mem_cons] at mem
        rcases mem with in_front | rfl | in_back
        · exact .inl (List.mem_append_left _ in_front)
        · refine .inr (.unbooked nice strict asked ?_ ?_ ordered)
          · rw [reservation?, indexed, Option.bind_some, found]
            exact has
          · intro past
            exact live (Except.ok.inj (in_phase.symm.trans past))
        · exact .inl (List.mem_append_right _ in_back)
    · exact accounted_of_keeps (List.forall_mem_singleton.2 fun same =>
        absurd (at_slot.symm.trans same) here)
  rcases how with ⟨rfl, own⟩ | ⟨rfl, -, forced⟩ | ⟨rfl, -⟩
  · exact cancelled (.inl own)
  · exact cancelled (.inr (by simpa using forced))
  · exact accounted_of_keeps (List.forall_mem_nil _)

end Registry

namespace Planner

variable {p q : Planner} {rules : Rules} {id : Ident} {before : Roster} {steps : List Step}
  {d : Demand}

/-- An action accounts for the reservations of every slot, if the ids that are drawn for it are
not the slot's. -/
theorem accounted_transaction (filed : q.registry.Filed) (d : Demand)
    (fresh : ∀ i < d.action.draws, rules.ids (q.drawn + i) ≠ id) :
    q.registry.Accounted rules d id (q.transaction rules d.now d.caller d.action) := by
  have of_decision {α : Type} (decision : Except Refusal (Change α)) :=
    Change.of_eventsOf (q.registry.Accounted rules d id)
      (Registry.accounted_of_keeps (List.forall_mem_nil _)) decision
  obtain ⟨now, caller, action⟩ := d
  cases action with
  | createSlot startUnit duration weekday room capacity =>
    refine of_decision _ fun c h => ?_
    obtain ⟨-, -, rfl⟩ := Registry.create_eq_ok_iff.1 h
    exact Registry.accounted_of_keeps (List.forall_mem_singleton.2 fun same =>
      absurd same (fresh 0 (Nat.succ_pos 1)))
  | updateSlot slot patch =>
    refine of_decision _ fun c h => ?_
    obtain ⟨roster, -, -, -, overfull, -, rfl⟩ := Registry.update_eq_ok_iff.1 h
    exact Registry.accounted_of_keeps (List.forall_mem_singleton.2 fun _ => rfl)
  | deleteSlot slot =>
    refine of_decision _ fun c h => ?_
    obtain ⟨roster, -, rfl⟩ := Registry.delete_eq_ok_iff.1 h
    by_cases here : slot = id
    · exact fun before there => .inl (congrArg Action.deleteSlot here)
    · exact Registry.accounted_of_keeps (List.forall_mem_singleton.2 fun same => absurd same here)
  | addSlotFilter slot course cohort =>
    refine of_decision _ fun c h => ?_
    obtain ⟨-, roster, -, -, rfl⟩ := Registry.addFilter_eq_ok_iff.1 h
    exact Registry.accounted_of_keeps (List.forall_mem_singleton.2 fun _ => rfl)
  | deleteSlotFilter filter =>
    refine of_decision _ fun c h => ?_
    obtain ⟨roster, -, -, -, rfl⟩ := Registry.removeFilter_eq_ok_iff.1 h
    exact Registry.accounted_of_keeps (List.forall_mem_singleton.2 fun _ => rfl)
  | addSlotSupervisor slot user =>
    refine of_decision _ fun c h => ?_
    obtain ⟨roster, -, ⟨-, rfl⟩ | ⟨-, -, rfl⟩⟩ := Registry.addSupervisor_eq_ok_iff.1 h
    · exact Registry.accounted_of_keeps (List.forall_mem_nil _)
    · exact Registry.accounted_of_keeps (List.forall_mem_singleton.2 fun _ => rfl)
  | removeSlotSupervisor slot user =>
    refine of_decision _ fun c h => ?_
    obtain ⟨roster, -, ⟨-, rfl⟩ | ⟨-, rfl⟩⟩ := Registry.removeSupervisor_eq_ok_iff.1 h
    · exact Registry.accounted_of_keeps (List.forall_mem_singleton.2 fun _ => rfl)
    · exact Registry.accounted_of_keeps (List.forall_mem_nil _)
  | bookReservation slot date student =>
    exact of_decision _ fun c h => Registry.accounted_book filed rfl h
  | unbookReservation reservation nice strict =>
    exact of_decision _ fun c h => Registry.accounted_unbook filed rfl h
  | _ => exact Registry.accounted_of_keeps (List.forall_mem_nil _)

/-- The action is carried out. -/
def Grants (q : Planner) (rules : Rules) (d : Demand) : Prop :=
  ∃ answer, (q.perform rules d.now d.caller d.action).1 = .ok answer

/-- What is granted has been decided on and is carried out. -/
theorem Grants.decided (granted : q.Grants rules d) : ∃ c, q.decision rules d = .ok c ∧
    q.CarriedOut c.events (q.perform rules d.now d.caller d.action).2 := by
  obtain ⟨answer, answered⟩ := granted
  obtain ⟨⟨-, ⟨e, refused⟩, -⟩ | ⟨decided, carried⟩, -⟩ := perform_settled q rules d
  · cases answered.symm.trans refused
  · cases decision : q.decision rules d with
    | error refusal =>
      rw [decision] at decided
      cases answered.symm.trans decided
    | ok c =>
      rw [decision] at carried
      exact ⟨c, rfl, carried⟩

/-- What is not granted leaves the registry as it is. -/
theorem registry_perform_of_not_grants (refused : ¬ q.Grants rules d) :
    (q.perform rules d.now d.caller d.action).2.registry = q.registry := by
  obtain ⟨⟨-, -, same⟩ | ⟨decided, carried⟩, -⟩ := perform_settled q rules d
  · exact same
  · cases decision : q.decision rules d with
    | error refusal =>
      rw [decision] at carried
      exact carried.1
    | ok c =>
      rw [decision] at decided
      exact absurd ⟨c.answer, decided⟩ refused

/-- **What becomes of reservations**: their slot is to be deleted, or each of them stays or is taken
by what is granted. -/
theorem accounted_perform (filed : q.registry.Filed) (there : q.registry.roster? id = some before)
    (d : Demand) (fresh : ∀ i < d.action.draws, rules.ids (q.drawn + i) ≠ id) :
    d.action = .deleteSlot id ∨
      ∃ after, (q.perform rules d.now d.caller d.action).2.registry.roster? id = some after ∧
        ∀ x ∈ before.reservations, x ∈ after.reservations ∨
          q.Grants rules d ∧ q.registry.Taken rules d id before x := by
  by_cases granted : q.Grants rules d
  · obtain ⟨c, decided, carried⟩ := granted.decided
    have accounted := accounted_transaction filed d fresh before there
    rw [q.transaction_eq rules d, decided] at accounted
    rw [carried.1]
    refine accounted.imp_right ?_
    rintro ⟨after, there', accounted⟩
    exact ⟨after, there', fun x mem => (accounted x mem).imp_right fun taken => ⟨granted, taken⟩⟩
  · rw [registry_perform_of_not_grants granted]
    exact .inr ⟨before, there, fun x mem => .inl mem⟩

/-- A booking that is granted takes all that it displaces. -/
theorem not_mem_of_displaces (filed : q.registry.Filed)
    (there : q.registry.roster? id = some before) (unique : (before.reservations.map (·.id)).Nodup)
    {x : Reservation} (granted : q.Grants rules d) (displaces : q.registry.Displaces d id before x) :
    ∃ after, (q.perform rules d.now d.caller d.action).2.registry.roster? id = some after ∧
      x ∉ after.reservations := by
  obtain ⟨c, decided, carried⟩ := granted.decided
  obtain ⟨target, roster, asked, other, elsewhere, found, overlaps⟩ := displaces
  simp only [decision, asked] at decided
  obtain ⟨booking, booked, rfl⟩ := Change.of_map_eq_ok decided
  rw [carried.1]
  exact Registry.not_mem_of_book filed there unique other elsewhere found overlaps booked

/-- **The record of a session that is over** stays with its slot, whatever is asked for at any moment
of a run, whatever was in the journal at the start and on any disk, unless the slot is to be deleted.
Only a booking that is granted takes it, by displacing it or another one with the same id. In a
history, where the ids are different, it goes just if it is displaced. -/
theorem record_kept_of_run {disk : Journal.Disk} {hub : Hub} {counters : Counters} {drawn : Nat}
    (started : start disk hub counters drawn = .ok p) (ran : p.run rules steps = .ok q)
    (there : q.registry.roster? id = some before) {x : Reservation} (mem : x ∈ before.reservations)
    (ended : before.slot.IsOver rules.bells d.now x.date) (stays : d.action ≠ .deleteSlot id)
    (fresh : ∀ i < d.action.draws, rules.ids (q.drawn + i) ≠ id) :
    ∃ after, (q.perform rules d.now d.caller d.action).2.registry.roster? id = some after ∧
      (x ∉ after.reservations → q.Grants rules d ∧
        ∃ y ∈ before.reservations, y.id = x.id ∧ q.registry.Displaces d id before y) ∧
      (History rules p steps q →
        (x ∈ after.reservations ↔ ¬ (q.Grants rules d ∧ q.registry.Displaces d id before x))) := by
  have filed := filed_of_start started ran
  obtain deleted | ⟨after, there', accounted⟩ := accounted_perform filed there d fresh
  · exact absurd deleted stays
  · have only_displaced (gone : x ∉ after.reservations) : q.Grants rules d ∧
        ∃ y ∈ before.reservations, y.id = x.id ∧ q.registry.Displaces d id before y := by
      obtain kept | ⟨granted, taken⟩ := accounted x mem
      · exact absurd kept gone
      · cases taken with
        | unbooked nice strict asked held live ordered => exact absurd ended live
        | displaced mem' same displaces => exact ⟨granted, _, mem', same, displaces⟩
    refine ⟨after, there', only_displaced, fun h => ?_⟩
    have unique := h.nodup there
    constructor
    · rintro kept ⟨granted, displaces⟩
      obtain ⟨after', there'', gone⟩ := not_mem_of_displaces filed there unique granted displaces
      cases there'.symm.trans there''
      exact gone kept
    · intro spared
      by_contra gone
      obtain ⟨granted, y, mem', same, displaces⟩ := only_displaced gone
      obtain rfl : y = x := List.inj_on_of_nodup_map unique mem' mem same
      exact spared ⟨granted, displaces⟩

/-! A session of the morning at nine o'clock -/

/-- The student's booking for that session. -/
def attended : Reservation := ⟨.ofNat 6, .ofNat 0, .epoch, 7, 7⟩

set_option maxRecDepth 2000 in
/-- Its supervisor cannot cancel it. -/
theorem record_kept_of_run_unbooked : ∃ q before after,
    opened.run .oneStudent ((Demand.displacing.take 6).map .request) = .ok q ∧
      q.registry.roster? (.ofNat 0) = some before ∧ attended ∈ before.reservations ∧
      before.slot.IsOver .standard 32400000 attended.date ∧
      (q.perform .oneStudent 32400000 1
        (.unbookReservation (.ofNat 6) false false)).2.registry.roster? (.ofNat 0) = some after ∧
      attended ∈ after.reservations := by
  obtain ⟨q, before, ran, there, mem, ended⟩ : ∃ q before,
      opened.run .oneStudent ((Demand.displacing.take 6).map .request) = .ok q ∧
        q.registry.roster? (.ofNat 0) = some before ∧ attended ∈ before.reservations ∧
        before.slot.IsOver .standard 32400000 attended.date :=
    ⟨_, _, rfl, rfl, by decide +kernel, rfl⟩
  obtain ⟨q', h⟩ := History.of_works ((Demand.displacing.take 6).map .request) (d := .empty)
    (fun _ _ => rfl) (.inl rfl) (by decide) start_opened (Rules.freshBelow_oneStudent (by decide))
  cases ran.symm.trans h.ran
  obtain ⟨after, there', -, kept_iff⟩ := record_kept_of_run start_opened ran there mem
    (d := ⟨32400000, 1, .unbookReservation (.ofNat 6) false false⟩) ended nofun nofun
  refine ⟨q, before, after, ran, there, mem, ended, there', (kept_iff h).2 ?_⟩
  rintro ⟨-, target, roster, asked, -⟩
  cases asked

set_option maxRecDepth 2000 in
/-- But when the student is booked into the other slot, it is gone. -/
theorem record_lost_by_booking : ∃ q before after,
    opened.run .oneStudent ((Demand.displacing.take 6).map .request) = .ok q ∧
      q.registry.roster? (.ofNat 0) = some before ∧ attended ∈ before.reservations ∧
      before.slot.IsOver .standard 32400000 attended.date ∧
      (q.perform .oneStudent 32400000 1
        (.bookReservation (.ofNat 2) .epoch (some 7))).2.registry.roster? (.ofNat 0) = some after ∧
      attended ∉ after.reservations :=
  ⟨_, _, _, rfl, rfl, by decide +kernel, rfl, rfl, by decide +kernel⟩

end Planner

end Timetable
