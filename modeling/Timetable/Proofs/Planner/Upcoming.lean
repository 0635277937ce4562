import Mathlib.Tactic.TFAE
import Timetable.Proofs.Planner.GivingUp
import Timetable.Proofs.Planner.Notices
import Timetable.Proofs.Registry.Listed

/-!
# Reservations to come

Students see their reservations for sessions that are not over, and supervisors see those of a slot.
Whether a session is over is reckoned anew each time, from the units that the slot has by then. All
who ask at one time are told the same: what a student sees is what can still be given up, what
supervisors of the slot see, and what the student would be told of if the slot were deleted.
-/

set_option autoImplicit false

namespace Timetable

theorem map_eq_error_iff {α β : Type} {f : α → β} {a : Except Refusal α} {refusal : Refusal} :
    a.map f = .error refusal ↔ a = .error refusal := by
  cases a with
  | error other => rw [Except.map, Except.error.injEq, Except.error.injEq]
  | ok value => exact ⟨nofun, nofun⟩

/-- For a valid slot the reservations to come are found: they are those whose sessions are not
over. -/
theorem Slot.live_eq_ok {s : Slot} {bells : BellSchedule} (valid : s.validate bells = .ok ())
    (now : Int) (rs : List Reservation) :
    s.live bells now rs = .ok (rs.filter fun x => ¬ s.IsOver bells now x.date) := by
  induction rs with
  | nil => rfl
  | cons x rs ih =>
    obtain ⟨phase, in_phase⟩ := s.exists_phaseOn_eq_ok valid now x.date
    simp only [live, in_phase, ih, bind, Except.bind, pure, Except.pure, List.filter_cons,
      isOver_iff_of_phaseOn in_phase, decide_not, Bool.not_eq_true', decide_eq_false_iff_not,
      ite_not]

namespace Reservation

variable {a b c : Reservation}

/-- On an earlier date, or of a smaller id on the same one. -/
def Precedes (a b : Reservation) : Prop := a.date < b.date ∨ a.date = b.date ∧ a.id < b.id

theorem comesBefore_iff : Registry.comesBefore a b = true ↔
    a.date < b.date ∨ a.date = b.date ∧ a.id.toNat ≤ b.id.toNat := by
  simp [Registry.comesBefore]

theorem comesBefore_trans (a b c : Reservation) (first : Registry.comesBefore a b = true)
    (second : Registry.comesBefore b c = true) : Registry.comesBefore a c = true := by
  rw [comesBefore_iff] at *
  rcases first with before | ⟨same, le⟩
  · rcases second with before' | ⟨same', -⟩
    · exact .inl (Int.lt_trans before before')
    · exact .inl (same' ▸ before)
  · rw [same]
    exact second.imp_right fun ⟨same', le'⟩ => ⟨same', Nat.le_trans le le'⟩

theorem comesBefore_total (a b : Reservation) :
    (Registry.comesBefore a b || Registry.comesBefore b a) = true := by
  rw [Bool.or_eq_true, comesBefore_iff, comesBefore_iff]
  rcases Int.lt_trichotomy a.date.day b.date.day with before | same | after
  · exact .inl (.inl before)
  · have same : a.date = b.date := Date.ext same
    exact (Nat.le_total a.id.toNat b.id.toNat).imp (fun le => .inr ⟨same, le⟩)
      fun le => .inr ⟨same.symm, le⟩
  · exact .inr (.inl after)

/-- Of different ids one is smaller. -/
theorem precedes_of_comesBefore (before : Registry.comesBefore a b = true) (differ : a.id ≠ b.id) :
    Precedes a b :=
  (comesBefore_iff.1 before).imp_right fun ⟨same, le⟩ =>
    ⟨same, Nat.lt_of_le_of_ne le fun equal => differ (Ident.toNat_injective equal)⟩

end Reservation

namespace Registry

variable {r : Registry} {rules : Rules} {now : Int} {slot : Ident} {user supervisor : UserId}
  {roster : Roster} {x : Reservation}

/-- What supervisors see of a slot. -/
theorem slotReservations_eq_ok (fits : r.Fits rules.bells) (now : Int)
    (found : r.roster? slot = some roster)
    (supervised : roster.isSupervisedBy (rules.directory.profile supervisor) = true) :
    r.slotReservations rules now slot supervisor = .ok
      (roster.reservations.filter fun x => ¬ roster.slot.IsOver rules.bells now x.date) := by
  rw [slotReservations, supervisedRoster_eq_ok_iff.2 ⟨found, supervised⟩]
  exact Slot.live_eq_ok (fits slot roster found) now roster.reservations

/-- What a user has to come at one slot. -/
def toCome (bells : BellSchedule) (now : Int) (user : UserId) (roster : Roster) :
    List Reservation :=
  (roster.reservations.filter (·.userId == user)).filter fun x =>
    ¬ roster.slot.IsOver bells now x.date

theorem mem_toCome_iff {bells : BellSchedule} : x ∈ toCome bells now user roster ↔
    x.userId = user ∧ x ∈ roster.reservations ∧ ¬ roster.slot.IsOver bells now x.date := by
  simp only [toCome, List.mem_filter, beq_iff_eq, decide_eq_true_eq]
  exact and_assoc.trans and_left_comm

theorem myReservations_eq_ok (fits : r.Fits rules.bells) (now : Int) (user : UserId) :
    r.myReservations rules now user =
      .ok ((r.rosterList.flatMap (toCome rules.bells now user)).mergeSort comesBefore) := by
  have each : ∀ rosters : List Roster, (∀ roster ∈ rosters, roster ∈ r.rosterList) →
      rosters.mapM (fun roster => roster.slot.live rules.bells now
        (roster.reservations.filter (·.userId == user))) =
      .ok (rosters.map (toCome rules.bells now user)) := by
    intro rosters sub
    induction rosters with
    | nil => rfl
    | cons roster rosters ih =>
      obtain ⟨mem, sub⟩ := List.forall_mem_cons.1 sub
      obtain ⟨slot, found⟩ := mem_rosterList_iff.1 mem
      rw [List.mapM_cons, Slot.live_eq_ok (fits slot roster found), ih sub]
      rfl
  rw [myReservations, each r.rosterList fun _ mem => mem]
  rfl

/-- No two of the reservations have the same id. -/
theorem Indexed.nodup_toCome (indexed : r.Indexed) (bells : BellSchedule) (now : Int)
    (user : UserId) : ((r.rosterList.flatMap (toCome bells now user)).map (·.id)).Nodup := by
  have sub (roster : Roster) :
      ((toCome bells now user roster).map (·.id)).Sublist roster.entities :=
    ((List.filter_sublist.trans List.filter_sublist).map _).trans (List.sublist_append_right _ _)
  obtain ⟨each, apart⟩ := List.nodup_flatMap.1 indexed.nodup_entities
  rw [List.map_flatMap, List.nodup_flatMap]
  refine ⟨fun roster mem => (each roster mem).sublist (sub roster), apart.imp fun disjoint => ?_⟩
  exact List.disjoint_of_subset_left (sub _).subset
    (List.disjoint_of_subset_right (sub _).subset disjoint)

/-- A user sees the reservations that are to come, each once, by date and by id. -/
theorem Indexed.myReservations_spec (indexed : r.Indexed) (fits : r.Fits rules.bells) (now : Int)
    (user : UserId) : ∃ mine, r.myReservations rules now user = .ok mine ∧
      mine.Pairwise Reservation.Precedes ∧
      ∀ x, x ∈ mine ↔ x.userId = user ∧ ∃ slot roster, r.roster? slot = some roster ∧
        x ∈ roster.reservations ∧ ¬ roster.slot.IsOver rules.bells now x.date := by
  refine ⟨_, myReservations_eq_ok fits now user, ?_, fun x => ?_⟩
  · have in_order := List.pairwise_mergeSort Reservation.comesBefore_trans
      Reservation.comesBefore_total (r.rosterList.flatMap (toCome rules.bells now user))
    have distinct := ((List.mergeSort_perm _ comesBefore).map (·.id)).nodup_iff.2
      (indexed.nodup_toCome rules.bells now user)
    refine (in_order.and (List.pairwise_map.1 distinct)).imp fun ⟨before, differ⟩ => ?_
    exact Reservation.precedes_of_comesBefore before differ
  · rw [List.mem_mergeSort, List.mem_flatMap]
    simp only [mem_toCome_iff, mem_rosterList_iff]
    constructor
    · rintro ⟨roster, ⟨slot, found⟩, own, mem, live⟩
      exact ⟨own, slot, roster, found, mem, live⟩
    · rintro ⟨own, slot, roster, found, mem, live⟩
      exact ⟨roster, ⟨slot, found⟩, own, mem, live⟩

end Registry

namespace Planner

variable {p q : Planner} {rules : Rules} {steps : List Step} {now : Int} {slot : Ident}
  {roster : Roster} {supervisor : UserId} {x : Reservation}

/-- A user who wants to give up a reservation is told that its session is over just if it is. -/
theorem unbook_eq_alreadyEnded_iff (indexed : q.registry.Indexed)
    (fits : q.registry.Fits rules.bells) (found : q.registry.roster? slot = some roster)
    (mem : x ∈ roster.reservations) (now : Int) (force strict : Bool) :
    (q.unbook rules now x.userId x.id force strict).1 = .error (.alreadyEnded x.id) ↔
      roster.slot.IsOver rules.bells now x.date := by
  obtain ⟨phase, in_phase, decided⟩ : ∃ phase,
      roster.slot.phaseOn rules.bells now x.date = .ok phase ∧
        (q.registry.unbook rules now x.id x.userId force strict).map (·.answer) =
          Registry.unbookMode rules roster x phase x.userId force strict :=
    indexed.unbook_of_mem fits found mem
  obtain ⟨settled, -⟩ := settled_unbook q rules now x.userId x.id force strict
  have refused_iff : (q.unbook rules now x.userId x.id force strict).1 =
      .error (.alreadyEnded x.id) ↔ _ := settled.eq_error_iff nofun
  rw [refused_iff, ← map_eq_error_iff, decided, Registry.unbookMode_eq_iff,
    Slot.isOver_iff_of_phaseOn in_phase]
  constructor
  · intro due
    cases due with
    | ownEnded own past => exact past
    | ended other => exact absurd rfl other
  · exact .ownEnded rfl

/-- When a slot is deleted on a disk that works, all are told whose reservations are to come. -/
theorem deleteSlot_of_works (works : q.log.disk.Works)
    (found : q.registry.roster? slot = some roster)
    (supervised : roster.isSupervisedBy (rules.directory.profile supervisor) = true) (now : Int) :
    ∃ after, q.deleteSlot rules now supervisor slot = (.ok (), after) ∧
      after.hub = q.hub.sendAll
        ((roster.reservations.filter fun x => ¬ roster.slot.IsOver rules.bells now x.date).map
          fun x => ⟨x.userId, x.id, .unbookForced, now⟩) := by
  have answered : (q.deleteSlot rules now supervisor slot).1 = .ok () := by
    rw [deleteSlot, (settle_of_works works now _).1, Registry.delete,
      Registry.supervisedRoster_eq_ok_iff.2 ⟨found, supervised⟩]
    rfl
  have told := (hub_perform q rules ⟨now, supervisor, .deleteSlot slot⟩ q.hub).2
  rw [told_eq_notices] at told
  simp only [notices, answered, found] at told
  exact ⟨_, Prod.ext answered rfl, told⟩

/-- **Reservations to come**, at any moment of a run at which the slots fit the bell schedule and the
index has exactly what is stored, as in every history. At any time a user sees those of the user's
stored reservations whose sessions are not over, each once, by date and by id. A user who wants to
give up a stored reservation is told that its session is over just if the user does not see it. And
to whoever supervises the slot, those are shown whose sessions are not over, in the order in which
they are stored; the user's are among them that the user sees, and these are also the ones that the
user would be told of if the supervisor deleted the slot, on a disk that works from then on and
through whatever hub. -/
theorem upcoming_of_run {disk : Journal.Disk} {hub : Hub} {counters : Counters} {drawn : Nat}
    (started : start disk hub counters drawn = .ok p) (ran : p.run rules steps = .ok q)
    (well : q.registry.Fits rules.bells ∧ q.registry.Indexed ∨ History rules p steps q) (now : Int)
    (user : UserId) :
    ∃ mine, q.registry.myReservations rules now user = .ok mine ∧
      mine.Pairwise Reservation.Precedes ∧
      (∀ x, x ∈ mine ↔ x.userId = user ∧ ∃ slot roster, q.registry.roster? slot = some roster ∧
        x ∈ roster.reservations ∧ ¬ roster.slot.IsOver rules.bells now x.date) ∧
      ∀ slot roster, q.registry.roster? slot = some roster →
        (∀ x ∈ roster.reservations, x.userId = user → ∀ force strict, x ∈ mine ↔
          (q.unbook rules now user x.id force strict).1 ≠ .error (.alreadyEnded x.id)) ∧
        ∀ supervisor, roster.isSupervisedBy (rules.directory.profile supervisor) = true →
          ∃ listed sent,
            q.registry.slotReservations rules now slot supervisor = .ok listed ∧
            listed = roster.reservations.filter
              (fun x => ¬ roster.slot.IsOver rules.bells now x.date) ∧
            (∀ hub, ∃ after,
              deleteSlot { q.mended with hub } rules now supervisor slot = (.ok (), after) ∧
              after.hub = hub.sendAll sent) ∧
            ∀ x ∈ roster.reservations, x.userId = user →
              [x ∈ mine, x ∈ listed, ⟨user, x.id, .unbookForced, now⟩ ∈ sent].TFAE := by
  have filed := filed_of_start started ran
  obtain ⟨fits, indexed⟩ : q.registry.Fits rules.bells ∧ q.registry.Indexed :=
    well.elim (fun both => both) fun h => ⟨h.fits, h.indexed⟩
  obtain ⟨mine, seen, in_order, mem_iff⟩ := indexed.myReservations_spec fits now user
  refine ⟨mine, seen, in_order, mem_iff, fun slot roster found => ?_⟩
  have unique := indexed.nodup_reservations found
  -- What is stored in the roster is stored nowhere else.
  have mine_iff (x : Reservation) (mem : x ∈ roster.reservations) (own : x.userId = user) :
      x ∈ mine ↔ ¬ roster.slot.IsOver rules.bells now x.date := by
    rw [mem_iff]
    constructor
    · rintro ⟨-, slot', roster', found', mem', live⟩
      rw [← (filed slot roster found).reservation_slot x mem,
        (filed slot' roster' found').reservation_slot x mem', found'] at found
      cases found
      exact live
    · exact fun live => ⟨own, slot, roster, found, mem, live⟩
  constructor
  · rintro x mem rfl force strict
    rw [mine_iff x mem rfl, ne_eq, unbook_eq_alreadyEnded_iff indexed fits found mem]
  · intro supervisor supervised
    have deleted (hub : Hub) := deleteSlot_of_works (q := { q.mended with hub }) (fun _ _ => rfl)
      found supervised now
    refine ⟨_, _, Registry.slotReservations_eq_ok fits now found supervised, rfl, deleted, ?_⟩
    rintro x mem rfl
    tfae_have 1 ↔ 2 := by
      rw [mine_iff x mem rfl, List.mem_filter, decide_eq_true_iff, and_iff_right mem]
    tfae_have 2 ↔ 3 := by
      rw [List.mem_map]
      constructor
      · exact fun listed => ⟨x, listed, rfl⟩
      · rintro ⟨y, listed, same⟩
        obtain rfl := List.inj_on_of_nodup_map unique (List.mem_filter.1 listed).1 mem
          (congrArg Notice.reservationId same)
        exact listed
    tfae_finish

set_option maxRecDepth 2000 in
/-- A student has a seat for the first unit of a day. Until this unit ends the student sees it, can
give it up and would be told of its removal, and from then on no more. -/
theorem upcoming_of_run_lastMoment : ∃ q mine,
    opened.run .oneStudent ((Demand.displacing.take 6).map .request) = .ok q ∧
    q.registry.myReservations .oneStudent 31799999 7 = .ok mine ∧ attended ∈ mine ∧
    (q.unbook .oneStudent 31800000 7 (.ofNat 6) true false).1 = .error (.alreadyEnded (.ofNat 6)) ∧
    ∃ sent, ⟨7, .ofNat 6, .unbookForced, 31799999⟩ ∈ sent ∧ ∀ hub, ∃ after,
      deleteSlot { q.mended with hub } .oneStudent 31799999 1 (.ofNat 0) = (.ok (), after) ∧
        after.hub = hub.sendAll sent := by
  obtain ⟨q, h⟩ := History.of_works ((Demand.displacing.take 6).map .request) (d := .empty)
    (fun _ _ => rfl) (.inl rfl) (by decide) start_opened (Rules.freshBelow_oneStudent (by decide))
  obtain ⟨roster, found, supervised, mem, live, ended⟩ : ∃ roster,
      q.registry.roster? (.ofNat 0) = some roster ∧
      roster.isSupervisedBy (Rules.oneStudent.directory.profile 1) = true ∧
      attended ∈ roster.reservations ∧ ¬ roster.slot.IsOver .standard 31799999 .epoch ∧
      roster.slot.IsOver .standard 31800000 .epoch := by
    have ran : opened.run .oneStudent ((Demand.displacing.take 6).map .request) = .ok _ := rfl
    cases ran.symm.trans h.ran
    exact ⟨_, rfl, rfl, by decide +kernel, by decide, rfl⟩
  -- A moment before the end.
  obtain ⟨mine, seen, -, mem_iff, views⟩ :=
    upcoming_of_run start_opened h.ran (.inr h) 31799999 7
  have there : attended ∈ mine := (mem_iff attended).2 ⟨rfl, _, roster, found, mem, live⟩
  obtain ⟨_, sent, -, -, deleted, agree⟩ := (views _ roster found).2 1 supervised
  have notice := ((agree attended mem rfl).out 0 2).1 there
  -- At the end.
  obtain ⟨mine', -, -, -, views'⟩ := upcoming_of_run start_opened h.ran (.inr h) 31800000 7
  obtain ⟨own, shown⟩ := views' _ roster found
  obtain ⟨_, _, -, rfl, -, agree'⟩ := shown 1 supervised
  have gone : attended ∉ mine' := by
    intro there
    have listed := ((agree' attended mem rfl).out 0 1).1 there
    exact of_decide_eq_true (List.mem_filter.1 listed).2 ended
  have refused := not_not.1 (mt (own attended mem rfl true false).2 gone)
  exact ⟨q, mine, h.ran, seen, there, refused, sent, notice, deleted⟩

end Planner

end Timetable
