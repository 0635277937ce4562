import Timetable.Proofs.Planner.Cut
import Timetable.Proofs.Planner.History
import Timetable.Proofs.Registry.Filed

/-!
# Who may change what

Only its supervisors change a slot, its filters and its supervisors, and only they delete it. Others
can do no more to its reservations than to add and remove one of their own, or, as supervisors of
another slot at the same time, to displace those of a student whom they book there.

So as long as nobody who supervises a slot asks for anything, nobody comes to supervise it, unless a
restart brings back what was refused to a supervisor before.
-/

set_option autoImplicit false

namespace Timetable

/-- What is given up is taken from where it is found. -/
theorem Roster.removeReservation_of_has {roster : Roster} {id : Ident} {x : Reservation}
    (has : roster.reservation? id = some x) : ∃ front back,
      roster.reservations = front ++ x :: back ∧
        roster.removeReservation id = { roster with reservations := front ++ back } := by
  obtain ⟨named, front, back, split, before⟩ := List.find?_eq_some_iff_append.1 has
  refine ⟨front, back, split, ?_⟩
  have others : ∀ y ∈ front, ¬ (y.id == id) = true := by
    intro y hy named
    have not_named := before y hy
    rw [named] at not_named
    cases not_named
  rw [removeReservation, split, List.eraseP_append_right _ others, List.eraseP_cons, named]
  rfl

/-- What a demand may make of a roster whose slot the caller does not supervise. -/
inductive Roster.Touched (rules : Rules) (r : Registry) (d : Demand) (id : Ident)
    (before : Roster) : Roster → Prop where
  | spared : Touched rules r d id before before
  /-- Callers book for themselves. -/
  | booked (x : Reservation) (own : x.userId = d.caller) :
      Touched rules r d id before (before.addReservation x)
  /-- They give up what they have booked. -/
  | unbooked {front back : List Reservation} (x : Reservation) (own : x.userId = d.caller)
      (there : before.reservations = front ++ x :: back) :
      Touched rules r d id before { before with reservations := front ++ back }
  /-- They book a student into a slot that they supervise and that is at the same time. What goes
  has the id of one of the student's reservations for that date, and so is that reservation if the
  ids are different. -/
  | displaced {target : Ident} {date : Date} {student : UserId} {roster : Roster}
      {kept : List Reservation} (asked : d.action = .bookReservation target date (some student))
      (other : student ≠ d.caller) (elsewhere : target ≠ id)
      (found : r.roster? target = some roster)
      (supervised : roster.isSupervisedBy (rules.directory.profile d.caller) = true)
      (overlaps : before.slot.overlaps roster.slot = true)
      (fewer : kept.Sublist before.reservations)
      (named : ∀ y ∈ before.reservations, y ∉ kept →
        ∃ x ∈ before.reservations, x.id = y.id ∧ x.date = date ∧ x.userId = student)
      (of_student : (before.reservations.map (·.id)).Nodup → kept = before.reservations.filter
        fun x => decide (¬ (x.date = date ∧ x.userId = student))) :
      Touched rules r d id before { before with reservations := kept }

/-- Rosters that differ in their reservations at most. -/
structure Roster.SameTerms (before after : Roster) : Prop where
  slot : after.slot = before.slot
  filters : after.filters = before.filters
  supervisors : after.supervisors = before.supervisors

namespace Roster.SameTerms

variable {before after last : Roster}

theorem refl (roster : Roster) : roster.SameTerms roster := ⟨rfl, rfl, rfl⟩

theorem trans (h : before.SameTerms after) (h' : after.SameTerms last) : before.SameTerms last :=
  ⟨h'.slot.trans h.slot, h'.filters.trans h.filters, h'.supervisors.trans h.supervisors⟩

/-- Who supervises a slot depends on its supervisors alone. -/
theorem isSupervisedBy (same : before.SameTerms after) (user : UserProfile) :
    after.isSupervisedBy user = before.isSupervisedBy user := by
  rw [Roster.isSupervisedBy, Roster.isSupervisedBy, hasSupervisor, hasSupervisor, same.supervisors]

end Roster.SameTerms

theorem Roster.Touched.sameTerms {rules : Rules} {r : Registry} {d : Demand} {id : Ident}
    {before after : Roster} (h : before.Touched rules r d id after) : before.SameTerms after := by
  cases h <;> exact ⟨rfl, rfl, rfl⟩

namespace Registry

variable {r : Registry} {rules : Rules} {now : Int} {slot id : Ident} {user : UserId}
  {es : List Event}

/-! ## Changes that supervisors make -/

/-- The events are all of one slot, which the user supervises. -/
def Guarded (r : Registry) (rules : Rules) (user : UserId) (es : List Event) : Prop :=
  ∃ slot roster, r.supervisedRoster rules slot user = .ok roster ∧ ∀ e ∈ es, e.slotId = slot

theorem guarded_update {patch : SlotPatch} {c : Change (List Overfull)} (filed : r.Filed)
    (h : r.update rules now slot patch user = .ok c) : r.Guarded rules user c.events := by
  obtain ⟨roster, supervised, -, -, overfull, -, rfl⟩ := update_eq_ok_iff.1 h
  have found := (supervisedRoster_eq_ok_iff.1 supervised).1
  exact ⟨slot, roster, supervised, List.forall_mem_singleton.2 (filed slot roster found).slot_id⟩

theorem guarded_delete {c : Change Unit} (h : r.delete rules now slot user = .ok c) :
    r.Guarded rules user c.events := by
  obtain ⟨roster, supervised, rfl⟩ := delete_eq_ok_iff.1 h
  exact ⟨slot, roster, supervised, List.forall_mem_singleton.2 rfl⟩

theorem guarded_addFilter {course : Option CourseId} {cohort : Option String}
    {c : Change SlotFilter} (h : r.addFilter rules slot course cohort user id = .ok c) :
    r.Guarded rules user c.events := by
  obtain ⟨-, roster, supervised, -, rfl⟩ := addFilter_eq_ok_iff.1 h
  exact ⟨slot, roster, supervised, List.forall_mem_singleton.2 rfl⟩

theorem guarded_removeFilter {c : Change Unit} (filed : r.Filed)
    (h : r.removeFilter rules id user = .ok c) : r.Guarded rules user c.events := by
  obtain ⟨roster, holding, -, supervised, rfl⟩ := removeFilter_eq_ok_iff.1 h
  obtain ⟨slot, -, found⟩ := rosterHolding_eq_ok_iff.1 holding
  exact ⟨slot, roster, supervisedRoster_eq_ok_iff.2 ⟨found, supervised⟩,
    List.forall_mem_singleton.2 (filed slot roster found).slot_id⟩

theorem guarded_addSupervisor {linked : UserId} {c : Change Unit}
    (h : r.addSupervisor rules slot linked user id = .ok c) : r.Guarded rules user c.events := by
  obtain ⟨roster, supervised, ⟨-, rfl⟩ | ⟨-, -, rfl⟩⟩ := addSupervisor_eq_ok_iff.1 h
  · exact ⟨slot, roster, supervised, List.forall_mem_nil _⟩
  · exact ⟨slot, roster, supervised, List.forall_mem_singleton.2 rfl⟩

theorem guarded_removeSupervisor {linked : UserId} {c : Change Unit}
    (h : r.removeSupervisor rules slot linked user = .ok c) : r.Guarded rules user c.events := by
  obtain ⟨roster, supervised, ⟨-, rfl⟩ | ⟨-, rfl⟩⟩ := removeSupervisor_eq_ok_iff.1 h
  · exact ⟨slot, roster, supervised, List.forall_mem_singleton.2 rfl⟩
  · exact ⟨slot, roster, supervised, List.forall_mem_nil _⟩

/-! ## Changes that others make -/

/-- The caller supervises the slot, or the events make no more of its roster than others may. -/
def Authorized (r : Registry) (rules : Rules) (d : Demand) (id : Ident) (es : List Event) : Prop :=
  ∀ before, r.roster? id = some before →
    before.isSupervisedBy (rules.directory.profile d.caller) = true ∨
      ∃ after, (r.applyAll es).roster? id = some after ∧ before.Touched rules r d id after

variable {d : Demand}

theorem authorized_of_others (others : ∀ e ∈ es, e.slotId ≠ id) : r.Authorized rules d id es := by
  intro before there
  exact .inr ⟨before, (roster?_applyAll_of_others others).trans there, .spared⟩

theorem authorized_nil : r.Authorized rules d id [] := authorized_of_others (List.forall_mem_nil _)

theorem Guarded.authorized (guarded : r.Guarded rules d.caller es) :
    r.Authorized rules d id es := by
  obtain ⟨slot, roster, supervised, at_slot⟩ := guarded
  by_cases here : slot = id
  · subst here
    obtain ⟨found, supervised⟩ := supervisedRoster_eq_ok_iff.1 supervised
    intro before there
    cases found.symm.trans there
    exact .inl supervised
  · exact authorized_of_others fun e he => at_slot e he ▸ here

/-- A booking is one of the caller's own, or the caller supervises the slot. -/
theorem authorized_book {date : Date} {student : Option UserId} {x : Ident} {c : Change Reservation}
    (filed : r.Filed) (asked : d.action = .bookReservation slot date student)
    (h : r.book rules d.now ⟨slot, date, student.getD d.caller, d.caller⟩ x = .ok c) :
    r.Authorized rules d id c.events := by
  obtain ⟨-, profile, -, held, -, h⟩ := book_eq_ok_iff.1 h
  obtain ⟨roster, found, seat, rfl⟩ := bookHeld_eq_ok_iff.1 h
  intro before there
  by_cases self : student.getD d.caller = d.caller
  · have on_behalf : Booking.isOnBehalf ⟨slot, date, student.getD d.caller, d.caller⟩ = false :=
      bne_eq_false_iff_eq.2 self
    -- Who books for himself displaces nothing, whatever else he has at that time.
    right
    rw [displacedFrom, on_behalf, if_neg Bool.false_ne_true, List.nil_append, applyAll_singleton,
      roster?_apply]
    split
    · rw [there]
      exact ⟨_, rfl, .booked _ self⟩
    · exact ⟨before, there, .spared⟩
  · have on_behalf : Booking.isOnBehalf ⟨slot, date, student.getD d.caller, d.caller⟩ = true :=
      bne_iff_ne.2 self
    have supervised : roster.isSupervisedBy (rules.directory.profile d.caller) = true := by
      obtain ⟨days, bounded, -⟩ := requireSeat_eq_ok_iff.1 seat
      rw [bound, if_pos on_behalf] at bounded
      split at bounded
      · assumption
      · cases bounded
    by_cases here : slot = id
    · subst here
      cases found.symm.trans there
      exact .inl supervised
    · right
      -- Authority is asked for where the student is booked, not where something is displaced.
      rw [applyAll_append, applyAll_singleton, roster?_apply]
      simp only [Event.slotId, here, ↓reduceIte]
      rcases roster?_applyAll_displacedFrom filed there with same |
        ⟨overlaps, kept, left, fewer, named, of_student⟩
      · exact ⟨before, same, .spared⟩
      · cases student with
        | none => exact absurd rfl self
        | some student =>
          exact ⟨_, left, .displaced asked self here found supervised overlaps fewer named
            of_student⟩

/-- What is unbooked is the caller's own, or the caller supervises the slot. -/
theorem authorized_unbook {x : Ident} {force strict : Bool} {c : Change UnbookMode}
    (filed : r.Filed) (h : r.unbook rules d.now x d.caller force strict = .ok c) :
    r.Authorized rules d id c.events := by
  obtain ⟨roster, holding, reservation, has, phase, -, mode, decided, rfl⟩ := unbook_eq_ok_iff.1 h
  obtain ⟨slot, -, found⟩ := rosterHolding_eq_ok_iff.1 holding
  obtain ⟨there, -⟩ := Roster.of_reservation?_eq_some has
  have at_slot : reservation.slotId = slot := (filed slot roster found).reservation_slot _ there
  by_cases here : slot = id
  · subst here
    intro before there'
    cases found.symm.trans there'
    have cancelled (own : reservation.userId = d.caller) : ∃ after,
        (r.applyAll [.reservationCancelled x reservation.slotId]).roster? slot = some after ∧
          roster.Touched rules r d slot after := by
      obtain ⟨front, back, split, left⟩ := Roster.removeReservation_of_has has
      refine ⟨_, ?_, .unbooked reservation own split⟩
      rw [applyAll_singleton, roster?_apply, at_slot, found, ← left]
      exact if_pos rfl
    cases unbookMode_eq_iff.1 decided with
    | ownRemoved own future => exact .inr (cancelled own)
    | removed other supervised live forced => exact .inl supervised
    | requested other supervised live nice may_ask => exact .inl supervised
  · cases mode with
    | requested => exact authorized_nil
    | _ => exact authorized_of_others (List.forall_mem_singleton.2 (at_slot ▸ here))

end Registry

namespace Planner

variable {p q : Planner} {rules : Rules} {id : Ident} {before : Roster} {steps : List Step}

theorem filed_of_run (filed : p.registry.Filed) (ran : p.run rules steps = .ok q) :
    q.registry.Filed :=
  rosters_of_run Roster.Filed.new (fun _ _ _ => Roster.Filed.apply) filed ran

theorem filed_of_start {disk : Journal.Disk} {hub : Hub} {counters : Counters} {drawn : Nat}
    (started : start disk hub counters drawn = .ok p) (ran : p.run rules steps = .ok q) :
    q.registry.Filed := by
  obtain ⟨es, -, _, -, rfl⟩ := start_eq_ok_iff.1 started
  refine filed_of_run ?_ ran
  exact Registry.filed_ofEvents es

theorem History.indexed (h : History rules p steps q) : q.registry.Indexed :=
  h.stands.1.wellFormed.indexed

/-- The slots of a planner fit the bell schedule in a history. -/
theorem History.fits (h : History rules p steps q) : q.registry.Fits rules.bells :=
  h.stands.1.wellFormed.fits

theorem History.nodup (h : History rules p steps q) (there : q.registry.roster? id = some before) :
    (before.reservations.map (·.id)).Nodup := h.indexed.nodup_reservations there

/-! ## What a step may change -/

/-- An action of those who do not supervise a slot spares it and touches its reservations at
most, if the ids that are drawn for it are not the slot's. -/
theorem authorized_transaction (filed : p.registry.Filed) (d : Demand)
    (fresh : ∀ i < d.action.draws, rules.ids (p.drawn + i) ≠ id) :
    p.registry.Authorized rules d id (p.transaction rules d.now d.caller d.action) := by
  have of_decision {α : Type} (decision : Except Refusal (Change α)) :=
    Change.of_eventsOf (p.registry.Authorized rules d id) Registry.authorized_nil decision
  obtain ⟨now, caller, action⟩ := d
  cases action with
  | createSlot startUnit duration weekday room capacity =>
    have other : rules.ids p.drawn ≠ id := fresh 0 (Nat.succ_pos 1)
    refine of_decision _ fun c h => ?_
    obtain ⟨-, -, rfl⟩ := Registry.create_eq_ok_iff.1 h
    exact Registry.authorized_of_others (List.forall_mem_singleton.2 other)
  | updateSlot slot patch =>
    exact of_decision _ fun c h => (Registry.guarded_update filed h).authorized
  | deleteSlot slot => exact of_decision _ fun c h => (Registry.guarded_delete h).authorized
  | addSlotFilter slot course cohort =>
    exact of_decision _ fun c h => (Registry.guarded_addFilter h).authorized
  | deleteSlotFilter filter =>
    exact of_decision _ fun c h => (Registry.guarded_removeFilter filed h).authorized
  | addSlotSupervisor slot user =>
    exact of_decision _ fun c h => (Registry.guarded_addSupervisor h).authorized
  | removeSlotSupervisor slot user =>
    exact of_decision _ fun c h => (Registry.guarded_removeSupervisor h).authorized
  | bookReservation slot date student =>
    exact of_decision _ fun c h => Registry.authorized_book filed rfl h
  | unbookReservation reservation nice strict =>
    exact of_decision _ fun c h => Registry.authorized_unbook filed h
  | _ => exact Registry.authorized_nil

/-- **What is asked of the planner** is asked by a supervisor of the slot or touches its
reservations at most, whether the journal takes it or not. -/
theorem touched_perform (filed : p.registry.Filed) (there : p.registry.roster? id = some before)
    (d : Demand) (fresh : ∀ i < d.action.draws, rules.ids (p.drawn + i) ≠ id) :
    before.isSupervisedBy (rules.directory.profile d.caller) = true ∨
      ∃ after, (p.perform rules d.now d.caller d.action).2.registry.roster? id = some after ∧
        before.Touched rules p.registry d id after := by
  obtain ⟨⟨-, same⟩ | carried, -⟩ := perform_cases p rules d
  · rw [same]
    exact .inr ⟨before, there, .spared⟩
  · rw [carried.1]
    exact authorized_transaction filed d fresh before there

/-! ## What a run may change -/

/-- A restart finds another registry than was given up, since the journal did not hold the same. -/
def Forgets (p : Planner) (_ : Rules) : Step → Prop
  | .restart => ∃ q, p.restart = .ok q ∧ q.registry ≠ p.registry
  | _ => False

theorem History.never_forgets {p' : Planner} {more : List Step}
    (h : History rules p (steps ++ more) q) (ran : p.run rules steps = .ok p') :
    p'.Never Forgets rules more := by
  rintro front s rest q' rfl ran'
  cases s with
  | restart =>
    rintro ⟨q'', restarted, other⟩
    rw [← List.append_assoc] at h
    have h' : History rules p (steps ++ front) q' := by
      refine h.front ?_
      rw [run_append, ran]
      exact ran'
    obtain ⟨es, inStep⟩ := h'.stands.2.2 (h.in_step (steps ++ front) rest rfl)
    exact other (inStep.restart restarted).1
  | _ => exact id

theorem sameTerms_step (filed : p.registry.Filed) (there : p.registry.roster? id = some before)
    {s : Step} (stepped : p.step rules s = .ok q)
    (outsider : ∀ d, s = .request d →
      before.isSupervisedBy (rules.directory.profile d.caller) = false)
    (fresh : ∀ i < s.draws, rules.ids (p.drawn + i) ≠ id) (remembers : ¬ p.Forgets rules s) :
    ∃ after, q.registry.roster? id = some after ∧ before.SameTerms after := by
  cases s with
  | request d =>
    cases stepped
    rcases touched_perform filed there d fresh with supervised | ⟨after, there', touched⟩
    · cases (outsider d rfl).symm.trans supervised
    · exact ⟨after, there', touched.sameTerms⟩
  | compact =>
    cases stepped
    exact ⟨before, there, .refl before⟩
  | restart =>
    have same : q.registry = p.registry := by
      by_contra other
      exact remembers ⟨q, stepped, other⟩
    rw [same]
    exact ⟨before, there, .refl before⟩

/-- **As long as no supervisor of a slot asks for anything**, the slot stays and so do its filters
and its supervisors. -/
theorem sameTerms_run (filed : p.registry.Filed) (there : p.registry.roster? id = some before)
    (ran : p.run rules steps = .ok q)
    (outsiders : ∀ d, .request d ∈ steps →
      before.isSupervisedBy (rules.directory.profile d.caller) = false)
    (fresh : ∀ i < Step.drawsAll steps, rules.ids (p.drawn + i) ≠ id)
    (remembers : p.Never Forgets rules steps) :
    ∃ after, q.registry.roster? id = some after ∧ before.SameTerms after := by
  induction steps using List.reverseRecOn generalizing q with
  | nil =>
    cases ran
    exact ⟨before, there, .refl before⟩
  | append_singleton steps s ih =>
    obtain ⟨q', ran, stepped⟩ := run_snoc_eq_ok_iff.1 ran
    rw [Step.drawsAll_append] at fresh
    obtain ⟨between, there', same⟩ := ih ran
      (fun d mem => outsiders d (List.mem_append_left _ mem))
      (fun i below => fresh i (Nat.lt_add_right _ below)) remembers.init
    have outsider (d : Demand) (asked : s = .request d) :
        between.isSupervisedBy (rules.directory.profile d.caller) = false := by
      rw [same.isSupervisedBy]
      exact outsiders d (List.mem_append_right _ (List.mem_singleton.2 asked.symm))
    have fresh' (i : Nat) (below : i < s.draws) : rules.ids (q'.drawn + i) ≠ id := by
      rw [drawn_of_run ran, Nat.add_assoc]
      exact fresh _ (Nat.add_lt_add_left below _)
    obtain ⟨after, there'', same'⟩ := sameTerms_step (filed_of_run filed ran) there' stepped
      outsider fresh' (remembers.last ran)
    exact ⟨after, there'', same.trans same'⟩

/-- **Only its supervisors change a slot.** At every moment of a run, whatever was in the journal at
the start and on any disk, a caller supervises a slot or leaves it with its filters and supervisors
as it is, and does to its reservations no more than others may. So a run in which none of its
supervisors asks for anything leaves them as they are, and makes nobody a supervisor. Restarts do
not change that in a history; elsewhere they may bring back what has been refused to a supervisor
before. -/
theorem changed_by_supervisors_only {d : Journal.Disk} {hub : Hub} {counters : Counters}
    {drawn : Nat} (started : start d hub counters drawn = .ok p) (ran : p.run rules steps = .ok q)
    (there : q.registry.roster? id = some before) :
    (∀ d : Demand, (∀ i < d.action.draws, rules.ids (q.drawn + i) ≠ id) →
      before.isSupervisedBy (rules.directory.profile d.caller) = true ∨
        ∃ after, (q.perform rules d.now d.caller d.action).2.registry.roster? id = some after ∧
          before.Touched rules q.registry d id after) ∧
    (History rules p steps q → (before.reservations.map (·.id)).Nodup) ∧
    ∀ more q', q.run rules more = .ok q' →
      (∀ d, .request d ∈ more →
        before.isSupervisedBy (rules.directory.profile d.caller) = false) →
      (∀ i < Step.drawsAll more, rules.ids (q.drawn + i) ≠ id) →
      (q.Never Forgets rules more ∨ History rules p (steps ++ more) q') →
      ∃ after, q'.registry.roster? id = some after ∧ before.SameTerms after ∧
        ∀ user, after.isSupervisedBy user = before.isSupervisedBy user := by
  have filed := filed_of_start started ran
  refine ⟨touched_perform filed there, fun h => h.nodup there, ?_⟩
  intro more q' ran' outsiders fresh remembers
  have remembers : q.Never Forgets rules more := by
    rcases remembers with remembers | h
    · exact remembers
    · exact h.never_forgets ran
  obtain ⟨after, there', same⟩ := sameTerms_run filed there ran' outsiders fresh remembers
  exact ⟨after, there', same, same.isSupervisedBy⟩

/-- A student wants to supervise a slot, to delete it and to book it; then the planner is
restarted. -/
def intruding : List Step := [
  .request ⟨0, 7, .addSlotSupervisor (.ofNat 0) 7⟩,
  .request ⟨0, 7, .deleteSlot (.ofNat 0)⟩,
  .request ⟨0, 7, .bookReservation (.ofNat 0) .epoch none⟩,
  .compact,
  .restart]

set_option maxRecDepth 2000 in
theorem changed_by_supervisors_only_intruding : ∃ q before q' after,
    opened.run .oneStudent (Demand.displacing.map .request) = .ok q ∧
      q.registry.roster? (.ofNat 0) = some before ∧ (before.reservations.map (·.id)).Nodup ∧
      q.run .oneStudent intruding = .ok q' ∧ q'.registry.roster? (.ofNat 0) = some after ∧
      before.SameTerms after ∧
      after.isSupervisedBy (Rules.oneStudent.directory.profile 7) = false := by
  obtain ⟨q, before, ran, there, outsider⟩ : ∃ q before,
      opened.run .oneStudent (Demand.displacing.map .request) = .ok q ∧
        q.registry.roster? (.ofNat 0) = some before ∧
        before.isSupervisedBy (Rules.oneStudent.directory.profile 7) = false :=
    ⟨_, _, rfl, rfl, rfl⟩
  obtain ⟨q', h⟩ := History.of_works (Demand.displacing.map .request ++ intruding) (d := .empty)
    (fun _ _ => rfl) (.inl rfl) (by decide) start_opened (Rules.freshBelow_oneStudent (by decide))
  have ran' : q.run .oneStudent intruding = .ok q' := by
    have ran_all := h.ran
    rw [run_append, ran] at ran_all
    exact ran_all
  have drawn : q.drawn = 9 := drawn_of_run ran
  have fresh : ∀ i < Step.drawsAll intruding, Rules.oneStudent.ids (q.drawn + i) ≠ .ofNat 0 := by
    rw [drawn]
    decide
  have outsiders (d : Demand) (mem : .request d ∈ intruding) :
      before.isSupervisedBy (Rules.oneStudent.directory.profile d.caller) = false := by
    simp only [intruding, List.mem_cons, Step.request.injEq, reduceCtorEq, List.not_mem_nil,
      or_false] at mem
    rcases mem with rfl | rfl | rfl <;> exact outsider
  obtain ⟨-, nodup, law⟩ := changed_by_supervisors_only start_opened ran there
  obtain ⟨after, there', same, supervised⟩ := law intruding q' ran' outsiders fresh (.inr h)
  exact ⟨q, before, q', after, ran, there, nodup (h.front ran), ran', there', same,
    (supervised _).trans outsider⟩

/-- A supervisor wants a student to supervise the slot as well, which the disk refuses. -/
def linkRefused : List Step := [
  .request ⟨0, 1, .createSlot 1 1 .thursday "101" 5⟩,
  .request ⟨0, 1, .addSlotFilter (.ofNat 0) none (some "1a")⟩,
  .request ⟨0, 1, .addSlotSupervisor (.ofNat 0) 7⟩]

/-- The student is all who asks for anything from then on. -/
def bookedAndRestarted : List Step :=
  [.request ⟨0, 7, .bookReservation (.ofNat 0) .epoch none⟩, .restart]

/-- What is in the journal then: the link that was refused as well as the booking. -/
def linkAndBooking : List Event := [
  .slotCreated ⟨.ofNat 0, 1, 1, .thursday, "101", 5⟩ [⟨.ofNat 1, .ofNat 0, 1⟩],
  .filterAdded ⟨.ofNat 2, .ofNat 0, none, some "1a"⟩,
  .supervisorAdded ⟨.ofNat 3, .ofNat 0, 7⟩,
  .reservationBooked ⟨.ofNat 4, .ofNat 0, .epoch, 7, 7⟩]

set_option maxRecDepth 2000 in
/-- So a run in which no supervisor of the slot asks for anything makes the student one of them. -/
theorem supervisor_made_by_restart :
    Rules.oneStudent.FreshBelow (Step.drawsAll (linkRefused ++ bookedAndRestarted)) ∧
    ∃ p q q' before after, start (.failingAt 5) .empty [] 0 = .ok p ∧
      p.run .oneStudent linkRefused = .ok q ∧
      q.registry.roster? (.ofNat 0) = some before ∧
      (∀ d, .request d ∈ bookedAndRestarted →
        before.isSupervisedBy (Rules.oneStudent.directory.profile d.caller) = false) ∧
      q.run .oneStudent bookedAndRestarted = .ok q' ∧
      q'.registry.roster? (.ofNat 0) = some after ∧ ¬ before.SameTerms after ∧
      after.isSupervisedBy (Rules.oneStudent.directory.profile 7) = true := by
  obtain ⟨p, q, q₁, q', before, after, started, ran, there, outsider, booked, restarted, there',
      made⟩ : ∃ p q q₁ q' before after, start (.failingAt 5) .empty [] 0 = .ok p ∧
        p.run .oneStudent linkRefused = .ok q ∧ q.registry.roster? (.ofNat 0) = some before ∧
        before.isSupervisedBy (Rules.oneStudent.directory.profile 7) = false ∧
        q.step .oneStudent (.request ⟨0, 7, .bookReservation (.ofNat 0) .epoch none⟩) = .ok q₁ ∧
        q₁.restart = .ok q' ∧ q'.registry.roster? (.ofNat 0) = some after ∧
        after.isSupervisedBy (Rules.oneStudent.directory.profile 7) = true := by
    refine ⟨_, _, _, _, _, _, rfl, rfl, rfl, rfl, rfl, restart_of_records linkAndBooking ?_ ?_ rfl,
      rfl, rfl⟩
    all_goals decide +kernel
  have ran' : q.run .oneStudent bookedAndRestarted = .ok q' :=
    bind_eq_ok_iff.2 ⟨q₁, booked, bind_eq_ok_iff.2 ⟨q', restarted, rfl⟩⟩
  refine ⟨Rules.freshBelow_oneStudent (by decide), p, q, q', before, after, started, ran, there, ?_,
    ran', there', ?_, made⟩
  · intro d mem
    simp only [bookedAndRestarted, List.mem_cons, Step.request.injEq, reduceCtorEq,
      List.not_mem_nil, or_false] at mem
    rw [mem]
    exact outsider
  · intro same
    cases made.symm.trans ((same.isSupervisedBy _).trans outsider)

end Planner

end Timetable
