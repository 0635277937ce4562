import Timetable.Proofs.Overfull
import Timetable.Proofs.Planner.History
import Timetable.Proofs.Registry.Seats

/-!
# What a step does to one slot

Seen from one slot there is little that a step can do. Apart from its creation and its deletion, it
is changed by an update, it gets a reservation by a booking, or it keeps its record and gets no
reservation. Whatever is to be kept by all operations is checked against these cases.
-/

set_option autoImplicit false

namespace Timetable

/-- The date is a day of the slot, the user is not booked on it, and there is a seat left. -/
structure Roster.HasSeat (roster : Roster) (date : Date) (user : UserId) : Prop where
  weekday : date.weekday = roster.slot.weekday
  new : roster.bookedBy? date user = none
  free : roster.countOn date < roster.slot.capacity.toNat

/-- The patch fits the roster, which answers with its overfull dates. -/
structure Roster.Takes (bells : BellSchedule) (now : Int) (roster : Roster) (patch : SlotPatch)
    (overfull : List Overfull) : Prop where
  valid : (patch.apply roster.slot).validate bells = .ok ()
  ended : (patch.apply roster.slot).weekday ≠ roster.slot.weekday →
    Registry.requireOver roster.slot bells now roster.reservations = .ok ()
  listed : Overfull.of (patch.apply roster.slot) bells now roster.reservations = .ok overfull

/-- The slot can be patched at some time: it is valid then, and it stays on its weekday or all its
sessions that somebody has booked are over. -/
def Roster.Accepts (bells : BellSchedule) (now : Int) (roster : Roster) (patch : SlotPatch) : Prop :=
  (patch.apply roster.slot).validate bells = .ok () ∧
    ((patch.apply roster.slot).weekday = roster.slot.weekday ∨
      ∀ x ∈ roster.reservations, roster.slot.IsOver bells now x.date)

instance (bells : BellSchedule) (now : Int) (roster : Roster) (patch : SlotPatch) :
    Decidable (roster.Accepts bells now patch) := inferInstanceAs (Decidable (_ ∧ (_ ∨ _)))

/-- A patch that is accepted fits, as the overfull dates of a valid slot can always be listed. -/
theorem Roster.takes_iff {bells : BellSchedule} {now : Int} {roster : Roster} {patch : SlotPatch}
    {overfull : List Overfull} : roster.Takes bells now patch overfull ↔
      roster.Accepts bells now patch ∧
        overfull = Overfull.lines (patch.apply roster.slot) bells now roster.reservations := by
  constructor
  · rintro ⟨valid, ended, listed⟩
    rw [Overfull.of_eq_ok valid] at listed
    cases listed
    refine ⟨⟨valid, ?_⟩, rfl⟩
    rw [or_iff_not_imp_left]
    intro moved
    exact Registry.requireOver_eq_ok_iff.1 (ended moved)
  · rintro ⟨⟨valid, stays_or_over⟩, rfl⟩
    refine ⟨valid, ?_, Overfull.of_eq_ok valid now roster.reservations⟩
    intro moved
    exact Registry.requireOver_eq_ok_iff.2 (stays_or_over.resolve_left moved)

/-! ## Operations that book nothing -/

namespace Registry

variable {r : Registry} {rules : Rules} {now : Int} {slot id : Ident} {user : UserId}

theorem quiet_addFilter {course : Option CourseId} {cohort : Option String} {c : Change SlotFilter}
    (h : r.addFilter rules slot course cohort user id = .ok c) : ∀ e ∈ c.events, e.isQuiet := by
  obtain ⟨-, roster, -, -, rfl⟩ := addFilter_eq_ok_iff.1 h
  exact List.forall_mem_singleton.2 rfl

theorem quiet_removeFilter {c : Change Unit} (h : r.removeFilter rules id user = .ok c) :
    ∀ e ∈ c.events, e.isQuiet := by
  obtain ⟨roster, -, -, -, rfl⟩ := removeFilter_eq_ok_iff.1 h
  exact List.forall_mem_singleton.2 rfl

theorem quiet_addSupervisor {linked : UserId} {c : Change Unit}
    (h : r.addSupervisor rules slot linked user id = .ok c) : ∀ e ∈ c.events, e.isQuiet := by
  obtain ⟨roster, -, ⟨-, rfl⟩ | ⟨-, -, rfl⟩⟩ := addSupervisor_eq_ok_iff.1 h
  · exact List.forall_mem_nil _
  · exact List.forall_mem_singleton.2 rfl

theorem quiet_removeSupervisor {linked : UserId} {c : Change Unit}
    (h : r.removeSupervisor rules slot linked user = .ok c) : ∀ e ∈ c.events, e.isQuiet := by
  obtain ⟨roster, -, ⟨-, rfl⟩ | ⟨-, rfl⟩⟩ := removeSupervisor_eq_ok_iff.1 h
  · exact List.forall_mem_singleton.2 rfl
  · exact List.forall_mem_nil _

theorem quiet_unbook {force strict : Bool} {c : Change UnbookMode}
    (h : r.unbook rules now id user force strict = .ok c) : ∀ e ∈ c.events, e.isQuiet := by
  obtain ⟨roster, -, reservation, -, phase, -, mode, -, rfl⟩ := unbook_eq_ok_iff.1 h
  cases mode with
  | requested => exact List.forall_mem_nil _
  | _ => exact List.forall_mem_singleton.2 rfl

/-- What is displaced by a booking is cancelled in other slots. -/
theorem quiet_of_mem_displacedFrom {bells : BellSchedule} (wf : r.WellFormed bells) {b : Booking}
    {s : Slot} {held : List Ident} {e : Event} (he : e ∈ r.displacedFrom b s held) :
    e.isQuiet ∧ e.slotId ≠ b.slot := by
  obtain ⟨⟨_, _, _, _, _, rfl⟩, elsewhere⟩ := cancels_of_mem_displacedFrom wf he
  exact ⟨rfl, elsewhere⟩

/-- An update that is decided on patches the record of its slot. -/
theorem updated_of_update {bells : BellSchedule} (wf : r.WellFormed bells) {patch : SlotPatch}
    {c : Change (List Overfull)} (h : r.update rules now slot patch user = .ok c) :
    ∃ roster, r.roster? slot = some roster ∧ roster.Takes rules.bells now patch c.answer ∧
      (∀ e ∈ c.events, e.slotId = slot) ∧
      (r.applyAll c.events).roster? slot =
        some { roster with slot := patch.apply roster.slot } := by
  obtain ⟨roster, supervised, valid, ended, overfull, listed, rfl⟩ := update_eq_ok_iff.1 h
  have found := (supervisedRoster_eq_ok_iff.1 supervised).1
  have at_slot : (patch.apply roster.slot).id = slot := (wf.roster slot roster found).slot_id
  refine ⟨roster, found, ⟨valid, ended, listed⟩, List.forall_mem_singleton.2 at_slot, ?_⟩
  rw [Change.one, applyAll_singleton, roster?_apply, found]
  exact if_pos at_slot

/-- A booking that is decided on adds one reservation to its slot, which has a seat for it. -/
theorem booked_of_book {bells : BellSchedule} (wf : r.WellFormed bells) {b : Booking}
    {c : Change Reservation} (h : r.book rules now b id = .ok c) :
    ∃ roster, r.roster? b.slot = some roster ∧ roster.HasSeat b.date b.student ∧
      (r.applyAll c.events).roster? b.slot =
        some (roster.addReservation ⟨id, b.slot, b.date, b.student, b.reserver⟩) := by
  obtain ⟨-, student, -, held, -, h⟩ := book_eq_ok_iff.1 h
  obtain ⟨roster, found, seat, rfl⟩ := bookHeld_eq_ok_iff.1 h
  obtain ⟨-, -, -, -, weekday, new, free, -⟩ := requireSeat_eq_ok_iff.1 seat
  refine ⟨roster, found, ⟨weekday, new, free⟩, ?_⟩
  have untouched : (r.applyAll (r.displacedFrom b roster.slot held)).roster? b.slot = some roster :=
    (roster?_applyAll_of_others fun e he => (quiet_of_mem_displacedFrom wf he).2).trans found
  rw [applyAll_append, applyAll_singleton, roster?_apply]
  exact (if_pos rfl).trans (congrArg (Option.map _) untouched)

/-- A booking that is decided on leaves the other slots what they have, or less. -/
theorem thinned_of_book {bells : BellSchedule} (wf : r.WellFormed bells) {b : Booking}
    {c : Change Reservation} (h : r.book rules now b id = .ok c) {other : Ident}
    (elsewhere : b.slot ≠ other) :
    ∃ es, (∀ e ∈ es, e.isQuiet) ∧ (r.applyAll c.events).roster? other =
      (r.applyAll es).roster? other := by
  obtain ⟨-, student, -, held, -, h⟩ := book_eq_ok_iff.1 h
  obtain ⟨roster, -, -, rfl⟩ := bookHeld_eq_ok_iff.1 h
  refine ⟨r.displacedFrom b roster.slot held, fun e he => (quiet_of_mem_displacedFrom wf he).1, ?_⟩
  rw [applyAll_append, applyAll_singleton, roster?_apply]
  exact if_neg elsewhere

end Registry

/-! ## Turns -/

namespace Planner

/-- What a step makes of the roster of one slot. -/
inductive Turn (rules : Rules) (q : Planner) (s : Step) (id : Ident) :
    Option Roster → Option Roster → Prop where
  | absent : Turn rules q s id none none
  | thinned {before after : Roster} (thinned : before.Thinned after) :
      Turn rules q s id (some before) (some after)
  | created (slot : Slot) (supervisors : List Supervisor) :
      Turn rules q s id none (some (.new slot supervisors))
  | deleted (before : Roster) : Turn rules q s id (some before) none
  | updated {before : Roster} {now : Int} {caller : UserId} {patch : SlotPatch}
      {overfull : List Overfull} (asked : s = .request ⟨now, caller, .updateSlot id patch⟩)
      (answered : (q.updateSlot rules now caller id patch).1 = .ok overfull)
      (takes : before.Takes rules.bells now patch overfull) :
      Turn rules q s id (some before) (some { before with slot := patch.apply before.slot })
  | booked {before : Roster} {now : Int} {caller : UserId} {date : Date} {user : Option UserId}
      {reservation : Reservation}
      (asked : s = .request ⟨now, caller, .bookReservation id date user⟩)
      (answered : (q.book rules now caller id date (user.getD caller)).1 = .ok reservation)
      (seat : before.HasSeat date (user.getD caller)) :
      Turn rules q s id (some before)
        (some (before.addReservation ⟨rules.ids q.drawn, id, date, user.getD caller, caller⟩))

variable {rules : Rules} {p q q' : Planner} {s : Step} {id : Ident}

theorem turn_of_quiet {es : List Event} (quiet : ∀ e ∈ es, e.isQuiet) :
    Turn rules q s id (q.registry.roster? id) ((q.registry.applyAll es).roster? id) := by
  cases found : q.registry.roster? id with
  | none =>
    rw [Registry.roster?_applyAll_of_quiet quiet found]
    exact .absent
  | some roster =>
    obtain ⟨after, found', thinned⟩ := Registry.thinned_applyAll quiet found
    rw [found']
    exact .thinned thinned

theorem turn_refl : Turn rules q s id (q.registry.roster? id) (q.registry.roster? id) := by
  have quiet : ∀ e ∈ ([] : List Event), e.isQuiet := List.forall_mem_nil _
  exact turn_of_quiet quiet

/-- An update that succeeds patches the record of its slot. -/
theorem Stands.updateSlot (stands : q.Stands rules) {now : Int} {caller : UserId} {slot : Ident}
    {patch : SlotPatch} {overfull : List Overfull}
    (answered : (q.updateSlot rules now caller slot patch).1 = .ok overfull) :
    ∃ roster, q.registry.roster? slot = some roster ∧
      roster.Takes rules.bells now patch overfull ∧
      (q.updateSlot rules now caller slot patch).2.registry.roster? slot =
        some { roster with slot := patch.apply roster.slot } := by
  have settled : q.Settled (q.registry.update rules now slot patch caller)
      (q.updateSlot rules now caller slot patch) := (settled_settle q now _).1
  obtain ⟨c, decision, rfl, registry⟩ := settled.of_ok answered
  obtain ⟨roster, found, takes, -, updated⟩ :=
    Registry.updated_of_update stands.wellFormed decision
  rw [registry]
  exact ⟨roster, found, takes, updated⟩

/-- **A request turns each roster in one of these ways.** -/
theorem Stands.turn (stands : q.Stands rules) {d : Demand}
    (fresh : rules.FreshBelow (q.drawn + d.action.draws)) (id : Ident) :
    Turn rules q (.request d) id (q.registry.roster? id)
      ((q.perform rules d.now d.caller d.action).2.registry.roster? id) := by
  have wf := stands.wellFormed
  obtain ⟨now, caller, action⟩ := d
  -- What is denied changes nothing, so only what is decided on has to be looked at.
  have settled {α : Type} {decision : Except Refusal (Change α)}
      (result : Except Refusal α × Planner) (h : q.Settled decision result)
      (turn : ∀ c, decision = .ok c → result.1 = .ok c.answer →
        Turn rules q (.request ⟨now, caller, action⟩) id (q.registry.roster? id)
          ((q.registry.applyAll c.events).roster? id)) :
      Turn rules q (.request ⟨now, caller, action⟩) id (q.registry.roster? id)
        (result.2.registry.roster? id) := by
    obtain ⟨-, -, same⟩ | ⟨answered, carried⟩ := h
    · rw [same]
      exact turn_refl
    · rw [carried.1]
      cases decision with
      | error refusal => exact turn_refl
      | ok c => exact turn c rfl answered
  cases action with
  | createSlot startUnit duration weekday room capacity =>
    refine settled (q.createSlot rules now caller startUnit duration weekday room capacity)
      (settled_settle { q with drawn := q.drawn + 2 } now _).1 fun c h _ => ?_
    obtain ⟨-, -, rfl⟩ := Registry.create_eq_ok_iff.1 h
    have new : ¬ rules.Given q.drawn (rules.ids q.drawn) :=
      fresh.not_given (Nat.lt_add_of_pos_right (Nat.succ_pos 1))
    rw [Change.one, Registry.applyAll_singleton, Registry.roster?_apply]
    split
    · rename_i same
      rw [← same, Event.slotId, stands.within.roster?_eq_none new]
      exact .created _ _
    · exact turn_refl
  | updateSlot slot patch =>
    refine settled (q.updateSlot rules now caller slot patch) (settled_settle q now _).1
      fun c h answered => ?_
    obtain ⟨roster, found, takes, at_slot, updated⟩ := Registry.updated_of_update wf h
    by_cases same : slot = id
    · subst same
      rw [updated, found]
      exact .updated rfl answered takes
    · rw [Registry.roster?_applyAll_of_others fun e he => at_slot e he ▸ same]
      exact turn_refl
  | deleteSlot slot =>
    refine settled (q.deleteSlot rules now caller slot) (settled_settle q now _).1
      fun c h _ => ?_
    obtain ⟨roster, -, rfl⟩ := Registry.delete_eq_ok_iff.1 h
    rw [Registry.applyAll_singleton, Registry.roster?_apply]
    split
    · cases q.registry.roster? id with
      | none => exact .absent
      | some before => exact .deleted before
    · exact turn_refl
  | addSlotFilter slot course cohort =>
    exact settled (q.addFilter rules now caller slot course cohort)
      (settled_settle { q with drawn := q.drawn + 1 } now _).1
      fun c h _ => turn_of_quiet (Registry.quiet_addFilter h)
  | deleteSlotFilter filter =>
    exact settled (q.removeFilter rules now caller filter) (settled_settle q now _).1
      fun c h _ => turn_of_quiet (Registry.quiet_removeFilter h)
  | addSlotSupervisor slot user =>
    exact settled (q.addSupervisor rules now caller slot user)
      (settled_settle { q with drawn := q.drawn + 1 } now _).1
      fun c h _ => turn_of_quiet (Registry.quiet_addSupervisor h)
  | removeSlotSupervisor slot user =>
    exact settled (q.removeSupervisor rules now caller slot user) (settled_settle q now _).1
      fun c h _ => turn_of_quiet (Registry.quiet_removeSupervisor h)
  | bookReservation slot date user =>
    refine settled (q.book rules now caller slot date (user.getD caller)) (settled_book ..).1
      fun c h answered => ?_
    by_cases same : slot = id
    · subst same
      obtain ⟨roster, found, seat, booked⟩ := Registry.booked_of_book wf h
      rw [booked, found]
      exact .booked rfl answered seat
    · obtain ⟨es, quiet, unchanged⟩ := Registry.thinned_of_book wf h same
      rw [unchanged]
      exact turn_of_quiet quiet
  | unbookReservation reservation nice strict =>
    exact settled (q.unbook rules now caller reservation (!nice) strict) (settled_unbook ..).1
      fun c h _ => turn_of_quiet (Registry.quiet_unbook h)
  | _ => exact turn_refl

/-- So does every step of a history. -/
theorem History.turn {steps : List Step} (h : History rules p steps q)
    (h' : History rules p (steps ++ [s]) q') (id : Ident) :
    Turn rules q s id (q.registry.roster? id) (q'.registry.roster? id) := by
  obtain ⟨_, there, stepped⟩ := h'.init
  cases there.ran.symm.trans h.ran
  obtain ⟨stands, drawn, inStep⟩ := h.stands
  cases s with
  | request d =>
    cases stepped
    have fresh := h'.fresh
    rw [Step.drawsAll_append, ← drawn] at fresh
    exact stands.turn fresh id
  | compact =>
    cases stepped
    exact turn_refl
  | restart =>
    obtain ⟨es, inStep⟩ := inStep (h'.in_step steps [] rfl)
    rw [(inStep.restart stepped).1]
    exact turn_refl

end Planner

end Timetable
