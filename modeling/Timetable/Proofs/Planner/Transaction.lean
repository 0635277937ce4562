import Timetable.Proofs.Journal.Appending
import Timetable.Proofs.Planner.Sound
import Timetable.Service

/-!
# Transactions

The transaction of an action is the list of events that it writes to the journal: those of the change
that is decided on, none if it is refused. On a disk that works the transaction becomes durable and
the registry is changed by the same events.
-/

set_option autoImplicit false

namespace Timetable

/-- An action that a caller asks for at some time. -/
structure Demand where
  now : Int
  caller : UserId
  action : Action

namespace Change

variable {α β : Type}

/-- The events of a change, if it is not refused. -/
def eventsOf : Except Refusal (Change α) → List Event
  | .ok c => c.events
  | .error _ => []

/-- What holds of no events and of those of any change holds of what is decided on. -/
theorem of_eventsOf (P : List Event → Prop) (none : P []) (decision : Except Refusal (Change α))
    (some : ∀ c, decision = .ok c → P c.events) : P (eventsOf decision) := by
  cases decision with
  | error refusal => exact none
  | ok c => exact some c rfl

theorem eventsOf_map (form : α → β) (decision : Except Refusal (Change α)) :
    eventsOf (decision.map (map form)) = eventsOf decision := by
  cases decision <;> rfl

theorem of_map_eq_ok {form : α → β} {decision : Except Refusal (Change α)} {c : Change β}
    (h : decision.map (map form) = .ok c) : ∃ c', decision = .ok c' ∧ c'.map form = c := by
  cases decision with
  | error refusal => cases h
  | ok c' => exact ⟨c', rfl, Except.ok.inj h⟩

theorem eventsOf_none (form : α → β) (result : Except Refusal α) :
    eventsOf (result.map fun a => none (form a)) = [] := by
  cases result <;> rfl

end Change

namespace Rules

/-- One of the first `n` ids. -/
def Given (rules : Rules) (n : Nat) (id : Ident) : Prop := ∃ i, i < n ∧ rules.ids i = id

/-- No id is among the first `n` twice. -/
def FreshBelow (rules : Rules) (n : Nat) : Prop :=
  ∀ i j, i < j → j < n → rules.ids i ≠ rules.ids j

variable {rules : Rules} {m n : Nat}

theorem Given.mono {id : Ident} (h : rules.Given m id) (le : m ≤ n) : rules.Given n id := by
  obtain ⟨i, hi, same⟩ := h
  exact ⟨i, by omega, same⟩

theorem FreshBelow.mono (h : rules.FreshBelow n) (le : m ≤ n) : rules.FreshBelow m := by
  intro i j before below
  exact h i j before (by omega)

/-- An id that is drawn has not been given before. -/
theorem FreshBelow.not_given (h : rules.FreshBelow n) (lt : m < n) :
    ¬ rules.Given m (rules.ids m) := by
  rintro ⟨i, hi, same⟩
  exact h i m hi lt same

end Rules

namespace Planner

variable {p : Planner} {rules : Rules} {bytes : List UInt8}

/-- The events that an action writes to the journal. -/
def transaction (p : Planner) (rules : Rules) (now : Int) (caller : UserId) : Action → List Event
  | .createSlot startUnit duration weekday room capacity =>
    Change.eventsOf (p.registry.create rules
      ⟨rules.ids p.drawn, startUnit, duration, weekday, room, capacity⟩ (rules.ids (p.drawn + 1))
      caller)
  | .updateSlot slot patch => Change.eventsOf (p.registry.update rules now slot patch caller)
  | .deleteSlot slot => Change.eventsOf (p.registry.delete rules now slot caller)
  | .addSlotFilter slot course cohort =>
    Change.eventsOf (p.registry.addFilter rules slot course cohort caller (rules.ids p.drawn))
  | .deleteSlotFilter filter => Change.eventsOf (p.registry.removeFilter rules filter caller)
  | .addSlotSupervisor slot user =>
    Change.eventsOf (p.registry.addSupervisor rules slot user caller (rules.ids p.drawn))
  | .removeSlotSupervisor slot user =>
    Change.eventsOf (p.registry.removeSupervisor rules slot user caller)
  | .bookReservation slot date user =>
    Change.eventsOf
      (p.registry.book rules now ⟨slot, date, user.getD caller, caller⟩ (rules.ids p.drawn))
  | .unbookReservation reservation nice strict =>
    Change.eventsOf (p.registry.unbook rules now reservation caller (!nice) strict)
  | _ => []

/-! ## Deciding and settling -/

/-- What is decided on for a demand. Looking something up is a decision to change nothing. -/
def decision (p : Planner) (rules : Rules) (d : Demand) : Except Refusal (Change Json) :=
  match d.action with
  | .createSlot startUnit duration weekday room capacity =>
    (p.registry.create rules
      ⟨rules.ids p.drawn, startUnit, duration, weekday, room, capacity⟩ (rules.ids (p.drawn + 1))
      d.caller).map (.map Slot.json)
  | .updateSlot slot patch =>
    (p.registry.update rules d.now slot patch d.caller).map
      (.map fun overfull => .obj [("overfull", listJson Overfull.json overfull)])
  | .deleteSlot slot => (p.registry.delete rules d.now slot d.caller).map (.map fun _ => .null)
  | .getAllSlots =>
    (p.registry.allSlots rules d.now d.caller).map fun slots =>
      .none (listJson SlotInfo.json slots)
  | .getMySlots =>
    (p.registry.mySlots rules d.now d.caller).map fun slots => .none (listJson SlotInfo.json slots)
  | .getStudentSlots user =>
    (p.registry.studentSlots rules d.now d.caller user).map fun slots =>
      .none (listJson SlotInfo.json slots)
  | .getSupervisorSlots =>
    (p.registry.supervisorSlots rules d.now d.caller).map fun slots =>
      .none (listJson SlotInfo.json slots)
  | .addSlotFilter slot course cohort =>
    (p.registry.addFilter rules slot course cohort d.caller (rules.ids p.drawn)).map
      (.map SlotFilter.json)
  | .deleteSlotFilter filter =>
    (p.registry.removeFilter rules filter d.caller).map (.map fun _ => .null)
  | .getSlotFilters slot =>
    (p.registry.slotFilters rules slot d.caller).map fun filters =>
      .none (listJson SlotFilter.json filters)
  | .addSlotSupervisor slot user =>
    (p.registry.addSupervisor rules slot user d.caller (rules.ids p.drawn)).map
      (.map fun _ => .null)
  | .removeSlotSupervisor slot user =>
    (p.registry.removeSupervisor rules slot user d.caller).map (.map fun _ => .null)
  | .bookReservation slot date user =>
    (p.registry.book rules d.now ⟨slot, date, user.getD d.caller, d.caller⟩
      (rules.ids p.drawn)).map (.map Reservation.json)
  | .unbookReservation reservation nice strict =>
    (p.registry.unbook rules d.now reservation d.caller (!nice) strict).map (.map UnbookMode.json)
  | .getSlotReservations slot =>
    (p.registry.slotReservations rules d.now slot d.caller).map fun reservations =>
      .none (listJson Reservation.json reservations)
  | .getMyReservations =>
    (p.registry.myReservations rules d.now d.caller).map fun reservations =>
      .none (listJson Reservation.json reservations)
  | .listen | .unlisten => .ok (.none .null)

/-- The transaction of an action consists of the events that are decided on. -/
theorem transaction_eq (p : Planner) (rules : Rules) (d : Demand) :
    p.transaction rules d.now d.caller d.action = Change.eventsOf (p.decision rules d) := by
  obtain ⟨now, caller, action⟩ := d
  cases action <;>
    first | exact (Change.eventsOf_map ..).symm | exact (Change.eventsOf_none ..).symm | rfl

/-- How a decision is settled. Nothing else can become of it. -/
inductive Settling {α : Type} (p : Planner) (now : Int) :
    Except Refusal (Change α) → Except Refusal α × Planner → Prop where
  /-- It has been refused. -/
  | refused (refusal : Refusal) : Settling p now (.error refusal) (.error refusal, p)
  /-- There is nothing to be written. -/
  | unwritten (answer : α) (notices : List (UserId × Ident × Trigger)) :
      Settling p now (.ok ⟨[], answer, notices⟩) (.ok answer, p.tell now notices)
  /-- The journal does not take the events. -/
  | denied {c : Change α} {error : Journal.DiskError} {log : Journal.Log}
      (some_event : c.events ≠ []) (commit : p.log.commit [c.events] = (.error error, log)) :
      Settling p now (.ok c) (.error (.storage error), { p with log })
  /-- The journal takes the events, and they reach the registry. -/
  | taken {c : Change α} {log : Journal.Log} (some_event : c.events ≠ [])
      (commit : p.log.commit [c.events] = (.ok (), log)) :
      Settling p now (.ok c)
        (.ok c.answer, tell { p with log, registry := p.registry.applyAll c.events } now c.notices)

theorem settling {α : Type} (p : Planner) (now : Int) (decision : Except Refusal (Change α)) :
    Settling p now decision (p.settle now decision) := by
  cases decision with
  | error refusal => exact .refused refusal
  | ok change =>
    obtain ⟨events, answer, notices⟩ := change
    cases events with
    | nil => exact .unwritten answer notices
    | cons e es =>
      simp only [settle, record]
      rcases commit : p.log.commit [e :: es] with ⟨error | u, log⟩
      · exact .denied (List.cons_ne_nil e es) commit
      · exact .taken (List.cons_ne_nil e es) commit

theorem answer_settle {α : Type} (form : α → Json) (p : Planner) (now : Int)
    (decision : Except Refusal (Change α)) :
    answer form (p.settle now decision) = p.settle now (decision.map (.map form)) := by
  cases decision with
  | error refusal => rfl
  | ok change =>
    obtain ⟨events, result, notices⟩ := change
    cases events with
    | nil => rfl
    | cons e es =>
      simp only [answer, settle, Except.map, Change.map]
      generalize p.record (e :: es) = r
      obtain ⟨error | u, q⟩ := r
      · rfl
      · rfl

theorem settle_none {α : Type} (form : α → Json) (p : Planner) (now : Int)
    (result : Except Refusal α) :
    p.settle now (result.map fun a => .none (form a)) = (result.map form, p) := by
  cases result <;> rfl

theorem counters_settle {α : Type} (p : Planner) (now : Int)
    (decision : Except Refusal (Change α)) :
    (p.settle now decision).2.counters = p.counters := by
  have settling := p.settling now decision
  generalize p.settle now decision = result at settling
  cases settling <;> rfl

/-- What is answered has been decided on. -/
theorem exists_of_settle_eq_ok {α : Type} {p : Planner} {now : Int}
    {decision : Except Refusal (Change α)} {a : α} (h : (p.settle now decision).1 = .ok a) :
    ∃ c, decision = .ok c ∧ c.answer = a := by
  have settling := p.settling now decision
  generalize p.settle now decision = result at settling h
  cases settling with
  | refused | denied => cases h
  | unwritten | taken => exact ⟨_, rfl, Except.ok.inj h⟩

/-- A result with the counters that go with it. -/
def recount {α : Type} (counters : Except Refusal α → Counters)
    (result : Except Refusal α × Planner) : Except Refusal α × Planner :=
  (result.1, { result.2 with counters := counters result.1 })

/-- The counters after an action with this result. -/
def counted (p : Planner) (rules : Rules) (d : Demand) (result : Except Refusal Json) : Counters :=
  match d.action with
  | .bookReservation .. =>
    match result with
    | .ok _ => p.counters.bump .bookings
    | .error refusal => p.counters.bump (.rejections refusal.code)
  | .unbookReservation reservation nice strict =>
    match result, p.registry.unbook rules d.now reservation d.caller (!nice) strict with
    | .ok _, .ok c => p.counters.bump (.unbookings c.answer)
    | _, _ => p.counters
  | _ => p.counters

/-- An action settles what is decided on, and some are counted. Neither the decision nor the
count depends on the journal or the hub. -/
theorem perform_eq_recount (p : Planner) (rules : Rules) (d : Demand) (log : Journal.Log)
    (hub : Hub) : perform { p with log, hub } rules d.now d.caller d.action =
      recount (p.counted rules d) (settle { p with log, hub, drawn := p.drawn + d.action.draws }
        d.now (p.decision rules d)) := by
  obtain ⟨now, caller, action⟩ := d
  have uncounted {α : Type} (form : α → Json) (log : Journal.Log) (hub : Hub) (drawn : Nat)
      (decision : Except Refusal (Change α)) :
      answer form (settle { p with log, hub, drawn } now decision) =
        recount (fun _ => p.counters)
          (settle { p with log, hub, drawn } now (decision.map (.map form))) := by
    have same : _ = p.counters :=
      counters_settle { p with log, hub, drawn } now (decision.map (.map form))
    rw [answer_settle]
    generalize settle _ now _ = r at same
    rw [recount, ← same]
  have looked_up {α : Type} (form : α → Json) (log : Journal.Log) (hub : Hub)
      (result : Except Refusal α) : answer form (result, { p with log, hub }) =
        recount (fun _ => p.counters)
          (settle { p with log, hub } now (result.map fun a => .none (form a))) := by
    rw [settle_none]
    rfl
  cases action with
  | createSlot | updateSlot | deleteSlot | addSlotFilter | deleteSlotFilter | addSlotSupervisor
  | removeSlotSupervisor => exact uncounted _ log hub _ _
  | bookReservation slot date user =>
    simp only [perform, book, draw, decision, Action.draws]
    rw [← answer_settle]
    have same := counters_settle { p with log, hub, drawn := p.drawn + 1 } now
      (p.registry.book rules now ⟨slot, date, user.getD caller, caller⟩ (rules.ids p.drawn))
    generalize settle _ now _ = r at same
    obtain ⟨refusal | reservation, q⟩ := r
    all_goals
      have same : q.counters = p.counters := same
      simp only [answer, recount, Except.map, count, counted, same]
  | unbookReservation reservation nice strict =>
    simp only [perform, unbook, decision, Action.draws, Nat.add_zero]
    rw [← answer_settle]
    have same := counters_settle { p with log, hub } now
      (p.registry.unbook rules now reservation caller (!nice) strict)
    have decided := @exists_of_settle_eq_ok _ { p with log, hub } now
      (p.registry.unbook rules now reservation caller (!nice) strict)
    generalize settle _ now _ = r at same decided
    obtain ⟨refusal | mode, q⟩ := r
    · have same : q.counters = p.counters := same
      simp only [answer, recount, Except.map, counted, ← same]
    · obtain ⟨c, decision, rfl⟩ := decided rfl
      have same : q.counters = p.counters := same
      simp only [answer, recount, Except.map, count, counted, same, decision]
  | listen | unlisten => rfl
  | _ => exact looked_up _ log hub _

/-- Which count it is matters only to who asks for the counters. -/
theorem perform_eq_settle (p : Planner) (rules : Rules) (d : Demand) :
    ∃ counters, ∀ log hub, perform { p with log, hub } rules d.now d.caller d.action =
      recount counters (settle { p with log, hub, drawn := p.drawn + d.action.draws } d.now
        (p.decision rules d)) :=
  ⟨p.counted rules d, p.perform_eq_recount rules d⟩

/-- A change that is decided on becomes durable on a disk that works, and then reaches the
registry. -/
theorem settle_spec {α : Type} (ready : p.log.Ready bytes) (now : Int)
    (decision : Except Refusal (Change α)) :
    (p.settle now decision).2.registry = p.registry.applyAll (Change.eventsOf decision) ∧
      (p.settle now decision).2.log.Ready
        (bytes ++ Journal.records (Change.eventsOf decision)) ∧
      (p.settle now decision).2.drawn = p.drawn := by
  have unchanged : p.log.Ready (bytes ++ Journal.records []) := by
    rw [Journal.records, List.flatMap_nil, List.append_nil]
    exact ready
  have settling := p.settling now decision
  generalize p.settle now decision = result at settling
  cases settling with
  | refused | unwritten => exact ⟨rfl, unchanged, rfl⟩
  | @denied c error log some_event commit =>
    have done := (ready.commit [c.events]).1
    rw [commit] at done
    cases done
  | @taken c log some_event commit =>
    have ready' := (ready.commit [c.events]).2
    rw [commit, List.flatten_singleton] at ready'
    exact ⟨rfl, ready', rfl⟩

/-- **An action carries out its transaction**: the events come to the registry and to the end of the
journal. -/
theorem perform_spec (ready : p.log.Ready bytes) (rules : Rules) (now : Int) (caller : UserId)
    (action : Action) :
    (p.perform rules now caller action).2.registry =
        p.registry.applyAll (p.transaction rules now caller action) ∧
      (p.perform rules now caller action).2.log.Ready
        (bytes ++ Journal.records (p.transaction rules now caller action)) ∧
      (p.perform rules now caller action).2.drawn = p.drawn + action.draws := by
  obtain ⟨counters, settles⟩ := perform_eq_settle p rules ⟨now, caller, action⟩
  have performed : p.perform rules now caller action = _ := settles p.log p.hub
  rw [performed, p.transaction_eq rules ⟨now, caller, action⟩]
  exact settle_spec (p := { p with drawn := p.drawn + action.draws }) ready now _

/-- The transaction of an action is sound on a well-formed registry, if the ids that are drawn
for it are new. -/
theorem sound_transaction (wf : p.registry.WellFormed rules.bells)
    (within : p.registry.Within (rules.Given p.drawn)) {action : Action}
    (fresh : rules.FreshBelow (p.drawn + action.draws)) (now : Int) (caller : UserId) :
    p.registry.Sound rules.bells (rules.Given (p.drawn + action.draws))
      (p.transaction rules now caller action) := by
  have of_decision {α : Type} (decision : Except Refusal (Change α)) :=
    Change.of_eventsOf (p.registry.Sound rules.bells (rules.Given (p.drawn + action.draws)))
      (Registry.sound_nil ..) decision
  have drawn (some_drawn : 0 < action.draws) :
      ¬ rules.Given p.drawn (rules.ids p.drawn) ∧
        rules.Given (p.drawn + action.draws) (rules.ids p.drawn) :=
    ⟨fresh.not_given (by omega), p.drawn, by omega, rfl⟩
  cases action with
  | createSlot startUnit duration weekday room capacity =>
    obtain ⟨new, given⟩ := drawn (Nat.succ_pos 1)
    exact of_decision _ fun c h => Registry.sound_create h (within.roster?_eq_none new) given
  | updateSlot slot patch => exact of_decision _ fun c h => Registry.sound_update h
  | deleteSlot slot => exact of_decision _ fun c h => Registry.sound_delete h
  | addSlotFilter slot course cohort =>
    obtain ⟨new, given⟩ := drawn Nat.one_pos
    exact of_decision _ fun c h => Registry.sound_addFilter h (within.slotOf?_eq_none new) given
  | deleteSlotFilter filter => exact of_decision _ fun c h => Registry.sound_removeFilter wf h
  | addSlotSupervisor slot user => exact of_decision _ fun c h => Registry.sound_addSupervisor h
  | removeSlotSupervisor slot user =>
    exact of_decision _ fun c h => Registry.sound_removeSupervisor h
  | bookReservation slot date user =>
    obtain ⟨new, given⟩ := drawn Nat.one_pos
    exact of_decision _ fun c h => Registry.sound_book wf h (within.slotOf?_eq_none new) given
  | unbookReservation reservation nice strict =>
    exact of_decision _ fun c h => Registry.sound_unbook wf h
  | _ => exact Registry.sound_nil ..

end Planner

end Timetable
