import Timetable.Proofs.Planner.FirstCome
import Timetable.Proofs.Planner.Removals

/-!
# Who is told of what

An action that is granted tells students what others have done to their reservations; one that is
refused tells nobody anything. What is told follows from the answer, and reaches the hub once the
change is durable. A student whose reservation is taken by somebody else before its session is over
is told of the removal, or of the booking that displaced it.
-/

set_option autoImplicit false

namespace Timetable

/-- A session that may be live is one that is not over. -/
theorem Registry.mayBeLive_eq (slot : Slot) (bells : BellSchedule) (now : Int) (x : Reservation) :
    mayBeLive slot bells now x = decide (¬ slot.IsOver bells now x.date) := by
  rw [Bool.eq_iff_iff, decide_eq_true_iff, mayBeLive]
  unfold Slot.IsOver
  cases slot.phaseOn bells now x.date with
  | error refusal => simp
  | ok phase => simp

namespace Change

variable {α β γ : Type} {now : Int} {decision : Except Refusal (Change α)}

/-- The notices of a change as they are sent. -/
def stamped (now : Int) (c : Change α) : List Notice :=
  c.notices.map fun (user, reservation, trigger) => ⟨user, reservation, trigger, now⟩

/-- The notices of what has been decided on and answered. -/
def told (now : Int) (decision : Except Refusal (Change α)) (result : Except Refusal β) :
    List Notice :=
  match decision, result with
  | .ok c, .ok _ => c.stamped now
  | _, _ => []

/-- Neither the form of the decision matters nor that of the answer. -/
theorem told_map {δ : Type} (form : α → γ) (form' : β → δ) (result : Except Refusal β) :
    told now (decision.map (map form)) (result.map form') = told now decision result := by
  cases decision <;> cases result <;> rfl

theorem told_map_none (form : α → γ) (looked_up : Except Refusal α) (result : Except Refusal β) :
    told now (looked_up.map fun a => none (form a)) result = [] := by
  cases looked_up <;> cases result <;> rfl

theorem told_eq_nil (silent : ∀ c, decision = .ok c → c.notices = [])
    (result : Except Refusal β) : told now decision result = [] := by
  cases decision with
  | error refusal => cases result <;> rfl
  | ok c =>
    cases result with
    | error refusal => rfl
    | ok b =>
      rw [told, stamped, silent c rfl]
      rfl

end Change

namespace Registry

variable {r : Registry} {rules : Rules} {now : Int} {slot id : Ident} {user : UserId}

/-- A booking answers with the new reservation, and its student is told if it is not his own. -/
theorem notices_book {b : Booking} {c : Change Reservation}
    (h : r.book rules now b id = .ok c) : c.answer = ⟨id, b.slot, b.date, b.student, b.reserver⟩ ∧
      c.notices = if b.student = b.reserver then [] else [(b.student, id, .bookForced)] := by
  obtain ⟨-, profile, -, held, -, h⟩ := book_eq_ok_iff.1 h
  obtain ⟨roster, -, -, rfl⟩ := bookHeld_eq_ok_iff.1 h
  refine ⟨rfl, ?_⟩
  by_cases own : b.student = b.reserver <;> simp [Booking.isOnBehalf, own]

/-- Whose reservation is to be given up is told if others say so. -/
theorem notices_unbook {force strict : Bool} {c : Change UnbookMode}
    (h : r.unbook rules now id user force strict = .ok c) : ∃ x, r.reservation? id = some x ∧
      c.notices = match c.answer with
        | .requested => [(x.userId, id, .unbookRequested)]
        | _ => if x.userId = user then [] else [(x.userId, id, .unbookForced)] := by
  obtain ⟨roster, holding, x, has, phase, -, mode, decided, rfl⟩ := unbook_eq_ok_iff.1 h
  obtain ⟨slot, indexed, found⟩ := rosterHolding_eq_ok_iff.1 holding
  refine ⟨x, ?_, ?_⟩
  · rw [reservation?, indexed, Option.bind_some, found]
    exact has
  · obtain ⟨-, ⟨rfl, own⟩ | ⟨rfl, other, -⟩ | ⟨rfl, -⟩⟩ := unbookMode_eq_ok decided
    · exact (if_pos own).symm
    · exact (if_neg other).symm
    · rfl

/-- When a slot is deleted, all are told whose sessions are not over. -/
theorem notices_delete {c : Change Unit} (h : r.delete rules now slot user = .ok c) :
    ∃ roster, r.roster? slot = some roster ∧ c.notices =
      (roster.reservations.filter fun x => ¬ roster.slot.IsOver rules.bells now x.date).map
        fun x => (x.userId, x.id, .unbookForced) := by
  obtain ⟨roster, supervised, rfl⟩ := delete_eq_ok_iff.1 h
  refine ⟨roster, (supervisedRoster_eq_ok_iff.1 supervised).1, ?_⟩
  rw [funext (mayBeLive_eq roster.slot rules.bells now)]

end Registry

namespace Planner

variable {p q : Planner} {rules : Rules} {d : Demand}

/-- What an action tells, by its answer. -/
def notices (q : Planner) (rules : Rules) (d : Demand) : List Notice :=
  match d.action with
  | .bookReservation slot date user =>
    let student := user.getD d.caller
    match (q.book rules d.now d.caller slot date student).1 with
    | .ok x => if student = d.caller then [] else [⟨student, x.id, .bookForced, d.now⟩]
    | .error _ => []
  | .unbookReservation id nice strict =>
    match (q.unbook rules d.now d.caller id (!nice) strict).1, q.registry.reservation? id with
    | .ok .requested, some x => [⟨x.userId, id, .unbookRequested, d.now⟩]
    | .ok _, some x => if x.userId = d.caller then [] else [⟨x.userId, id, .unbookForced, d.now⟩]
    | _, _ => []
  | .deleteSlot slot =>
    match (q.deleteSlot rules d.now d.caller slot).1, q.registry.roster? slot with
    | .ok (), some roster =>
      (roster.reservations.filter fun x => ¬ roster.slot.IsOver rules.bells d.now x.date).map
        fun x => ⟨x.userId, x.id, .unbookForced, d.now⟩
    | _, _ => []
  | _ => []

/-! ## What reaches the hub -/

/-- A change reaches the hub once it is settled. How it is settled does not depend on the hub. -/
theorem settle_hub {α : Type} (p : Planner) (now : Int) (decision : Except Refusal (Change α))
    (hub : Hub) : (settle { p with hub } now decision).1 = (p.settle now decision).1 ∧
      (settle { p with hub } now decision).2.hub =
        hub.sendAll (Change.told now decision (p.settle now decision).1) := by
  cases decision with
  | error refusal => exact ⟨rfl, rfl⟩
  | ok change =>
    obtain ⟨events, result, notices⟩ := change
    cases events with
    | nil => exact ⟨rfl, rfl⟩
    | cons e es =>
      simp only [settle, record]
      generalize p.log.commit [e :: es] = r
      obtain ⟨error | u, log⟩ := r
      · exact ⟨rfl, rfl⟩
      · exact ⟨rfl, rfl⟩

theorem hub_perform (q : Planner) (rules : Rules) (d : Demand) (hub : Hub) :
    (perform { q with hub } rules d.now d.caller d.action).1 =
        (q.perform rules d.now d.caller d.action).1 ∧
      (perform { q with hub } rules d.now d.caller d.action).2.hub =
        hub.sendAll (Change.told d.now (q.decision rules d)
          (q.perform rules d.now d.caller d.action).1) := by
  obtain ⟨counters, settles⟩ := perform_eq_settle q rules d
  have performed : q.perform rules d.now d.caller d.action = _ := settles q.log q.hub
  rw [settles q.log hub, performed]
  exact settle_hub { q with drawn := q.drawn + d.action.draws } d.now (q.decision rules d) hub

/-! An answer has been decided on. The notices of the decision are those that the answer calls
for. -/

theorem told_book (q : Planner) (rules : Rules) (now : Int) (caller : UserId) (slot : Ident)
    (date : Date) (user : Option UserId) :
    Change.told now
        (q.registry.book rules now ⟨slot, date, user.getD caller, caller⟩ (rules.ids q.drawn))
        (q.book rules now caller slot date (user.getD caller)).1 =
      q.notices rules ⟨now, caller, .bookReservation slot date user⟩ := by
  obtain ⟨settled, -⟩ := q.settled_book rules now caller slot date (user.getD caller)
  simp only [notices]
  cases answered : (q.book rules now caller slot date (user.getD caller)).1 with
  | error refusal => cases q.registry.book .. <;> rfl
  | ok x =>
    obtain ⟨c, decided, rfl, -⟩ := settled.of_ok answered
    obtain ⟨new, told⟩ := Registry.notices_book decided
    rw [decided, Change.told, Change.stamped, told, new]
    split <;> rfl

theorem told_unbook (q : Planner) (rules : Rules) (now : Int) (caller : UserId) (id : Ident)
    (nice strict : Bool) :
    Change.told now (q.registry.unbook rules now id caller (!nice) strict)
        (q.unbook rules now caller id (!nice) strict).1 =
      q.notices rules ⟨now, caller, .unbookReservation id nice strict⟩ := by
  obtain ⟨settled, -⟩ := q.settled_unbook rules now caller id (!nice) strict
  simp only [notices]
  cases answered : (q.unbook rules now caller id (!nice) strict).1 with
  | error refusal => cases q.registry.unbook .. <;> rfl
  | ok mode =>
    obtain ⟨c, decided, rfl, -⟩ := settled.of_ok answered
    obtain ⟨x, held, told⟩ := Registry.notices_unbook decided
    rw [decided, Change.told, Change.stamped, told, held]
    cases c.answer with
    | requested => rfl
    | _ =>
      dsimp only
      split <;> rfl

theorem told_delete (q : Planner) (rules : Rules) (now : Int) (caller : UserId) (slot : Ident) :
    Change.told now (q.registry.delete rules now slot caller)
        (q.deleteSlot rules now caller slot).1 =
      q.notices rules ⟨now, caller, .deleteSlot slot⟩ := by
  obtain ⟨settled, -⟩ := settled_settle q now (q.registry.delete rules now slot caller)
  simp only [notices]
  cases answered : (q.deleteSlot rules now caller slot).1 with
  | error refusal => cases q.registry.delete .. <;> rfl
  | ok u =>
    obtain ⟨c, decided, -⟩ := settled.of_ok answered
    obtain ⟨roster, found, told⟩ := Registry.notices_delete decided
    rw [decided, Change.told, Change.stamped, told, found, List.map_map]
    rfl

/-- What has been decided on and answered is told as the answer says. -/
theorem told_eq_notices (q : Planner) (rules : Rules) (d : Demand) :
    Change.told d.now (q.decision rules d) (q.perform rules d.now d.caller d.action).1 =
      q.notices rules d := by
  obtain ⟨now, caller, action⟩ := d
  have silent {α : Type} (form : α → Json) (decision : Except Refusal (Change α))
      (result : Except Refusal α) (h : ∀ c, decision = .ok c → c.notices = []) :
      Change.told now (decision.map (.map form)) (result.map form) = [] :=
    (Change.told_map ..).trans (Change.told_eq_nil h result)
  cases action with
  | bookReservation slot date user =>
    exact (Change.told_map ..).trans (q.told_book rules now caller slot date user)
  | unbookReservation id nice strict =>
    exact (Change.told_map ..).trans (q.told_unbook rules now caller id nice strict)
  | deleteSlot slot => exact (Change.told_map ..).trans (q.told_delete rules now caller slot)
  | createSlot =>
    refine silent _ _ _ fun c h => ?_
    obtain ⟨-, -, rfl⟩ := Registry.create_eq_ok_iff.1 h
    rfl
  | updateSlot =>
    refine silent _ _ _ fun c h => ?_
    obtain ⟨roster, -, -, -, overfull, -, rfl⟩ := Registry.update_eq_ok_iff.1 h
    rfl
  | addSlotFilter =>
    refine silent _ _ _ fun c h => ?_
    obtain ⟨-, roster, -, -, rfl⟩ := Registry.addFilter_eq_ok_iff.1 h
    rfl
  | deleteSlotFilter =>
    refine silent _ _ _ fun c h => ?_
    obtain ⟨roster, -, -, -, rfl⟩ := Registry.removeFilter_eq_ok_iff.1 h
    rfl
  | addSlotSupervisor =>
    refine silent _ _ _ fun c h => ?_
    obtain ⟨roster, -, ⟨-, rfl⟩ | ⟨-, -, rfl⟩⟩ := Registry.addSupervisor_eq_ok_iff.1 h <;> rfl
  | removeSlotSupervisor =>
    refine silent _ _ _ fun c h => ?_
    obtain ⟨roster, -, ⟨-, rfl⟩ | ⟨-, rfl⟩⟩ := Registry.removeSupervisor_eq_ok_iff.1 h <;> rfl
  | listen | unlisten => rfl
  | _ => exact Change.told_map_none _ _ _

/-- What is granted tells the notices that have been decided on. -/
theorem Grants.notices_eq (granted : q.Grants rules d) :
    ∃ c, q.decision rules d = .ok c ∧ q.notices rules d = c.stamped d.now := by
  obtain ⟨c, decided, -⟩ := granted.decided
  obtain ⟨answer, answered⟩ := granted
  refine ⟨c, decided, ?_⟩
  rw [← told_eq_notices, decided, answered]
  rfl

/-- Who is refused tells nobody. -/
theorem notices_of_refused {refusal : Refusal}
    (refused : (q.perform rules d.now d.caller d.action).1 = .error refusal) :
    q.notices rules d = [] := by
  rw [← told_eq_notices, refused]
  cases q.decision rules d <;> rfl

/-- Only requests reach the hub. -/
theorem hub_step {s : Step} (other : ∀ d, s ≠ .request d) (stepped : q.step rules s = .ok p) :
    p.hub = q.hub := by
  cases s with
  | request d => exact absurd rfl (other d)
  | compact =>
    cases stepped
    rfl
  | restart =>
    obtain ⟨es, -, log, -, rfl⟩ := start_eq_ok_iff.1 stepped
    rfl

/-! ## Who is told of a removal -/

/-- The reservation `x` is one of slot `id`, and no longer when the action is over. -/
def Loses (q : Planner) (rules : Rules) (d : Demand) (id : Ident) (before : Roster)
    (x : Reservation) : Prop :=
  q.registry.roster? id = some before ∧ x ∈ before.reservations ∧
    ∀ after, (q.perform rules d.now d.caller d.action).2.registry.roster? id = some after →
      x ∉ after.reservations

/-- No id that is drawn for the action is that of the slot. -/
theorem History.fresh_next {steps : List Step} {id : Ident} {before : Roster} {q' : Planner}
    (h : History rules p (steps ++ [.request d]) q') (ran : p.run rules steps = .ok q)
    (there : q.registry.roster? id = some before) :
    ∀ i < d.action.draws, rules.ids (q.drawn + i) ≠ id := by
  rintro i below rfl
  obtain ⟨stands, drawn, -⟩ := (h.front ran).stands
  have fresh := h.fresh
  rw [Step.drawsAll_append, ← drawn] at fresh
  have new := fresh.not_given (Nat.add_lt_add_left below _)
  have missing := stands.within.roster?_eq_none fun given => new (given.mono (Nat.le_add_right _ i))
  cases there.symm.trans missing

/-- Who loses a reservation to somebody else is told, unless its session is over. -/
theorem exists_notice_of_loses (filed : q.registry.Filed) {id : Ident} {before : Roster}
    {x : Reservation} (loses : q.Loses rules d id before x)
    (live : ¬ before.slot.IsOver rules.bells d.now x.date) (other : x.userId ≠ d.caller)
    (fresh : ∀ i < d.action.draws, rules.ids (q.drawn + i) ≠ id)
    (unique : (before.reservations.map (·.id)).Nodup) :
    ∃ n ∈ q.notices rules d, n.userId = x.userId := by
  obtain ⟨there, mem, gone⟩ := loses
  have granted : q.Grants rules d := by
    by_contra refused
    rw [registry_perform_of_not_grants refused] at gone
    exact gone before there mem
  obtain ⟨c, decided, told⟩ := granted.notices_eq
  suffices told_so : ∃ reservation trigger, (x.userId, reservation, trigger) ∈ c.notices by
    obtain ⟨reservation, trigger, sent⟩ := told_so
    exact ⟨⟨x.userId, reservation, trigger, d.now⟩, told ▸ List.mem_map.2 ⟨_, sent, rfl⟩, rfl⟩
  obtain deleted | ⟨after, there', accounted⟩ := accounted_perform filed there d fresh
  · simp only [decision, deleted] at decided
    obtain ⟨c', planned, rfl⟩ := Change.of_map_eq_ok decided
    obtain ⟨roster, found, all_told⟩ := Registry.notices_delete planned
    cases there.symm.trans found
    refine ⟨x.id, .unbookForced, ?_⟩
    rw [Change.map, all_told]
    exact List.mem_map.2 ⟨x, List.mem_filter.2 ⟨mem, decide_eq_true live⟩, rfl⟩
  · obtain ⟨-, taken⟩ := (accounted x mem).resolve_left (gone after there')
    cases taken with
    | unbooked nice strict asked held =>
      simp only [decision, asked] at decided
      obtain ⟨c', planned, rfl⟩ := Change.of_map_eq_ok decided
      obtain ⟨y, held', one_told⟩ := Registry.notices_unbook planned
      cases held.symm.trans held'
      rw [Change.map, one_told, if_neg other]
      cases c'.answer <;> exact ⟨_, _, List.mem_singleton.2 rfl⟩
    | @displaced y mem' same displaces =>
      obtain rfl : y = x := List.inj_on_of_nodup_map unique mem' mem same
      obtain ⟨target, roster, asked, -⟩ := displaces
      simp only [decision, asked] at decided
      obtain ⟨c', planned, rfl⟩ := Change.of_map_eq_ok decided
      have one_told := (Registry.notices_book planned).2.trans (if_neg other)
      rw [Change.map, one_told]
      exact ⟨_, _, List.mem_singleton.2 rfl⟩

/-- **Who is told of what**, at every moment of a run, whatever was in the journal at the start and
on any disk: what the answer to a request says and nothing else reaches the hub, whoever listens
there. Nobody is told anything by a request that is refused or by a step that is no request. The
reservations of a slot that is deleted are told of by date. And a student whose reservation is taken
by somebody else before its session is over is told. For that the ids have to be different, as they
are in a history. -/
theorem told_of_run {disk : Journal.Disk} {hub : Hub} {counters : Counters} {drawn : Nat}
    {steps : List Step} (started : start disk hub counters drawn = .ok p)
    (ran : p.run rules steps = .ok q) : q.registry.Ordered ∧
      (∀ s q', q.step rules s = .ok q' → (∀ d, s ≠ .request d) → q'.hub = q.hub) ∧
      ∀ d : Demand,
        (∀ hub, (perform { q with hub } rules d.now d.caller d.action).1 =
            (q.perform rules d.now d.caller d.action).1 ∧
          (perform { q with hub } rules d.now d.caller d.action).2.hub =
            hub.sendAll (q.notices rules d)) ∧
        (∀ refusal, (q.perform rules d.now d.caller d.action).1 = .error refusal →
          q.notices rules d = []) ∧
        ∀ id before x, q.Loses rules d id before x →
          ¬ before.slot.IsOver rules.bells d.now x.date → x.userId ≠ d.caller →
          ((∀ i < d.action.draws, rules.ids (q.drawn + i) ≠ id) ∧
              (before.reservations.map (·.id)).Nodup ∨
            ∃ q', History rules p (steps ++ [.request d]) q') →
          ∃ n ∈ q.notices rules d, n.userId = x.userId := by
  have filed := filed_of_start started ran
  refine ⟨ordered_of_start started ran, fun s q' stepped other => hub_step other stepped,
    fun d => ⟨fun hub => ?_, ?_, ?_⟩⟩
  · rw [← told_eq_notices]
    exact hub_perform q rules d hub
  · exact fun refusal refused => notices_of_refused refused
  · intro id before x loses live other distinct
    obtain ⟨fresh, unique⟩ : (∀ i < d.action.draws, rules.ids (q.drawn + i) ≠ id) ∧
        (before.reservations.map (·.id)).Nodup := by
      rcases distinct with distinct | ⟨q', h⟩
      · exact distinct
      · exact ⟨h.fresh_next ran loses.1, (h.front ran).nodup loses.1⟩
    exact exists_notice_of_loses filed loses live other fresh unique

set_option maxRecDepth 2000 in
/-- A student is booked into another slot at the time of a session to come. -/
theorem told_of_run_displaced : ∃ q before,
    opened.run .oneStudent ((Demand.displacing.take 6).map .request) = .ok q ∧
      q.Loses .oneStudent ⟨0, 1, .bookReservation (.ofNat 2) .epoch (some 7)⟩ (.ofNat 0) before
        attended ∧
      ¬ before.slot.IsOver .standard 0 attended.date ∧
      (∃ n ∈ q.notices .oneStudent ⟨0, 1, .bookReservation (.ofNat 2) .epoch (some 7)⟩,
        n.userId = 7) ∧
      ∀ hub, (perform { q with hub } .oneStudent 0 1
        (.bookReservation (.ofNat 2) .epoch (some 7))).2.hub =
          hub.sendAll [⟨7, .ofNat 8, .bookForced, 0⟩] := by
  obtain ⟨q, before, ran, loses, live, told⟩ : ∃ q before,
      opened.run .oneStudent ((Demand.displacing.take 6).map .request) = .ok q ∧
        q.Loses .oneStudent ⟨0, 1, .bookReservation (.ofNat 2) .epoch (some 7)⟩ (.ofNat 0) before
          attended ∧
        ¬ before.slot.IsOver .standard 0 attended.date ∧
        q.notices .oneStudent ⟨0, 1, .bookReservation (.ofNat 2) .epoch (some 7)⟩ =
          [⟨7, .ofNat 8, .bookForced, 0⟩] := by
    refine ⟨_, _, rfl, ⟨rfl, by decide +kernel, ?_⟩, by decide +kernel, rfl⟩
    rintro after ⟨⟩
    decide +kernel
  obtain ⟨q', h⟩ := History.of_works (Demand.displacing.map .request) (d := .empty)
    (fun _ _ => rfl) (.inl rfl) (by decide) start_opened (Rules.freshBelow_oneStudent (by decide))
  obtain ⟨-, -, law⟩ := told_of_run start_opened ran
  obtain ⟨sent, -, lost⟩ := law ⟨0, 1, .bookReservation (.ofNat 2) .epoch (some 7)⟩
  refine ⟨q, before, ran, loses, live, lost _ _ _ loses live (by decide) (.inr ⟨q', h⟩), ?_⟩
  rw [told] at sent
  exact fun hub => (sent hub).2

end Planner

end Timetable
