import Timetable.Job
import Timetable.Proofs.Registry.Numbered

/-!
# What a job may do

A job writes to the slots that it holds, and it brings nothing but what gets the ids that were drawn
for it. What it has decided on stands for as long as the rosters that it holds stay as they are.
-/

set_option autoImplicit false

namespace Timetable

theorem Ident.mem_insert {s slot : Ident} {slots : List Ident} :
    s ∈ slot.insert slots ↔ s = slot ∨ s ∈ slots := by
  induction slots with
  | nil => exact List.mem_cons
  | cons other slots ih =>
    rw [Ident.insert]
    split
    · exact List.mem_cons
    · rw [List.mem_cons, List.mem_cons, ih]
      exact or_left_comm

namespace Job

variable {job : Job} {r r' : Registry} {rules : Rules} {now : Int} {held left : List Ident}
  {stage : Stage} {change : Change Reply}

/-! ## What is written -/

/-- The slot or reservation that the job brings gets this id. -/
def Brings (job : Job) (rules : Rules) (id : Ident) : Prop :=
  0 < job.action.draws ∧ id = rules.ids job.first

/-- What a job may write while it holds these slots. -/
inductive Writes (job : Job) (rules : Rules) (held : List Ident) : List Event → Prop where
  | nothing : Writes job rules held []
  | created {slot : Slot} {supervisors : List Supervisor} (new : job.Brings rules slot.id) :
      Writes job rules held [.slotCreated slot supervisors]
  | changed {e : Event} (own : e.slotId ∈ held) (nothing : e.bringsNothing) :
      Writes job rules held [e]
  /-- A reservation is booked, and others make way for it. -/
  | booked {others : List Event} {x : Reservation}
      (cancelled : ∀ e ∈ others, e.slotId ∈ held ∧ e.bringsNothing) (own : x.slotId ∈ held)
      (new : job.Brings rules x.id) : Writes job rules held (others ++ [.reservationBooked x])

/-- What a job may write does not depend on the stage that it is at. -/
theorem Writes.anyStage {es : List Event} (writes : job.Writes rules held es) (stage : Stage) :
    { job with stage }.Writes rules held es := by
  cases writes with
  | nothing => exact .nothing
  | created new => exact .created new
  | changed own nothing => exact .changed own nothing
  | booked cancelled own new => exact .booked cancelled own new

theorem Writes.own {es : List Event} (writes : job.Writes rules held es) :
    ∀ e ∈ es, e.slotId ∈ held ∨ job.Brings rules e.slotId := by
  cases writes with
  | nothing => exact List.forall_mem_nil _
  | created new => exact List.forall_mem_singleton.2 (.inr new)
  | changed own nothing => exact List.forall_mem_singleton.2 (.inl own)
  | booked cancelled own new =>
    refine List.forall_mem_append.2 ⟨fun e mem => .inl (cancelled e mem).1, ?_⟩
    exact List.forall_mem_singleton.2 (.inl own)

/-- What is written puts no ids to use but those drawn for the job. -/
theorem Writes.numbered {es : List Event} {given : Ident → Prop} (writes : job.Writes rules held es)
    (numbered : r.Numbered given) (new : ∀ id, job.Brings rules id → ¬ given id) :
    (r.applyAll es).Numbered fun id => given id ∨ job.Brings rules id := by
  cases writes with
  | nothing => exact numbered.mono fun id => .inl
  | created brings =>
    exact (numbered.apply_slotCreated _ _).mono fun id => Or.imp_right fun same => same ▸ brings
  | changed own nothing => exact (numbered.apply nothing).mono fun id => .inl
  | booked cancelled own brings =>
    rw [Registry.applyAll_append, Registry.applyAll_singleton]
    have before := numbered.applyAll fun e mem => (cancelled e mem).2
    exact (before.apply_reservationBooked (new _ brings)).mono fun id =>
      Or.imp_right fun same => same ▸ brings

/-- The change is one that the job may write, and if it books, it is what the rosters that are held
let it book. -/
structure Decided (job : Job) (rules : Rules) (r : Registry) (held : List Ident)
    (change : Change Reply) : Prop where
  writes : job.Writes rules held change.events
  booked : ∀ b, job.booking? = some b → b.slot ∈ held ∧
    ∃ c, job.book r rules b held = .ok c ∧ change = c.map fun x => ⟨x.json, [.bookings]⟩

theorem Decided.of_writes (writes : job.Writes rules held change.events)
    (no_booking : job.booking? = none) : job.Decided rules r held change where
  writes := writes
  booked b booking := by
    rw [no_booking] at booking
    cases booking

theorem Decided.anyStage (decided : job.Decided rules r held change) (stage : Stage) :
    { job with stage }.Decided rules r held change :=
  ⟨decided.writes.anyStage stage, decided.booked⟩

/-- The slot that a job is about was found out at some time. -/
def IsMade (job : Job) : Prop := ∃ r : Registry, job.slot = job.action.slot? r

/-- What is decided on may be written, if the slot that the job is about is held or gone. -/
theorem decided_of_decision (filed : r.Filed) (made : job.IsMade)
    (reached : ∀ s, job.slot = some s → s ∈ held ∨ r.roster? s = none)
    (decision : job.decision r rules now held = .ok change) : job.Decided rules r held change := by
  have in_held {s : Ident} {roster : Roster} (about : job.slot = some s)
      (there : r.roster? s = some roster) : s ∈ held :=
    (reached s about).resolve_right (by rw [there]; exact nofun)
  obtain ⟨caller, action, came, first, slot, stage⟩ := job
  obtain ⟨r₀, made⟩ := made
  dsimp only at made
  cases action with
  | createSlot startUnit duration weekday room capacity =>
    obtain ⟨c, granted, rfl⟩ := Change.of_map_eq_ok decision
    obtain ⟨-, -, rfl⟩ := Registry.create_eq_ok_iff.1 granted
    exact .of_writes (.created ⟨Nat.succ_pos 1, rfl⟩) rfl
  | updateSlot s patch =>
    obtain ⟨c, granted, rfl⟩ := Change.of_map_eq_ok decision
    obtain ⟨roster, supervised, -, -, _, -, rfl⟩ := Registry.update_eq_ok_iff.1 granted
    have there := (Registry.supervisedRoster_eq_ok_iff.1 supervised).1
    have own : roster.slot.id ∈ held := by
      rw [(filed s roster there).slot_id]
      exact in_held made there
    exact .of_writes (.changed own rfl) rfl
  | deleteSlot s =>
    obtain ⟨c, granted, rfl⟩ := Change.of_map_eq_ok decision
    obtain ⟨roster, supervised, rfl⟩ := Registry.delete_eq_ok_iff.1 granted
    have there := (Registry.supervisedRoster_eq_ok_iff.1 supervised).1
    exact .of_writes (.changed (in_held made there) rfl) rfl
  | addSlotFilter s course cohort =>
    obtain ⟨c, granted, rfl⟩ := Change.of_map_eq_ok decision
    obtain ⟨-, roster, supervised, -, rfl⟩ := Registry.addFilter_eq_ok_iff.1 granted
    have there := (Registry.supervisedRoster_eq_ok_iff.1 supervised).1
    exact .of_writes (.changed (in_held made there) rfl) rfl
  | deleteSlotFilter filter =>
    simp only [Job.decision] at decision
    split at decision
    · rename_i about
      obtain ⟨c, granted, rfl⟩ := Change.of_map_eq_ok decision
      obtain ⟨roster, holding, -, -, rfl⟩ := Registry.removeFilter_eq_ok_iff.1 granted
      obtain ⟨s, indexed, there⟩ := Registry.rosterHolding_eq_ok_iff.1 holding
      have own : roster.slot.id ∈ held := by
        rw [(filed s roster there).slot_id]
        exact in_held (about.symm.trans indexed) there
      exact .of_writes (.changed own rfl) rfl
    · cases decision
  | addSlotSupervisor s user =>
    obtain ⟨c, granted, rfl⟩ := Change.of_map_eq_ok decision
    obtain ⟨roster, supervised, ⟨-, rfl⟩ | ⟨-, -, rfl⟩⟩ :=
      Registry.addSupervisor_eq_ok_iff.1 granted
    · exact .of_writes .nothing rfl
    · have there := (Registry.supervisedRoster_eq_ok_iff.1 supervised).1
      exact .of_writes (.changed (in_held made there) rfl) rfl
  | removeSlotSupervisor s user =>
    obtain ⟨c, granted, rfl⟩ := Change.of_map_eq_ok decision
    obtain ⟨roster, supervised, ⟨-, rfl⟩ | ⟨-, rfl⟩⟩ :=
      Registry.removeSupervisor_eq_ok_iff.1 granted
    · have there := (Registry.supervisedRoster_eq_ok_iff.1 supervised).1
      exact .of_writes (.changed (in_held made there) rfl) rfl
    · exact .of_writes .nothing rfl
  | bookReservation s date user =>
    obtain ⟨c, granted, rfl⟩ := Change.of_map_eq_ok decision
    obtain ⟨student, -, booked⟩ := bind_eq_ok_iff.1 granted
    obtain ⟨target, there, -, rfl⟩ := Registry.bookHeld_eq_ok_iff.1 booked
    refine ⟨.booked (fun e mem => ?_) (in_held made there) ⟨Nat.one_pos, rfl⟩, ?_⟩
    · obtain ⟨-, other, in_held, -, roster, there', -, x, -, -, rfl⟩ :=
        Registry.mem_displacedFrom_iff.1 mem
      rw [Event.slotId, (filed other roster there').slot_id]
      exact ⟨in_held, rfl⟩
    · rintro b ⟨⟩
      exact ⟨in_held made there, _, granted, rfl⟩
  | unbookReservation x nice strict =>
    simp only [Job.decision] at decision
    split at decision
    · rename_i about
      obtain ⟨c, granted, rfl⟩ := Change.of_map_eq_ok decision
      obtain ⟨roster, holding, reservation, reserved, phase, -, mode, -, rfl⟩ :=
        Registry.unbook_eq_ok_iff.1 granted
      obtain ⟨s, indexed, there⟩ := Registry.rosterHolding_eq_ok_iff.1 holding
      have mem := (Roster.of_reservation?_eq_some reserved).1
      have own : reservation.slotId ∈ held := by
        rw [(filed s roster there).reservation_slot reservation mem]
        exact in_held (about.symm.trans indexed) there
      cases mode with
      | self => exact .of_writes (.changed own rfl) rfl
      | forced => exact .of_writes (.changed own rfl) rfl
      | requested => exact .of_writes .nothing rfl
    · cases decision
  | _ =>
    cases decision
    exact .of_writes .nothing rfl

/-- A booking looks at no other rosters than those that are held. -/
theorem book_congr {b : Registry.Booking} (target : b.slot ∈ held)
    (same : ∀ s ∈ held, r'.roster? s = r.roster? s) :
    job.book r' rules b held = job.book r rules b held := by
  have others : (held.filter (· ≠ b.slot)).filterMap r'.roster? =
      (held.filter (· ≠ b.slot)).filterMap r.roster? :=
    List.filterMap_congr fun s mem => same s (List.mem_of_mem_filter mem)
  simp only [book, Registry.bookHeld, Registry.rosterOf, same b.slot target, others]

theorem Decided.congr (decided : job.Decided rules r held change)
    (same : ∀ s ∈ held, r'.roster? s = r.roster? s) : job.Decided rules r' held change where
  writes := decided.writes
  booked b booking := by
    obtain ⟨target, booked⟩ := decided.booked b booking
    rw [book_congr target same]
    exact ⟨target, booked⟩

/-! ## From stage to stage -/

theorem decided_cases (job : Job) (r : Registry) (rules : Rules) (now : Int) (held : List Ident) :
    (∃ result, job.decided r rules now held = .done result) ∨
      ∃ change, job.decision r rules now held = .ok change ∧
        job.decided r rules now held = .writing held change := by
  unfold decided
  split
  · exact .inl ⟨_, rfl⟩
  · rename_i change decision
    split
    · exact .inl ⟨_, rfl⟩
    · exact .inr ⟨change, decision, rfl⟩

/-- What becomes of a job that goes on to hold the slots that are left. -/
inductive Taken (job : Job) (r : Registry) (rules : Rules) (now : Int) (held left : List Ident) :
    Stage → Prop where
  /-- It waits for the first of them that is not gone. -/
  | waits {passed rest : List Ident} {slot : Ident} (split : left = passed ++ slot :: rest)
      (gone : ∀ s ∈ passed, r.roster? s = none ∧ job.slot ≠ some s) :
      Taken job r rules now held left (.taking slot rest held)
  /-- None is left. -/
  | through (gone : ∀ s ∈ left, r.roster? s = none ∧ job.slot ≠ some s) :
      Taken job r rules now held left (job.decided r rules now held)
  /-- The slot that it is about is gone. -/
  | refused {slot : Ident} (about : job.slot = some slot) (gone : r.roster? slot = none) :
      Taken job r rules now held left (job.decided r rules now held)

theorem taken (job : Job) (r : Registry) (rules : Rules) (now : Int) (held left : List Ident) :
    job.Taken r rules now held left (job.take r rules now held left) := by
  induction left with
  | nil => exact .through nofun
  | cons slot left ih =>
    rw [take]
    split
    · exact .waits (List.nil_append _).symm nofun
    · rename_i gone
      have gone : r.roster? slot = none := Option.not_isSome_iff_eq_none.1 gone
      split
      · rename_i about
        exact .refused about gone
      · rename_i other
        generalize job.take r rules now held left = stage at ih
        cases ih with
        | @waits passed rest next split gone' =>
          have split' : slot :: left = (slot :: passed) ++ next :: rest :=
            congrArg (slot :: ·) split
          exact .waits split' (List.forall_mem_cons.2 ⟨⟨gone, other⟩, gone'⟩)
        | through gone' => exact .through (List.forall_mem_cons.2 ⟨⟨gone, other⟩, gone'⟩)
        | refused about gone' => exact .refused about gone'

theorem held_decided {s : Ident} (mem : s ∈ (job.decided r rules now held).held) : s ∈ held := by
  rcases decided_cases job r rules now held with ⟨result, stage⟩ | ⟨change, -, stage⟩
  · rw [stage] at mem
    cases mem
  · rwa [stage] at mem

theorem held_take {s : Ident} (mem : s ∈ (job.take r rules now held left).held) : s ∈ held := by
  have taken := job.taken r rules now held left
  generalize job.take r rules now held left = stage at taken mem
  cases taken with
  | waits => exact mem
  | through | refused => exact held_decided mem

theorem held_scan {s : Ident} {pick : Nat} {weekday : Weekday} {chosen : List Ident} :
    s ∉ (job.scan r rules now pick weekday left chosen).held := by
  unfold scan
  split
  · exact fun mem => absurd (held_take mem) List.not_mem_nil
  · exact List.not_mem_nil

theorem held_start {s : Ident} : s ∉ (job.start r rules now).held := by
  unfold start
  repeat' split
  all_goals first | exact List.not_mem_nil | exact fun mem => absurd (held_take mem) List.not_mem_nil

/-- A job holds what it held before, and the roster that it has waited to hold. -/
theorem mem_held_next {s : Ident} {pick : Nat} (mem : s ∈ (job.next r rules now pick).held) :
    s ∈ job.stage.held ∨ ∃ left held, job.stage = .taking s left held := by
  unfold next at mem
  split at mem
  · exact absurd mem held_start
  · split at mem
    · exact absurd mem held_scan
    · exact absurd (held_decided mem) List.not_mem_nil
  · exact absurd mem held_scan
  · rename_i slot left held stage
    rw [stage]
    split at mem
    · rcases List.mem_append.1 (held_take mem) with mem | mem
      · exact .inl mem
      · exact .inr ⟨left, held, by rw [List.mem_singleton.1 mem]⟩
    · exact .inl (held_take mem)
  · cases mem
  · cases mem
  · exact .inl mem

/-- How a job stands: it will come to the slot that it is about, the slots that it holds are there,
and what it waits to have written has been decided on. -/
inductive Stands (job : Job) (rules : Rules) (r : Registry) : Stage → Prop where
  | new : Stands job rules r .new
  | looking {slot : Ident} (about : job.slot = some slot) : Stands job rules r (.looking slot)
  | scanning {weekday : Weekday} {slot : Ident} {left chosen : List Ident}
      (covers : ∀ s, job.slot = some s → s ∈ chosen) :
      Stands job rules r (.scanning weekday slot left chosen)
  | taking {slot : Ident} {left held : List Ident}
      (covers : ∀ s, job.slot = some s → s ∈ held ∨ s ∈ slot :: left)
      (there : ∀ s ∈ held, (r.roster? s).isSome) : Stands job rules r (.taking slot left held)
  | writing {held : List Ident} {change : Change Reply} (there : ∀ s ∈ held, (r.roster? s).isSome)
      (decided : job.Decided rules r held change) : Stands job rules r (.writing held change)
  | written {held : List Ident} {change : Change Reply} {outcome : Journal.Outcome}
      (there : ∀ s ∈ held, (r.roster? s).isSome) (decided : job.Decided rules r held change) :
      Stands job rules r (.written held change outcome)
  | done {result : Except Refusal (Change Reply)} : Stands job rules r (.done result)

namespace Stands

theorem there (stands : job.Stands rules r stage) : ∀ s ∈ stage.held, (r.roster? s).isSome := by
  cases stands with
  | taking _ there | writing there | written there => exact there
  | _ => exact nofun

/-- Only the rosters that a job holds matter to it. -/
theorem congr (stands : job.Stands rules r stage)
    (same : ∀ s ∈ stage.held, r'.roster? s = r.roster? s) : job.Stands rules r' stage := by
  have stay : ∀ s ∈ stage.held, (r'.roster? s).isSome := fun s mem => by
    rw [same s mem]
    exact stands.there s mem
  cases stands with
  | new => exact .new
  | looking about => exact .looking about
  | scanning covers => exact .scanning covers
  | taking covers there => exact .taking covers stay
  | writing there decided => exact .writing stay (decided.congr same)
  | written there decided => exact .written stay (decided.congr same)
  | done => exact .done

theorem anyStage (stands : job.Stands rules r stage) (stage' : Stage) :
    { job with stage := stage' }.Stands rules r stage := by
  cases stands with
  | new => exact .new
  | looking about => exact .looking about
  | scanning covers => exact .scanning covers
  | taking covers there => exact .taking covers there
  | writing there decided => exact .writing there (decided.anyStage stage')
  | written there decided => exact .written there (decided.anyStage stage')
  | done => exact .done

theorem answered (stands : job.Stands rules r stage) (outcome : Journal.Outcome) :
    job.Stands rules r (stage.answered outcome) := by
  cases stands with
  | writing there decided => exact .written there decided
  | new => exact .new
  | looking about => exact .looking about
  | scanning covers => exact .scanning covers
  | taking covers there => exact .taking covers there
  | written there decided => exact .written there decided
  | done => exact .done

variable (filed : r.Filed) (made : job.IsMade)
include filed made

theorem decided (there : ∀ s ∈ held, (r.roster? s).isSome)
    (reached : ∀ s, job.slot = some s → s ∈ held ∨ r.roster? s = none) :
    job.Stands rules r (job.decided r rules now held) := by
  rcases decided_cases job r rules now held with ⟨result, stage⟩ | ⟨change, decision, stage⟩
  · exact stage ▸ .done
  · exact stage ▸ .writing there (decided_of_decision filed made reached decision)

theorem take (there : ∀ s ∈ held, (r.roster? s).isSome)
    (covers : ∀ s, job.slot = some s → s ∈ held ∨ s ∈ left) :
    job.Stands rules r (job.take r rules now held left) := by
  have taken := job.taken r rules now held left
  generalize job.take r rules now held left = stage at taken
  cases taken with
  | waits split gone =>
    refine .taking (fun s about => (covers s about).imp_right fun mem => ?_) there
    rw [split, List.mem_append] at mem
    exact mem.resolve_left fun mem => (gone s mem).2 about
  | through gone =>
    refine decided filed made there fun s about => (covers s about).imp_right fun mem => ?_
    exact (gone s mem).1
  | refused about gone =>
    refine decided filed made there fun s about' => .inr ?_
    rwa [Option.some.inj (about'.symm.trans about)]

theorem scan {pick : Nat} {weekday : Weekday} {chosen : List Ident}
    (covers : ∀ s, job.slot = some s → s ∈ chosen) :
    job.Stands rules r (job.scan r rules now pick weekday left chosen) := by
  unfold Job.scan
  split
  · exact take filed made nofun fun s about => .inr (covers s about)
  · exact .scanning covers

theorem start : job.Stands rules r (job.start r rules now) := by
  unfold Job.start
  split
  · rename_i b booking
    have about : job.slot = some b.slot := by
      obtain ⟨r₀, made⟩ := made
      obtain ⟨caller, action, came, first, slot, stage⟩ := job
      cases action <;> cases booking
      exact made
    split
    · exact .done
    · split
      · exact .done
      · split
        · exact .looking about
        · refine take filed made nofun fun s about' => .inr ?_
          rw [Option.some.inj (about'.symm.trans about)]
          exact List.mem_singleton_self _
  · exact take filed made nofun fun s about => .inr (by rw [about]; exact List.mem_singleton_self _)

/-- How a job stands when it goes on. -/
theorem next (stands : job.Stands rules r job.stage) (pick : Nat) :
    job.Stands rules r (job.next r rules now pick) := by
  unfold Job.next
  split
  · exact start filed made
  · rename_i slot stage
    rw [stage] at stands
    cases stands with
    | looking about =>
      split
      · refine scan filed made fun s about' => ?_
        rw [Option.some.inj (about'.symm.trans about)]
        exact List.mem_singleton_self _
      · rename_i gone
        refine decided filed made nofun fun s about' => .inr ?_
        rwa [Option.some.inj (about'.symm.trans about)]
  · rename_i weekday slot left chosen stage
    rw [stage] at stands
    cases stands with
    | scanning covers =>
      refine scan filed made fun s about => ?_
      split
      · exact Ident.mem_insert.2 (.inr (covers s about))
      · exact covers s about
  · rename_i slot left held stage
    rw [stage] at stands
    cases stands with
    | taking covers there =>
      split
      · rename_i found
        refine take filed made ?_ fun s about => ?_
        · exact List.forall_mem_append.2 ⟨there, List.forall_mem_singleton.2 found⟩
        · rcases covers s about with mem | mem
          · exact .inl (List.mem_append_left _ mem)
          · rcases List.mem_cons.1 mem with rfl | mem
            · exact .inl (List.mem_append_right _ (List.mem_singleton_self _))
            · exact .inr mem
      · exact take filed made there covers
  · exact .done
  · exact .done
  · exact stands

end Stands

end Job

end Timetable
