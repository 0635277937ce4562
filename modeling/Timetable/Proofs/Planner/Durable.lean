import Timetable.Proofs.Planner.Transaction
import Timetable.Proofs.Registry.Compaction

/-!
# What a restart finds

Whatever is asked of a planner on a disk that works, and wherever compactions and restarts fall in
between, its journal consists of whole records that add up to the registry. So a planner that is
started on the same bytes has the same registry.
-/

set_option autoImplicit false

namespace Timetable

/-! ## Runs -/

/-- What can be done to a planner from outside. -/
inductive Step where
  | request (demand : Demand)
  | compact
  | restart

namespace Step

/-- How many ids are drawn in a step. -/
def draws : Step → Nat
  | request demand => demand.action.draws
  | compact | restart => 0

/-- How many ids are drawn in a run. -/
def drawsAll : List Step → Nat
  | [] => 0
  | s :: rest => s.draws + drawsAll rest

end Step

namespace Planner

/-- A step; only a restart can fail. -/
def step (p : Planner) (rules : Rules) : Step → Except Journal.DiskError Planner
  | .request d => .ok (p.perform rules d.now d.caller d.action).2
  | .compact => .ok p.compact.2
  | .restart => p.restart

/-- Steps one after the other. -/
def run (p : Planner) (rules : Rules) : List Step → Except Journal.DiskError Planner
  | [] => .ok p
  | s :: rest => do
    let p ← p.step rules s
    p.run rules rest

/-- What a planner is started with: all that can be read, or nothing where there is no file. -/
theorem start_of_works {d : Journal.Disk} (works : d.Works) (log : d.log ≠ .directory)
    (hub : Hub) (counters : Counters) (drawn : Nat) :
    ∃ q, start d hub counters drawn = .ok q ∧
      q.registry = Registry.ofEvents (Journal.replay (d.bytes .log)) ∧
      (d.temp ≠ .directory → q.log.Ready (d.bytes .log)) ∧ q.drawn = drawn := by
  obtain ⟨l, opened, ready⟩ := Journal.Log.ready_of_start works log
  have read : Journal.Log.events d = .ok (Journal.replay (d.bytes .log)) := by
    rw [Journal.Log.events, Journal.Disk.bytes, Journal.Disk.entry]
    cases h : d.log with
    | absent => exact congrArg Except.ok Journal.replay_nil.symm
    | directory => exact absurd h log
    | file bytes => rfl
  refine ⟨⟨Registry.ofEvents (Journal.replay (d.bytes .log)), l, hub, counters, drawn⟩, ?_, rfl,
    ready, rfl⟩
  simp only [start, read, opened]
  rfl

theorem start_of_file {d : Journal.Disk} {bytes : List UInt8} (works : d.Works)
    (log : d.log = .file bytes) (hub : Hub) (counters : Counters) (drawn : Nat) :
    ∃ q, start d hub counters drawn = .ok q ∧
      q.registry = Registry.ofEvents (Journal.replay bytes) ∧
      (d.temp ≠ .directory → q.log.Ready bytes) ∧ q.drawn = drawn := by
  have no_directory : d.log ≠ .directory := by
    rw [log]
    exact Journal.Entry.file_ne_directory bytes
  have same : d.bytes .log = bytes := by
    rw [Journal.Disk.bytes, Journal.Disk.entry, log]
  have started := start_of_works works no_directory hub counters drawn
  rwa [same] at started

/-! ## What a step keeps -/

/-- The journal is written and holds the records of `es`, which are valid and add up to the
registry, and the registry is well-formed. -/
structure Keeps (rules : Rules) (p : Planner) (es : List Event) : Prop where
  ready : p.log.Ready (Journal.records es)
  valid : ∀ e ∈ es, e.Valid rules.bells
  built : Registry.ofEvents es = p.registry
  wellFormed : p.registry.WellFormed rules.bells
  within : p.registry.Within (rules.Given p.drawn)

variable {rules : Rules} {p : Planner} {es : List Event}

theorem Keeps.fits (keeps : p.Keeps rules es) : ∀ e ∈ es, Journal.Fits e := by
  intro e he
  exact Journal.fits_of_valid (keeps.valid e he)

/-- What can be read back is what was recorded. -/
theorem Keeps.replay (keeps : p.Keeps rules es) :
    Journal.replay (Journal.records es) = es := Journal.replay_records keeps.fits

/-- A planner that is started on the bytes of the journal has the same registry. -/
theorem Keeps.start (keeps : p.Keeps rules es) {d : Journal.Disk} (works : d.Works)
    (log : d.log = .file (Journal.records es)) (hub : Hub) (counters : Counters) (drawn : Nat) :
    ∃ q, Planner.start d hub counters drawn = .ok q ∧ q.registry = p.registry ∧
      (d.temp ≠ .directory → q.log.Ready (Journal.records es)) ∧ q.drawn = drawn := by
  obtain ⟨q, started, registry, ready, same⟩ := start_of_file works log hub counters drawn
  refine ⟨q, started, ?_, ready, same⟩
  rw [registry, keeps.replay, keeps.built]

theorem Keeps.request (keeps : p.Keeps rules es) {now : Int} {caller : UserId} {action : Action}
    (fresh : rules.FreshBelow (p.drawn + action.draws)) :
    (p.perform rules now caller action).2.Keeps rules
      (es ++ p.transaction rules now caller action) := by
  obtain ⟨registry, ready, drawn⟩ := perform_spec keeps.ready rules now caller action
  have sound := sound_transaction keeps.wellFormed keeps.within fresh now caller
  refine ⟨?_, ?_, ?_, ?_, ?_⟩
  · rw [Journal.records_append]
    exact ready
  · intro e he
    rcases List.mem_append.1 he with he | he
    · exact keeps.valid e he
    · exact sound.admitted.valid e he
  · rw [registry, ← keeps.built]
    exact Registry.applyAll_append ..
  · rw [registry]
    exact keeps.wellFormed.applyAll sound.admitted
  · rw [registry, drawn]
    have before := keeps.within.mono fun i given => given.mono (Nat.le_add_right _ action.draws)
    exact before.applyAll sound.brought

theorem Keeps.compact (keeps : p.Keeps rules es) : p.compact.2.Keeps rules p.registry.events where
  ready := (keeps.ready.compact p.registry.events).2
  valid := Registry.valid_of_mem_events keeps.wellFormed
  built := Registry.ofEvents_events keeps.wellFormed
  wellFormed := keeps.wellFormed
  within := keeps.within

theorem Keeps.restart (keeps : p.Keeps rules es) :
    ∃ q, p.restart = .ok q ∧ q.Keeps rules es ∧ q.drawn = p.drawn := by
  have closed : p.log.close = p.log.disk := Journal.Log.close_eq keeps.ready.none_waits
  obtain ⟨q, started, registry, ready, drawn⟩ := keeps.start keeps.ready.works keeps.ready.log_eq
    p.hub p.counters p.drawn
  refine ⟨q, ?_, ⟨ready keeps.ready.temp, keeps.valid, ?_, ?_, ?_⟩, drawn⟩
  · rw [Planner.restart, closed]
    exact started
  · rw [registry]
    exact keeps.built
  · rw [registry]
    exact keeps.wellFormed
  · rw [registry, drawn]
    exact keeps.within

/-- **A step goes through and keeps the journal in step with the registry**, if the ids that are
drawn for it are new. -/
theorem Keeps.step (keeps : p.Keeps rules es) (s : Step)
    (fresh : rules.FreshBelow (p.drawn + s.draws)) :
    ∃ q es', p.step rules s = .ok q ∧ q.Keeps rules es' ∧ q.drawn = p.drawn + s.draws := by
  cases s with
  | request d =>
    exact ⟨_, _, rfl, keeps.request fresh, (perform_spec keeps.ready ..).2.2⟩
  | compact => exact ⟨_, _, rfl, keeps.compact, rfl⟩
  | restart =>
    obtain ⟨q, restarted, keeps', drawn⟩ := keeps.restart
    exact ⟨q, es, restarted, keeps', drawn⟩

theorem Keeps.run (keeps : p.Keeps rules es) (steps : List Step)
    (fresh : rules.FreshBelow (p.drawn + Step.drawsAll steps)) :
    ∃ q es', p.run rules steps = .ok q ∧ q.Keeps rules es' ∧
      q.drawn = p.drawn + Step.drawsAll steps := by
  induction steps generalizing p es with
  | nil => exact ⟨p, es, rfl, keeps, rfl⟩
  | cons s rest ih =>
    have split : p.drawn + Step.drawsAll (s :: rest) =
        p.drawn + s.draws + Step.drawsAll rest := by
      rw [Step.drawsAll]
      omega
    rw [split] at fresh ⊢
    obtain ⟨p', es', stepped, keeps', drawn⟩ := keeps.step s (fresh.mono (Nat.le_add_right ..))
    rw [← drawn] at fresh ⊢
    obtain ⟨q, es'', ran, keeps'', drawn'⟩ := ih keeps' fresh
    refine ⟨q, es'', ?_, keeps'', drawn'⟩
    rw [Planner.run, stepped]
    exact ran

/-! ## Runs from the start -/

/-- Opening an empty journal gives a planner without slots. -/
theorem keeps_of_empty (rules : Rules) {d : Journal.Disk} (works : d.Works)
    (empty : d.log = .absent ∨ d.log = .file []) (temp : d.temp ≠ .directory) (hub : Hub)
    (counters : Counters) :
    ∃ p, start d hub counters 0 = .ok p ∧ p.Keeps rules [] ∧ p.drawn = 0 := by
  have nothing : d.log ≠ .directory ∧ d.bytes .log = [] := by
    rw [Journal.Disk.bytes, Journal.Disk.entry]
    rcases empty with log | log
    · rw [log]
      exact ⟨by decide, rfl⟩
    · rw [log]
      exact ⟨Journal.Entry.file_ne_directory [], rfl⟩
  obtain ⟨p, started, registry, ready, drawn⟩ :=
    start_of_works works nothing.1 hub counters 0
  rw [nothing.2, Journal.replay_nil] at registry
  rw [nothing.2] at ready
  refine ⟨p, started, ⟨ready temp, fun e he => absurd he List.not_mem_nil, registry.symm, ?_, ?_⟩,
    drawn⟩
  · rw [registry]
    exact Registry.WellFormed.empty _
  · rw [registry]
    exact Registry.Within.empty _

/-- **After every run the journal rebuilds the registry.** The run may ask for anything, whether it
is carried out or refused, and may compact the journal and restart the planner at any time. All that
is assumed is a journal that is empty at first, a disk that works, and ids that are drawn only
once. -/
theorem restarted_registry_eq (rules : Rules) {d : Journal.Disk} (works : d.Works)
    (empty : d.log = .absent ∨ d.log = .file []) (temp : d.temp ≠ .directory) (hub : Hub)
    (counters : Counters) (steps : List Step) (fresh : rules.FreshBelow (Step.drawsAll steps)) :
    ∃ p q es, start d hub counters 0 = .ok p ∧ p.run rules steps = .ok q ∧
      q.log.disk.log = .file (Journal.records es) ∧ Journal.replay (Journal.records es) = es ∧
      ∀ d' : Journal.Disk, d'.Works → d'.log = .file (Journal.records es) →
        ∀ hub counters drawn,
          ∃ q', start d' hub counters drawn = .ok q' ∧ q'.registry = q.registry := by
  obtain ⟨p, started, keeps, drawn⟩ := keeps_of_empty rules works empty temp hub counters
  rw [← Nat.zero_add (Step.drawsAll steps), ← drawn] at fresh
  obtain ⟨q, es, ran, keeps', -⟩ := keeps.run steps fresh
  refine ⟨p, q, es, started, ran, keeps'.ready.log_eq, keeps'.replay, ?_⟩
  intro d' works' log hub counters drawn'
  obtain ⟨q', restarted, same, -⟩ := keeps'.start works' log hub counters drawn'
  exact ⟨q', restarted, same⟩

end Planner

/-! A run in which a booking displaces another one -/

/-- A school in which one student is known; ids are numbers in turn. -/
def Rules.oneStudent : Rules where
  bells := .standard
  policy := .standard
  directory := [⟨7, .empty, [], some "1a"⟩]
  ids := .ofNat

theorem Rules.freshBelow_oneStudent {n : Nat} (le : n ≤ 1000) : oneStudent.FreshBelow n := by
  intro i j before below same
  have bits : i % 2 ^ 128 = j % 2 ^ 128 := by
    simpa only [Rules.oneStudent, Ident.ofNat, Ident.toNat, BitVec.toNat_ofNat] using
      congrArg Ident.toNat same
  rw [Nat.mod_eq_of_lt (by omega), Nat.mod_eq_of_lt (by omega)] at bits
  omega

/-- Two slots at the same time. The student books the first one for today and for next week, and is
then put into the second one for today by its supervisor. -/
def Demand.displacing : List Demand := [
  ⟨0, 1, .createSlot 1 1 .thursday "101" 5⟩,
  ⟨0, 1, .createSlot 1 1 .thursday "102" 5⟩,
  ⟨0, 1, .addSlotFilter (.ofNat 0) none (some "1a")⟩,
  ⟨0, 1, .addSlotFilter (.ofNat 2) none (some "1a")⟩,
  ⟨0, 7, .bookReservation (.ofNat 0) .epoch none⟩,
  ⟨0, 7, .bookReservation (.ofNat 0) ⟨7, by decide, by decide⟩ none⟩,
  ⟨0, 1, .bookReservation (.ofNat 2) .epoch (some 7)⟩]

namespace Planner

theorem restarted_registry_eq_displacing : ∃ p q es,
    start .empty .empty [] 0 = .ok p ∧
      p.run .oneStudent (Demand.displacing.map .request ++ [.compact, .restart]) = .ok q ∧
      q.log.disk.log = .file (Journal.records es) ∧ Journal.replay (Journal.records es) = es ∧
      ∀ d' : Journal.Disk, d'.Works → d'.log = .file (Journal.records es) →
        ∀ hub counters drawn,
          ∃ q', start d' hub counters drawn = .ok q' ∧ q'.registry = q.registry :=
  restarted_registry_eq _ (fun _ _ => rfl) (.inl rfl) (by decide) .empty [] _
    (Rules.freshBelow_oneStudent (by decide))

end Planner

end Timetable
