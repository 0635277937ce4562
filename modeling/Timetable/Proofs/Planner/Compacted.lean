import Timetable.Proofs.Journal.Compacting
import Timetable.Proofs.Planner.Cut
import Timetable.Proofs.Planner.History

/-!
# What a compaction leaves to a restart

Wherever the process stops while the journal is compacted, a restart finds the old journal or the
new one. The new one always rebuilds the registry. The old one does so if nothing has been refused
of late. What stands under the temporary name never matters.
-/

set_option autoImplicit false

namespace Timetable.Planner

variable {rules : Rules} {p q : Planner} {es : List Event}

/-! ## What a journal rebuilds -/

/-- On a disk that works, whatever stands under the temporary name, a planner that is started on this
journal has the registry. -/
def Rebuilds (log : Journal.Entry) (r : Registry) : Prop :=
  ∀ d : Journal.Disk, d.Works → d.log = log → ∀ hub counters drawn,
    ∃ q, start d hub counters drawn = .ok q ∧ q.registry = r

/-- A journal rebuilds one registry at most. -/
theorem Rebuilds.unique {log : Journal.Entry} {r r' : Registry} (h : Rebuilds log r)
    (h' : Rebuilds log r') : r = r' := by
  obtain ⟨q, started, same⟩ := h { Journal.Disk.empty with log } (fun _ _ => rfl) rfl .empty [] 0
  obtain ⟨q', started', same'⟩ := h' { Journal.Disk.empty with log } (fun _ _ => rfl) rfl .empty [] 0
  cases started.symm.trans started'
  exact same.symm.trans same'

theorem rebuilds_records (fits : ∀ e ∈ es, Journal.Fits e) :
    Rebuilds (.file (Journal.records es)) (Registry.ofEvents es) := by
  intro d works log hub counters drawn
  obtain ⟨q, started, registry, -⟩ := start_of_file works log hub counters drawn
  rw [Journal.replay_records fits] at registry
  exact ⟨q, started, registry⟩

theorem not_rebuilds_of_records {log : Journal.Entry} {r : Registry} (es : List Event)
    (file : log = .file (Journal.records es)) (fits : ∀ e ∈ es, Journal.Fits e)
    (differs : Registry.ofEvents es ≠ r) : ¬ Rebuilds log r := by
  intro rebuilds
  rw [file] at rebuilds
  exact differs ((rebuilds_records fits).unique rebuilds)

/-- A journal in step rebuilds the registry. -/
theorem InStep.rebuilds (inStep : p.InStep rules es) : Rebuilds p.log.disk.log p.registry := by
  rw [inStep.whole.log_eq, ← inStep.built]
  exact rebuilds_records inStep.fits

theorem Stands.fits (stands : p.Stands rules) : ∀ e ∈ p.registry.events, Journal.Fits e := by
  intro e he
  exact Journal.fits_of_valid (Registry.valid_of_mem_events stands.wellFormed e he)

/-- The events that a compaction writes rebuild the registry: every slot with its filters,
supervisors and reservations in their order, and the index. -/
theorem Stands.rebuilds (stands : p.Stands rules) :
    Rebuilds (.file (Journal.records p.registry.events)) p.registry := by
  have rebuilt := rebuilds_records stands.fits
  rwa [Registry.ofEvents_events stands.wellFormed] at rebuilt

/-- A decision that is settled leaves the journal as it is or makes one commit. -/
theorem log_settle {α : Type} (p : Planner) (now : Int) (decision : Except Refusal (Change α)) :
    (p.settle now decision).2.log = p.log ∨
      ∃ events, (p.settle now decision).2.log = (p.log.commit [events]).2 := by
  have settling := p.settling now decision
  generalize p.settle now decision = result at settling
  cases settling with
  | refused | unwritten => exact .inl rfl
  | @denied c _ _ _ commit | @taken c _ _ commit =>
    exact .inr ⟨c.events, congrArg Prod.snd commit.symm⟩

theorem log_perform (p : Planner) (rules : Rules) (d : Demand) :
    (p.perform rules d.now d.caller d.action).2.log = p.log ∨
      ∃ events, (p.perform rules d.now d.caller d.action).2.log = (p.log.commit [events]).2 := by
  obtain ⟨counters, settles⟩ := perform_eq_settle p rules d
  have performed : p.perform rules d.now d.caller d.action = _ := settles p.log p.hub
  rw [performed]
  exact log_settle { p with drawn := p.drawn + d.action.draws } d.now (p.decision rules d)

/-- A request changes no file but the one that is written to. -/
theorem entry_perform {name : Journal.FileName} (other : p.log.writer.file ≠ some name)
    (rules : Rules) (d : Demand) :
    (p.perform rules d.now d.caller d.action).2.log.disk.entry name = p.log.disk.entry name ∧
      (p.perform rules d.now d.caller d.action).2.log.writer.file = p.log.writer.file := by
  obtain same | ⟨events, committed⟩ := log_perform p rules d
  · rw [same]
    exact ⟨rfl, rfl⟩
  · rw [committed]
    exact ⟨Journal.Log.entry_commit other _,
      (Journal.Log.commit_setEntry (e := .absent) other [events]).2⟩

/-- The journal is never written to the temporary file, and no step makes a directory of that. -/
theorem step_aside {s : Step} (file : p.log.writer.file ≠ some .temp)
    (stepped : p.step rules s = .ok q) : q.log.writer.file ≠ some .temp ∧
      (p.log.disk.temp ≠ .directory → q.log.disk.temp ≠ .directory) := by
  cases s with
  | request d =>
    cases stepped
    obtain ⟨temp, same⟩ := entry_perform file rules d
    rw [same]
    exact ⟨file, fun h directory => h (temp.symm.trans directory)⟩
  | compact =>
    cases stepped
    obtain ⟨compacted, -, -⟩ := Journal.Log.compact_spec p.log p.registry.events
    refine ⟨?_, compacted.temp_ne_directory⟩
    unfold compact
    generalize p.log.compact p.registry.events = r at compacted
    cases compacted with
    | givenUp => exact file
    | unopened => exact nofun
    | done => exact nofun
  | restart =>
    obtain ⟨_, -, log, opened, rfl⟩ := start_eq_ok_iff.1 stepped
    obtain ⟨holds, -, touches⟩ := Journal.Log.start_spec opened
    have temp : log.disk.temp = p.log.disk.temp :=
      (touches.others .temp (by decide)).trans (Journal.Log.entry_close file)
    refine ⟨?_, fun h => temp ▸ h⟩
    rw [holds.file]
    decide

section Aside

variable {e : Journal.Entry}

/-- The planner on a disk that has something else under the temporary name. -/
def setTemp (p : Planner) (e : Journal.Entry) : Planner := { p with log := p.log.setEntry .temp e }

theorem settle_setTemp {α : Type} (file : p.log.writer.file ≠ some .temp) (now : Int)
    (decision : Except Refusal (Change α)) :
    (p.setTemp e).settle now decision =
      ((p.settle now decision).1, (p.settle now decision).2.setTemp e) := by
  cases decision with
  | error refusal => rfl
  | ok change =>
    obtain ⟨events, answer, notices⟩ := change
    cases events with
    | nil => rfl
    | cons event events =>
      obtain ⟨committed, -⟩ := Journal.Log.commit_setEntry (e := e) file [event :: events]
      simp only [settle, record, setTemp]
      rw [committed]
      generalize p.log.commit [event :: events] = r
      obtain ⟨error | u, log⟩ := r
      · rfl
      · rfl

theorem perform_setTemp (file : p.log.writer.file ≠ some .temp) (rules : Rules) (d : Demand) :
    (p.setTemp e).perform rules d.now d.caller d.action =
      ((p.perform rules d.now d.caller d.action).1,
        (p.perform rules d.now d.caller d.action).2.setTemp e) := by
  obtain ⟨counters, settles⟩ := perform_eq_settle p rules d
  have here : p.perform rules d.now d.caller d.action = _ := settles p.log p.hub
  have there : (p.setTemp e).perform rules d.now d.caller d.action = _ :=
    settles (p.log.setEntry .temp e) p.hub
  have settled := settle_setTemp (p := { p with drawn := p.drawn + d.action.draws }) (e := e)
    file d.now (p.decision rules d)
  rw [here, there]
  exact congrArg (recount counters) settled

theorem compact_setTemp (temp : p.log.disk.temp ≠ .directory) (h : e ≠ .directory) :
    ∃ e', e' ≠ .directory ∧ (p.setTemp e).compact = (p.compact.1, p.compact.2.setTemp e') := by
  rcases Journal.Log.compact_setEntry temp h p.registry.events with same | aside
  · obtain ⟨compacted, -, -⟩ := Journal.Log.compact_spec p.log p.registry.events
    refine ⟨p.compact.2.log.disk.temp, compacted.temp_ne_directory temp, ?_⟩
    unfold compact setTemp
    dsimp only
    rw [same]
    rfl
  · refine ⟨e, h, ?_⟩
    unfold compact setTemp
    dsimp only
    rw [aside]

theorem start_setTemp (d : Journal.Disk) (hub : Hub) (counters : Counters) (drawn : Nat) :
    start (d.setEntry .temp e) hub counters drawn =
      (start d hub counters drawn).map (·.setTemp e) := by
  have read : Journal.Log.events (d.setEntry .temp e) = Journal.Log.events d := rfl
  have opened := Journal.Log.start_setEntry (e := e) (show Journal.FileName.temp ≠ .log by decide) d
  rw [start, start, read, opened]
  cases Journal.Log.events d with
  | error error => rfl
  | ok events =>
    cases Journal.Log.start d with
    | error error => rfl
    | ok log => rfl

/-- What stands under the temporary name does not matter to a step. -/
theorem step_setTemp (file : p.log.writer.file ≠ some .temp)
    (temp : p.log.disk.temp ≠ .directory) (h : e ≠ .directory) (rules : Rules) (s : Step) :
    ∃ e', e' ≠ .directory ∧ (p.setTemp e).step rules s = (p.step rules s).map (·.setTemp e') := by
  cases s with
  | request d =>
    refine ⟨e, h, ?_⟩
    rw [step, perform_setTemp file]
    rfl
  | compact =>
    obtain ⟨e', h', compacted⟩ := compact_setTemp temp h
    refine ⟨e', h', ?_⟩
    rw [step, compacted]
    rfl
  | restart =>
    refine ⟨e, h, ?_⟩
    have closed : (p.setTemp e).log.close = p.log.close.setEntry .temp e :=
      Journal.Log.close_setEntry file
    rw [step, restart, closed]
    exact start_setTemp ..

/-- What stands under the temporary name does not matter to a run, nor to a compaction at its
end. -/
theorem run_setTemp (file : p.log.writer.file ≠ some .temp)
    (temp : p.log.disk.temp ≠ .directory) (h : e ≠ .directory) (steps : List Step) :
    ∃ e', (p.setTemp e).run rules steps = (p.run rules steps).map (·.setTemp e') ∧
      ∀ q, p.run rules steps = .ok q → (q.setTemp e').compact.1 = q.compact.1 := by
  induction steps generalizing p e with
  | nil =>
    refine ⟨e, rfl, ?_⟩
    rintro _ ⟨⟩
    obtain ⟨e', -, compacted⟩ := compact_setTemp temp h
    rw [compacted]
  | cons s steps ih =>
    obtain ⟨e', h', stepped⟩ := step_setTemp file temp h rules s
    rw [run, run, stepped]
    cases next : p.step rules s with
    | error error =>
      refine ⟨e', rfl, ?_⟩
      rintro _ ⟨⟩
    | ok q =>
      obtain ⟨file', temp'⟩ := step_aside file next
      exact ih file' (temp' temp) h'

end Aside

/-! ## A process that stops -/

/-- What a process leaves on the disk that stops in the call that comes after `n` calls of a
compaction. If that call is a write, the first `kept` bytes are written. -/
def stopped (q : Planner) (n kept : Nat) : Journal.Disk :=
  q.log.stopped q.registry.events n kept

theorem History.file {steps : List Step} (h : History rules p steps q) :
    q.log.writer.file ≠ some .temp := by
  refine h.induction (P := fun _ q => q.log.writer.file ≠ some .temp) ?_ ?_
  · intro first
    rw [first.registry_eq_empty.2.2.whole.holds.file]
    decide
  · intro before s q q' h stepped h' file
    exact (step_aside file stepped).1

/-- **What a restart finds where the process stopped.** Wherever that is in a compaction, the journal
is the old one or the new one, and the new one rebuilds the registry. So a restart finds the registry
after every stop if and only if the old journal rebuilds it, which it does if nothing has been refused
of late. A file that has been left under the temporary name makes no difference to anything that
comes later, be it a restart or another compaction. -/
theorem rebuilds_stopped_of_history {steps : List Step} (h : History rules p steps q) :
    (∀ e n kept, ((q.setTemp e).stopped n kept).log = q.log.disk.log ∨
      ((q.setTemp e).stopped n kept).log = .file (Journal.records q.registry.events) ∧
        Rebuilds ((q.setTemp e).stopped n kept).log q.registry) ∧
    ((∀ e n kept, Rebuilds ((q.setTemp e).stopped n kept).log q.registry) ↔
      Rebuilds q.log.disk.log q.registry) ∧
    (p.NoneRefusedOfLate rules steps → Rebuilds q.log.disk.log q.registry) ∧
    ∀ bytes more, ∃ e,
      (q.setTemp (.file bytes)).run rules more =
        ((q.setTemp .absent).run rules more).map (·.setTemp e) ∧
      ∀ q', (q.setTemp .absent).run rules more = .ok q' →
        (q'.setTemp e).compact.1 = q'.compact.1 := by
  obtain ⟨stands, -, inStep⟩ := h.stands
  have old_or_new (e : Journal.Entry) (n kept : Nat) :
      ((q.setTemp e).stopped n kept).log = q.log.disk.log ∨
        ((q.setTemp e).stopped n kept).log = .file (Journal.records q.registry.events) ∧
          Rebuilds ((q.setTemp e).stopped n kept).log q.registry := by
    rcases (q.setTemp e).log.stopped_cases q.registry.events n kept with ⟨old, -⟩ | ⟨new, -⟩
    · exact .inl old
    · refine .inr ⟨new, ?_⟩
      have log : ((q.setTemp e).stopped n kept).log = _ := new
      rw [log]
      exact stands.rebuilds
  refine ⟨old_or_new, ⟨?_, ?_⟩, ?_, ?_⟩
  · intro rebuilds
    have at_first : ((q.setTemp .absent).stopped 0 0).log = q.log.disk.log :=
      Journal.Log.log_stopped_zero ..
    rw [← at_first]
    exact rebuilds .absent 0 0
  · intro rebuilds e n kept
    rcases old_or_new e n kept with old | ⟨-, new⟩
    · rw [old]
      exact rebuilds
    · exact new
  · intro none_refused
    obtain ⟨es, inStep⟩ := inStep none_refused
    exact inStep.rebuilds
  · intro bytes more
    have overwritten : (q.setTemp .absent).setTemp (.file bytes) = q.setTemp (.file bytes) := by
      simp only [setTemp, Journal.Log.setEntry, Journal.Disk.setEntry_setEntry]
    rw [← overwritten]
    have a_file := Journal.Entry.file_ne_directory bytes
    have gone : (q.setTemp .absent).log.disk.temp ≠ .directory := by rintro ⟨⟩
    exact run_setTemp (p := q.setTemp .absent) h.file gone a_file more

/-- The process stops while it writes the new journal over a file that has been left. -/
theorem rebuilds_stopped_displacing : ∃ q,
    History .oneStudent opened (Demand.displacing.map .request) q ∧
      opened.NoneRefusedOfLate .oneStudent (Demand.displacing.map .request) ∧
      Rebuilds ((q.setTemp (.file [1, 2, 3])).stopped 1 100).log q.registry := by
  obtain ⟨p, started, keeps, -⟩ := keeps_of_empty .oneStudent (d := .empty) (fun _ _ => rfl)
    (.inl rfl) (by decide) .empty []
  cases start_opened.symm.trans started
  have fresh : Rules.oneStudent.FreshBelow (Step.drawsAll (Demand.displacing.map .request)) :=
    Rules.freshBelow_oneStudent (by decide)
  have none_refused : opened.Never Refuses .oneStudent (Demand.displacing.map .request) :=
    keeps.never_refuses (Rules.freshBelow_oneStudent (by decide))
  obtain ⟨q, h⟩ := History.of_works _ (d := .empty) (fun _ _ => rfl) (.inl rfl) (by decide)
    start_opened fresh
  obtain ⟨-, rebuilds_iff, rebuilds, -⟩ := rebuilds_stopped_of_history h
  exact ⟨q, h, .inl none_refused, rebuilds_iff.2 (rebuilds (.inl none_refused)) _ _ _⟩

/-- Two slots are made, the first of which is refused. -/
def secondMade : List Step := [
  .request ⟨0, 1, .createSlot 1 1 .thursday "101" 5⟩,
  .request ⟨0, 1, .createSlot 1 1 .thursday "102" 5⟩]

/-- What is in the journal then. -/
def bothMade : List Event := [
  .slotCreated ⟨.ofNat 0, 1, 1, .thursday, "101", 5⟩ [⟨.ofNat 1, .ofNat 0, 1⟩],
  .slotCreated ⟨.ofNat 2, 1, 1, .thursday, "102", 5⟩ [⟨.ofNat 3, .ofNat 2, 1⟩]]

set_option maxRecDepth 2000 in
/-- The process stops while it writes the new journal, and a restart finds the slot that was refused
as well as the other one. -/
theorem not_rebuilds_behind_refused : Rules.oneStudent.FreshBelow (Step.drawsAll secondMade) ∧
    ∃ p q, start (.failingAt 1) .empty [] 0 = .ok p ∧ p.run .oneStudent secondMade = .ok q ∧
      ¬ Rebuilds (q.stopped 1 3).log q.registry := by
  refine ⟨Rules.freshBelow_oneStudent (by decide), _, _, rfl, rfl, ?_⟩
  refine not_rebuilds_of_records bothMade (by decide +kernel) (by decide +kernel) ?_
  intro same
  have missing := congrArg (fun r => (r.roster? (.ofNat 0)).isSome) same
  revert missing
  decide +kernel

end Timetable.Planner
