import Mathlib.Data.List.Induction
import Timetable.Proofs.Journal.Outcome
import Timetable.Proofs.Planner.Durable

/-!
# Histories

A history is a run from an empty journal on any disk. Calls may fail at any time: what is asked for
then is refused and leaves the registry as it was. But what was refused may still be in the journal,
whole or in pieces, until a compaction puts a new one in its place. So a restart is only taken where
nothing has been refused since the last compaction; then the registry is well-formed at every moment
of the history.
-/

set_option autoImplicit false

namespace Timetable

theorem Step.drawsAll_append (xs ys : List Step) :
    drawsAll (xs ++ ys) = drawsAll xs + drawsAll ys := by
  induction xs with
  | nil => exact (Nat.zero_add _).symm
  | cons s xs ih =>
    rw [List.cons_append, drawsAll, drawsAll, ih]
    omega

namespace Planner

variable {rules : Rules} {p q : Planner} {es : List Event}

/-! ## Refused or carried out -/

/-- The events have reached the registry, and the journal too if that was whole. -/
def CarriedOut (p : Planner) (events : List Event) (q : Planner) : Prop :=
  q.registry = p.registry.applyAll events ∧
    ∀ bytes, p.log.Whole bytes → q.log.Whole (bytes ++ Journal.records events)

theorem carriedOut_nil (registry : q.registry = p.registry) (log : q.log = p.log) :
    p.CarriedOut [] q := by
  refine ⟨registry, ?_⟩
  intro bytes whole
  rw [Journal.records, List.flatMap_nil, List.append_nil, log]
  exact whole

/-- There are events to write and the journal does not take them. -/
def Denies (p : Planner) (events : List Event) : Prop :=
  events ≠ [] ∧ (p.log.commit [events]).1 ≠ .ok ()

/-- What was decided on is denied by the journal and changes nothing, or it is answered and carried
out. -/
def Settled {α : Type} (p : Planner) (decision : Except Refusal (Change α))
    (result : Except Refusal α × Planner) : Prop :=
  p.Denies (Change.eventsOf decision) ∧ (∃ e, result.1 = .error (.storage e)) ∧
      result.2.registry = p.registry ∨
    result.1 = decision.map (·.answer) ∧ p.CarriedOut (Change.eventsOf decision) result.2

theorem settled_settle {α : Type} (p : Planner) (now : Int) (decision : Except Refusal (Change α)) :
    p.Settled decision (p.settle now decision) ∧ (p.settle now decision).2.drawn = p.drawn := by
  have settling := p.settling now decision
  generalize p.settle now decision = result at settling
  cases settling with
  | refused | unwritten => exact ⟨.inr ⟨rfl, carriedOut_nil rfl rfl⟩, rfl⟩
  | denied some_event commit =>
    have refused : p.Denies _ := ⟨some_event, by rw [commit]; exact nofun⟩
    exact ⟨.inl ⟨refused, ⟨_, rfl⟩, rfl⟩, rfl⟩
  | @taken c log some_event commit =>
    refine ⟨.inr ⟨rfl, rfl, ?_⟩, rfl⟩
    intro bytes whole
    have written := whole.commit [c.events]
    rw [commit, List.flatten_singleton] at written
    exact written rfl

/-- On a disk that works what is decided on is answered and carried out. -/
theorem settle_of_works {α : Type} (works : p.log.disk.Works) (now : Int)
    (decision : Except Refusal (Change α)) :
    (p.settle now decision).1 = decision.map (·.answer) ∧
      (p.settle now decision).2.registry = p.registry.applyAll (Change.eventsOf decision) ∧
      (p.settle now decision).2.log.disk.Works := by
  have kept : (p.settle now decision).2.log.disk.Works := by
    have settling := p.settling now decision
    generalize p.settle now decision = result at settling
    cases settling with
    | refused | unwritten => exact works
    | @denied c _ _ _ commit | @taken c _ _ commit =>
      have works' := (Journal.Log.commit_ok_of_works works [c.events]).2
      rw [commit] at works'
      exact works'
  obtain ⟨⟨-, refused⟩, -⟩ | ⟨answered, registry, -⟩ := (settled_settle p now decision).1
  · exact absurd (Journal.Log.commit_ok_of_works works _).1 refused
  · exact ⟨answered, registry, kept⟩

/-- A decision to change nothing writes nothing. -/
theorem settle_of_eventsOf_eq_nil {α : Type} (now : Int) {decision : Except Refusal (Change α)}
    (nothing : Change.eventsOf decision = []) :
    (p.settle now decision).2.registry = p.registry ∧ (p.settle now decision).2.log = p.log := by
  have settling := p.settling now decision
  generalize p.settle now decision = result at settling
  cases settling with
  | refused | unwritten => exact ⟨rfl, rfl⟩
  | denied some_event commit | taken some_event commit => exact absurd nothing some_event

/-- What is answered has been decided on and carried out. -/
theorem Settled.of_ok {α : Type} {decision : Except Refusal (Change α)}
    {result : Except Refusal α × Planner} {a : α} (settled : p.Settled decision result)
    (answered : result.1 = .ok a) : ∃ c, decision = .ok c ∧ c.answer = a ∧
      result.2.registry = p.registry.applyAll c.events := by
  obtain ⟨-, ⟨e, refused⟩, -⟩ | ⟨decided, carried⟩ := settled
  · cases answered.symm.trans refused
  · rw [carried.1]
    cases decision with
    | error refusal => cases answered.symm.trans decided
    | ok c => exact ⟨c, rfl, Except.ok.inj (decided.symm.trans answered), rfl⟩

/-- A booking is settled, and then only counted. -/
theorem book_eq_settle (p : Planner) (rules : Rules) (now : Int) (caller : UserId) (slot : Ident)
    (date : Date) (student : UserId) : ∃ result counters,
      result = settle { p with drawn := p.drawn + 1 } now
        (p.registry.book rules now ⟨slot, date, student, caller⟩ (rules.ids p.drawn)) ∧
      p.book rules now caller slot date student = (result.1, { result.2 with counters }) := by
  simp only [book, draw]
  generalize settle { p with drawn := p.drawn + 1 } now _ = result
  obtain ⟨outcome, q⟩ := result
  cases outcome with
  | ok reservation => exact ⟨(.ok reservation, q), _, rfl, rfl⟩
  | error refusal => exact ⟨(.error refusal, q), _, rfl, rfl⟩

theorem settled_book (p : Planner) (rules : Rules) (now : Int) (caller : UserId) (slot : Ident)
    (date : Date) (student : UserId) :
    p.Settled (p.registry.book rules now ⟨slot, date, student, caller⟩ (rules.ids p.drawn))
        (p.book rules now caller slot date student) ∧
      (p.book rules now caller slot date student).2.drawn = p.drawn + 1 := by
  obtain ⟨_, counters, rfl, booked⟩ := p.book_eq_settle rules now caller slot date student
  rw [booked]
  exact settled_settle { p with drawn := p.drawn + 1 } now _

/-- What is unbooked is settled, and then only counted. -/
theorem unbook_eq_settle (p : Planner) (rules : Rules) (now : Int) (caller : UserId) (id : Ident)
    (force strict : Bool) : ∃ result counters,
      result = p.settle now (p.registry.unbook rules now id caller force strict) ∧
      p.unbook rules now caller id force strict = (result.1, { result.2 with counters }) := by
  simp only [unbook]
  generalize p.settle now _ = result
  obtain ⟨outcome, q⟩ := result
  cases outcome with
  | ok mode => exact ⟨(.ok mode, q), _, rfl, rfl⟩
  | error refusal => exact ⟨(.error refusal, q), q.counters, rfl, rfl⟩

theorem settled_unbook (p : Planner) (rules : Rules) (now : Int) (caller : UserId) (id : Ident)
    (force strict : Bool) :
    p.Settled (p.registry.unbook rules now id caller force strict)
        (p.unbook rules now caller id force strict) ∧
      (p.unbook rules now caller id force strict).2.drawn = p.drawn := by
  obtain ⟨_, counters, rfl, unbooked⟩ := p.unbook_eq_settle rules now caller id force strict
  rw [unbooked]
  exact settled_settle p now _

/-- An action is settled as it is decided on. -/
theorem perform_settled (p : Planner) (rules : Rules) (d : Demand) :
    p.Settled (p.decision rules d) (p.perform rules d.now d.caller d.action) ∧
      (p.perform rules d.now d.caller d.action).2.drawn = p.drawn + d.action.draws := by
  obtain ⟨counters, settles⟩ := perform_eq_settle p rules d
  have performed : p.perform rules d.now d.caller d.action = _ := settles p.log p.hub
  rw [performed]
  exact settled_settle { p with drawn := p.drawn + d.action.draws } d.now (p.decision rules d)

/-- **An action is either denied by the journal or its transaction is carried out.** -/
theorem perform_cases (p : Planner) (rules : Rules) (d : Demand) :
    (p.Denies (p.transaction rules d.now d.caller d.action) ∧
          (p.perform rules d.now d.caller d.action).2.registry = p.registry ∨
        p.CarriedOut (p.transaction rules d.now d.caller d.action)
          (p.perform rules d.now d.caller d.action).2) ∧
      (p.perform rules d.now d.caller d.action).2.drawn = p.drawn + d.action.draws := by
  obtain ⟨settled, drawn⟩ := perform_settled p rules d
  rw [p.transaction_eq rules d]
  refine ⟨?_, drawn⟩
  rcases settled with ⟨denied, -, same⟩ | ⟨-, carried⟩
  · exact .inl ⟨denied, same⟩
  · exact .inr carried

/-- A step is refused by the disk. A restart that is refused leaves no planner. -/
def Refuses (p : Planner) (rules : Rules) : Step → Prop
  | .request d => p.Denies (p.transaction rules d.now d.caller d.action)
  | .compact => p.compact.1 ≠ .ok ()
  | .restart => False

/-! ## What a step keeps -/

/-- The registry is well-formed, and its ids have been drawn. -/
structure Stands (rules : Rules) (p : Planner) : Prop where
  wellFormed : p.registry.WellFormed rules.bells
  within : p.registry.Within (rules.Given p.drawn)

/-- The journal is whole and holds the records of `es`, which add up to the registry. -/
structure InStep (rules : Rules) (p : Planner) (es : List Event) : Prop where
  whole : p.log.Whole (Journal.records es)
  valid : ∀ e ∈ es, e.Valid rules.bells
  built : Registry.ofEvents es = p.registry

theorem InStep.fits (inStep : p.InStep rules es) : ∀ e ∈ es, Journal.Fits e := by
  intro e he
  exact Journal.fits_of_valid (inStep.valid e he)

theorem Stands.request (stands : p.Stands rules) {d : Demand}
    (fresh : rules.FreshBelow (p.drawn + d.action.draws)) :
    (p.perform rules d.now d.caller d.action).2.Stands rules := by
  have sound := sound_transaction stands.wellFormed stands.within fresh d.now d.caller
  have within := stands.within.mono fun i given => given.mono (Nat.le_add_right _ d.action.draws)
  obtain ⟨⟨-, same⟩ | carried, drawn⟩ := perform_cases p rules d
  · constructor
    · rw [same]
      exact stands.wellFormed
    · rw [same, drawn]
      exact within
  · constructor
    · rw [carried.1]
      exact stands.wellFormed.applyAll sound.admitted
    · rw [carried.1, drawn]
      exact within.applyAll sound.brought

/-- What is carried out keeps the journal in step. -/
theorem InStep.carriedOut (inStep : p.InStep rules es) {events : List Event}
    (carried : p.CarriedOut events q) (valid : ∀ e ∈ events, e.Valid rules.bells) :
    q.InStep rules (es ++ events) := by
  refine ⟨?_, ?_, ?_⟩
  · rw [Journal.records_append]
    exact carried.2 _ inStep.whole
  · intro e he
    rcases List.mem_append.1 he with he | he
    · exact inStep.valid e he
    · exact valid e he
  · rw [carried.1, ← inStep.built]
    exact Registry.applyAll_append ..

theorem InStep.request (inStep : p.InStep rules es) (stands : p.Stands rules) {d : Demand}
    (fresh : rules.FreshBelow (p.drawn + d.action.draws))
    (accepted : ¬ p.Refuses rules (.request d)) :
    (p.perform rules d.now d.caller d.action).2.InStep rules
      (es ++ p.transaction rules d.now d.caller d.action) := by
  have sound := sound_transaction stands.wellFormed stands.within fresh d.now d.caller
  obtain ⟨⟨refused, -⟩ | carried, -⟩ := perform_cases p rules d
  · exact absurd refused accepted
  · exact inStep.carriedOut carried sound.admitted.valid

theorem compact_eq_ok_iff :
    p.compact.1 = .ok () ↔ (p.log.compact p.registry.events).1 = .ok () := by
  unfold compact
  generalize p.log.compact p.registry.events = r
  obtain ⟨error | u, log⟩ := r
  · exact ⟨nofun, nofun⟩
  · exact ⟨fun _ => rfl, fun _ => rfl⟩

/-- A compaction puts the journal in step, whatever it held before. -/
theorem Stands.compact (stands : p.Stands rules) (done : p.compact.1 = .ok ()) :
    p.compact.2.InStep rules p.registry.events where
  whole := Journal.Log.compact_of_ok (compact_eq_ok_iff.1 done)
  valid := Registry.valid_of_mem_events stands.wellFormed
  built := Registry.ofEvents_events stands.wellFormed

theorem start_eq_ok_iff {d : Journal.Disk} {hub : Hub} {counters : Counters} {drawn : Nat} :
    start d hub counters drawn = .ok p ↔ ∃ es, Journal.Log.events d = .ok es ∧
      ∃ log, Journal.Log.start d = .ok log ∧
        p = ⟨Registry.ofEvents es, log, hub, counters, drawn⟩ := by
  simp only [start, bind_eq_ok_iff, pure_eq_ok_iff]

theorem events_of_records {d : Journal.Disk} (file : d.log = .file (Journal.records es))
    (fits : ∀ e ∈ es, Journal.Fits e) : Journal.Log.events d = .ok es := by
  rw [Journal.Log.events, file]
  exact congrArg Except.ok (Journal.replay_records fits)

/-- What a restart finds in a journal that holds the records of `es` once it is closed. -/
theorem restart_of_records (es : List Event) {log : Journal.Log}
    (file : p.log.close.log = .file (Journal.records es)) (fits : ∀ e ∈ es, Journal.Fits e)
    (opened : Journal.Log.start p.log.close = .ok log) :
    p.restart = .ok ⟨Registry.ofEvents es, log, p.hub, p.counters, p.drawn⟩ :=
  start_eq_ok_iff.2 ⟨es, events_of_records file fits, log, opened, rfl⟩

/-- A restart in step changes nothing but the handle of the journal. -/
theorem InStep.restart (inStep : p.InStep rules es) (restarted : p.restart = .ok q) :
    q.registry = p.registry ∧ q.drawn = p.drawn ∧ q.InStep rules es := by
  have closed := Journal.Log.close_eq inStep.whole.none_waits
  have file : p.log.close.log = .file (Journal.records es) := by
    rw [closed]
    exact inStep.whole.log_eq
  obtain ⟨_, -, log, opened, -⟩ := start_eq_ok_iff.1 restarted
  cases restarted.symm.trans (restart_of_records es file inStep.fits opened)
  have whole := Journal.Log.whole_of_start opened
  rw [Journal.Disk.bytes_log_eq file] at whole
  exact ⟨inStep.built, rfl, whole, inStep.valid, rfl⟩

/-- On a disk that works nothing is refused. -/
theorem Keeps.not_refuses (keeps : p.Keeps rules es) (s : Step) : ¬ p.Refuses rules s := by
  cases s with
  | request d =>
    rintro ⟨-, refused⟩
    exact refused (Journal.Log.commit_ok_of_works keeps.ready.works _).1
  | compact =>
    intro refused
    exact refused (compact_eq_ok_iff.2 (keeps.ready.compact p.registry.events).1)
  | restart => exact id

/-! ## Runs -/

theorem run_append (p : Planner) (rules : Rules) (before after : List Step) :
    p.run rules (before ++ after) = p.run rules before >>= fun q => q.run rules after := by
  induction before generalizing p with
  | nil => rfl
  | cons s before ih =>
    rw [List.cons_append, run, run]
    cases p.step rules s with
    | error e => rfl
    | ok q => exact ih q

theorem run_snoc_eq_ok_iff {before : List Step} {s : Step} :
    p.run rules (before ++ [s]) = .ok q ↔
      ∃ q', p.run rules before = .ok q' ∧ q'.step rules s = .ok q := by
  simp only [run_append, run, bind_eq_ok_iff]
  constructor
  · rintro ⟨q', ran, _, stepped, ⟨⟩⟩
    exact ⟨q', ran, stepped⟩
  · rintro ⟨q', ran, stepped⟩
    exact ⟨q', ran, q, stepped, rfl⟩

/-- What new rosters have and every change of a roster keeps holds of all rosters at every
moment of a run, on any disk and whatever is read from the journal by a restart. -/
theorem rosters_of_run {P : Ident → Roster → Prop}
    (created : ∀ slot supervisors, P slot.id (.new slot supervisors))
    (changed : ∀ roster e, e.isChange → P e.slotId roster → P e.slotId (roster.apply e))
    {steps : List Step} (h : ∀ id roster, p.registry.roster? id = some roster → P id roster)
    (ran : p.run rules steps = .ok q) :
    ∀ id roster, q.registry.roster? id = some roster → P id roster := by
  induction steps generalizing p with
  | nil =>
    cases ran
    exact h
  | cons s steps ih =>
    obtain ⟨p', stepped, ran⟩ := bind_eq_ok_iff.1 ran
    refine ih ?_ ran
    cases s with
    | request d =>
      cases stepped
      obtain ⟨⟨-, same⟩ | carried, -⟩ := perform_cases p rules d
      · rw [same]
        exact h
      · rw [carried.1]
        exact Registry.forall_roster_applyAll created changed h _
    | compact =>
      cases stepped
      exact h
    | restart =>
      obtain ⟨es, -, _, -, rfl⟩ := start_eq_ok_iff.1 stepped
      exact Registry.forall_roster_ofEvents created changed es

theorem drawn_of_step {s : Step} (stepped : p.step rules s = .ok q) :
    q.drawn = p.drawn + s.draws := by
  cases s with
  | request d =>
    cases stepped
    exact (perform_cases p rules d).2
  | compact =>
    cases stepped
    rfl
  | restart =>
    obtain ⟨_, -, _, -, rfl⟩ := start_eq_ok_iff.1 stepped
    rfl

theorem drawn_of_run {steps : List Step} (ran : p.run rules steps = .ok q) :
    q.drawn = p.drawn + Step.drawsAll steps := by
  induction steps generalizing p with
  | nil =>
    cases ran
    rfl
  | cons s steps ih =>
    obtain ⟨p', stepped, ran⟩ := bind_eq_ok_iff.1 ran
    rw [ih ran, drawn_of_step stepped, Step.drawsAll, Nat.add_assoc]

/-- No step of a run is bad where it is taken. -/
def Never (p : Planner) (bad : Planner → Rules → Step → Prop) (rules : Rules)
    (steps : List Step) : Prop :=
  ∀ before s after q, steps = before ++ s :: after → p.run rules before = .ok q → ¬ bad q rules s

/-- No step has been refused by the disk since the start, or since a compaction. -/
def NoneRefusedOfLate (p : Planner) (rules : Rules) (steps : List Step) : Prop :=
  p.Never Refuses rules steps ∨ ∃ before after q, steps = before ++ .compact :: after ∧
    p.run rules before = .ok q ∧ q.compact.1 = .ok () ∧ q.compact.2.Never Refuses rules after

/-- No restart comes behind a step that was refused and not followed by a compaction. -/
def RestartsInStep (p : Planner) (rules : Rules) (steps : List Step) : Prop :=
  ∀ before after, steps = before ++ .restart :: after → p.NoneRefusedOfLate rules before

section Never

variable {bad : Planner → Rules → Step → Prop} {before after : List Step}

theorem Never.init (h : p.Never bad rules (before ++ after)) : p.Never bad rules before := by
  rintro front s rest q rfl ran
  refine h front s (rest ++ after) q ?_ ran
  rw [List.append_assoc, List.cons_append]

theorem Never.nil : p.Never bad rules [] := by
  rintro before s after q split
  exact absurd split.symm (List.append_ne_nil_of_right_ne_nil _ (List.cons_ne_nil _ _))

theorem Never.head {s : Step} (h : p.Never bad rules (s :: after)) : ¬ bad p rules s :=
  h [] s after p rfl rfl

theorem Never.tail {s : Step} (h : p.Never bad rules (s :: after))
    (stepped : p.step rules s = .ok q) : q.Never bad rules after := by
  rintro before s' rest q' rfl ran
  refine h (s :: before) s' rest q' rfl ?_
  rw [run, stepped]
  exact ran

theorem Never.cons {s : Step} (first : ¬ bad p rules s)
    (rest : ∀ q, p.step rules s = .ok q → q.Never bad rules after) :
    p.Never bad rules (s :: after) := by
  rintro before s' later q split ran
  cases before with
  | nil =>
    obtain ⟨rfl, rfl⟩ := List.cons.inj split
    cases ran
    exact first
  | cons s'' before =>
    obtain ⟨rfl, rfl⟩ := List.cons.inj split
    obtain ⟨q', stepped, ran⟩ := bind_eq_ok_iff.1 ran
    exact rest q' stepped before s' later q rfl ran

theorem Never.last {s : Step} (h : p.Never bad rules (before ++ [s]))
    (ran : p.run rules before = .ok q) : ¬ bad q rules s := h before s [] q rfl ran

end Never

theorem NoneRefusedOfLate.last {before : List Step} {s : Step}
    (h : p.NoneRefusedOfLate rules (before ++ [s])) (ran : p.run rules before = .ok q) :
    ¬ q.Refuses rules s ∧ (p.NoneRefusedOfLate rules before ∨ s = .compact) := by
  rcases h with h | ⟨front, rest, q', split, ran', done, h⟩
  · exact ⟨h.last ran, .inl (.inl h.init)⟩
  · rcases List.eq_nil_or_concat rest with rfl | ⟨rest, s', rfl⟩
    · obtain ⟨rfl, rfl⟩ := List.append_singleton_inj.1 split
      cases ran.symm.trans ran'
      exact ⟨fun refused => refused done, .inr rfl⟩
    · rw [List.concat_eq_append] at h split
      rw [← List.cons_append, ← List.append_assoc] at split
      obtain ⟨rfl, rfl⟩ := List.append_singleton_inj.1 split
      rw [run_append, ran'] at ran
      exact ⟨h.last ran, .inl (.inr ⟨front, rest, q', rfl, ran', done, h.init⟩)⟩

theorem RestartsInStep.init {before after : List Step}
    (h : p.RestartsInStep rules (before ++ after)) : p.RestartsInStep rules before := by
  rintro front rest rfl
  refine h front (rest ++ after) ?_
  rw [List.append_assoc, List.cons_append]

/-- Where nothing is restarted. -/
theorem RestartsInStep.of_requests (demands : List Demand) :
    p.RestartsInStep rules (demands.map .request) := by
  intro before after split
  have restart : Step.restart ∈ demands.map .request := by
    rw [split]
    exact List.mem_append_right before List.mem_cons_self
  obtain ⟨d, -, request⟩ := List.mem_map.1 restart
  cases request

/-- A run from an empty journal, on any disk. -/
structure History (rules : Rules) (p : Planner) (steps : List Step) (q : Planner) : Prop where
  started : ∃ d hub counters, (d.log = .absent ∨ d.log = .file []) ∧
    start d hub counters 0 = .ok p
  fresh : rules.FreshBelow (Step.drawsAll steps)
  in_step : p.RestartsInStep rules steps
  ran : p.run rules steps = .ok q

theorem Keeps.never_refuses (keeps : p.Keeps rules es) {steps : List Step}
    (fresh : rules.FreshBelow (p.drawn + Step.drawsAll steps)) : p.Never Refuses rules steps := by
  rintro before s after q rfl ran
  rw [Step.drawsAll_append, ← Nat.add_assoc] at fresh
  obtain ⟨q', es', ran', keeps', -⟩ := keeps.run before (fresh.mono (Nat.le_add_right ..))
  cases ran.symm.trans ran'
  exact keeps'.not_refuses s

namespace History

variable {steps before : List Step} {s : Step}

/-- On a disk that works every run is a history, if the ids that are drawn are new. -/
theorem of_works (steps : List Step) {d : Journal.Disk} {hub : Hub} {counters : Counters}
    (works : d.Works) (empty : d.log = .absent ∨ d.log = .file [])
    (temp : d.temp ≠ .directory) (started : start d hub counters 0 = .ok p)
    (fresh : rules.FreshBelow (Step.drawsAll steps)) : ∃ q, History rules p steps q := by
  obtain ⟨p', started', keeps, drawn⟩ := keeps_of_empty rules works empty temp hub counters
  cases started.symm.trans started'
  have fresh' : rules.FreshBelow (p.drawn + Step.drawsAll steps) := by
    rwa [drawn, Nat.zero_add]
  obtain ⟨q, _, ran, -, -⟩ := keeps.run steps fresh'
  refine ⟨q, ⟨d, hub, counters, empty, started⟩, fresh, ?_, ran⟩
  rintro before after rfl
  exact .inl (keeps.never_refuses fresh').init

/-- What a history begins with is a history. -/
theorem front {after : List Step} {q' : Planner} (h : History rules p (before ++ after) q)
    (ran : p.run rules before = .ok q') : History rules p before q' := by
  refine ⟨h.started, h.fresh.mono ?_, h.in_step.init, ran⟩
  rw [Step.drawsAll_append]
  exact Nat.le_add_right ..

/-- A history without its last step. -/
theorem init (h : History rules p (before ++ [s]) q) :
    ∃ q', History rules p before q' ∧ q'.step rules s = .ok q := by
  obtain ⟨q', ran, stepped⟩ := run_snoc_eq_ok_iff.1 h.ran
  exact ⟨q', h.front ran, stepped⟩

/-- What holds at the start and is kept by every step holds at every moment of a history. -/
theorem induction {P : List Step → Planner → Prop} (first : History rules p [] p → P [] p)
    (next : ∀ before s q q', History rules p before q → q.step rules s = .ok q' →
      History rules p (before ++ [s]) q' → P before q → P (before ++ [s]) q')
    (h : History rules p steps q) : P steps q := by
  induction steps using List.reverseRecOn generalizing q with
  | nil =>
    obtain rfl : p = q := Except.ok.inj h.ran
    exact first h
  | append_singleton before s ih =>
    obtain ⟨q', h', stepped⟩ := h.init
    exact next before s q' q h' stepped h (ih h')

theorem registry_eq_empty (h : History rules p [] p) :
    p.registry = .empty ∧ p.drawn = 0 ∧ p.InStep rules [] := by
  obtain ⟨d, hub, counters, empty, started⟩ := h.started
  obtain ⟨es, read, log, opened, rfl⟩ := start_eq_ok_iff.1 started
  have nothing : es = [] ∧ d.bytes .log = [] := by
    rw [Journal.Disk.bytes, Journal.Disk.entry]
    rw [Journal.Log.events] at read
    rcases empty with absent | present
    · rw [absent] at read ⊢
      exact ⟨(Except.ok.inj read).symm, rfl⟩
    · rw [present] at read ⊢
      exact ⟨(Except.ok.inj read).symm.trans Journal.replay_nil, rfl⟩
  have whole := Journal.Log.whole_of_start opened
  rw [nothing.2] at whole
  rw [nothing.1]
  exact ⟨rfl, rfl, whole, fun e he => absurd he List.not_mem_nil, rfl⟩

/-- **At every moment the registry is well-formed, and the journal is in step with it unless
something has been refused of late.** -/
theorem stands (h : History rules p steps q) :
    q.Stands rules ∧ q.drawn = Step.drawsAll steps ∧
      (p.NoneRefusedOfLate rules steps → ∃ es, q.InStep rules es) := by
  refine h.induction (P := fun steps q => q.Stands rules ∧ q.drawn = Step.drawsAll steps ∧
    (p.NoneRefusedOfLate rules steps → ∃ es, q.InStep rules es)) ?_ ?_
  · intro h
    obtain ⟨registry, drawn, inStep⟩ := h.registry_eq_empty
    refine ⟨⟨?_, ?_⟩, drawn, fun _ => ⟨[], inStep⟩⟩
    · rw [registry]
      exact Registry.WellFormed.empty _
    · rw [registry]
      exact Registry.Within.empty _
  · rintro before s q q' h stepped h' ⟨stands, drawn, inStep⟩
    have fresh := h'.fresh
    have total : Step.drawsAll (before ++ [s]) = q.drawn + s.draws := by
      rw [Step.drawsAll_append, drawn]
      rfl
    rw [total] at fresh ⊢
    cases s with
    | request d =>
      cases stepped
      refine ⟨stands.request fresh, (perform_cases q rules d).2, ?_⟩
      intro none_refused
      obtain ⟨accepted, before_it | other⟩ := none_refused.last h.ran
      · obtain ⟨es, inStep⟩ := inStep before_it
        exact ⟨_, inStep.request stands fresh accepted⟩
      · cases other
    | compact =>
      cases stepped
      refine ⟨⟨stands.wellFormed, stands.within⟩, rfl, ?_⟩
      intro none_refused
      exact ⟨_, stands.compact (Classical.not_not.1 (none_refused.last h.ran).1)⟩
    | restart =>
      obtain ⟨es, inStep⟩ := inStep (h'.in_step before [] rfl)
      obtain ⟨registry, drawn, inStep'⟩ := inStep.restart stepped
      refine ⟨⟨?_, ?_⟩, drawn, fun _ => ⟨es, inStep'⟩⟩
      · rw [registry]
        exact stands.wellFormed
      · rw [registry, drawn]
        exact stands.within

end History

end Planner

end Timetable
