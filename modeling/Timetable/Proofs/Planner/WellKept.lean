import Mathlib.Data.List.Nodup
import Timetable.Proofs.Planner.Cut
import Timetable.Proofs.Planner.History
import Timetable.Proofs.Sessions

/-!
# What always holds of the registry

At every moment of a history the registry is well-formed, and all ids in it are different. So an id
that is not found is one that nothing has, and a filter never admits everybody.

A restart behind a refusal can take a slot beyond its limits: what was refused for want of a working
disk is read from the journal then, and nothing asks whether there is still room for it.
-/

set_option autoImplicit false

namespace Timetable

/-- Who attends no course and belongs to no cohort is admitted by no valid filter. -/
theorem isEligible_eq_false {user : UserProfile} {filters : List SlotFilter}
    (valid : ∀ f ∈ filters, f.Valid) (courses : user.courses = []) (cohort : user.cohort = none) :
    isEligible user filters = false := by
  rw [isEligible, List.any_eq_false]
  intro f hf admitted
  rw [SlotFilter.admits, Bool.and_eq_true] at admitted
  rcases (valid f hf).sets with some_course | some_cohort
  · obtain ⟨course, set⟩ := Option.isSome_iff_exists.1 some_course
    simp [set, UserProfile.attends, courses] at admitted
  · obtain ⟨name, set⟩ := Option.isSome_iff_exists.1 some_cohort
    simp [set, cohort] at admitted

/-- How long the cohort of a filter is, if it has one. -/
theorem SlotFilter.Valid.length_cohort {f : SlotFilter} (valid : f.Valid) :
    ∀ c ∈ f.cohort, 1 ≤ c.length ∧ c.length ≤ maxCohortLength := by
  intro c hc
  obtain ⟨not_empty, short⟩ := (validateCohort_eq_ok_iff c).1 (valid.cohort c hc)
  refine ⟨?_, short⟩
  rw [Nat.one_le_iff_ne_zero]
  exact fun none => not_empty (String.length_eq_zero_iff.1 none)

theorem Roster.reservation?_eq_none_iff {roster : Roster} {id : Ident} :
    roster.reservation? id = none ↔ id ∉ roster.reservations.map (·.id) := by
  simp [reservation?]

theorem Roster.filter?_eq_none_iff {roster : Roster} {id : Ident} :
    roster.filter? id = none ↔ id ∉ roster.filters.map (·.id) := by
  simp [filter?]

namespace Registry

variable {bells : BellSchedule} {r : Registry} {rules : Rules} {now : Int} {user : UserId}
  {id : Ident} {roster : Roster}

/-! ## Looking up filters and reservations -/

theorem mem_rosterList_iff : roster ∈ r.rosterList ↔ ∃ slot, r.roster? slot = some roster := by
  rw [rosterList, List.mem_map]
  constructor
  · rintro ⟨p, hp, rfl⟩
    exact ⟨p.1, mem_toList_iff.1 hp⟩
  · rintro ⟨slot, found⟩
    exact ⟨(slot, roster), mem_toList_iff.2 found, rfl⟩

/-- All filters and reservations of the registry have different ids. -/
theorem Indexed.nodup_entities (indexed : r.Indexed) :
    (r.rosterList.flatMap Roster.entities).Nodup := by
  rw [List.nodup_flatMap]
  constructor
  · intro roster mem
    obtain ⟨slot, found⟩ := mem_rosterList_iff.1 mem
    exact indexed.nodup slot roster found
  · rw [rosterList, List.pairwise_map]
    exact indexed.disjoint_toList

theorem rosterHolding_eq_error {refusal : Refusal} (h : r.rosterHolding id = .error refusal) :
    refusal = .notFound id := by
  rw [rosterHolding] at h
  split at h
  · cases h
  · cases h
    rfl

/-- The index leads to the roster that has the filter or reservation. -/
theorem Indexed.rosterHolding_eq_ok_iff (indexed : r.Indexed) :
    r.rosterHolding id = .ok roster ↔ roster ∈ r.rosterList ∧ id ∈ roster.entities := by
  rw [Registry.rosterHolding_eq_ok_iff, mem_rosterList_iff]
  constructor
  · rintro ⟨slot, leads, found⟩
    obtain ⟨_, found', mem⟩ := (indexed.index id slot).1 leads
    cases found.symm.trans found'
    exact ⟨⟨slot, found⟩, mem⟩
  · rintro ⟨⟨slot, found⟩, mem⟩
    exact ⟨slot, (indexed.index id slot).2 ⟨roster, found, mem⟩, found⟩

/-- Whether an id is found has to be asked only of the roster to which the index leads. -/
theorem Indexed.forall_not_mem_iff (indexed : r.Indexed) {part : Roster → List Ident}
    (sub : ∀ roster, ∀ x ∈ part roster, x ∈ roster.entities) :
    (∀ roster ∈ r.rosterList, id ∉ part roster) ↔
      ∀ roster, r.rosterHolding id = .ok roster → id ∉ part roster := by
  constructor
  · intro absent roster holding
    exact absent roster (indexed.rosterHolding_eq_ok_iff.1 holding).1
  · intro absent roster mem there
    exact absent roster (indexed.rosterHolding_eq_ok_iff.2 ⟨mem, sub roster id there⟩) there

/-- A reservation is not found exactly if no slot has it. -/
theorem Indexed.unbook_eq_notFound_iff (indexed : r.Indexed) (fits : r.Fits rules.bells)
    {force strict : Bool} :
    r.unbook rules now id user force strict = .error (.notFound id) ↔
      ∀ roster ∈ r.rosterList, id ∉ roster.reservations.map (·.id) := by
  rw [indexed.forall_not_mem_iff fun roster x => List.mem_append_right _, unbook]
  cases holding : r.rosterHolding id with
  | error refusal =>
    cases rosterHolding_eq_error holding
    refine iff_of_true rfl fun roster held => ?_
    cases held
  | ok roster =>
    obtain ⟨slot, -, found⟩ := Registry.rosterHolding_eq_ok_iff.1 holding
    simp only [Except.ok.injEq, forall_eq', ← Roster.reservation?_eq_none_iff]
    cases there : roster.reservation? id with
    | none => exact iff_of_true (by simp only [bind, Except.bind, there]; rfl) rfl
    | some reservation =>
      refine iff_of_false ?_ (Option.some_ne_none reservation)
      obtain ⟨-, rfl⟩ := Roster.of_reservation?_eq_some there
      obtain ⟨phase, in_phase⟩ :=
        Slot.exists_phaseOn_eq_ok (fits slot roster found) now reservation.date
      have other :=
        unbookMode_ne_notFound rules roster reservation phase user force strict reservation.id
      simp only [bind, Except.bind, there, in_phase]
      generalize unbookMode rules roster reservation phase user force strict = mode at other ⊢
      rcases mode with refusal | mode
      · rintro ⟨⟩
        exact other rfl
      · cases mode <;> rintro ⟨⟩

/-- A filter is not found exactly if no slot has it, whoever asks. -/
theorem Indexed.removeFilter_eq_notFound_iff (indexed : r.Indexed) :
    r.removeFilter rules id user = .error (.notFound id) ↔
      ∀ roster ∈ r.rosterList, id ∉ roster.filters.map (·.id) := by
  rw [indexed.forall_not_mem_iff fun roster x => List.mem_append_left _, removeFilter]
  cases holding : r.rosterHolding id with
  | error refusal =>
    cases rosterHolding_eq_error holding
    refine iff_of_true rfl fun roster held => ?_
    cases held
  | ok roster =>
    simp only [Except.ok.injEq, forall_eq', ← Roster.filter?_eq_none_iff]
    cases there : roster.filter? id with
    | none => exact iff_of_true (by simp only [bind, Except.bind, there]; rfl) rfl
    | some filter =>
      refine iff_of_false ?_ (Option.some_ne_none filter)
      simp only [bind, Except.bind, there, Roster.requireSupervisor]
      by_cases supervised : roster.isSupervisedBy (rules.directory.profile user) = true
      · simp [supervised, pure, Except.pure]
      · simp [supervised]

end Registry

namespace Planner

variable {p q : Planner} {rules : Rules}

/-- A refusal that does not come from the journal has been decided on. -/
theorem Settled.eq_error_iff {α : Type} {decision : Except Refusal (Change α)}
    {result : Except Refusal α × Planner} {refusal : Refusal} (settled : p.Settled decision result)
    (other : ∀ e, refusal ≠ .storage e) :
    result.1 = .error refusal ↔ decision = .error refusal := by
  obtain ⟨⟨some_event, -⟩, ⟨e, denied⟩, -⟩ | ⟨decided, -⟩ := settled
  · constructor
    · intro refused
      cases denied.symm.trans refused
      exact absurd rfl (other e)
    · rintro rfl
      exact absurd rfl some_event
  · rw [decided]
    cases decision with
    | error refusal' => exact ⟨fun h => by cases h; rfl, fun h => by cases h; rfl⟩
    | ok c => exact ⟨nofun, nofun⟩

/-- **What holds at every moment of a history.** The registry is well-formed: each slot stands under
its own id and is valid, what belongs to it says so, its reservations are in order of date, its
supervisors are different users, nothing exceeds its limit, and the index has exactly the filters
and reservations. These all have different ids. Every filter sets a criterion, so nobody who attends
no course and belongs to no cohort is admitted anywhere. And a reservation or a filter is not found
just if no slot has it. -/
theorem well_kept_of_history {p : Planner} {steps : List Step} (h : History rules p steps q) :
    q.registry.WellFormed rules.bells ∧
    (q.registry.rosterList.flatMap Roster.entities).Nodup ∧
    (∀ roster ∈ q.registry.rosterList, ∀ f ∈ roster.filters,
      (f.courseId.isSome ∨ f.cohort.isSome) ∧
        ∀ c ∈ f.cohort, 1 ≤ c.length ∧ c.length ≤ maxCohortLength) ∧
    (∀ roster ∈ q.registry.rosterList, ∀ user : UserProfile, user.courses = [] →
      user.cohort = none → isEligible user roster.filters = false) ∧
    (∀ now caller id force strict,
      (q.unbook rules now caller id force strict).1 = .error (.notFound id) ↔
        ∀ roster ∈ q.registry.rosterList, id ∉ roster.reservations.map (·.id)) ∧
    ∀ now caller id, (q.removeFilter rules now caller id).1 = .error (.notFound id) ↔
      ∀ roster ∈ q.registry.rosterList, id ∉ roster.filters.map (·.id) := by
  have wf := h.stands.1.wellFormed
  have valid (roster : Roster) (mem : roster ∈ q.registry.rosterList) :
      ∀ f ∈ roster.filters, f.Valid := by
    obtain ⟨slot, found⟩ := Registry.mem_rosterList_iff.1 mem
    exact (wf.roster slot roster found).filter_valid
  refine ⟨wf, wf.indexed.nodup_entities, ?_, ?_, ?_, ?_⟩
  · intro roster mem f hf
    exact ⟨(valid roster mem f hf).sets, (valid roster mem f hf).length_cohort⟩
  · intro roster mem user courses cohort
    exact isEligible_eq_false (valid roster mem) courses cohort
  · intro now caller id force strict
    rw [← wf.indexed.unbook_eq_notFound_iff wf.fits]
    exact (settled_unbook q rules now caller id force strict).1.eq_error_iff nofun
  · intro now caller id
    rw [← wf.indexed.removeFilter_eq_notFound_iff]
    have settled : q.Settled (q.registry.removeFilter rules id caller)
        (q.removeFilter rules now caller id) := (settled_settle q now _).1
    exact settled.eq_error_iff nofun

/-- A run in which a booking displaces another one, and which then goes on after a restart. -/
theorem well_kept_of_history_displacing : ∃ q,
    History .oneStudent opened (Demand.displacing.map .request ++ [.compact, .restart]) q ∧
      q.registry.WellFormed .standard ∧
      (q.registry.rosterList.flatMap Roster.entities).Nodup := by
  obtain ⟨q, h⟩ := History.of_works (Demand.displacing.map .request ++ [.compact, .restart])
    (d := .empty) (fun _ _ => rfl) (.inl rfl) (by decide) start_opened
    (Rules.freshBelow_oneStudent (by decide))
  obtain ⟨wf, nodup, -⟩ := well_kept_of_history h
  exact ⟨q, h, wf, nodup⟩

/-! ## A limit that is lost by a restart -/

/-- A change of one event is recorded and applied, or the journal refuses it. -/
theorem settle_one {α : Type} (p : Planner) (now : Int) (e : Event) (a : α) :
    (p.settle now (.ok (.one e a))).2 =
      match p.log.commit [[e]] with
      | (.ok (), log) => { p with log, registry := p.registry.apply e }
      | (.error _, log) => { p with log } := by
  unfold settle record
  dsimp only [Change.one]
  generalize p.log.commit [[e]] = result
  obtain ⟨outcome, log⟩ := result
  cases outcome <;> rfl

def crowdedSlot : Slot := ⟨.ofNat 0, 1, 1, .thursday, "101", 5⟩

/-- The creation of the slot, with which two ids are given out. -/
def crowdedCreation : Event := .slotCreated crowdedSlot [⟨.ofNat 1, .ofNat 0, 1⟩]

/-- The filter that is added with the `n`-th id after those. -/
def nthFilter (n : Nat) : SlotFilter := ⟨.ofNat (n + 2), .ofNat 0, none, some "1a"⟩

/-- The slot is created and given `n` filters. -/
def filtered (n : Nat) : List Event :=
  crowdedCreation :: (List.range n).map fun i => .filterAdded (nthFilter i)

theorem filtered_succ (n : Nat) :
    filtered (n + 1) = filtered n ++ [.filterAdded (nthFilter n)] := by
  simp [filtered, List.range_succ]

theorem ofEvents_filtered_succ (n : Nat) : Registry.ofEvents (filtered (n + 1)) =
    (Registry.ofEvents (filtered n)).apply (.filterAdded (nthFilter n)) := by
  rw [filtered_succ]
  exact Registry.applyAll_append ..

theorem records_filtered_succ (n : Nat) : Journal.records (filtered (n + 1)) =
    Journal.records (filtered n) ++ Journal.record (.filterAdded (nthFilter n)) := by
  rw [filtered_succ, Journal.records_append, Journal.records_singleton]

theorem roster?_filtered (n : Nat) : (Registry.ofEvents (filtered n)).roster? (.ofNat 0) =
    some ⟨crowdedSlot, (List.range n).map nthFilter, [⟨.ofNat 1, .ofNat 0, 1⟩], []⟩ := by
  induction n with
  | zero => rfl
  | succ n ih =>
    rw [ofEvents_filtered_succ, Registry.roster?_apply, ih, List.range_succ, List.map_append]
    rfl

theorem valid_filterAdded (n : Nat) : Event.Valid .standard (.filterAdded (nthFilter n)) where
  sets := .inr rfl
  cohort := by
    rintro c ⟨⟩
    decide

theorem fits_filtered (n : Nat) : ∀ e ∈ filtered n, Journal.Fits e := by
  refine List.forall_mem_cons.2 ⟨by decide +kernel, ?_⟩
  intro e he
  obtain ⟨i, -, rfl⟩ := List.mem_map.1 he
  exact Journal.fits_of_valid (valid_filterAdded i)

/-- The record of a filter is so short that there is room for many in the buffer. -/
theorem length_payload_filter (n : Nat) :
    (Journal.payload (.filterAdded (nthFilter n))).length ≤ 200 :=
  Journal.length_payload_le (valid_filterAdded n)

theorem length_record_filter (n : Nat) :
    (Journal.record (.filterAdded (nthFilter n))).length ≤ 208 := by
  have short := length_payload_filter n
  rw [Journal.record_eq_framed, Journal.length_framed]
  omega

theorem small_filter (n : Nat) :
    (Journal.payload (.filterAdded (nthFilter n))).length < Journal.capacity := by
  have short := length_payload_filter n
  rw [Journal.capacity]
  omega

theorem room_filter {waiting : List UInt8} (few : waiting.length ≤ 208) (n : Nat) :
    waiting.length + (Journal.record (.filterAdded (nthFilter n))).length ≤ Journal.capacity := by
  have short := length_record_filter n
  rw [Journal.capacity]
  omega

/-- The supervisor of the slot wants another filter. -/
def oneMore : Step := .request ⟨0, 1, .addSlotFilter (.ofNat 0) none (some "1a")⟩

/-- What becomes of the wish where there are `n` filters and `m` have been asked for. -/
theorem step_oneMore {p : Planner} {m n : Nat} (built : p.registry = .ofEvents (filtered n))
    (drawn : p.drawn = m + 2) (room : n < maxFilters) :
    p.step .oneStudent oneMore = .ok
      (match p.log.commit [[.filterAdded (nthFilter m)]] with
      | (.ok (), log) =>
        { p with log, registry := p.registry.apply (.filterAdded (nthFilter m)), drawn := m + 3 }
      | (.error _, log) => { p with log, drawn := m + 3 }) := by
  have supervised : p.registry.supervisedRoster .oneStudent (.ofNat 0) 1 =
      .ok ⟨crowdedSlot, (List.range n).map nthFilter, [⟨.ofNat 1, .ofNat 0, 1⟩], []⟩ := by
    rw [Registry.supervisedRoster_eq_ok_iff, built, roster?_filtered]
    exact ⟨rfl, rfl⟩
  have few : ((List.range n).map nthFilter).length < maxFilters := by
    rwa [List.length_map, List.length_range]
  have decided : p.registry.addFilter .oneStudent (.ofNat 0) none (some "1a") 1 (.ofNat (m + 2)) =
      .ok (.one (.filterAdded (nthFilter m)) (nthFilter m)) :=
    Registry.addFilter_eq_ok_iff.2 ⟨valid_filterAdded m, _, supervised, few, rfl⟩
  have settled := settle_one { p with drawn := m + 3 } 0 (.filterAdded (nthFilter m)) (nthFilter m)
  rw [← decided] at settled
  simp only [step, oneMore, perform, answer, addFilter, draw, drawn, Rules.oneStudent] at settled ⊢
  exact congrArg Except.ok settled

/-- The disk on which call `k` fails, when `n` filters have been added: the file was opened with one
call, and each transaction took two. -/
def filteredDisk (k n : Nat) : Journal.Disk :=
  { Journal.Disk.failingAt k with
    log := .file (Journal.records (filtered n))
    calls := 2 * n + 3 }

def filteredPlanner (k n : Nat) : Planner where
  registry := .ofEvents (filtered n)
  log := ⟨filteredDisk k n, .new .log, n + 1⟩
  hub := .empty
  counters := []
  drawn := n + 2

/-- As long as no call fails, the wish is granted. -/
theorem step_granted {k n : Nat} (before : 2 * n + 4 < k) (room : n < maxFilters) :
    (filteredPlanner k n).step .oneStudent oneMore = .ok (filteredPlanner k (n + 1)) := by
  have write : 2 * n + 3 ≠ k := by omega
  have sync : 2 * n + 4 ≠ k := by omega
  have committed : (filteredPlanner k n).log.commit [[.filterAdded (nthFilter n)]] =
      (.ok (), ⟨filteredDisk k (n + 1), .new .log, n + 2⟩) := by
    refine (Journal.Log.commit_of_written rfl (small_filter n) (room_filter (Nat.zero_le _) n)
      (Journal.Disk.fate_failingAt write .write) (Journal.Disk.fate_failingAt sync .sync)).trans ?_
    rw [List.nil_append, filteredDisk, ← records_filtered_succ]
    rfl
  rw [step_oneMore rfl rfl room, committed, filteredPlanner, ← ofEvents_filtered_succ]
  rfl

/-- The planner when the call has failed: the filter that was refused waits in the buffer. -/
def deniedPlanner (n : Nat) : Planner where
  registry := .ofEvents (filtered n)
  log := ⟨{ filteredDisk (2 * n + 3) n with calls := 2 * n + 4 },
    ⟨some .log, Journal.record (.filterAdded (nthFilter n))⟩, n + 2⟩
  hub := .empty
  counters := []
  drawn := n + 3

theorem step_denied {n : Nat} (room : n < maxFilters) :
    (filteredPlanner (2 * n + 3) n).step .oneStudent oneMore = .ok (deniedPlanner n) := by
  have denied : (filteredDisk (2 * n + 3) n).fate (2 * n + 3) .write = some ⟨0, .fileTooLarge⟩ :=
    if_pos rfl
  have committed : (filteredPlanner (2 * n + 3) n).log.commit [[.filterAdded (nthFilter n)]] =
      (.error .fileTooLarge, (deniedPlanner n).log) :=
    Journal.Log.commit_of_denied rfl (small_filter n) (room_filter (Nat.zero_le _) n) denied
  rw [step_oneMore rfl rfl room, committed]
  rfl

/-- The planner when the disk works again: its journal has one filter more than its registry. -/
def strayPlanner (n : Nat) : Planner where
  registry := (Registry.ofEvents (filtered n)).apply (.filterAdded (nthFilter (n + 1)))
  log := ⟨{ filteredDisk (2 * n + 3) (n + 2) with calls := 2 * n + 6 }, .new .log, n + 3⟩
  hub := .empty
  counters := []
  drawn := n + 4

theorem step_stray {n : Nat} (room : n < maxFilters) :
    (deniedPlanner n).step .oneStudent oneMore = .ok (strayPlanner n) := by
  have write : 2 * n + 4 ≠ 2 * n + 3 := by omega
  have sync : 2 * n + 5 ≠ 2 * n + 3 := by omega
  have committed : (deniedPlanner n).log.commit [[.filterAdded (nthFilter (n + 1))]] =
      (.ok (), (strayPlanner n).log) := by
    refine (Journal.Log.commit_of_written rfl (small_filter (n + 1))
      (room_filter (length_record_filter n) (n + 1))
      (Journal.Disk.fate_failingAt write .write) (Journal.Disk.fate_failingAt sync .sync)).trans ?_
    rw [← List.append_assoc, ← records_filtered_succ, ← records_filtered_succ]
    rfl
  rw [step_oneMore (m := n + 1) rfl rfl room, committed]
  rfl

/-- A restart finds the filter that was refused with the others. -/
theorem restart_stray (n : Nat) : ∃ q, (strayPlanner n).restart = .ok q ∧
    q.registry = .ofEvents (filtered (n + 2)) := by
  have opens : (Journal.Disk.failingAt (2 * n + 3)).fate (2 * n + 6) .openEnd = none :=
    Journal.Disk.fate_failingAt (by omega) .openEnd
  obtain ⟨log, opened⟩ := Journal.Log.start_of_opened (d := (strayPlanner n).log.close) rfl opens
  exact ⟨_, restart_of_records (filtered (n + 2)) rfl (fits_filtered _) opened, rfl⟩

def newPlanner (k : Nat) : Planner where
  registry := .ofEvents []
  log := ⟨{ Journal.Disk.failingAt k with log := .file [], calls := 1 }, .new .log, 0⟩
  hub := .empty
  counters := []
  drawn := 0

theorem start_newPlanner {k : Nat} (after : 2 < k) :
    start (.failingAt k) .empty [] 0 = .ok (newPlanner k) := by
  have opens : (Journal.Disk.failingAt k).failure? .openEnd = none :=
    Journal.Disk.fate_failingAt (by omega : 0 ≠ k) .openEnd
  refine start_eq_ok_iff.2 ⟨[], rfl, (newPlanner k).log, ?_, rfl⟩
  simp only [Journal.Log.start, Journal.Disk.openEnd, Journal.Disk.attempt, opens]
  rfl

/-- The slot is created by its first supervisor. -/
def creating : Step := .request ⟨0, 1, .createSlot 1 1 .thursday "101" 5⟩

theorem step_creating {k : Nat} (after : 2 < k) :
    (newPlanner k).step .oneStudent creating = .ok (filteredPlanner k 0) := by
  have write : 1 ≠ k := by omega
  have sync : 2 ≠ k := by omega
  have committed : (newPlanner k).log.commit [[crowdedCreation]] =
      (.ok (), (filteredPlanner k 0).log) := by
    refine (Journal.Log.commit_of_written rfl (by decide +kernel) (by decide +kernel)
      (Journal.Disk.fate_failingAt write .write) (Journal.Disk.fate_failingAt sync .sync)).trans ?_
    rw [List.nil_append, List.nil_append, ← Journal.records_singleton]
    rfl
  have decided : (newPlanner k).registry.create .oneStudent crowdedSlot (.ofNat 1) 1 =
      .ok (.one crowdedCreation crowdedSlot) := rfl
  have settled := settle_one { newPlanner k with drawn := 2 } 0 crowdedCreation crowdedSlot
  dsimp only at settled
  rw [committed, ← decided] at settled
  simp only [step, creating, perform, answer, createSlot, draw, Rules.oneStudent] at settled ⊢
  exact congrArg Except.ok settled

/-- Until the disk fails every wish is granted. -/
theorem run_granted {k n : Nat} (before : 2 * n + 2 < k) (room : n ≤ maxFilters) :
    (filteredPlanner k 0).run .oneStudent (List.replicate n oneMore) =
      .ok (filteredPlanner k n) := by
  induction n with
  | zero => rfl
  | succ n ih =>
    rw [List.replicate_succ', run_snoc_eq_ok_iff]
    exact ⟨_, ih (by omega) (by omega), step_granted (by omega) room⟩

/-- A slot is created and `n + 2` filters are wanted for it. -/
def crowding (n : Nat) : List Step :=
  creating :: List.replicate (n + 2) oneMore

/-- One of the last two is refused and the other one is not. -/
theorem run_crowding {n : Nat} (room : n < maxFilters) :
    (newPlanner (2 * n + 3)).run .oneStudent (crowding n) = .ok (strayPlanner n) := by
  have granted := run_granted (by omega : 2 * n + 2 < 2 * n + 3) (Nat.le_of_lt room)
  have denied := run_snoc_eq_ok_iff.2 ⟨_, granted, step_denied room⟩
  have stray := run_snoc_eq_ok_iff.2 ⟨_, denied, step_stray room⟩
  have last_two : List.replicate (n + 2) oneMore =
      List.replicate n oneMore ++ [oneMore] ++ [oneMore] := by
    rw [List.replicate_succ', List.replicate_succ']
  rw [crowding, run, step_creating (by omega), last_two]
  exact stray

theorem drawsAll_replicate (n : Nat) : Step.drawsAll (List.replicate n oneMore) = n := by
  induction n with
  | zero => rfl
  | succ n ih =>
    rw [List.replicate_succ, Step.drawsAll, ih]
    exact Nat.add_comm 1 n

/-- After the restart the slot has a filter more than it may have. -/
theorem limit_lost_by_restart : Rules.oneStudent.FreshBelow (Step.drawsAll (crowding 255)) ∧
    ∃ p q q' roster, start (.failingAt (2 * 255 + 3)) .empty [] 0 = .ok p ∧
      p.run .oneStudent (crowding 255) = .ok q ∧ q.restart = .ok q' ∧
      q'.registry.roster? (.ofNat 0) = some roster ∧ maxFilters < roster.filters.length := by
  have room : 255 < maxFilters := Nat.lt_succ_self 255
  have few : Step.drawsAll (crowding 255) ≤ 1000 := by
    rw [crowding, Step.drawsAll, drawsAll_replicate]
    exact Nat.le_of_ble_eq_true rfl
  obtain ⟨q', restarted, registry⟩ := restart_stray 255
  refine ⟨Rules.freshBelow_oneStudent few, newPlanner (2 * 255 + 3), strayPlanner 255, q', _,
    start_newPlanner (by omega), run_crowding room, restarted,
    registry ▸ roster?_filtered 257, ?_⟩
  rw [List.length_map, List.length_range]
  exact Nat.lt_succ_self 256

end Planner

end Timetable
