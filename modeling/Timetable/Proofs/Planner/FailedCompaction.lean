import Timetable.Proofs.Planner.Compacted

/-!
# After a compaction that failed

A compaction that fails leaves the journal as it is, and the planner goes on with it: what is
acknowledged later comes behind what was there. One failure is different. If the new journal has
taken the place of the old one and cannot be opened, the planner goes on with a file that has no name
any more, and nothing that is acknowledged later can be read back.
-/

set_option autoImplicit false

namespace Timetable

namespace Journal.Log

/-- The new journal takes the place of the old one and then cannot be opened. -/
def Unopened (l : Log) (events : List Event) : Prop :=
  (writeTemp l.disk events).1 = .ok () ∧ (writeTemp l.disk events).2.rename.1 = .ok () ∧
    ((writeTemp l.disk events).2.rename.2.openEnd .log).1 ≠ .ok ()

/-- That is the one way for a writer to lose its file. -/
theorem unopened_iff {l : Log} (file : l.writer.file ≠ none) (events : List Event) :
    l.Unopened events ↔ (l.compact events).2.writer.file = none := by
  unfold Unopened compact
  generalize writeTemp l.disk events = r
  obtain ⟨error | u, d⟩ := r
  · exact ⟨fun h => (nomatch h.1), fun h => absurd h file⟩
  · unfold swap
    dsimp only
    generalize d.rename = r
    obtain ⟨error | u, d'⟩ := r
    · exact ⟨fun h => (nomatch h.2.1), fun h => absurd h file⟩
    · dsimp only
      generalize d'.openEnd .log = r
      obtain ⟨error | u, d''⟩ := r
      · exact ⟨fun _ => rfl, fun _ => ⟨rfl, rfl, nofun⟩⟩
      · exact ⟨fun h => absurd rfl h.2.2, nofun⟩

/-- What a compaction leaves that has failed: the old journal, which is written to as before, or
the new one, which is not written to. -/
theorem compact_failed {l : Log} {events : List Event} (failed : (l.compact events).1 ≠ .ok ()) :
    (l.compact events).2.writer = l.writer ∧
        (l.compact events).2.disk.log = l.disk.log ∨
      (l.compact events).2.writer.file = none ∧
        (l.compact events).2.disk.log = .file (records events) := by
  obtain ⟨compacted, -, -⟩ := compact_spec l events
  generalize l.compact events = r at compacted failed
  cases compacted with
  | givenUp log temp => exact .inl ⟨rfl, log⟩
  | unopened log temp => exact .inr ⟨rfl, log⟩
  | done => exact absurd rfl failed

theorem Whole.of_same {l l' : Log} {bytes : List UInt8} (whole : l.Whole bytes)
    (writer : l'.writer = l.writer) (log : l'.disk.log = l.disk.log) : l'.Whole bytes := by
  obtain ⟨⟨file, front, entry, taken⟩, none_waits⟩ := whole
  rw [← writer] at file taken none_waits
  exact ⟨⟨file, front, (show l'.disk.entry .log = _ from log).trans entry, taken⟩, none_waits⟩

end Journal.Log

namespace Planner

variable {rules : Rules} {p q : Planner} {es : List Event} {demands : List Demand}

/-! ## Demands that the journal takes -/

theorem CarriedOut.trans {q' : Planner} {events more : List Event} (first : p.CarriedOut events q)
    (second : q.CarriedOut more q') : p.CarriedOut (events ++ more) q' := by
  constructor
  · rw [second.1, first.1, Registry.applyAll_append]
  · intro bytes whole
    rw [Journal.records_append, ← List.append_assoc]
    exact second.2 _ (first.2 _ whole)

/-- The journal takes a demand, and then nothing is refused. -/
theorem Never.request {d : Demand} {steps : List Step}
    (taken : (p.log.commit [p.transaction rules d.now d.caller d.action]).1 = .ok ())
    (rest : (p.perform rules d.now d.caller d.action).2.Never Refuses rules steps) :
    p.Never Refuses rules (.request d :: steps) := by
  refine .cons (fun denied => denied.2 taken) ?_
  rintro _ ⟨⟩
  exact rest

/-- The transactions of demands that are not refused by the journal are carried out one after the
other. -/
theorem carriedOut_performAll (accepted : p.Never Refuses rules (demands.map .request)) :
    p.CarriedOut (p.transactions rules demands).flatten (p.performAll rules demands) := by
  induction demands generalizing p with
  | nil => exact carriedOut_nil rfl rfl
  | cons d demands ih =>
    obtain ⟨⟨refused, -⟩ | carried, -⟩ := perform_cases p rules d
    · exact absurd refused accepted.head
    · exact carried.trans (ih (accepted.tail rfl))

theorem Stands.valid_transactions (stands : p.Stands rules)
    (fresh : rules.FreshBelow (p.drawn + Demand.drawsAll demands)) :
    ∀ e ∈ (p.transactions rules demands).flatten, e.Valid rules.bells := by
  induction demands generalizing p with
  | nil => exact fun e he => absurd he List.not_mem_nil
  | cons d demands ih =>
    rw [Demand.drawsAll, ← Nat.add_assoc] at fresh
    have fresh_now := fresh.mono (Nat.le_add_right ..)
    have drawn := (perform_cases p rules d).2
    intro e he
    rw [transactions, List.flatten_cons] at he
    rcases List.mem_append.1 he with he | he
    · have sound := sound_transaction stands.wellFormed stands.within fresh_now d.now d.caller
      exact sound.admitted.valid e he
    · rw [← drawn] at fresh
      exact ih (stands.request fresh_now) fresh e he

/-- Demands leave a file as it is that is not written to. -/
theorem log_performAll (other : p.log.writer.file = none) (demands : List Demand) :
    (p.performAll rules demands).log.disk.log = p.log.disk.log := by
  induction demands generalizing p with
  | nil => rfl
  | cons d demands ih =>
    have not_log : p.log.writer.file ≠ some .log := by
      rw [other]
      exact nofun
    obtain ⟨entry, file⟩ := entry_perform not_log rules d
    rw [performAll, ih (file.trans other)]
    exact entry

/-! ## What can be read back -/

theorem InStep.events (inStep : p.InStep rules es) : Journal.Log.events p.log.disk = .ok es :=
  events_of_records inStep.whole.log_eq inStep.fits

/-- **What can be read back after a compaction that failed.** Let nothing have been refused of late
but the compaction, and let the journal take everything that is asked for later. Then its events are
those from before, which add up to the registry, and all that has been acknowledged since. Only if
the new journal could not be opened in its place the events stay those that the compaction wrote;
then the journal rebuilds the registry no longer, unless that is the same again. -/
theorem rebuilds_after_failed_compaction {steps : List Step} (h : History rules p steps q)
    (none_refused : p.NoneRefusedOfLate rules steps) (failed : q.compact.1 ≠ .ok ())
    (fresh : rules.FreshBelow (q.drawn + Demand.drawsAll demands))
    (accepted : q.compact.2.Never Refuses rules (demands.map .request)) :
    ∃ es ts q', Journal.Log.events q.log.disk = .ok es ∧ Registry.ofEvents es = q.registry ∧
      ts = q.compact.2.transactions rules demands ∧ q' = q.compact.2.performAll rules demands ∧
      q'.registry = q.registry.applyAll ts.flatten ∧
      (¬ q.log.Unopened q.registry.events →
        Journal.Log.events q'.log.disk = .ok (es ++ ts.flatten)) ∧
      (q.log.Unopened q.registry.events →
        Journal.Log.events q'.log.disk = .ok q.registry.events) ∧
      (Rebuilds q'.log.disk.log q'.registry ↔
        (q.log.Unopened q.registry.events → q'.registry = q.registry)) := by
  obtain ⟨stands, -, inStep⟩ := h.stands
  obtain ⟨es, inStep⟩ := inStep none_refused
  have carried := carriedOut_performAll accepted
  have still_stands : q.compact.2.Stands rules := ⟨stands.wellFormed, stands.within⟩
  have valid := still_stands.valid_transactions fresh
  have opened : q.log.writer.file ≠ none := by
    rw [inStep.whole.holds.file]
    exact nofun
  have unopened_iff := Journal.Log.unopened_iff opened q.registry.events
  refine ⟨es, _, _, inStep.events, inStep.built, rfl, rfl, carried.1, ?_⟩
  rcases Journal.Log.compact_failed (mt compact_eq_ok_iff.2 failed) with ⟨same, log⟩ | ⟨lost, log⟩
  · have goes_on : q.compact.2.InStep rules es :=
      ⟨inStep.whole.of_same same log, inStep.valid, inStep.built⟩
    have opens : ¬ q.log.Unopened q.registry.events := by
      rw [unopened_iff, same]
      exact opened
    have in_step := goes_on.carriedOut carried valid
    exact ⟨fun _ => in_step.events, fun h => absurd h opens,
      fun _ h => absurd h opens, fun _ => in_step.rebuilds⟩
  · have kept : (q.compact.2.performAll rules demands).log.disk.log =
        .file (Journal.records q.registry.events) := (log_performAll lost demands).trans log
    have rebuilds := stands.rebuilds
    rw [kept]
    refine ⟨fun h => absurd (unopened_iff.2 lost) h, fun _ => events_of_records kept stands.fits,
      ?_, ?_⟩
    · intro rebuilt _
      exact rebuilt.unique rebuilds
    · intro unchanged
      rw [unchanged (unopened_iff.2 lost)]
      exact rebuilds

end Planner

/-! A compaction that fails behind a slot -/

/-- A new disk on which two calls fail, those that come after three others. -/
def Journal.Disk.failingTwice : Journal.Disk :=
  ⟨.absent, .absent, fun k _ => if k = 3 ∨ k = 4 then some ⟨0, .fileTooLarge⟩ else none, 0⟩

def Demand.makeSlot : Demand := ⟨0, 1, .createSlot 1 1 .thursday "101" 5⟩

/-- The slot is opened to a class, and a student of that books it. -/
def Demand.fillSlot : List Demand := [
  ⟨0, 1, .addSlotFilter (.ofNat 0) none (some "1a")⟩,
  ⟨0, 7, .bookReservation (.ofNat 0) .epoch none⟩]

namespace Planner

set_option maxRecDepth 2000 in
/-- The new journal cannot take the place of the old one, and the slot is filled in that. -/
theorem rebuilds_after_failed_compaction_rename : ∃ p q q',
    History .oneStudent p [.request .makeSlot] q ∧
      q.compact.1 = .error (.storage .fileTooLarge) ∧
      q.compact.2.Never Refuses .oneStudent (Demand.fillSlot.map .request) ∧
      q' = q.compact.2.performAll .oneStudent Demand.fillSlot ∧
      (q'.registry.slotOf? (.ofNat 3)).isSome ∧ Rebuilds q'.log.disk.log q'.registry := by
  obtain ⟨p, q, h, none_refused, failed, accepted, opens, drawn, filled⟩ : ∃ p q,
      History .oneStudent p [.request .makeSlot] q ∧
        p.Never Refuses .oneStudent [.request .makeSlot] ∧
        q.compact.1 = .error (.storage .fileTooLarge) ∧
        q.compact.2.Never Refuses .oneStudent (Demand.fillSlot.map .request) ∧
        ¬ q.log.Unopened q.registry.events ∧ q.drawn = 2 ∧
        ((q.compact.2.performAll .oneStudent Demand.fillSlot).registry.slotOf? (.ofNat 3)).isSome := by
    refine ⟨_, _, ⟨⟨.failingAt 6, .empty, [], .inl rfl, rfl⟩,
      Rules.freshBelow_oneStudent (by decide), .of_requests [.makeSlot], rfl⟩,
      .request rfl .nil, rfl, .request rfl (.request rfl .nil), ?_,
      rfl, ?_⟩
    · exact fun h => nomatch h.2.1
    · decide +kernel
  have fresh : Rules.oneStudent.FreshBelow (q.drawn + Demand.drawsAll Demand.fillSlot) := by
    rw [drawn]
    exact Rules.freshBelow_oneStudent (by decide)
  obtain ⟨es, _, _, -, -, rfl, rfl, -, -, -, rebuilds_iff⟩ :=
    rebuilds_after_failed_compaction h (.inl none_refused) (by rw [failed]; exact nofun) fresh accepted
  exact ⟨p, q, _, h, failed, accepted, rfl, filled, rebuilds_iff.2 fun h => absurd h opens⟩

/-- A slot in the room, under the `n`-th id. -/
def creation (n : Nat) (room : String) : Event :=
  .slotCreated ⟨.ofNat n, 1, 1, .thursday, room, 5⟩ [⟨.ofNat (n + 1), .ofNat n, 1⟩]

set_option maxRecDepth 2000 in
/-- The new journal takes the place of the old one and cannot be opened, and what fills the slot is
lost. And where a second slot has been refused before the compaction that fails, it is in the journal
with what is acknowledged later. -/
theorem not_rebuilds_after_failed_compaction :
    (∃ p q q', start (.failingAt 7) .empty [] 0 = .ok p ∧
      p.run .oneStudent [.request .makeSlot] = .ok q ∧
      q.compact.1 = .error (.storage .fileTooLarge) ∧
      q.compact.2.Never Refuses .oneStudent (Demand.fillSlot.map .request) ∧
      q' = q.compact.2.performAll .oneStudent Demand.fillSlot ∧
      ¬ Rebuilds q'.log.disk.log q'.registry) ∧
    ∃ p q q', start .failingTwice .empty [] 0 = .ok p ∧
      p.run .oneStudent [.request .makeSlot, .request .makeSlot] = .ok q ∧
      q.compact.1 = .error (.storage .fileTooLarge) ∧
      q.compact.2.Never Refuses .oneStudent [.request .makeSlot] ∧
      q' = q.compact.2.performAll .oneStudent [.makeSlot] ∧
      ¬ Rebuilds q'.log.disk.log q'.registry := by
  constructor
  · refine ⟨_, _, _, rfl, rfl, rfl, .request rfl (.request rfl .nil), rfl, ?_⟩
    refine not_rebuilds_of_records [creation 0 "101"] (by decide +kernel) (by decide +kernel) ?_
    intro same
    have missing := congrArg (fun r => (r.slotOf? (.ofNat 2)).isSome) same
    revert missing
    decide +kernel
  · refine ⟨_, _, _, rfl, rfl, rfl, .request rfl .nil, rfl, ?_⟩
    refine not_rebuilds_of_records [creation 0 "101", creation 2 "101", creation 4 "101"]
      (by decide +kernel) (by decide +kernel) ?_
    intro same
    have missing := congrArg (fun r => (r.roster? (.ofNat 2)).isSome) same
    revert missing
    decide +kernel

end Planner

end Timetable
