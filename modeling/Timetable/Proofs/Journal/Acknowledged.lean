import Timetable.Proofs.Journal.DamagedTail
import Timetable.Proofs.Journal.Pieces

/-!
# What was acknowledged

Batches are committed one after the other on a disk on which calls may fail. A batch that is refused
leaves pieces of its records in the journal or in the buffer, and nothing takes them out again. So
the journal reads as what was acknowledged, then and ever after, just if no batch with an event in
it was refused.
-/

set_option autoImplicit false

namespace Timetable.Journal

namespace Log

/-- Commits batches one after the other, and tells the outcome of each. -/
def commitAll (l : Log) : List (List (List Event)) → List Outcome × Log
  | [] => ([], l)
  | batch :: rest =>
    let (outcome, l) := l.commit batch
    let (outcomes, l) := l.commitAll rest
    (outcome :: outcomes, l)

/-- From now on no call fails. -/
def mended (l : Log) : Log := { l with disk := { l.disk with fate := fun _ _ => none } }

end Log

/-- The events of the batches whose outcome is good. -/
def acknowledged : List (List (List Event)) → List Outcome → List Event
  | batch :: rest, .ok () :: outcomes => batch.flatten ++ acknowledged rest outcomes
  | _ :: rest, .error _ :: outcomes => acknowledged rest outcomes
  | _, _ => []

/-- No event has a payload that fills the buffer by itself. -/
def Small (batches : List (List (List Event))) : Prop :=
  ∀ batch ∈ batches, ∀ e ∈ batch.flatten, (payload e).length < capacity

variable {l : Log} {bytes : List UInt8}

theorem Small.tail {batch : List (List Event)} {rest : List (List (List Event))}
    (h : Small (batch :: rest)) : Small rest := fun b hb => h b (List.mem_cons_of_mem _ hb)

theorem fits_of_small {e : Event} (h : (payload e).length < capacity) : Fits e :=
  Nat.le_of_lt (Nat.lt_trans h (by decide))

theorem short_of_small {events : List Event} (small : ∀ e ∈ events, (payload e).length < capacity) :
    ∀ part ∈ events.flatMap recordParts, part.length < capacity := by
  intro part h
  obtain ⟨e, he, part_of⟩ := List.mem_flatMap.1 h
  have four : 4 < capacity := by decide
  simp only [recordParts, List.mem_cons, List.not_mem_nil, or_false] at part_of
  rcases part_of with rfl | rfl | rfl
  · rwa [length_littleEndian]
  · exact small e he
  · rwa [length_putUInt32]

/-- What a batch leaves behind: pieces of its records, and all of its records if the outcome is
good. -/
theorem commit_pieces (h : l.Holds bytes) {batch : List (List Event)}
    (small : ∀ e ∈ batch.flatten, (payload e).length < capacity) :
    ∃ ps, (l.commit batch).2.Holds (bytes ++ Piece.joined ps) ∧
      (∀ p ∈ ps, p.event ∈ batch.flatten) ∧
      ((l.commit batch).1 = .ok () →
        ps = batch.flatten.map .whole ∧ (l.commit batch).2.writer.pending = []) ∧
      (l.writer.pending = [] → batch.flatten ≠ [] → ps ≠ []) ∧
      (l.writer.pending = [] → batch.flatten = [] → (l.commit batch).2.writer.pending = []) := by
  obtain ⟨appended, buffered⟩ := Log.bufferAll_eq l batch.flatten
  obtain ⟨n, taken, done, first⟩ := Writer.putAll_short h (short_of_small small)
  obtain ⟨ps, joined_eq, from_batch, whole_all, ne_nil⟩ := exists_pieces batch.flatten n
  rw [joined_eq] at taken
  have holds : (l.bufferAll batch.flatten).2.Holds (bytes ++ Piece.joined ps) := by
    rw [buffered]
    exact taken
  obtain ⟨kept, -, drained, -⟩ := Log.flush_spec holds
  refine ⟨ps, kept, from_batch, fun ok => ?_, fun none_waits some_event => ?_,
    fun none_waits no_event => ?_⟩
  · obtain ⟨all, flushed⟩ := (Log.commit_ok_iff l batch).1 ok
    refine ⟨whole_all (done ?_), drained flushed⟩
    rw [buffered] at all
    exact all
  · have some_part : batch.flatten.flatMap recordParts ≠ [] := by
      obtain ⟨e, es, eq⟩ := List.exists_cons_of_ne_nil some_event
      rw [eq, List.flatMap_cons]
      exact List.cons_ne_nil _ _
    exact ne_nil (first none_waits some_part) some_event
  · have same : (l.bufferAll batch.flatten).2 = l := by rw [no_event, Log.bufferAll]
    show (l.bufferAll batch.flatten).2.flush.2.writer.pending = []
    rw [same]
    exact Log.pending_flush none_waits

/-! ## Runs of batches -/

theorem commitAll_cons (l : Log) (batch : List (List Event)) (rest : List (List (List Event))) :
    l.commitAll (batch :: rest) = ((l.commit batch).1 :: ((l.commit batch).2.commitAll rest).1,
      ((l.commit batch).2.commitAll rest).2) := rfl

theorem joined_whole (es : List Event) : Piece.joined (es.map .whole) = records es := by
  simp only [Piece.joined, List.flatMap_map, Piece.bytes, records]

/-- **However calls fail, pieces are left behind**, among them a whole record for each event that was
acknowledged. -/
theorem commitAll_pieces {batches : List (List (List Event))} (h : l.Holds bytes)
    (small : Small batches) :
    ∃ ps, (l.commitAll batches).2.Holds (bytes ++ Piece.joined ps) ∧ (∀ p ∈ ps, Fits p.event) ∧
      (acknowledged batches (l.commitAll batches).1).length ≤ ps.countP Piece.hasPayload := by
  induction batches generalizing l bytes with
  | nil => exact ⟨[], by simpa [Log.commitAll, Piece.joined] using h, by simp, Nat.le_refl 0⟩
  | cons batch rest ih =>
    have of_batch := small batch List.mem_cons_self
    obtain ⟨ps, holds, from_batch, done, -, -⟩ := commit_pieces h of_batch
    obtain ⟨qs, holds', fit, count⟩ := ih holds small.tail
    rw [List.append_assoc, ← joined_append] at holds'
    rw [commitAll_cons]
    refine ⟨ps ++ qs, holds', ?_, ?_⟩
    · intro p h
      rcases List.mem_append.1 h with h | h
      · exact fits_of_small (of_batch _ (from_batch p h))
      · exact fit p h
    · rw [List.countP_append]
      dsimp only
      generalize (l.commit batch).1 = outcome at done
      cases outcome with
      | error e => exact Nat.le_trans count (Nat.le_add_left _ _)
      | ok u =>
        obtain ⟨rfl, -⟩ := done rfl
        have whole_all : (batch.flatten.map Piece.whole).countP Piece.hasPayload =
            batch.flatten.length := by
          rw [List.countP_map]
          exact List.countP_eq_length.2 fun _ _ => rfl
        rw [acknowledged, List.length_append, whole_all]
        exact Nat.add_le_add_left count _

/-- Every batch with an event in it was acknowledged. -/
def NoneRefused (batches : List (List (List Event))) (outcomes : List Outcome) : Prop :=
  ∀ p ∈ batches.zip outcomes, p.1.flatten ≠ [] → p.2 = .ok ()

theorem noneRefused_cons_iff {batch : List (List Event)} {rest : List (List (List Event))}
    {outcome : Outcome} {outcomes : List Outcome} :
    NoneRefused (batch :: rest) (outcome :: outcomes) ↔
      (batch.flatten ≠ [] → outcome = .ok ()) ∧ NoneRefused rest outcomes := by
  simp only [NoneRefused, List.zip_cons_cons, List.forall_mem_cons]

/-- If no batch with an event in it is refused, the records of what was acknowledged are all that
is left behind. -/
theorem commitAll_noneRefused {batches : List (List (List Event))} (h : l.Holds bytes)
    (none_refused : NoneRefused batches (l.commitAll batches).1) :
    (l.commitAll batches).2.Holds
      (bytes ++ records (acknowledged batches (l.commitAll batches).1)) := by
  induction batches generalizing l bytes with
  | nil => simpa [Log.commitAll, acknowledged, records] using h
  | cons batch rest ih =>
    obtain ⟨n, holds, -, done, -⟩ := Log.commit_spec h batch
    rw [commitAll_cons, noneRefused_cons_iff] at none_refused
    have holds' := ih holds none_refused.2
    rw [commitAll_cons]
    dsimp only
    cases outcome : (l.commit batch).1 with
    | ok u =>
      rw [(done outcome).1, List.append_assoc, ← records_append] at holds'
      exact holds'
    | error e =>
      have no_event : batch.flatten = [] := by
        apply Classical.byContradiction
        intro some_event
        cases outcome.symm.trans (none_refused.1 some_event)
      rw [no_event, records, List.flatMap_nil, List.take_nil, List.append_nil] at holds'
      exact holds'

/-- If what is left behind reads as what was acknowledged, then no batch with an event in it was
refused. The first one that is refused leaves a piece more than is acknowledged. -/
theorem noneRefused_of_read {batches : List (List (List Event))} (h : l.Holds bytes)
    (none_waits : l.writer.pending = []) (small : Small batches) :
    ∃ ps, (l.commitAll batches).2.Holds (bytes ++ Piece.joined ps) ∧
      (unread (Piece.joined ps) = [] →
        replay (Piece.joined ps) = acknowledged batches (l.commitAll batches).1 →
          NoneRefused batches (l.commitAll batches).1) := by
  induction batches generalizing l bytes with
  | nil => exact ⟨[], by simpa [Log.commitAll, Piece.joined] using h, fun _ _ => nofun⟩
  | cons batch rest ih =>
    have of_batch := small batch List.mem_cons_self
    obtain ⟨ps, holds, from_batch, done, some_piece, still_none⟩ := commit_pieces h of_batch
    rw [commitAll_cons, noneRefused_cons_iff]
    dsimp only
    cases outcome : (l.commit batch).1 with
    | ok u =>
      obtain ⟨rfl, none_waits'⟩ := done outcome
      obtain ⟨qs, holds', none_refused⟩ := ih holds none_waits' small.tail
      have fit : ∀ e ∈ batch.flatten, Fits e := fun e h => fits_of_small (of_batch e h)
      rw [List.append_assoc, ← joined_append] at holds'
      refine ⟨_, holds', fun read eq => ⟨fun _ => rfl, ?_⟩⟩
      rw [joined_append, joined_whole, unread_records_append fit] at read
      rw [joined_append, joined_whole, replay_records_append fit, acknowledged,
        List.append_cancel_left_eq] at eq
      exact none_refused read eq
    | error e =>
      by_cases no_event : batch.flatten = []
      · obtain rfl : ps = [] := by
          apply List.eq_nil_iff_forall_not_mem.2
          intro p h
          have mem := from_batch p h
          rw [no_event] at mem
          cases mem
        obtain ⟨qs, holds', none_refused⟩ := ih holds (still_none none_waits no_event) small.tail
        rw [List.append_assoc, ← joined_append, List.nil_append] at holds'
        exact ⟨qs, holds', fun read eq =>
          ⟨fun some_event => absurd no_event some_event, none_refused read eq⟩⟩
      · obtain ⟨qs, holds', fit, count⟩ := commitAll_pieces holds small.tail
        rw [List.append_assoc, ← joined_append] at holds'
        refine ⟨ps ++ qs, holds', ?_⟩
        intro read eq
        obtain ⟨p, ps, rfl⟩ := List.exists_cons_of_ne_nil (some_piece none_waits no_event)
        have fit_all : ∀ q ∈ p :: ps ++ qs, Fits q.event := by
          intro q h
          rcases List.mem_append.1 h with h | h
          · exact fits_of_small (of_batch _ (from_batch q h))
          · exact fit q h
        have total := length_replay_joined _ fit_all read
        rw [List.cons_append] at fit_all read total eq
        rw [eq, acknowledged, List.countP_cons_of_pos (hasPayload_of_read fit_all read),
          List.countP_append] at total
        omega

/-! ## What is read later -/

theorem Log.Holds.mended (h : l.Holds bytes) : l.mended.Holds bytes := ⟨h.file, h.taken⟩

/-- On a disk that works again every batch is acknowledged. -/
theorem commitAll_of_works (batches : List (List (List Event))) (h : l.Holds bytes)
    (works : l.disk.Works) :
    (l.commitAll batches).2.Holds (bytes ++ records batches.flatten.flatten) ∧
      (l.commitAll batches).2.disk.Works ∧
      acknowledged batches (l.commitAll batches).1 = batches.flatten.flatten := by
  induction batches generalizing l bytes with
  | nil => exact ⟨by simpa [Log.commitAll, records] using h, works, rfl⟩
  | cons batch rest ih =>
    obtain ⟨ok, holds, -, touches⟩ := Log.commit_of_works h works batch
    obtain ⟨holds', works', all⟩ := ih holds (touches.works works)
    rw [List.append_assoc, ← records_append] at holds'
    rw [commitAll_cons, ok, acknowledged, all, List.flatten_cons, List.flatten_append]
    exact ⟨holds', works', rfl⟩

/-- What is read after more batches have been committed on a disk that works again. -/
theorem events_of_mended (h : l.Holds bytes) (more : List (List (List Event))) :
    (l.mended.commitAll more).2.flush.1 = .ok () ∧
      Log.events (l.mended.commitAll more).2.flush.2.disk =
        .ok (replay (bytes ++ records more.flatten.flatten)) ∧
      acknowledged more (l.mended.commitAll more).1 = more.flatten.flatten := by
  obtain ⟨holds, works, all⟩ := commitAll_of_works more h.mended fun _ _ => rfl
  obtain ⟨kept, -, drained, flushed⟩ := Log.flush_spec holds
  have ok := flushed works
  refine ⟨ok, ?_, all⟩
  rw [Log.events, kept.log_eq (drained ok)]

/-- Whatever is committed behind these batches once the disk works again can be flushed, and then
the events are read that were there before and those that were acknowledged. -/
def ReadsBack (l : Log) (before : List Event) (batches : List (List (List Event))) : Prop :=
  ∀ more : List (List (List Event)), (∀ e ∈ more.flatten.flatten, Fits e) →
    ((l.commitAll batches).2.mended.commitAll more).2.flush.1 = .ok () ∧
    Log.events ((l.commitAll batches).2.mended.commitAll more).2.flush.2.disk =
      .ok (before ++ acknowledged batches (l.commitAll batches).1 ++
        acknowledged more ((l.commitAll batches).2.mended.commitAll more).1)

theorem readsBack_iff_of_holds {before : List UInt8} {batches : List (List (List Event))}
    {left : List UInt8} (holds : (l.commitAll batches).2.Holds (before ++ left))
    (all_read : unread before = []) :
    ReadsBack l (replay before) batches ↔
      unread left = [] ∧ replay left = acknowledged batches (l.commitAll batches).1 := by
  have read (more : List (List (List Event))) :
      replay (before ++ left ++ records more.flatten.flatten) =
        replay before ++ (replay left ++ replay (unread left ++ records more.flatten.flatten)) := by
    rw [List.append_assoc, replay_append, all_read, List.nil_append, replay_append]
  constructor
  · intro reads
    have later (more : List (List (List Event))) (fit : ∀ e ∈ more.flatten.flatten, Fits e) :
        replay left ++ replay (unread left ++ records more.flatten.flatten) =
          acknowledged batches (l.commitAll batches).1 ++ more.flatten.flatten := by
      obtain ⟨-, events, all⟩ := events_of_mended holds more
      have claimed := (reads more fit).2
      rw [events, all, read] at claimed
      have eq := Except.ok.inj claimed
      rwa [List.append_assoc, List.append_cancel_left_eq] at eq
    have now : replay left = acknowledged batches (l.commitAll batches).1 := by
      simpa [records] using later [] (by simp)
    refine ⟨eq_nil_of_read ?_, now⟩
    intro e small
    have single := later [[[e]]] fun e' h => by
      obtain rfl : e' = e := by simpa using h
      exact Nat.le_trans small (by decide)
    rw [now, List.append_cancel_left_eq] at single
    simpa using single
  · rintro ⟨whole_read, now⟩ more fit
    obtain ⟨ok, events, all⟩ := events_of_mended holds more
    refine ⟨ok, ?_⟩
    rw [events, all, read, whole_read, List.nil_append, replay_records fit, now, List.append_assoc]

/-- **A journal that was opened whole reads as what was acknowledged, then and ever after, if no
batch with an event in it was refused**, and if events are small, only then. -/
theorem readsBack_iff_noneRefused {d : Disk} (opened : Log.start d = .ok l)
    (all_read : unread (d.bytes .log) = []) {batches : List (List (List Event))}
    (fit : ∀ e ∈ acknowledged batches (l.commitAll batches).1, Fits e) :
    (NoneRefused batches (l.commitAll batches).1 →
      ReadsBack l (replay (d.bytes .log)) batches) ∧
    (Small batches → ReadsBack l (replay (d.bytes .log)) batches →
      NoneRefused batches (l.commitAll batches).1) := by
  obtain ⟨holds, none_waits, -⟩ := Log.start_spec opened
  constructor
  · intro none_refused
    exact (readsBack_iff_of_holds (commitAll_noneRefused holds none_refused) all_read).2
      ⟨unread_records fit, replay_records fit⟩
  · intro small reads
    obtain ⟨ps, holds', none_refused⟩ := noneRefused_of_read holds none_waits small
    obtain ⟨read, eq⟩ := (readsBack_iff_of_holds holds' all_read).1 reads
    exact none_refused read eq

/-- A new journal on a disk whose next call fails, and no call after that one. -/
def failsOnce : Log :=
  ⟨⟨.file [], .absent, fun n _ => if n = 1 then some ⟨0, .fileTooLarge⟩ else none, 1⟩, .new .log, 0⟩

theorem start_failsOnce :
    Log.start { failsOnce.disk with log := .absent, calls := 0 } = .ok failsOnce := rfl

theorem not_readsBack_failsOnce : ¬ ReadsBack failsOnce [] [[[.slotDeleted (.ofNat 0)]]] := by
  intro reads
  have small : Small [[[.slotDeleted (.ofNat 0)]]] := by
    simp [Small, payload, putFields, capacity]
  have outcome : (failsOnce.commitAll [[[.slotDeleted (.ofNat 0)]]]).1 = [.error .fileTooLarge] := rfl
  have fit : ∀ e ∈ acknowledged [[[.slotDeleted (.ofNat 0)]]]
      (failsOnce.commitAll [[[.slotDeleted (.ofNat 0)]]]).1, Fits e := by
    rw [outcome]
    simp [acknowledged]
  have none_refused := (readsBack_iff_noneRefused start_failsOnce unread_nil fit).2 small (by
    rwa [Disk.bytes, Disk.entry, replay_nil])
  rw [outcome, noneRefused_cons_iff] at none_refused
  cases none_refused.1 (List.cons_ne_nil _ _)

/-- Two deletions, each in a batch of its own. -/
def deletions : List (List (List Event)) :=
  [[[.slotDeleted (.ofNat 0)]], [[.slotDeleted (.ofNat 1)]]]

/-- The first batch is refused and the second is not, and then both are read. -/
theorem refused_is_read :
    Small deletions ∧
    (failsOnce.commitAll deletions).1 = [.error .fileTooLarge, .ok ()] ∧
    (failsOnce.commitAll deletions).2.flush.1 = .ok () ∧
    Log.events (failsOnce.commitAll deletions).2.flush.2.disk ≠
      .ok (acknowledged deletions (failsOnce.commitAll deletions).1) := by
  have log : (failsOnce.commitAll deletions).2.flush.2.disk.log =
      .file (records [.slotDeleted (.ofNat 0), .slotDeleted (.ofNat 1)]) := rfl
  refine ⟨by simp [deletions, Small, payload, putFields, capacity], rfl, rfl, ?_⟩
  rw [Log.events, log]
  intro h
  have read := Except.ok.inj h
  rw [replay_records (by decide)] at read
  exact absurd (congrArg List.length read) (by decide)

end Timetable.Journal
