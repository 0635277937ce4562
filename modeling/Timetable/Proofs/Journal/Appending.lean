import Timetable.Proofs.Journal.Replay
import Timetable.Proofs.Journal.Writing

/-!
# What becomes of appended events

A journal takes the parts of the records that it is given, and on a disk that works it takes all of
them and puts them into its file. Compaction leaves a file of nothing but the new records.
-/

set_option autoImplicit false

namespace Timetable.Journal.Log

/-- The journal has taken these bytes since its file was made. -/
def Holds (l : Log) (bytes : List UInt8) : Prop := Writer.Holds .log l.writer l.disk bytes

variable {l : Log} {bytes : List UInt8}

theorem Holds.log_eq (h : l.Holds bytes) (none_waits : l.writer.pending = []) :
    l.disk.log = .file bytes := Writer.Holds.entry_eq h none_waits

theorem flatten_parts (events : List Event) :
    (events.flatMap recordParts).flatten = records events := by
  induction events with
  | nil => rfl
  | cons e events ih =>
    rw [List.flatMap_cons, List.flatten_append, ih, records_cons]
    rfl

/-! ## Opening -/

/-- A journal that has been opened holds what was in the file. -/
theorem start_spec {d : Disk} (h : start d = .ok l) :
    l.Holds (d.bytes .log) ∧ l.writer.pending = [] ∧ d.Touches .log l.disk := by
  obtain ⟨touches, opened, -⟩ := d.openEnd_spec .log
  unfold start at h
  generalize d.openEnd .log = r at touches opened h
  obtain ⟨o, d'⟩ := r
  cases o with
  | error e => cases h
  | ok u =>
    cases h
    exact ⟨⟨rfl, d.bytes .log, opened rfl, List.append_nil _⟩, rfl, touches⟩

/-- On a disk that works nothing but a directory keeps a journal from being opened. -/
theorem start_of_works {d : Disk} (works : d.Works) (h : d.log ≠ .directory) :
    ∃ l, start d = .ok l := by
  obtain ⟨-, -, -, succeeds⟩ := d.openEnd_spec .log
  have opened := succeeds works h
  unfold start
  generalize d.openEnd .log = r at opened
  obtain ⟨o, d'⟩ := r
  cases opened
  exact ⟨_, rfl⟩

/-! ## Appending -/

theorem bufferAll_eq (l : Log) (events : List Event) :
    ∃ appended, l.bufferAll events =
      ((l.writer.putAll l.disk (events.flatMap recordParts)).1,
        ⟨(l.writer.putAll l.disk (events.flatMap recordParts)).2.2,
          (l.writer.putAll l.disk (events.flatMap recordParts)).2.1, appended⟩) := by
  induction events generalizing l with
  | nil => exact ⟨l.appended, rfl⟩
  | cons e events ih =>
    rw [List.flatMap_cons, Writer.putAll_append, bufferAll, buffer, Writer.putEvent]
    generalize l.writer.putAll l.disk (recordParts e) = r
    obtain ⟨o, w, d⟩ := r
    cases o with
    | error error => exact ⟨l.appended, rfl⟩
    | ok u => exact ih ⟨d, w, l.appended + 1⟩

/-- Of the records of events that are buffered a prefix is taken, and all of it if that
succeeds. -/
theorem bufferAll_spec (h : l.Holds bytes) (events : List Event) :
    ∃ n, (l.bufferAll events).2.Holds (bytes ++ (records events).take n) ∧
      l.disk.Touches .log (l.bufferAll events).2.disk ∧
      ((l.bufferAll events).1 = .ok () → (records events).take n = records events) ∧
      (l.disk.Works → (l.bufferAll events).1 = .ok ()) := by
  obtain ⟨appended, eq⟩ := bufferAll_eq l events
  obtain ⟨n, taken, touches, done, works⟩ := Writer.putAll_spec h (events.flatMap recordParts)
  rw [flatten_parts] at taken done
  rw [eq]
  exact ⟨n, taken, touches, done, works⟩

/-- A flush keeps what was taken. If it succeeds, all of it is in the file. -/
theorem flush_spec (h : l.Holds bytes) :
    l.flush.2.Holds bytes ∧ l.disk.Touches .log l.flush.2.disk ∧
      (l.flush.1 = .ok () → l.flush.2.writer.pending = []) ∧
      (l.disk.Works → l.flush.1 = .ok ()) := Writer.flush_spec h

theorem pending_flush (none_waits : l.writer.pending = []) : l.flush.2.writer.pending = [] := by
  have drained : l.writer.drain l.disk = (.ok (), l.writer, l.disk) := by
    unfold Writer.drain
    rw [none_waits]
  unfold flush Writer.flush
  rw [drained]
  exact none_waits

/-- The outcome of a batch is good if it was buffered whole and flushed. -/
theorem commit_ok_iff (l : Log) (batch : List (List Event)) :
    (l.commit batch).1 = .ok () ↔ (l.bufferAll batch.flatten).1 = .ok () ∧
      (l.bufferAll batch.flatten).2.flush.1 = .ok () := by
  show ((l.bufferAll batch.flatten).1.bind fun _ => (l.bufferAll batch.flatten).2.flush.1) = _ ↔ _
  cases (l.bufferAll batch.flatten).1 with
  | error e => exact ⟨nofun, fun h => nomatch h.1⟩
  | ok u => exact ⟨fun h => ⟨rfl, h⟩, fun h => h.2⟩

/-- **A batch whose outcome is good is in the file.** On a disk that works the outcome is good. -/
theorem commit_spec (h : l.Holds bytes) (batch : List (List Event)) :
    ∃ n, (l.commit batch).2.Holds (bytes ++ (records batch.flatten).take n) ∧
      l.disk.Touches .log (l.commit batch).2.disk ∧
      ((l.commit batch).1 = .ok () → (records batch.flatten).take n = records batch.flatten ∧
        (l.commit batch).2.writer.pending = []) ∧
      (l.disk.Works → (l.commit batch).1 = .ok ()) := by
  obtain ⟨n, taken, touches, done, works⟩ := bufferAll_spec h batch.flatten
  obtain ⟨kept, touches', flushed, works'⟩ := flush_spec taken
  refine ⟨n, kept, touches.trans touches', ?_, ?_⟩
  · intro h
    obtain ⟨whole, synced⟩ := (commit_ok_iff l batch).1 h
    exact ⟨done whole, flushed synced⟩
  · intro h
    exact (commit_ok_iff l batch).2 ⟨works h, works' (touches.works h)⟩

theorem commit_of_works (h : l.Holds bytes) (works : l.disk.Works) (batch : List (List Event)) :
    (l.commit batch).1 = .ok () ∧ (l.commit batch).2.Holds (bytes ++ records batch.flatten) ∧
      (l.commit batch).2.writer.pending = [] ∧ l.disk.Touches .log (l.commit batch).2.disk := by
  obtain ⟨n, taken, touches, done, succeeds⟩ := commit_spec h batch
  obtain ⟨whole, none_waits⟩ := done (succeeds works)
  rw [whole] at taken
  exact ⟨succeeds works, taken, none_waits, touches⟩

/-! ## Closing and compacting -/

/-- A journal of which nothing waits is closed as it is. -/
theorem close_eq (none_waits : l.writer.pending = []) : l.close = l.disk := by
  unfold close Writer.drain
  rw [none_waits]

/-- What is left of the bytes that a writer has taken is a prefix of them. -/
theorem entry_of_holds {name : FileName} {w : Writer} {d : Disk} {n : Nat}
    (h : Writer.Holds name w d (bytes.take n)) : ∃ k, d.entry name = .file (bytes.take k) := by
  obtain ⟨front, entry, taken⟩ := h.taken
  have front_prefix : front <+: bytes :=
    (taken ▸ List.prefix_append front w.pending).trans (List.take_prefix n bytes)
  refine ⟨front.length, ?_⟩
  rw [entry, ← List.prefix_iff_eq_take.1 front_prefix]

/-- The temporary file is left as it was or holds the first bytes of the records, and all of them if
it is written to its end. -/
theorem writeTemp_spec (d : Disk) (events : List Event) :
    d.Touches .temp (writeTemp d events).2 ∧
      ((writeTemp d events).1 = .ok () → (writeTemp d events).2.temp = .file (records events)) ∧
      ((writeTemp d events).2.temp = d.temp ∨
        ∃ k, (writeTemp d events).2.temp = .file ((records events).take k)) ∧
      (d.Works → d.temp ≠ .directory → (writeTemp d events).1 = .ok ()) := by
  obtain ⟨touches, created, same, works⟩ := d.create_spec .temp
  unfold writeTemp
  generalize d.create .temp = r at touches created same works
  obtain ⟨o, d'⟩ := r
  cases o with
  | error e => exact ⟨touches, nofun, .inl (same nofun), fun h h' => nomatch works h h'⟩
  | ok u =>
    have holds : Writer.Holds .temp (Writer.new .temp) d' [] := ⟨rfl, [], created rfl, rfl⟩
    obtain ⟨n, taken, touches', done, works'⟩ :=
      Writer.putAll_spec holds (events.flatMap recordParts)
    rw [flatten_parts] at taken done
    dsimp only
    generalize (Writer.new .temp).putAll d' (events.flatMap recordParts) = r
      at taken touches' done works'
    obtain ⟨o, w, d''⟩ := r
    have touches'' := touches.trans touches'
    cases o with
    | error e =>
      exact ⟨touches'', nofun, .inr (entry_of_holds taken), fun h _ => nomatch works' (touches.works h)⟩
    | ok u =>
      obtain ⟨kept, flush_touches, flushed, flush_works⟩ := Writer.flush_spec taken
      refine ⟨touches''.trans flush_touches, ?_, .inr (entry_of_holds kept),
        fun h _ => flush_works (touches''.works h)⟩
      intro synced
      have entry := kept.entry_eq (flushed synced)
      rwa [List.nil_append, done rfl] at entry

/-- What a compaction can come to. -/
inductive Compacted (l : Log) (events : List Event) : Outcome × Log → Prop
  /-- The new file could not be written to its end, or could not take the journal's place. The
  journal is the old one. -/
  | givenUp {e : DiskError} {d : Disk} (log : d.log = l.disk.log)
      (temp : d.temp = l.disk.temp ∨ ∃ k, d.temp = .file ((records events).take k)) :
      Compacted l events (.error e, { l with disk := d })
  /-- The new file has taken the journal's place but could not be opened. The writer goes on with the
  old file, which has no name any more. -/
  | unopened {e : DiskError} {d : Disk} (log : d.log = .file (records events))
      (temp : d.temp = .absent) :
      Compacted l events (.error e, { l with disk := d, writer := { l.writer with file := none } })
  /-- The journal is the new one. -/
  | done {d : Disk} (log : d.log = .file (records events)) (temp : d.temp = .absent) :
      Compacted l events (.ok (), ⟨d, .new .log, 0⟩)

/-- On any disk a compaction comes to one of three things, and on a disk that works it is
done. -/
theorem compact_spec (l : Log) (events : List Event) :
    l.Compacted events (l.compact events) ∧ (l.compact events).2.disk.fate = l.disk.fate ∧
      (l.disk.Works → l.disk.log ≠ .directory → l.disk.temp ≠ .directory →
        (l.compact events).1 = .ok ()) := by
  obtain ⟨touches, written, left, works⟩ := writeTemp_spec l.disk events
  unfold compact
  generalize writeTemp l.disk events = r at touches written left works
  obtain ⟨o, d⟩ := r
  have log : d.log = l.disk.log := touches.others .log (by decide)
  cases o with
  | error e => exact ⟨.givenUp log left, touches.fate, fun h _ h' => nomatch works h h'⟩
  | ok u =>
    have temp : d.temp = .file (records events) := written rfl
    obtain ⟨same_fate, renamed, not_renamed, works'⟩ := d.rename_spec
    unfold swap
    dsimp only
    generalize d.rename = r at same_fate renamed not_renamed works'
    obtain ⟨o, d'⟩ := r
    have fate : d'.fate = l.disk.fate := same_fate.trans touches.fate
    cases o with
    | error e =>
      obtain ⟨log', temp'⟩ := not_renamed nofun
      refine ⟨.givenUp (log'.trans log) ?_, fate, ?_⟩
      · rw [temp']
        exact left
      · intro h no_directory _
        exact nomatch works' (touches.works h) (log ▸ no_directory)
    | ok u =>
      obtain ⟨log', gone⟩ := renamed rfl
      have present : d'.entry .log = .file (records events) := log'.trans temp
      obtain ⟨touches', opened, not_opened, works''⟩ := Disk.openEnd_spec .log d'
      dsimp only
      generalize d'.openEnd .log = r at touches' opened not_opened works''
      obtain ⟨o, d''⟩ := r
      have gone' : d''.temp = .absent := (touches'.others .temp (by decide)).trans gone
      have fate' : d''.fate = l.disk.fate := touches'.fate.trans fate
      cases o with
      | error e =>
        refine ⟨.unopened ((not_opened nofun).trans present) gone', fate', ?_⟩
        intro h _ _
        have works_still : d'.Works := fun n c => (congrFun (congrFun fate n) c).trans (h n c)
        exact nomatch works'' works_still (present ▸ Entry.file_ne_directory _)
      | ok u =>
        have entry := opened rfl
        rw [Disk.bytes, present] at entry
        exact ⟨.done entry gone', fate', fun _ _ _ => rfl⟩

/-- On a disk that works compaction leaves nothing but the new records, and the journal goes on
behind them. -/
theorem compact_of_works (works : l.disk.Works) (log : l.disk.log ≠ .directory)
    (temp : l.disk.temp ≠ .directory) (events : List Event) :
    (l.compact events).1 = .ok () ∧ (l.compact events).2.Holds (records events) ∧
      (l.compact events).2.writer.pending = [] ∧ (l.compact events).2.disk.Works ∧
      (l.compact events).2.disk.temp = .absent := by
  obtain ⟨compacted, fate, succeeds⟩ := compact_spec l events
  have ok := succeeds works log temp
  generalize l.compact events = r at compacted fate ok
  cases compacted with
  | givenUp | unopened => cases ok
  | done log gone =>
    refine ⟨rfl, ⟨rfl, records events, log, List.append_nil _⟩, rfl, ?_, gone⟩
    intro n c
    rw [fate]
    exact works n c

/-! ## A journal on a disk that works -/

/-- Nothing waits to be written to the file, which holds `bytes`, and no call fails. -/
structure Ready (l : Log) (bytes : List UInt8) : Prop where
  holds : l.Holds bytes
  none_waits : l.writer.pending = []
  works : l.disk.Works
  temp : l.disk.temp ≠ .directory

theorem Ready.log_eq (ready : l.Ready bytes) : l.disk.log = .file bytes :=
  ready.holds.log_eq ready.none_waits

theorem ready_of_start {d : Disk} (works : d.Works) (log : d.log ≠ .directory) :
    ∃ l, start d = .ok l ∧ (d.temp ≠ .directory → l.Ready (d.bytes .log)) := by
  obtain ⟨l, opened⟩ := start_of_works works log
  obtain ⟨holds, none_waits, touches⟩ := start_spec opened
  refine ⟨l, opened, ?_⟩
  intro temp
  refine ⟨holds, none_waits, touches.works works, ?_⟩
  have same : l.disk.temp = d.temp := touches.others .temp (by decide)
  rwa [same]

theorem Ready.commit (ready : l.Ready bytes) (batch : List (List Event)) :
    (l.commit batch).1 = .ok () ∧ (l.commit batch).2.Ready (bytes ++ records batch.flatten) := by
  obtain ⟨done, holds, none_waits, touches⟩ := commit_of_works ready.holds ready.works batch
  refine ⟨done, holds, none_waits, touches.works ready.works, ?_⟩
  have same : (l.commit batch).2.disk.temp = l.disk.temp := touches.others .temp (by decide)
  rw [same]
  exact ready.temp

theorem Ready.compact (ready : l.Ready bytes) (events : List Event) :
    (l.compact events).1 = .ok () ∧ (l.compact events).2.Ready (records events) := by
  have log : l.disk.log ≠ .directory := by
    rw [ready.log_eq]
    exact Entry.file_ne_directory bytes
  obtain ⟨done, holds, none_waits, works, temp⟩ :=
    compact_of_works ready.works log ready.temp events
  refine ⟨done, holds, none_waits, works, ?_⟩
  rw [temp]
  decide

end Timetable.Journal.Log
