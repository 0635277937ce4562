import Timetable.Proofs.Journal.Outcome

/-!
# What is left of a compaction

The process may stop at any call of a compaction. The journal is then the old one or the new one,
and what stands under the temporary name is of no account: a writer neither reads nor changes what
stands under another name than its own, and a compaction begins its file anew.
-/

set_option autoImplicit false

namespace Timetable.Journal

variable {name : FileName} {e : Entry}

/-! ## Another name than that of the file -/

namespace Disk

variable {d : Disk}

theorem setEntry_entry (d : Disk) (name : FileName) : d.setEntry name (d.entry name) = d := by
  cases name <;> rfl

theorem setEntry_setEntry (d : Disk) (name : FileName) (e e' : Entry) :
    (d.setEntry name e).setEntry name e' = d.setEntry name e' := by
  cases name <;> rfl

theorem counted_setEntry (d : Disk) (name : FileName) (e : Entry) :
    (d.setEntry name e).counted = d.counted.setEntry name e := by
  cases name <;> rfl

theorem failure?_setEntry (d : Disk) (name : FileName) (e : Entry) (c : Call) :
    (d.setEntry name e).failure? c = d.failure? c := by
  cases name <;> rfl

theorem setEntry_comm {other : FileName} (h : other ≠ name) (e e' : Entry) :
    (d.setEntry name e).setEntry other e' = (d.setEntry other e').setEntry name e := by
  cases name <;> cases other <;> first | rfl | exact absurd rfl h

theorem append_setEntry {file : Option FileName} (h : file ≠ some name) (bytes : List UInt8) :
    (d.setEntry name e).append file bytes = (d.append file bytes).setEntry name e := by
  cases file with
  | none => rfl
  | some own =>
    have other : own ≠ name := fun same => h (congrArg some same)
    rw [append, append, entry_setEntry_of_ne other]
    cases d.entry own with
    | absent | directory => rfl
    | file before => exact setEntry_comm other ..

theorem write_setEntry {file : Option FileName} (h : file ≠ some name) (bytes : List UInt8) :
    (d.setEntry name e).write file bytes =
      ((d.write file bytes).1, (d.write file bytes).2.setEntry name e) := by
  rw [write, write, failure?_setEntry]
  split
  · rw [append_setEntry h, counted_setEntry]
  · rw [append_setEntry h, counted_setEntry]

theorem sync_setEntry (d : Disk) (name : FileName) (e : Entry) :
    (d.setEntry name e).sync = (d.sync.1, d.sync.2.setEntry name e) := by
  rw [sync, sync, attempt, attempt, failure?_setEntry, counted_setEntry]
  split <;> rfl

theorem openEnd_setEntry {own : FileName} (h : own ≠ name) (d : Disk) (e : Entry) :
    (d.setEntry name e).openEnd own = ((d.openEnd own).1, (d.openEnd own).2.setEntry name e) := by
  rw [openEnd, openEnd, attempt, attempt, failure?_setEntry, counted_setEntry]
  split
  · rfl
  · rw [entry_setEntry_of_ne h]
    split
    · rfl
    · rw [setEntry_comm h]
    · rfl

/-- What is created does not depend on what stood under its name. -/
theorem create_setEntry (no_directory : d.entry name ≠ .directory) (h : e ≠ .directory) :
    (d.setEntry name e).create name = d.create name ∨
      ∃ error, d.create name = (.error error, d.counted) ∧
        (d.setEntry name e).create name = (.error error, d.counted.setEntry name e) := by
  rw [create, create, attempt, attempt, failure?_setEntry, counted_setEntry]
  split
  · exact .inr ⟨_, rfl, rfl⟩
  · rw [entry_setEntry, entry_counted]
    left
    split
    · exact absurd rfl h
    · rw [setEntry_setEntry]

end Disk

namespace Writer

variable {w : Writer} {d : Disk}

/-- The same result on a disk that has something else under a name. -/
def aside (name : FileName) (e : Entry) (result : Outcome × Writer × Disk) :
    Outcome × Writer × Disk := (result.1, result.2.1, result.2.2.setEntry name e)

theorem drain_setEntry (h : w.file ≠ some name) :
    w.drain (d.setEntry name e) = aside name e (w.drain d) ∧ (w.drain d).2.1.file = w.file := by
  unfold drain
  split
  · exact ⟨rfl, rfl⟩
  · rw [Disk.write_setEntry h]
    generalize d.write w.file w.pending = r
    obtain ⟨_ | failure, d'⟩ := r
    · exact ⟨rfl, rfl⟩
    · exact ⟨rfl, rfl⟩

theorem put_setEntry (h : w.file ≠ some name) (bytes : List UInt8) :
    w.put (d.setEntry name e) bytes = aside name e (w.put d bytes) ∧
      (w.put d bytes).2.1.file = w.file := by
  obtain ⟨drained, file⟩ := drain_setEntry (d := d) (e := e) h
  unfold put
  split
  · exact ⟨rfl, rfl⟩
  · rw [drained]
    generalize w.drain d = r at file
    obtain ⟨error | u, w', d'⟩ := r
    · exact ⟨rfl, file⟩
    · have h' : w'.file ≠ some name := file ▸ h
      simp only [aside]
      split
      · exact ⟨rfl, file⟩
      · rw [Disk.write_setEntry h']
        generalize d'.write w'.file bytes = r
        obtain ⟨_ | failure, d''⟩ := r
        · exact ⟨rfl, file⟩
        · exact ⟨rfl, file⟩

theorem putAll_setEntry (h : w.file ≠ some name) (parts : List (List UInt8)) :
    w.putAll (d.setEntry name e) parts = aside name e (w.putAll d parts) ∧
      (w.putAll d parts).2.1.file = w.file := by
  induction parts generalizing w d with
  | nil => exact ⟨rfl, rfl⟩
  | cons part parts ih =>
    obtain ⟨put, file⟩ := put_setEntry (d := d) (e := e) h part
    rw [putAll, putAll, put]
    generalize w.put d part = r at file
    obtain ⟨error | u, w', d'⟩ := r
    · exact ⟨rfl, file⟩
    · obtain ⟨rest, file'⟩ := ih (w := w') (d := d') (file ▸ h)
      exact ⟨rest, file'.trans file⟩

/-- A writer neither reads nor changes what stands under another name than its own. -/
theorem flush_setEntry (h : w.file ≠ some name) :
    w.flush (d.setEntry name e) = aside name e (w.flush d) ∧ (w.flush d).2.1.file = w.file := by
  obtain ⟨drained, file⟩ := drain_setEntry (d := d) (e := e) h
  unfold flush
  rw [drained]
  generalize w.drain d = r at file
  obtain ⟨error | u, w', d'⟩ := r
  · exact ⟨rfl, file⟩
  · simp only [aside, Disk.sync_setEntry]
    exact ⟨trivial, file⟩

end Writer

namespace Log

variable {l : Log}

/-- The journal on a disk that has something else under a name. -/
def setEntry (l : Log) (name : FileName) (e : Entry) : Log :=
  { l with disk := l.disk.setEntry name e }

theorem buffer_setEntry (h : l.writer.file ≠ some name) (event : Event) :
    (l.setEntry name e).buffer event =
        ((l.buffer event).1, (l.buffer event).2.setEntry name e) ∧
      (l.buffer event).2.writer.file = l.writer.file := by
  obtain ⟨put, file⟩ :=
    Writer.putAll_setEntry (d := l.disk) (e := e) h (recordParts event)
  simp only [buffer, setEntry, Writer.putEvent]
  rw [put]
  generalize l.writer.putAll l.disk (recordParts event) = r at file
  obtain ⟨error | u, w, d⟩ := r
  · exact ⟨rfl, file⟩
  · exact ⟨rfl, file⟩

theorem bufferAll_setEntry (h : l.writer.file ≠ some name) (events : List Event) :
    (l.setEntry name e).bufferAll events =
        ((l.bufferAll events).1, (l.bufferAll events).2.setEntry name e) ∧
      (l.bufferAll events).2.writer.file = l.writer.file := by
  induction events generalizing l with
  | nil => exact ⟨rfl, rfl⟩
  | cons event events ih =>
    obtain ⟨buffered, file⟩ := buffer_setEntry (e := e) h event
    rw [bufferAll, bufferAll, buffered]
    generalize l.buffer event = r at file
    obtain ⟨error | u, l'⟩ := r
    · exact ⟨rfl, file⟩
    · obtain ⟨rest, file'⟩ := ih (l := l') (file ▸ h)
      exact ⟨rest, file'.trans file⟩

/-- A commit neither reads nor changes what stands under another name than that of its file. -/
theorem commit_setEntry (h : l.writer.file ≠ some name) (batch : List (List Event)) :
    (l.setEntry name e).commit batch =
        ((l.commit batch).1, (l.commit batch).2.setEntry name e) ∧
      (l.commit batch).2.writer.file = l.writer.file := by
  obtain ⟨buffered, file⟩ := bufferAll_setEntry (e := e) h batch.flatten
  simp only [commit]
  rw [buffered]
  generalize l.bufferAll batch.flatten = r at file
  obtain ⟨outcome, l'⟩ := r
  obtain ⟨flushed, file'⟩ := Writer.flush_setEntry (w := l'.writer) (d := l'.disk) (e := e) (file ▸ h)
  simp only [flush, setEntry]
  rw [flushed]
  exact ⟨rfl, file'.trans file⟩

theorem entry_commit (h : l.writer.file ≠ some name) (batch : List (List Event)) :
    (l.commit batch).2.disk.entry name = l.disk.entry name := by
  have same := (commit_setEntry (e := l.disk.entry name) h batch).1
  rw [setEntry, Disk.setEntry_entry] at same
  rw [same]
  exact Disk.entry_setEntry ..

theorem close_setEntry (h : l.writer.file ≠ some name) :
    (l.setEntry name e).close = l.close.setEntry name e := by
  obtain ⟨drained, -⟩ := Writer.drain_setEntry (d := l.disk) (e := e) h
  simp only [close, setEntry]
  rw [drained]
  rfl

theorem entry_close (h : l.writer.file ≠ some name) : l.close.entry name = l.disk.entry name := by
  have same : l.close = l.close.setEntry name (l.disk.entry name) := by
    have closed := close_setEntry (e := l.disk.entry name) h
    rwa [setEntry, Disk.setEntry_entry] at closed
  rw [same, Disk.entry_setEntry]

theorem start_setEntry (h : name ≠ .log) (d : Disk) :
    start (d.setEntry name e) = (start d).map (·.setEntry name e) := by
  rw [start, start, Disk.openEnd_setEntry h.symm]
  generalize d.openEnd .log = r
  obtain ⟨error | u, d'⟩ := r
  · rfl
  · rfl

/-! ## A file that an earlier compaction has left -/

theorem writeTemp_setEntry {d : Disk} (temp : d.temp ≠ .directory) (h : e ≠ .directory)
    (events : List Event) : writeTemp (d.setEntry .temp e) events = writeTemp d events ∨
      ∃ error, writeTemp d events = (.error error, d.counted) ∧
        writeTemp (d.setEntry .temp e) events = (.error error, d.counted.setEntry .temp e) := by
  have no_directory : d.entry .temp ≠ .directory := temp
  rcases Disk.create_setEntry no_directory h with same | ⟨error, created, same⟩
  · left
    rw [writeTemp, same, writeTemp]
  · right
    refine ⟨error, ?_, ?_⟩
    · rw [writeTemp, created]
    · rw [writeTemp, same]

theorem Compacted.temp_ne_directory {events : List Event} {result : Outcome × Log}
    (compacted : l.Compacted events result) (temp : l.disk.temp ≠ .directory) :
    result.2.disk.temp ≠ .directory := by
  cases compacted with
  | givenUp log left =>
    rcases left with same | ⟨k, cut⟩
    · exact same ▸ temp
    · exact cut ▸ Entry.file_ne_directory _
  | unopened log gone => exact gone ▸ nofun
  | done log gone => exact gone ▸ nofun

/-- What an earlier compaction has left does not matter to the next one. It is overwritten, or
left as it is if the compaction does not get as far as that. -/
theorem compact_setEntry (temp : l.disk.temp ≠ .directory) (h : e ≠ .directory)
    (events : List Event) : (l.setEntry .temp e).compact events = l.compact events ∨
      (l.setEntry .temp e).compact events =
        ((l.compact events).1, (l.compact events).2.setEntry .temp e) := by
  rcases writeTemp_setEntry temp h events with same | ⟨error, given_up, same⟩
  · left
    simp only [compact, setEntry]
    rw [same]
  · right
    simp only [compact, setEntry]
    rw [given_up, same]

end Log

/-! ## A process that stops -/

/-- The disk on which the process stops in the call that comes after `n` more calls. If that is a
write, the first `kept` bytes are written. -/
def Disk.stopping (d : Disk) (n kept : Nat) : Disk where
  log := d.log
  temp := d.temp
  fate k c :=
    if k < d.calls + n then d.fate k c
    else some ⟨if k = d.calls + n then kept else 0, .fileTooLarge⟩
  calls := d.calls

namespace Log

/-- What a process leaves on the disk that stops while it compacts the journal. -/
def stopped (l : Log) (events : List Event) (n kept : Nat) : Disk :=
  ({ l with disk := l.disk.stopping n kept }.compact events).2.disk

variable (l : Log) (events : List Event) (n kept : Nat)

/-- **Wherever the process stops, the journal is the old one or the new one.** -/
theorem stopped_cases :
    (l.stopped events n kept).log = l.disk.log ∧
        ((l.stopped events n kept).temp = l.disk.temp ∨
          ∃ k, (l.stopped events n kept).temp = .file ((records events).take k)) ∨
      (l.stopped events n kept).log = .file (records events) ∧
        (l.stopped events n kept).temp = .absent := by
  obtain ⟨compacted, -, -⟩ := compact_spec { l with disk := l.disk.stopping n kept } events
  unfold stopped
  generalize compact _ events = r at compacted
  cases compacted with
  | givenUp log temp => exact .inl ⟨log, temp⟩
  | unopened log temp => exact .inr ⟨log, temp⟩
  | done log temp => exact .inr ⟨log, temp⟩

/-- At first the journal is still the old one. -/
theorem log_stopped_zero : (l.stopped events 0 kept).log = l.disk.log := by
  have stops : (l.disk.stopping 0 kept).failure? .create = some ⟨kept, .fileTooLarge⟩ := by
    simp [Disk.failure?, Disk.stopping]
  simp only [stopped, compact, writeTemp, Disk.create, Disk.attempt, stops]
  rfl

end Log

end Timetable.Journal
