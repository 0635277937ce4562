import Timetable.Proofs.Journal.Acknowledged

/-!
# What a good outcome tells

On a disk on which calls may fail, a commit or a compaction whose outcome is good has done all that
it does on a disk that works. And on a disk that works the outcome of a commit is good, whatever has
become of the file before.

An event that finds room in the buffer takes two calls: it is written with what waits there, and the
disk is made to keep it. If the write fails at once, the event waits in the buffer with the rest.
-/

set_option autoImplicit false

namespace Timetable.Journal

/-! ## What an outcome tells of the disk -/

namespace Disk

variable {d : Disk}

/-- A new disk on which one call fails, the one that comes after `n` calls. -/
def failingAt (n : Nat) : Disk :=
  ⟨.absent, .absent, fun k _ => if k = n then some ⟨0, .fileTooLarge⟩ else none, 0⟩

theorem fate_failingAt {n k : Nat} (other : k ≠ n) (c : Call) : (failingAt n).fate k c = none :=
  if_neg other

theorem bytes_eq {name : FileName} {bytes : List UInt8} (h : d.entry name = .file bytes) :
    d.bytes name = bytes := by
  rw [Disk.bytes, h]

theorem bytes_log_eq {bytes : List UInt8} (h : d.log = .file bytes) : d.bytes .log = bytes :=
  bytes_eq h

theorem write_of_works (works : d.Works) (file : Option FileName) (bytes : List UInt8) :
    (d.write file bytes).1 = none ∧ (d.write file bytes).2.Works := by
  have kept : (d.append file bytes).fate = d.fate := by
    unfold append
    split
    · rfl
    · split
      · exact (touches_setEntry d _ _).fate
      · rfl
  rw [write, failure?, works d.calls .write]
  refine ⟨rfl, ?_⟩
  intro n c
  exact (congrFun (congrFun kept n) c).trans (works n c)

end Disk

/-! ## A disk that works -/

namespace Writer

variable {d : Disk}

theorem drain_of_works (w : Writer) (works : d.Works) :
    (w.drain d).1 = .ok () ∧ (w.drain d).2.2.Works := by
  obtain ⟨written, works'⟩ := Disk.write_of_works works w.file w.pending
  unfold drain
  split
  · exact ⟨rfl, works⟩
  · generalize d.write w.file w.pending = r at written works'
    obtain ⟨failure, d'⟩ := r
    cases written
    exact ⟨rfl, works'⟩

theorem put_of_works (w : Writer) (works : d.Works) (bytes : List UInt8) :
    (w.put d bytes).1 = .ok () ∧ (w.put d bytes).2.2.Works := by
  obtain ⟨drained, works'⟩ := drain_of_works w works
  unfold put
  split
  · exact ⟨rfl, works⟩
  · generalize w.drain d = r at drained works'
    obtain ⟨o, w', d'⟩ := r
    cases drained
    dsimp only
    split
    · exact ⟨rfl, works'⟩
    · obtain ⟨written, works''⟩ := Disk.write_of_works works' w'.file bytes
      generalize d'.write w'.file bytes = r at written works''
      obtain ⟨failure, d''⟩ := r
      cases written
      exact ⟨rfl, works''⟩

theorem putAll_of_works (w : Writer) (works : d.Works) (parts : List (List UInt8)) :
    (w.putAll d parts).1 = .ok () ∧ (w.putAll d parts).2.2.Works := by
  induction parts generalizing w d with
  | nil => exact ⟨rfl, works⟩
  | cons part parts ih =>
    obtain ⟨put, works'⟩ := put_of_works w works part
    rw [putAll]
    generalize w.put d part = r at put works'
    obtain ⟨o, w', d'⟩ := r
    cases put
    exact ih w' works'

theorem flush_of_works (w : Writer) (works : d.Works) :
    (w.flush d).1 = .ok () ∧ (w.flush d).2.2.Works := by
  obtain ⟨drained, works'⟩ := drain_of_works w works
  unfold flush
  generalize w.drain d = r at drained works'
  obtain ⟨o, w', d'⟩ := r
  cases drained
  obtain ⟨touches, -, synced⟩ := Disk.sync_spec .log d'
  exact ⟨synced works', touches.works works'⟩

end Writer

namespace Log

variable {l : Log} {bytes : List UInt8}

/-- On a disk that works every batch is acknowledged, also where the journal has lost its file. -/
theorem commit_ok_of_works (works : l.disk.Works) (batch : List (List Event)) :
    (l.commit batch).1 = .ok () ∧ (l.commit batch).2.disk.Works := by
  obtain ⟨appended, buffered⟩ := bufferAll_eq l batch.flatten
  obtain ⟨put, works'⟩ :=
    Writer.putAll_of_works l.writer works (batch.flatten.flatMap recordParts)
  have after : (l.bufferAll batch.flatten).2.disk.Works := by
    rw [buffered]
    exact works'
  obtain ⟨flushed, works''⟩ :=
    Writer.flush_of_works (l.bufferAll batch.flatten).2.writer after
  refine ⟨(commit_ok_iff l batch).2 ⟨?_, flushed⟩, works''⟩
  rw [buffered]
  exact put

/-! ## Outcomes on any disk -/

/-- The file holds `bytes`, and nothing waits to be written behind them. -/
structure Whole (l : Log) (bytes : List UInt8) : Prop where
  holds : l.Holds bytes
  none_waits : l.writer.pending = []

theorem Whole.log_eq (whole : l.Whole bytes) : l.disk.log = .file bytes :=
  whole.holds.log_eq whole.none_waits

theorem whole_of_start {d : Disk} (opened : start d = .ok l) : l.Whole (d.bytes .log) := by
  obtain ⟨holds, none_waits, -⟩ := start_spec opened
  exact ⟨holds, none_waits⟩

/-- A batch that is acknowledged is in the file as a whole. -/
theorem Whole.commit (whole : l.Whole bytes) (batch : List (List Event))
    (done : (l.commit batch).1 = .ok ()) :
    (l.commit batch).2.Whole (bytes ++ records batch.flatten) := by
  obtain ⟨n, holds, -, all, -⟩ := commit_spec whole.holds batch
  obtain ⟨taken, none_waits⟩ := all done
  rw [taken] at holds
  exact ⟨holds, none_waits⟩

/-- A compaction whose outcome is good leaves nothing but the new records. -/
theorem compact_of_ok {events : List Event} (done : (l.compact events).1 = .ok ()) :
    (l.compact events).2.Whole (records events) := by
  obtain ⟨compacted, -, -⟩ := compact_spec l events
  generalize l.compact events = r at compacted done
  cases compacted with
  | givenUp | unopened => cases done
  | done log gone => exact ⟨⟨rfl, records events, log, List.append_nil _⟩, rfl⟩

end Log

/-! ## One event that finds room -/

theorem record_ne_nil (e : Event) : record e ≠ [] := by
  intro none
  have length := congrArg List.length none
  rw [record_eq_framed, length_framed] at length
  cases length

/-- Parts for which there is room go into the buffer, and no call is made. -/
theorem Writer.putAll_of_room (w : Writer) (d : Disk) {parts : List (List UInt8)}
    (short : ∀ part ∈ parts, part.length < capacity)
    (room : w.pending.length + parts.flatten.length ≤ capacity) :
    w.putAll d parts = (.ok (), { w with pending := w.pending ++ parts.flatten }, d) := by
  induction parts generalizing w with
  | nil => simp [putAll]
  | cons part parts ih =>
    rw [List.flatten_cons, List.length_append] at room
    have fits : part.length + w.pending.length ≤ capacity ∧ part.length < capacity :=
      ⟨by omega, short part List.mem_cons_self⟩
    rw [putAll, put, if_pos fits]
    dsimp only
    rw [ih _ (fun part h => short part (List.mem_cons_of_mem _ h))
      (by rw [List.length_append]; omega)]
    simp

namespace Log

variable {d : Disk} {bytes waiting : List UInt8} {appended : Nat} {e : Event}

/-- An event that finds room is flushed with what waits. -/
theorem commit_of_room {file : Option FileName} (small : (payload e).length < capacity)
    (room : waiting.length + (record e).length ≤ capacity) :
    commit ⟨d, ⟨file, waiting⟩, appended⟩ [[e]] =
      flush ⟨d, ⟨file, waiting ++ record e⟩, appended + 1⟩ := by
  have short : ∀ part ∈ recordParts e, part.length < capacity := by
    have of_all := short_of_small (List.forall_mem_singleton.2 small)
    rwa [List.flatMap_singleton] at of_all
  have buffered : Writer.putEvent ⟨file, waiting⟩ d e = (.ok (), ⟨file, waiting ++ record e⟩, d) :=
    Writer.putAll_of_room ⟨file, waiting⟩ d short room
  simp only [commit, List.flatten_singleton, bufferAll, buffer, buffered]
  rfl

/-- What two calls that succeed do: all that waits is in the file with the event. -/
theorem commit_of_written (log : d.log = .file bytes) (small : (payload e).length < capacity)
    (room : waiting.length + (record e).length ≤ capacity) (written : d.fate d.calls .write = none)
    (synced : d.fate (d.calls + 1) .sync = none) :
    commit ⟨d, ⟨some .log, waiting⟩, appended⟩ [[e]] =
      (.ok (), ⟨{ d with log := .file (bytes ++ (waiting ++ record e)), calls := d.calls + 2 },
        .new .log, appended + 1⟩) := by
  obtain ⟨log', temp, fate, calls⟩ := d
  cases log
  have write : Disk.failure? ⟨.file bytes, temp, fate, calls⟩ .write = none := written
  have sync : Disk.failure? ⟨.file (bytes ++ (waiting ++ record e)), temp, fate, calls + 1⟩ .sync =
      none := synced
  have drained : Writer.drain ⟨some .log, waiting ++ record e⟩ ⟨.file bytes, temp, fate, calls⟩ =
      (.ok (), .new .log, ⟨.file (bytes ++ (waiting ++ record e)), temp, fate, calls + 1⟩) := by
    unfold Writer.drain
    split
    · exact absurd ‹_› (List.append_ne_nil_of_right_ne_nil _ (record_ne_nil e))
    · simp only [Disk.write, write]
      rfl
  rw [commit_of_room small room]
  simp only [flush, Writer.flush, drained, Disk.sync, Disk.attempt, sync]
  rfl

/-- What a write that fails at once does: the event waits with the rest. -/
theorem commit_of_denied {error : DiskError} (log : d.log = .file bytes)
    (small : (payload e).length < capacity)
    (room : waiting.length + (record e).length ≤ capacity)
    (denied : d.fate d.calls .write = some ⟨0, error⟩) :
    commit ⟨d, ⟨some .log, waiting⟩, appended⟩ [[e]] =
      (.error error, ⟨{ d with calls := d.calls + 1 }, ⟨some .log, waiting ++ record e⟩,
        appended + 1⟩) := by
  obtain ⟨log', temp, fate, calls⟩ := d
  cases log
  have write : Disk.failure? ⟨.file bytes, temp, fate, calls⟩ .write = some ⟨0, error⟩ := denied
  have drained : Writer.drain ⟨some .log, waiting ++ record e⟩ ⟨.file bytes, temp, fate, calls⟩ =
      (.error error, ⟨some .log, waiting ++ record e⟩, ⟨.file bytes, temp, fate, calls + 1⟩) := by
    unfold Writer.drain
    split
    · exact absurd ‹_› (List.append_ne_nil_of_right_ne_nil _ (record_ne_nil e))
    · simp [Disk.write, write, Disk.append, Disk.entry, Disk.setEntry, Disk.counted]
  rw [commit_of_room small room]
  simp only [flush, Writer.flush, drained]

/-- A file can be opened if the call does not fail. -/
theorem start_of_opened (log : d.log = .file bytes) (opened : d.fate d.calls .openEnd = none) :
    ∃ l, start d = .ok l := by
  have opens : d.failure? .openEnd = none := opened
  have present : d.counted.entry .log = .file bytes := log
  simp only [start, Disk.openEnd, Disk.attempt, opens, present]
  exact ⟨_, rfl⟩

end Log

end Timetable.Journal
