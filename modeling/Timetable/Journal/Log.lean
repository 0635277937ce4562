import Timetable.Journal.Writer

/-!
# The log

The journal with its writer. Transactions are buffered one after the other and made durable
together; compaction writes a new file beside the journal and lets it take the journal's place.
-/

set_option autoImplicit false

namespace Timetable.Journal

structure Log where
  disk : Disk
  writer : Writer
  /-- How many events have been appended since the journal was opened or compacted. -/
  appended : Nat

namespace Log

/-- Opens the journal of a disk. -/
def start (d : Disk) : Except DiskError Log :=
  match d.openEnd .log with
  | (.ok (), d) => .ok ⟨d, Writer.new .log, 0⟩
  | (.error e, _) => .error e

/-- The events that can be read from a disk. Where there is no file there are none. -/
def events (d : Disk) : Except DiskError (List Event) :=
  match d.log with
  | .absent => .ok []
  | .directory => .error .isADirectory
  | .file bytes => .ok (replay bytes)

/-- Puts an event into the buffer. -/
def buffer (l : Log) (e : Event) : Outcome × Log :=
  match l.writer.putEvent l.disk e with
  | (.ok (), w, d) => (.ok (), ⟨d, w, l.appended + 1⟩)
  | (.error e, w, d) => (.error e, ⟨d, w, l.appended⟩)

/-- Puts events into the buffer until one fails. -/
def bufferAll (l : Log) : List Event → Outcome × Log
  | [] => (.ok (), l)
  | e :: rest =>
    match l.buffer e with
    | (.ok (), l) => l.bufferAll rest
    | (.error e, l) => (.error e, l)

/-- Makes durable what has been buffered. -/
def flush (l : Log) : Outcome × Log :=
  let (outcome, w, d) := l.writer.flush l.disk
  (outcome, { l with disk := d, writer := w })

/-- Writes the transactions of a batch and flushes them once. The outcome is that of all of them.
They are flushed even after a failure, so that what has been buffered does not wait for the next
batch. -/
def commit (l : Log) (batch : List (List Event)) : Outcome × Log :=
  let (buffered, l) := l.bufferAll batch.flatten
  let (flushed, l) := l.flush
  (buffered.bind fun _ => flushed, l)

/-- Closes the journal. What waits in the buffer is written if that can be done. -/
def close (l : Log) : Disk := (l.writer.drain l.disk).2.2

/-- Writes events to the temporary file. -/
def writeTemp (d : Disk) (events : List Event) : Outcome × Disk :=
  match d.create .temp with
  | (.error e, d) => (.error e, d)
  | (.ok (), d) =>
    match (Writer.new .temp).putAll d (events.flatMap recordParts) with
    | (.error e, _, d) => (.error e, d)
    | (.ok (), w, d) =>
      let (outcome, _, d) := w.flush d
      (outcome, d)

/-- Lets the temporary file take the place of the journal and goes on at its end. What waited in
the buffer is lost with the old file. -/
def swap (l : Log) : Outcome × Log :=
  match l.disk.rename with
  | (.error e, d) => (.error e, { l with disk := d })
  | (.ok (), d) =>
    match d.openEnd .log with
    | (.error e, d) => (.error e, { l with disk := d, writer := { l.writer with file := none } })
    | (.ok (), d) => (.ok (), ⟨d, Writer.new .log, 0⟩)

/-- Replaces the content of the journal. -/
def compact (l : Log) (events : List Event) : Outcome × Log :=
  match writeTemp l.disk events with
  | (.error e, d) => (.error e, { l with disk := d })
  | (.ok (), d) => { l with disk := d }.swap

end Log

end Timetable.Journal
