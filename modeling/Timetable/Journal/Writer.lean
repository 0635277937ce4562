import Timetable.Journal.Disk
import Timetable.Journal.Record

/-!
# Writing through a buffer

Bytes wait in a buffer until it would overflow or is flushed. A write that fails leaves in the
buffer what it has not written, and that comes first when the buffer is written again.
-/

set_option autoImplicit false

namespace Timetable.Journal

/-- How many bytes a buffer holds. -/
def capacity : Nat := 8192

structure Writer where
  /-- The file that is written to; none once another file has taken its name. -/
  file : Option FileName
  /-- The bytes that wait to be written. -/
  pending : List UInt8

namespace Writer

def new (file : FileName) : Writer := ⟨some file, []⟩

/-- Writes what waits in the buffer. -/
def drain (w : Writer) (d : Disk) : Outcome × Writer × Disk :=
  match w.pending with
  | [] => (.ok (), w, d)
  | bytes =>
    match d.write w.file bytes with
    | (some f, d) => (.error f.error, { w with pending := bytes.drop f.kept }, d)
    | (none, d) => (.ok (), { w with pending := [] }, d)

/-- Adds bytes to the buffer. The buffer is written first if it has no room for them, and bytes
that would fill it by themselves pass it by. -/
def put (w : Writer) (d : Disk) (bytes : List UInt8) : Outcome × Writer × Disk :=
  if bytes.length + w.pending.length ≤ capacity ∧ bytes.length < capacity then
    (.ok (), { w with pending := w.pending ++ bytes }, d)
  else
    match w.drain d with
    | (.error e, w, d) => (.error e, w, d)
    | (.ok (), w, d) =>
      if bytes.length < capacity then (.ok (), { w with pending := bytes }, d)
      else
        match d.write w.file bytes with
        | (some f, d) => (.error f.error, w, d)
        | (none, d) => (.ok (), w, d)

def putAll (w : Writer) (d : Disk) : List (List UInt8) → Outcome × Writer × Disk
  | [] => (.ok (), w, d)
  | bytes :: rest =>
    match w.put d bytes with
    | (.error e, w, d) => (.error e, w, d)
    | (.ok (), w, d) => w.putAll d rest

/-- Adds the record of an event, part by part. -/
def putEvent (w : Writer) (d : Disk) (e : Event) : Outcome × Writer × Disk :=
  w.putAll d (recordParts e)

/-- Writes what waits in the buffer and has the disk keep it. -/
def flush (w : Writer) (d : Disk) : Outcome × Writer × Disk :=
  match w.drain d with
  | (.error e, w, d) => (.error e, w, d)
  | (.ok (), w, d) =>
    let (outcome, d) := d.sync
    (outcome, w, d)

end Writer

end Timetable.Journal
