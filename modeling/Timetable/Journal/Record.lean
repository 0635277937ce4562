import Timetable.Journal.Checksum
import Timetable.Journal.Payload

/-!
# Records

The journal is a sequence of records: the length of a payload, the payload, and its checksum.
Reading goes as far as whole and sound records follow one another and passes over the rest, so that
a record that was cut off or damaged ends the journal.
-/

set_option autoImplicit false

namespace Timetable.Journal

/-- A length above this one is taken for damage. -/
def maxPayload : Nat := 1048576

/-- The three parts of a record, in the order in which they are written. -/
def recordParts (e : Event) : List (List UInt8) :=
  let bytes := payload e
  [littleEndian 4 bytes.length, bytes, putUInt32 (checksum bytes)]

def record (e : Event) : List UInt8 := (recordParts e).flatten

def records (events : List Event) : List UInt8 := events.flatMap record

/-- The payload of the first record, if that is whole and sound, and the bytes after it. -/
def frame? (bytes : List UInt8) : Option (List UInt8 × List UInt8) := do
  let (front, rest) ← split? 4 bytes
  let length := ofLittleEndian front
  if length ≤ maxPayload then
    let (payload, rest) ← split? length rest
    let (sum, rest) ← split? 4 rest
    if ofLittleEndian sum = (checksum payload).toNat then some (payload, rest) else none
  else none

/-- The event of the first record, and the bytes after it. -/
def next? (bytes : List UInt8) : Option (Event × List UInt8) := do
  let (payload, rest) ← frame? bytes
  return (← ofPayload? payload, rest)

/-- Besides its payload a record takes eight bytes. -/
theorem length_of_frame? {bytes payload rest : List UInt8}
    (h : frame? bytes = some (payload, rest)) :
    bytes.length = payload.length + rest.length + 8 := by
  simp only [frame?, bind, Option.bind_eq_some_iff, Prod.exists] at h
  obtain ⟨front, after, hfront, h⟩ := h
  split at h
  · simp only [Option.bind_eq_some_iff, Prod.exists] at h
    obtain ⟨payload', after', hpayload, sum, rest', hsum, h⟩ := h
    split at h
    · cases h
      have := length_of_split? hfront
      have := length_of_split? hpayload
      have := length_of_split? hsum
      have := length_fst_of_split? hpayload
      omega
    · cases h
  · cases h

theorem length_of_next? {bytes rest : List UInt8} {e : Event}
    (h : next? bytes = some (e, rest)) : rest.length + 8 ≤ bytes.length := by
  simp only [next?, bind, Option.bind_eq_some_iff, Prod.exists] at h
  obtain ⟨payload, rest', hframe, e', _, h⟩ := h
  cases h
  have := length_of_frame? hframe
  omega

/-- The events of the sound records at the front. -/
def replay (bytes : List UInt8) : List Event :=
  match _h : next? bytes with
  | some (e, rest) => e :: replay rest
  | none => []
termination_by bytes.length
decreasing_by
  have := length_of_next? _h
  omega

end Timetable.Journal
