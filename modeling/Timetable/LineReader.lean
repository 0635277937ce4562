import Timetable.Journal.Binary
import Timetable.Limits

/-!
# Reading lines

Bytes come in, any number at a time, and a reader cuts them into lines. The last line needs no line
feed once nothing more will come in. A line that is too long is reported once, and the rest of it is
dropped. When it is asked again right after an error, the reader says once that it is at its end,
wherever it is.
-/

set_option autoImplicit false

namespace Timetable

structure LineReader where
  /-- What has come in and has not been read. -/
  buffer : List UInt8
  /-- Nothing more will come in. -/
  closed : Bool
  /-- The rest of a line that was too long is still to be dropped. -/
  discarding : Bool
  /-- An error was what the reader gave last. -/
  failed : Bool

/-- What a reader gives when it is asked for a line. -/
inductive Polled where
  | line (text : String)
  | tooLong
  /-- The line was not UTF-8. -/
  | invalid
  /-- The line may go on. -/
  | pending
  | ended

namespace LineReader

def new : LineReader := ⟨[], false, false, false⟩

/-- Bytes come in. -/
def receive (r : LineReader) (bytes : List UInt8) : LineReader :=
  { r with buffer := r.buffer ++ bytes }

def close (r : LineReader) : LineReader := { r with closed := true }

/-- A line without the carriage return at its end. -/
def withoutReturn (bytes : List UInt8) : List UInt8 :=
  if bytes.getLast? = some 13 then bytes.dropLast else bytes

/-- Drops what is still to be dropped, up to and with the line feed. -/
def skip (r : LineReader) : LineReader :=
  if r.discarding then
    match r.buffer.dropWhile (· ≠ 10) with
    | [] => { r with buffer := [] }
    | _ :: rest => { r with buffer := rest, discarding := false }
  else r

/-- Gives a line; the reader goes on with the rest. -/
def give (r : LineReader) (line rest : List UInt8) : Polled × LineReader :=
  match Journal.ofUtf8? (withoutReturn line) with
  | some text => (.line text, { r with buffer := rest })
  | none => (.invalid, { r with buffer := rest, failed := true })

/-- The bytes up to the first line feed, and no more than the first that are too many. -/
def firstLine (bytes : List UInt8) : List UInt8 :=
  (bytes.take (maxLineLength + 1)).takeWhile (· ≠ 10)

/-- Cuts off the first line of what has come in. -/
def cut (r : LineReader) : Polled × LineReader :=
  let line := firstLine r.buffer
  let rest := r.buffer.drop line.length
  if line.length ≤ maxLineLength ∧ rest ≠ [] then r.give line (rest.drop 1)
  else if maxLineLength < r.buffer.length then
    (.tooLong, { r with discarding := true, failed := true })
  else if !r.closed then (.pending, r)
  else if r.buffer = [] ∨ r.buffer = [13] then (.ended, r)
  else r.give r.buffer []

/-- Asks for a line. -/
def poll (r : LineReader) : Polled × LineReader :=
  if r.failed then (.ended, { r with failed := false }) else r.skip.cut

/-- What is left to do: every line is a step, and so is the end behind an error. -/
def left (r : LineReader) : Nat := 2 * r.buffer.length + if r.failed then 0 else 1

theorem length_skip (r : LineReader) : r.skip.buffer.length ≤ r.buffer.length := by
  unfold skip
  split
  · have shorter := (r.buffer.dropWhile_sublist (· ≠ 10)).length_le
    split
    · exact Nat.zero_le _
    · rename_i found
      rw [found, List.length_cons] at shorter
      exact Nat.le_of_succ_le shorter
  · exact Nat.le_refl _

theorem left_give {r r' : LineReader} {line rest : List UInt8} {polled : Polled}
    (h : r.give line rest = (polled, r')) : r'.left ≤ 2 * rest.length + 1 := by
  unfold give at h
  split at h
  · cases h
    unfold left
    dsimp only
    split <;> omega
  · cases h
    exact Nat.le_succ _

theorem left_cut {r r' : LineReader} {polled : Polled} (h : r.cut = (polled, r'))
    (goes_on : polled ≠ .pending ∧ polled ≠ .ended) : r'.left ≤ 2 * r.buffer.length := by
  unfold cut at h
  dsimp only at h
  split at h
  · rename_i found
    have given := left_give h
    have some_left := List.length_pos_iff.2 found.2
    rw [List.length_drop] at some_left
    rw [List.drop_drop, List.length_drop] at given
    omega
  · split at h
    · cases h
      exact Nat.le_refl _
    · split at h
      · cases h
        exact absurd rfl goes_on.1
      · split at h
        · cases h
          exact absurd rfl goes_on.2
        · rename_i not_empty
          have given := left_give h
          have some_left := List.length_pos_iff.2 fun empty => not_empty (.inl empty)
          rw [List.length_nil] at given
          omega

/-- Every line and every error is a step towards the end. -/
theorem left_poll {r r' : LineReader} {polled : Polled} (h : r.poll = (polled, r'))
    (goes_on : polled ≠ .pending ∧ polled ≠ .ended) : r'.left < r.left := by
  unfold poll at h
  split at h
  · cases h
    exact absurd rfl goes_on.2
  · rename_i sound
    have step := left_cut h goes_on
    have shorter := r.length_skip
    unfold left at step ⊢
    rw [if_neg sound]
    omega

end LineReader

end Timetable
