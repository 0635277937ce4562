import Timetable.Proofs.Journal.Replay

/-!
# A journal that grows

Whatever stands in a journal, reading goes through it from the front, one event after the other, and
takes at least eight bytes for each. Bytes that are added behind, whatever they complete or spoil,
are behind all that has been read by then: what was read before is read again, of the same bytes.
-/

set_option autoImplicit false

namespace Timetable.Journal

/-- What lies before the reader when it has read `n` events. -/
def left? : (n : Nat) → (bytes : List UInt8) → Option (List UInt8)
  | 0, bytes => some bytes
  | n + 1, bytes => (next? bytes).bind fun (_, rest) => left? n rest

variable {bytes rest : List UInt8} {e : Event} {n : Nat}

theorem left?_of_next? (h : next? bytes = some (e, rest)) (n : Nat) :
    left? (n + 1) bytes = left? n rest := by
  rw [left?, h, Option.bind_some]

/-- An event is read of the bytes in front, eight or more. -/
theorem exists_taken_of_next? (h : next? bytes = some (e, rest)) :
    ∃ taken, 8 ≤ taken.length ∧ bytes = taken ++ rest := by
  obtain ⟨payload, -, -, rfl⟩ := next?_eq_some_iff.1 h
  refine ⟨framed payload, ?_, rfl⟩
  rw [length_framed]
  exact Nat.le_add_left 8 _

/-- The reader comes as far as it came, with more bytes before it. -/
theorem left?_append (h : left? n bytes = some rest) (more : List UInt8) :
    left? n (bytes ++ more) = some (rest ++ more) := by
  induction n generalizing bytes with
  | zero =>
    cases h
    rfl
  | succ n ih =>
    obtain ⟨⟨e, rest'⟩, next, left⟩ := Option.bind_eq_some_iff.1 h
    rw [left?_of_next? (next?_append next more)]
    exact ih left

/-- Each event is read where the one before it ended, of bytes of its own. -/
theorem exists_left?_of_getElem? (read : (replay bytes)[n]? = some e) :
    ∃ taken rest, 8 ≤ taken.length ∧ next? (taken ++ rest) = some (e, rest) ∧
      left? n bytes = some (taken ++ rest) ∧ left? (n + 1) bytes = some rest := by
  induction n generalizing bytes with
  | zero =>
    cases first : next? bytes with
    | none =>
      rw [replay_of_next?_none first] at read
      cases read
    | some found =>
      obtain ⟨e', rest⟩ := found
      rw [replay_of_next? first] at read
      cases read
      obtain ⟨taken, long, rfl⟩ := exists_taken_of_next? first
      exact ⟨taken, rest, long, first, rfl, left?_of_next? first 0⟩
  | succ n ih =>
    cases first : next? bytes with
    | none =>
      rw [replay_of_next?_none first] at read
      cases read
    | some found =>
      obtain ⟨e', rest'⟩ := found
      rw [replay_of_next? first, List.getElem?_cons_succ] at read
      obtain ⟨taken, rest, long, next, before, behind⟩ := ih read
      refine ⟨taken, rest, long, next, ?_, ?_⟩
      · rw [left?_of_next? first, before]
      · rw [left?_of_next? first, behind]

/-- The reader stops where nothing more can be read. -/
theorem left?_length_replay (bytes : List UInt8) :
    left? (replay bytes).length bytes = some (unread bytes) := by
  fun_induction unread bytes with
  | case1 bytes e rest h ih =>
    rw [replay_of_next? h, List.length_cons, left?_of_next? h]
    exact ih
  | case2 bytes h =>
    rw [replay_of_next?_none h]
    rfl

/-- For each event eight bytes have been read. -/
theorem length_replay_le (bytes : List UInt8) :
    8 * (replay bytes).length + (unread bytes).length ≤ bytes.length := by
  fun_induction unread bytes with
  | case1 bytes e rest h ih =>
    have shorter := length_of_next? h
    rw [replay_of_next? h, List.length_cons]
    omega
  | case2 bytes h =>
    rw [replay_of_next?_none h, List.length_nil]
    omega

/-- **What is read of a journal that has grown**, whatever stood in it and whatever has been added:
first the events that were read before, each of the same bytes as before. The reader takes at least
eight bytes for each event, goes on behind them, and stops after no more events than an eighth of
the bytes, where nothing more can be read. -/
theorem events_of_grown (d : Disk) (bytes more : List UInt8) :
    ∃ events later, Log.events { d with log := .file bytes } = .ok events ∧
      Log.events { d with log := .file (bytes ++ more) } = .ok (events ++ later) ∧
      events.length ≤ bytes.length / 8 ∧
      (∀ n e, events[n]? = some e → ∃ taken rest, 8 ≤ taken.length ∧
        next? (taken ++ rest) = some (e, rest) ∧
        left? n bytes = some (taken ++ rest) ∧ left? (n + 1) bytes = some rest ∧
        left? n (bytes ++ more) = some (taken ++ (rest ++ more)) ∧
        left? (n + 1) (bytes ++ more) = some (rest ++ more)) ∧
      ∃ stopped, left? events.length bytes = some stopped ∧ next? stopped = none := by
  refine ⟨replay bytes, replay (unread bytes ++ more), rfl, ?_, ?_, ?_, ?_⟩
  · exact congrArg Except.ok (replay_append bytes more)
  · have eighth := length_replay_le bytes
    omega
  · intro n e read
    obtain ⟨taken, rest, long, next, before, behind⟩ := exists_left?_of_getElem? read
    have before' := left?_append before more
    rw [List.append_assoc] at before'
    exact ⟨taken, rest, long, next, before, behind, before', left?_append behind more⟩
  · exact ⟨unread bytes, left?_length_replay bytes, next?_unread bytes⟩

end Timetable.Journal
