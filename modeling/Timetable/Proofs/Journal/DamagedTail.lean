import Timetable.Proofs.Journal.Appending

/-!
# Appending behind a damaged tail

Whoever opens a journal goes on at the end of its file, wherever reading stopped. So what is
appended is read back if the file was read to its end. If it was not, then what was left unread is
the beginning of a frame into which the new records are drawn, and some event is lost that way: the
tail fixes where its frame ends before it can be told which event comes next.
-/

set_option autoImplicit false

namespace Timetable.Journal

/-- Events are appended to the journal of a disk and flushed, and this leads to the other disk. -/
def Appended (d : Disk) (events : List Event) (d' : Disk) : Prop :=
  ∃ l, Log.start d = .ok l ∧ (l.bufferAll events).1 = .ok () ∧
    (l.bufferAll events).2.flush.1 = .ok () ∧ d' = (l.bufferAll events).2.flush.2.disk

variable {d d' : Disk} {events : List Event} {before : List UInt8}

/-- The records stand behind what was in the file. -/
theorem Appended.log_eq (h : Appended d events d') (file : d.log = .file before) :
    d'.log = .file (before ++ records events) := by
  obtain ⟨l, opened, buffered, flushed, rfl⟩ := h
  obtain ⟨holds, -, -⟩ := Log.start_spec opened
  obtain ⟨n, taken, -, done, -⟩ := Log.bufferAll_spec holds events
  rw [done buffered, Disk.bytes, Disk.entry, file] at taken
  obtain ⟨kept, -, drained, -⟩ := Log.flush_spec taken
  exact kept.log_eq (drained flushed)

/-- On a disk that works appending succeeds. -/
theorem exists_appended (works : d.Works) (file : d.log = .file before) (events : List Event) :
    ∃ d', Appended d events d' := by
  obtain ⟨l, opened⟩ := Log.start_of_works works (by rw [file]; nofun)
  obtain ⟨holds, -, touches⟩ := Log.start_spec opened
  obtain ⟨n, taken, touches', -, buffered⟩ := Log.bufferAll_spec holds events
  obtain ⟨-, -, -, flushed⟩ := Log.flush_spec taken
  have works' := touches.works works
  exact ⟨_, l, opened, buffered works', flushed (touches'.works works'), rfl⟩

theorem Appended.events_eq (h : Appended d events d') (file : d.log = .file before) :
    Log.events d' = .ok (replay before ++ replay (unread before ++ records events)) := by
  rw [Log.events, h.log_eq file]
  exact congrArg Except.ok (replay_append before _)

/-! ## The frame that a tail begins -/

/-- The length in front of a frame that begins with fewer than four bytes of a tail takes in
the length of the record behind it. -/
theorem lt_length_of_short_tail {tail more rest payload : List UInt8} (ne_nil : tail ≠ [])
    (short : tail.length < 4) (fits : payload.length ≤ maxPayload)
    (h : tail ++ (38 :: 0 :: 0 :: 0 :: more) = framed payload ++ rest) : 9000 < payload.length := by
  have length := ofLittleEndian_take_framed fits rest
  have low : (38 : UInt8).toNat = 38 := rfl
  rw [← h] at length
  rcases tail with _ | ⟨a, _ | ⟨b, _ | ⟨c, _ | ⟨t, tail⟩⟩⟩⟩
  · exact absurd rfl ne_nil
  · simp only [List.cons_append, List.nil_append, List.take_succ_cons, ofLittleEndian_cons,
      low] at length
    omega
  · simp only [List.cons_append, List.nil_append, List.take_succ_cons, ofLittleEndian_cons,
      low] at length
    omega
  · simp only [List.cons_append, List.nil_append, List.take_succ_cons, ofLittleEndian_cons,
      low] at length
    omega
  · simp only [List.length_cons] at short
    omega

/-- The first event behind a tail is read from a frame that the tail begins. -/
theorem exists_framed_of_replay {bytes : List UInt8} {e : Event} {es : List Event}
    (h : replay bytes = e :: es) :
    ∃ payload rest, payload.length ≤ maxPayload ∧ ofPayload? payload = some e ∧
      bytes = framed payload ++ rest := by
  obtain ⟨rest, next, -⟩ := replay_eq_cons_iff.1 h
  obtain ⟨payload, fits, read, eq⟩ := next?_eq_some_iff.1 next
  exact ⟨payload, rest, fits, read, eq⟩

/-- What the record of a new supervisor begins with, whoever that is. -/
def linkFront : List UInt8 :=
  littleEndian 4 80 ++ (putUInt32 5 ++ (putIdent (.ofNat 0) ++ putIdent (.ofNat 0)))

theorem length_linkFront : linkFront.length = 76 := by simp [linkFront]

theorem record_supervisorAdded (user : UserId) :
    ∃ more, record (.supervisorAdded ⟨.ofNat 0, .ofNat 0, user⟩) = linkFront ++ more := by
  have length : (payload (.supervisorAdded ⟨.ofNat 0, .ofNat 0, user⟩)).length = 80 := by
    simp [payload, putFields]
  rw [record_eq_framed, framed, length]
  simp only [payload, putFields, putSupervisor, linkFront, List.append_assoc]
  exact ⟨_, rfl⟩

theorem record_slotDeleted (i : Ident) :
    ∃ more, record (.slotDeleted i) = 38 :: 0 :: 0 :: 0 :: more ∧ more.length = 42 := by
  have length : (payload (.slotDeleted i)).length = 38 := by simp [payload, putFields]
  have low : littleEndian 4 38 = [38, 0, 0, 0] := by decide
  rw [record_eq_framed, framed, length, low]
  exact ⟨_, rfl, by simp [length]⟩

/-- Only an empty tail lets every record be read that is written behind it. The deletion of a slot
tells where the frame of the tail ends, and there the records of two new supervisors are still the
same. -/
theorem eq_nil_of_read {tail : List UInt8}
    (read : ∀ e, (payload e).length ≤ 100 → replay (tail ++ record e) = [e]) : tail = [] := by
  have linked (user : UserId) :
      replay (tail ++ record (.supervisorAdded ⟨.ofNat 0, .ofNat 0, user⟩)) =
        [.supervisorAdded ⟨.ofNat 0, .ofNat 0, user⟩] :=
    read _ (by simp [payload, putFields])
  apply Classical.byContradiction
  intro ne_nil
  obtain ⟨p, rest, fits, -, eq⟩ := exists_framed_of_replay
    (read (.slotDeleted (.ofNat 0)) (by simp [payload, putFields]))
  obtain ⟨deleted, record_eq, length⟩ := record_slotDeleted (.ofNat 0)
  rw [record_eq] at eq
  have total := congrArg List.length eq
  simp only [List.length_append, List.length_cons, length_framed, length] at total
  rcases Nat.lt_or_ge tail.length 4 with short | long
  · have := lt_length_of_short_tail ne_nil short fits eq
    omega
  -- The tail has the length of its frame within it, and so the end of that frame is known.
  have front (more : List UInt8) : (tail ++ more).take 4 = tail.take 4 :=
    List.take_append_of_le_length long
  obtain ⟨q, rest', fits', first, eq'⟩ := exists_framed_of_replay (linked 0)
  have same : q.length = p.length := by
    rw [← ofLittleEndian_take_framed fits rest, ← ofLittleEndian_take_framed fits' rest', ← eq,
      ← eq', front, front]
  obtain ⟨more, record_eq'⟩ := record_supervisorAdded 0
  rw [record_eq', ← List.append_assoc] at eq'
  obtain ⟨rest'', within⟩ := exists_append_of_framed eq' (by
    rw [List.length_append, length_linkFront]
    omega)
  obtain ⟨more', record_eq''⟩ := record_supervisorAdded 1
  have second := linked 1
  rw [record_eq'', ← List.append_assoc, within, List.append_assoc,
    replay_of_next? (next?_eq_some_iff.2 ⟨q, fits', first, rfl⟩)] at second
  cases second

/-! ## What is read later -/

/-- **What is appended to a journal is read back, behind the events that it had, if and only if
reading it had left nothing unread.** -/
theorem appended_read_iff (before : List UInt8) :
    (∀ (d d' : Disk) (events : List Event), d.log = .file before → (∀ e ∈ events, Fits e) →
      Appended d events d' → Log.events d' = .ok (replay before ++ events)) ↔
    unread before = [] := by
  constructor
  · intro read
    apply eq_nil_of_read
    intro e small
    obtain ⟨d', appended⟩ := exists_appended (d := ⟨.file before, .absent, fun _ _ => none, 0⟩)
      (fun _ _ => rfl) rfl [e]
    have fit : ∀ e' ∈ [e], Fits e' := by
      intro e' h
      rw [List.mem_singleton.1 h]
      exact Nat.le_trans small (by decide)
    have all := read _ d' [e] rfl fit appended
    rw [appended.events_eq rfl, records_singleton] at all
    exact List.append_cancel_left (Except.ok.inj all)
  · intro all_read d d' events file fit appended
    rw [appended.events_eq file, all_read, List.nil_append, replay_records fit]

/-- Of a record its length and two bytes of nine are there. What is appended behind them fills it
up, and of that nothing is read. -/
theorem not_read_behind_torn_record :
    ∃ d d' : Disk, d.log = .file [9, 0, 0, 0, 1, 2] ∧ Fits (.slotDeleted (.ofNat 0)) ∧
      Appended d [.slotDeleted (.ofNat 0)] d' ∧
      Log.events d' ≠ .ok (replay [9, 0, 0, 0, 1, 2] ++ [.slotDeleted (.ofNat 0)]) := by
  obtain ⟨d', appended⟩ := exists_appended
    (d := ⟨.file [9, 0, 0, 0, 1, 2], .absent, fun _ _ => none, 0⟩) (fun _ _ => rfl) rfl
    [.slotDeleted (.ofNat 0)]
  refine ⟨_, d', rfl, by decide, appended, ?_⟩
  have torn : next? [9, 0, 0, 0, 1, 2] = none := by decide
  have filled : next? ([9, 0, 0, 0, 1, 2] ++ records [.slotDeleted (.ofNat 0)]) = none := by
    decide +kernel
  rw [appended.events_eq rfl, unread_of_next?_none torn, replay_of_next?_none torn,
    replay_of_next?_none filled]
  nofun

end Timetable.Journal
