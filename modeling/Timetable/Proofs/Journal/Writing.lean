import Timetable.Journal.Log

/-!
# What becomes of written bytes

The bytes that a writer has taken are those in its file and those that wait in its buffer, one after
the other. A write only moves the border between the two, whether it fails or not. So whatever a
writer has once taken stays, and a call that succeeds has taken all of its bytes.
-/

set_option autoImplicit false

namespace Timetable.Journal

theorem Entry.file_ne_directory (bytes : List UInt8) : Entry.file bytes ≠ .directory := nofun

/-- No call fails. -/
def Disk.Works (d : Disk) : Prop := ∀ n c, d.fate n c = none

/-- Calls that touch only the file of that name lead from one disk to the other. -/
structure Disk.Touches (name : FileName) (d d' : Disk) : Prop where
  fate : d'.fate = d.fate
  others : ∀ other, other ≠ name → d'.entry other = d.entry other

namespace Disk

variable {name : FileName} {d d' d'' : Disk}

theorem Touches.refl (name : FileName) (d : Disk) : Touches name d d := ⟨rfl, fun _ _ => rfl⟩

theorem Touches.trans (first : Touches name d d') (second : Touches name d' d'') :
    Touches name d d'' :=
  ⟨second.fate.trans first.fate, fun other h => (second.others other h).trans (first.others other h)⟩

theorem Touches.works (h : Touches name d d') (works : d.Works) : d'.Works := by
  intro n c
  rw [h.fate]
  exact works n c

@[simp] theorem entry_counted (d : Disk) (name : FileName) : d.counted.entry name = d.entry name := by
  cases name <;> rfl

@[simp] theorem entry_setEntry (d : Disk) (name : FileName) (e : Entry) :
    (d.setEntry name e).entry name = e := by
  cases name <;> rfl

theorem entry_setEntry_of_ne {other : FileName} (h : other ≠ name) (e : Entry) :
    (d.setEntry name e).entry other = d.entry other := by
  cases name <;> cases other <;> first | rfl | exact absurd rfl h

theorem touches_counted (name : FileName) (d : Disk) : Touches name d d.counted :=
  ⟨rfl, fun other _ => entry_counted d other⟩

theorem touches_setEntry (d : Disk) (name : FileName) (e : Entry) :
    Touches name d (d.setEntry name e) :=
  ⟨by cases name <;> rfl, fun _ h => entry_setEntry_of_ne h e⟩

theorem append_eq {front : List UInt8} (h : d.entry name = .file front) (bytes : List UInt8) :
    d.append (some name) bytes = d.setEntry name (.file (front ++ bytes)) := by
  simp only [append, h]

/-- A write puts a prefix of its bytes into the file, and all of them if it does not fail. -/
theorem write_spec {front : List UInt8} (h : d.entry name = .file front) (bytes : List UInt8) :
    ∃ kept, (d.write (some name) bytes).2.entry name = .file (front ++ bytes.take kept) ∧
      Touches name d (d.write (some name) bytes).2 ∧
      (∀ f, (d.write (some name) bytes).1 = some f → f.kept = kept) ∧
      ((d.write (some name) bytes).1 = none → bytes.take kept = bytes) ∧
      (d.Works → (d.write (some name) bytes).1 = none) := by
  unfold write
  split
  · rename_i f failure
    refine ⟨f.kept, ?_, ?_, ?_, ?_, ?_⟩
    · rw [append_eq h, entry_counted, entry_setEntry]
    · rw [append_eq h]
      exact (touches_setEntry d name _).trans (touches_counted name _)
    · intro f' h'
      cases h'
      rfl
    · intro h'
      cases h'
    · intro works
      cases failure.symm.trans (works d.calls .write)
  · refine ⟨bytes.length, ?_, ?_, ?_, ?_, ?_⟩
    · rw [append_eq h, entry_counted, entry_setEntry, List.take_length]
    · rw [append_eq h]
      exact (touches_setEntry d name _).trans (touches_counted name _)
    · intro f' h'
      cases h'
    · intro _
      exact List.take_length
    · intro _
      rfl

theorem sync_spec (name : FileName) (d : Disk) :
    Touches name d d.sync.2 ∧ d.sync.2.entry name = d.entry name ∧
      (d.Works → d.sync.1 = .ok ()) := by
  unfold sync attempt
  split
  · rename_i f failure
    refine ⟨touches_counted name d, entry_counted d name, ?_⟩
    intro works
    cases failure.symm.trans (works d.calls .sync)
  · exact ⟨touches_counted name d, entry_counted d name, fun _ => rfl⟩

/-- What is opened for writing at its end keeps its bytes, and a file that is not there is made. -/
theorem openEnd_spec (name : FileName) (d : Disk) :
    Touches name d (d.openEnd name).2 ∧
      ((d.openEnd name).1 = .ok () → (d.openEnd name).2.entry name = .file (d.bytes name)) ∧
      ((d.openEnd name).1 ≠ .ok () → (d.openEnd name).2.entry name = d.entry name) ∧
      (d.Works → d.entry name ≠ .directory → (d.openEnd name).1 = .ok ()) := by
  rw [openEnd, attempt]
  have counted := touches_counted name d
  have same := entry_counted d name
  split
  · rename_i f failure
    exact ⟨counted, nofun, fun _ => same,
      fun works => nomatch failure.symm.trans (works d.calls .openEnd)⟩
  · rw [same]
    split
    · rename_i directory
      exact ⟨counted, nofun, fun _ => same, fun _ h => absurd directory h⟩
    · rename_i absent
      refine ⟨counted.trans (touches_setEntry ..), ?_, fun failed => absurd rfl failed,
        fun _ _ => rfl⟩
      intro _
      rw [entry_setEntry, bytes, absent]
    · rename_i present
      refine ⟨counted, ?_, fun failed => absurd rfl failed, fun _ _ => rfl⟩
      intro _
      rw [same, bytes, present]

/-- A file that is created is empty, and one that cannot be created is left as it was. -/
theorem create_spec (name : FileName) (d : Disk) :
    Touches name d (d.create name).2 ∧
      ((d.create name).1 = .ok () → (d.create name).2.entry name = .file []) ∧
      ((d.create name).1 ≠ .ok () → (d.create name).2.entry name = d.entry name) ∧
      (d.Works → d.entry name ≠ .directory → (d.create name).1 = .ok ()) := by
  rw [create, attempt]
  have counted := touches_counted name d
  have same := entry_counted d name
  split
  · rename_i f failure
    exact ⟨counted, nofun, fun _ => same,
      fun works => nomatch failure.symm.trans (works d.calls .create)⟩
  · rw [same]
    split
    · rename_i directory
      exact ⟨counted, nofun, fun _ => same, fun _ h => absurd directory h⟩
    · exact ⟨counted.trans (touches_setEntry ..), fun _ => entry_setEntry ..,
        fun failed => absurd rfl failed, fun _ _ => rfl⟩

/-- The temporary file takes the place of the journal, or both are left as they were. -/
theorem rename_spec (d : Disk) :
    d.rename.2.fate = d.fate ∧
      (d.rename.1 = .ok () → d.rename.2.log = d.temp ∧ d.rename.2.temp = .absent) ∧
      (d.rename.1 ≠ .ok () → d.rename.2.log = d.log ∧ d.rename.2.temp = d.temp) ∧
      (d.Works → d.log ≠ .directory → d.rename.1 = .ok ()) := by
  rw [rename, attempt]
  split
  · rename_i f failure
    exact ⟨rfl, nofun, fun _ => ⟨rfl, rfl⟩,
      fun works => nomatch failure.symm.trans (works d.calls .rename)⟩
  · split
    · rename_i directory
      exact ⟨rfl, nofun, fun _ => ⟨rfl, rfl⟩, fun _ h => absurd directory h⟩
    · exact ⟨rfl, fun _ => ⟨rfl, rfl⟩, fun failed => absurd rfl failed, fun _ _ => rfl⟩

end Disk

namespace Writer

/-- The writer writes to the file of that name, and has taken these bytes since the file was made:
what stands in the file, then what waits. -/
structure Holds (name : FileName) (w : Writer) (d : Disk) (bytes : List UInt8) : Prop where
  file : w.file = some name
  taken : ∃ front, d.entry name = .file front ∧ front ++ w.pending = bytes

variable {name : FileName} {w : Writer} {d : Disk} {bytes : List UInt8}

/-- Nothing waits, so the file has all of it. -/
theorem Holds.entry_eq (h : Holds name w d bytes) (none_waits : w.pending = []) :
    d.entry name = .file bytes := by
  obtain ⟨front, entry, rfl⟩ := h.taken
  rw [entry, none_waits, List.append_nil]

/-- A drain keeps what was taken, however much of it gets into the file. -/
theorem drain_spec (h : Holds name w d bytes) :
    Holds name (w.drain d).2.1 (w.drain d).2.2 bytes ∧ d.Touches name (w.drain d).2.2 ∧
      ((w.drain d).1 = .ok () → (w.drain d).2.1.pending = []) ∧
      (d.Works → (w.drain d).1 = .ok ()) := by
  obtain ⟨front, entry, taken⟩ := h.taken
  unfold drain
  split
  · rename_i none_waits
    exact ⟨h, .refl name d, fun _ => none_waits, fun _ => rfl⟩
  · obtain ⟨kept, written, touches, failed, done, works⟩ := d.write_spec entry w.pending
    rw [h.file]
    split
    · rename_i f d' result
      rw [result] at written touches failed works
      refine ⟨⟨rfl, _, written, ?_⟩, touches, nofun, ?_⟩
      · rw [failed f rfl, List.append_assoc, List.take_append_drop, taken]
      · intro h
        cases works h
    · rename_i d' result
      rw [result] at written touches done
      refine ⟨⟨rfl, _, written, ?_⟩, touches, fun _ => rfl, fun _ => rfl⟩
      rw [done rfl, List.append_nil, taken]

/-- Of bytes that are put a prefix is taken, and all of them if that succeeds. If it fails, bytes
that do not fill the buffer by themselves are not taken at all. -/
theorem put_spec (h : Holds name w d bytes) (more : List UInt8) :
    ∃ n, Holds name (w.put d more).2.1 (w.put d more).2.2 (bytes ++ more.take n) ∧
      d.Touches name (w.put d more).2.2 ∧
      ((w.put d more).1 = .ok () → more.take n = more) ∧
      ((w.put d more).1 ≠ .ok () → more.length < capacity → n = 0) ∧
      (w.pending = [] → more.length < capacity → (w.put d more).1 = .ok ()) ∧
      (d.Works → (w.put d more).1 = .ok ()) := by
  have buffered (w : Writer) (d : Disk) (h : Holds name w d bytes) :
      Holds name { w with pending := w.pending ++ more } d (bytes ++ more.take more.length) := by
    obtain ⟨front, entry, rfl⟩ := h.taken
    exact ⟨h.file, front, entry, by rw [List.append_assoc, List.take_length]⟩
  obtain ⟨kept, touches, drained, works⟩ := drain_spec h
  unfold put
  split
  · exact ⟨more.length, buffered w d h, .refl name d, fun _ => List.take_length,
      fun failed => absurd rfl failed, fun _ _ => rfl, fun _ => rfl⟩
  · rename_i no_room
    have room : w.pending = [] → more.length < capacity → False := by
      intro none_waits short
      rw [none_waits] at no_room
      exact no_room ⟨Nat.le_of_lt short, short⟩
    generalize w.drain d = r at kept touches drained works
    obtain ⟨o, w', d'⟩ := r
    cases o with
    | error e =>
      refine ⟨0, ?_, touches, nofun, fun _ _ => rfl, fun h short => (room h short).elim,
        fun h => nomatch works h⟩
      rw [List.take_zero, List.append_nil]
      exact kept
    | ok u =>
      have none_waits : w'.pending = [] := drained rfl
      dsimp only
      split
      · rename_i short
        have taken := buffered w' d' kept
        rw [none_waits, List.nil_append] at taken
        exact ⟨more.length, taken, touches, fun _ => List.take_length,
          fun failed => absurd rfl failed, fun _ _ => rfl, fun _ => rfl⟩
      · rename_i long
        obtain ⟨n, written, touches', -, done, works'⟩ := d'.write_spec (kept.entry_eq none_waits) more
        have taken (d'' : Disk) (h : d''.entry name = .file (bytes ++ more.take n)) :
            Holds name w' d'' (bytes ++ more.take n) :=
          ⟨kept.file, _, h, by rw [none_waits, List.append_nil]⟩
        rw [kept.file]
        split
        · rename_i f d'' result
          rw [result] at written touches' works'
          exact ⟨n, taken d'' written, touches.trans touches', nofun, fun _ short => absurd short long,
            fun h short => (room h short).elim, fun h => nomatch works' (touches.works h)⟩
        · rename_i d'' result
          rw [result] at written touches' done
          exact ⟨n, taken d'' written, touches.trans touches', fun _ => done rfl,
            fun failed => absurd rfl failed, fun _ _ => rfl, fun _ => rfl⟩

theorem putAll_append (w : Writer) (d : Disk) (xs ys : List (List UInt8)) :
    w.putAll d (xs ++ ys) =
      match w.putAll d xs with
      | (.error e, w, d) => (.error e, w, d)
      | (.ok (), w, d) => w.putAll d ys := by
  induction xs generalizing w d with
  | nil => rfl
  | cons bytes xs ih =>
    rw [List.cons_append, putAll, putAll]
    split
    · rfl
    · exact ih ..

/-- Of parts that are put one after the other a prefix of their bytes is taken, and all of them if
that succeeds. -/
theorem putAll_spec (h : Holds name w d bytes) (parts : List (List UInt8)) :
    ∃ n, Holds name (w.putAll d parts).2.1 (w.putAll d parts).2.2 (bytes ++ parts.flatten.take n) ∧
      d.Touches name (w.putAll d parts).2.2 ∧
      ((w.putAll d parts).1 = .ok () → parts.flatten.take n = parts.flatten) ∧
      (d.Works → (w.putAll d parts).1 = .ok ()) := by
  induction parts generalizing w d bytes with
  | nil => exact ⟨0, by simpa [putAll] using h, .refl name d, fun _ => rfl, fun _ => rfl⟩
  | cons part parts ih =>
    obtain ⟨n, taken, touches, done, -, -, works⟩ := put_spec h part
    rw [putAll]
    generalize w.put d part = r at taken touches done works
    obtain ⟨o, w', d'⟩ := r
    cases o with
    | error e =>
      refine ⟨min n part.length, ?_, touches, nofun, fun h => nomatch works h⟩
      rw [List.flatten_cons, List.take_append_of_le_length (Nat.min_le_right _ _),
        ← List.take_eq_take_min]
      exact taken
    | ok u =>
      rw [done rfl] at taken
      obtain ⟨m, taken', touches', done', works'⟩ := ih taken
      refine ⟨part.length + m, ?_, touches.trans touches', fun h => ?_,
        fun h => works' (touches.works h)⟩
      · rw [List.flatten_cons, List.take_length_add_append, ← List.append_assoc]
        exact taken'
      · rw [List.flatten_cons, List.take_length_add_append, done' h]

/-- Of parts none of which fills the buffer by itself, the first ones are taken and the others not
at all. An empty buffer has room for the first. -/
theorem putAll_short (h : Holds name w d bytes) {parts : List (List UInt8)}
    (short : ∀ part ∈ parts, part.length < capacity) :
    ∃ n, Holds name (w.putAll d parts).2.1 (w.putAll d parts).2.2 (bytes ++ (parts.take n).flatten) ∧
      ((w.putAll d parts).1 = .ok () → parts.take n = parts) ∧
      (w.pending = [] → parts ≠ [] → n ≠ 0) := by
  induction parts generalizing w d bytes with
  | nil => exact ⟨0, by simpa [putAll] using h, fun _ => rfl, fun _ h => absurd rfl h⟩
  | cons part parts ih =>
    have first : part.length < capacity := short part List.mem_cons_self
    obtain ⟨m, taken, -, done, refused, room, -⟩ := put_spec h part
    rw [putAll]
    generalize w.put d part = r at taken done refused room
    obtain ⟨o, w', d'⟩ := r
    cases o with
    | error e =>
      refine ⟨0, ?_, nofun, fun none_waits _ => nomatch room none_waits first⟩
      rw [refused nofun first, List.take_zero] at taken
      exact taken
    | ok u =>
      rw [done rfl] at taken
      obtain ⟨n, taken', done', -⟩ := ih taken fun part h => short part (List.mem_cons_of_mem _ h)
      refine ⟨n + 1, ?_, ?_, fun _ _ => Nat.succ_ne_zero n⟩
      · rw [List.take_succ_cons, List.flatten_cons, ← List.append_assoc]
        exact taken'
      · intro h
        rw [List.take_succ_cons, done' h]

/-- A flush keeps what was taken, and leaves nothing waiting if it succeeds. -/
theorem flush_spec (h : Holds name w d bytes) :
    Holds name (w.flush d).2.1 (w.flush d).2.2 bytes ∧ d.Touches name (w.flush d).2.2 ∧
      ((w.flush d).1 = .ok () → (w.flush d).2.1.pending = []) ∧
      (d.Works → (w.flush d).1 = .ok ()) := by
  obtain ⟨kept, touches, drained, works⟩ := drain_spec h
  unfold flush
  generalize w.drain d = r at kept touches drained works
  obtain ⟨o, w', d'⟩ := r
  cases o with
  | error e => exact ⟨kept, touches, nofun, fun h => nomatch works h⟩
  | ok u =>
    obtain ⟨touches', entry, works'⟩ := d'.sync_spec name
    obtain ⟨front, held, taken⟩ := kept.taken
    refine ⟨⟨kept.file, front, entry.trans held, taken⟩, touches.trans touches', fun _ => drained rfl,
      fun h => works' (touches.works h)⟩

end Writer

end Timetable.Journal
