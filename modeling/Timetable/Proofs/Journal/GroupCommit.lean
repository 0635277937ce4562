import Timetable.Journal.Queue
import Timetable.Proofs.Journal.Outcome

/-!
# Commands that are handled together

On a disk that works it makes no difference which transactions of a queue are committed together: the
responses are those that each command gets if it is handled by itself, and the files and the count of
appended events are the same. A journal of which nothing waits is all described by what stands on the
disk and by that count, and what a command does to the one and the other depends on nothing else.
-/

set_option autoImplicit false

namespace Timetable.Journal

namespace Log

variable {l l' : Log} {bytes : List UInt8} {temp : Entry} {n : Nat}

/-! ## What a command does -/

/-- The file holds `bytes` and nothing waits, this stands under the temporary name, `n` events have
been appended, and no call fails. -/
structure Shows (l : Log) (bytes : List UInt8) (temp : Entry) (n : Nat) : Prop where
  whole : l.Whole bytes
  temp_eq : l.disk.temp = temp
  appended : l.appended = n
  works : l.disk.Works

/-- Every event that is buffered is counted. -/
theorem appended_bufferAll (l : Log) {events : List Event}
    (done : (l.bufferAll events).1 = .ok ()) :
    (l.bufferAll events).2.appended = l.appended + events.length := by
  induction events generalizing l with
  | nil => rfl
  | cons e events ih =>
    rw [bufferAll, buffer] at done ⊢
    generalize l.writer.putEvent l.disk e = result at done ⊢
    obtain ⟨outcome, w, d⟩ := result
    cases outcome with
    | error error => cases done
    | ok u =>
      refine (ih ⟨d, w, l.appended + 1⟩ done).trans ?_
      rw [List.length_cons, Nat.add_assoc, Nat.add_comm 1]

/-- A batch is acknowledged, and all of its events are in the file and counted. -/
theorem Shows.commit (shows : l.Shows bytes temp n) (batch : List (List Event)) :
    (l.commit batch).1 = .ok () ∧ (l.commit batch).2.Shows (bytes ++ records batch.flatten) temp
      (n + batch.flatten.length) := by
  obtain ⟨done, holds, none_waits, touches⟩ :=
    commit_of_works shows.whole.holds shows.works batch
  refine ⟨done, ⟨holds, none_waits⟩, ?_, ?_, touches.works shows.works⟩
  · exact (touches.others .temp (by decide)).trans shows.temp_eq
  · rw [← shows.appended]
    exact appended_bufferAll l ((commit_ok_iff l batch).1 done).1

/-- A compaction leaves the new records and begins to count anew, unless a directory stands under
the temporary name. Then it is refused. -/
theorem Shows.compact (shows : l.Shows bytes temp n) (events : List Event) :
    temp = .directory ∧ (l.compact events).1 = .error .isADirectory ∧
        (l.compact events).2.Shows bytes temp n ∨
      temp ≠ .directory ∧ (l.compact events).1 = .ok () ∧
        (l.compact events).2.Shows (records events) .absent 0 := by
  by_cases directory : temp = .directory
  · subst directory
    have fate : l.disk.failure? .create = none := shows.works _ _
    have stands : l.disk.counted.entry .temp = .directory := shows.temp_eq
    have refused : l.compact events = (.error .isADirectory, { l with disk := l.disk.counted }) := by
      simp only [Log.compact, writeTemp, Disk.create, Disk.attempt, fate, stands]
    obtain ⟨front, entry, taken⟩ := shows.whole.holds.taken
    have holds : Holds { l with disk := l.disk.counted } bytes :=
      ⟨shows.whole.holds.file, front, (l.disk.entry_counted .log).trans entry, taken⟩
    rw [refused]
    exact .inl ⟨rfl, rfl, ⟨holds, shows.whole.none_waits⟩, stands, shows.appended, shows.works⟩
  · have file : l.disk.log ≠ .directory := by
      rw [shows.whole.log_eq]
      exact Entry.file_ne_directory bytes
    obtain ⟨compacted, fate, succeeds⟩ := compact_spec l events
    have done := succeeds shows.works file (shows.temp_eq ▸ directory)
    refine .inr ⟨directory, done, ?_⟩
    have whole := compact_of_ok done
    generalize l.compact events = result at compacted fate done whole
    cases compacted with
    | givenUp | unopened => cases done
    | done log gone =>
      exact ⟨whole, gone, rfl, fun k c => (congrFun (congrFun fate k) c).trans (shows.works k c)⟩

/-! ## One by one -/

/-- The two journals show the same. -/
def Alike (l l' : Log) : Prop := ∃ bytes temp n, l.Shows bytes temp n ∧ l'.Shows bytes temp n

/-- A command is handled alike by journals that show the same. -/
theorem Alike.handle (alike : l.Alike l') (command : Command) :
    (l.handle command).1 = (l'.handle command).1 ∧
      (l.handle command).2.Alike (l'.handle command).2 := by
  obtain ⟨bytes, temp, n, shows, shows'⟩ := alike
  cases command with
  | append events =>
    obtain ⟨done, after⟩ := shows.commit [events]
    obtain ⟨done', after'⟩ := shows'.commit [events]
    exact ⟨congrArg Response.done (done.trans done'.symm), _, _, _, after, after'⟩
  | compact events =>
    obtain ⟨directory, refused, after⟩ | ⟨free, done, after⟩ := shows.compact events
    · obtain ⟨-, refused', after'⟩ | ⟨free, -⟩ := shows'.compact events
      · exact ⟨congrArg Response.done (refused.trans refused'.symm), _, _, _, after, after'⟩
      · exact absurd directory free
    · obtain ⟨directory, -⟩ | ⟨-, done', after'⟩ := shows'.compact events
      · exact absurd directory free
      · exact ⟨congrArg Response.done (done.trans done'.symm), _, _, _, after, after'⟩
  | appended =>
    exact ⟨congrArg Response.count (shows.appended.trans shows'.appended.symm), _, _, _, shows,
      shows'⟩

variable {α : Type}

theorem handleAll_cons (l : Log) (sender : α) (command : Command) (rest : List (α × Command)) :
    l.handleAll ((sender, command) :: rest) =
      ((sender, (l.handle command).1) :: ((l.handle command).2.handleAll rest).1,
        ((l.handle command).2.handleAll rest).2) := rfl

theorem Alike.handleAll (alike : l.Alike l') (queue : List (α × Command)) :
    (l.handleAll queue).1 = (l'.handleAll queue).1 ∧
      (l.handleAll queue).2.Alike (l'.handleAll queue).2 := by
  induction queue generalizing l l' with
  | nil => exact ⟨rfl, alike⟩
  | cons command queue ih =>
    obtain ⟨sender, command⟩ := command
    obtain ⟨same, after⟩ := alike.handle command
    obtain ⟨same', after'⟩ := ih after
    rw [handleAll_cons, handleAll_cons, same, same']
    exact ⟨rfl, after'⟩

theorem handleAll_append (l : Log) (xs ys : List (α × Command)) :
    l.handleAll (xs ++ ys) = ((l.handleAll xs).1 ++ ((l.handleAll xs).2.handleAll ys).1,
      ((l.handleAll xs).2.handleAll ys).2) := by
  induction xs generalizing l with
  | nil => rfl
  | cons command xs ih =>
    obtain ⟨sender, command⟩ := command
    rw [List.cons_append, handleAll_cons, handleAll_cons, ih]
    rfl

/-- A transaction as a command. -/
def asCommand (transaction : α × List Event) : α × Command :=
  (transaction.1, .append transaction.2)

/-- Transactions that are handled one by one are each acknowledged, and leave all that they leave
when they are committed together. -/
theorem Shows.handleAll (shows : l.Shows bytes temp n) (batch : List (α × List Event)) :
    (l.handleAll (batch.map asCommand)).1 = batch.map (fun (sender, _) => (sender, .done (.ok ()))) ∧
      (l.handleAll (batch.map asCommand)).2.Shows (bytes ++ records (batch.map (·.2)).flatten) temp
        (n + (batch.map (·.2)).flatten.length) := by
  induction batch generalizing l bytes n with
  | nil =>
    have none_more : bytes ++ records (([] : List (α × List Event)).map (·.2)).flatten = bytes :=
      List.append_nil bytes
    rw [none_more]
    exact ⟨rfl, shows⟩
  | cons transaction batch ih =>
    obtain ⟨sender, events⟩ := transaction
    obtain ⟨done, after⟩ := shows.commit [events]
    obtain ⟨responses, after'⟩ := ih after
    rw [List.flatten_singleton, List.append_assoc, ← records_append, Nat.add_assoc,
      ← List.length_append] at after'
    refine ⟨?_, after'⟩
    have first : (l.handle (.append events)).1 = .done (.ok ()) := congrArg Response.done done
    rw [List.map_cons, asCommand, handleAll_cons, first]
    exact congrArg ((sender, Response.done (.ok ())) :: ·) responses

/-! ## Together -/

/-- Nothing is dropped, doubled or moved when a batch is taken from the queue. -/
theorem takeWaiting_eq (waiting : Nat) (queue : List (α × Command)) :
    (takeWaiting waiting queue).batch.map asCommand ++
      ((takeWaiting waiting queue).deferred.toList ++ (takeWaiting waiting queue).rest) = queue := by
  fun_induction takeWaiting waiting queue with
  | case1 waiting sender events rest taken ih =>
    rw [List.map_cons, List.cons_append, ih]
    rfl
  | case2 => rfl
  | case3 => rfl

/-- **However the queue is cut into batches**, the responses are those of the commands handled one by
one, and the journal shows the same afterwards. -/
theorem Alike.serve (alike : l.Alike l') (waiting : List Nat) (queue : List (α × Command)) :
    (l.serve waiting queue).1 = (l'.handleAll queue).1 ∧
      (l.serve waiting queue).2.Alike (l'.handleAll queue).2 := by
  fun_induction Log.serve l waiting queue generalizing l' with
  | case1 => exact ⟨rfl, alike⟩
  | case2 l waiting sender events rest taken batch outcome l₁ committed deferred l₂ handled
      responses l₃ served =>
    rename_i ih
    have cut : (sender, Command.append events) :: rest =
        batch.map asCommand ++ (taken.deferred.toList ++ taken.rest) :=
      congrArg ((sender, Command.append events) :: ·)
        (takeWaiting_eq (waiting.headD 0) rest).symm
    obtain ⟨bytes, temp, n, shows, shows'⟩ := alike
    obtain ⟨done, after⟩ := shows.commit (batch.map (·.2))
    obtain ⟨each, after'⟩ := shows'.handleAll batch
    rw [committed] at done after
    obtain ⟨same, alike⟩ := Alike.handleAll ⟨_, _, _, after, after'⟩ taken.deferred.toList
    rw [handled] at same alike
    obtain ⟨same', alike'⟩ := ih alike
    rw [served] at same' alike'
    obtain rfl : outcome = .ok () := done
    rw [cut, handleAll_append, handleAll_append, each, ← same, ← same']
    exact ⟨List.append_assoc _ _ _, alike'⟩
  | case3 l waiting sender command rest other response l₁ handled responses l₂ served ih =>
    obtain ⟨same, after⟩ := alike.handle command
    rw [handled] at same after
    obtain ⟨same', after'⟩ := ih after
    rw [served] at same' after'
    rw [handleAll_cons, ← same, ← same']
    exact ⟨rfl, after'⟩

/-! ## From the opening on -/

variable {d : Disk}

theorem shows_of_start (works : d.Works) (opened : start d = .ok l) :
    l.Shows (d.bytes .log) d.temp 0 := by
  obtain ⟨-, -, touches⟩ := start_spec opened
  refine ⟨whole_of_start opened, touches.others .temp (by decide), ?_, touches.works works⟩
  unfold start at opened
  generalize d.openEnd .log = result at opened
  obtain ⟨outcome, after⟩ := result
  cases outcome with
  | error error => cases opened
  | ok u =>
    cases opened
    rfl

/-- Each command gets one response, in the order in which they wait. -/
theorem senders_handleAll (l : Log) (queue : List (α × Command)) :
    (l.handleAll queue).1.map (·.1) = queue.map (·.1) := by
  induction queue generalizing l with
  | nil => rfl
  | cons command queue ih =>
    obtain ⟨sender, command⟩ := command
    rw [handleAll_cons, List.map_cons, List.map_cons, ih]

/-- **Committing together changes nothing.** On a disk that works a queue gets, however the arrival of
the commands cuts it into batches, the responses that the commands get if each is handled by itself in
the order of the queue, one for each of them; both files hold the same afterwards, nothing waits to be
written, and the same number of events counts as appended. -/
theorem serve_eq_handleAll (works : d.Works) (opened : start d = .ok l) (waiting : List Nat)
    (queue : List (α × Command)) :
    (l.serve waiting queue).1 = (l.handleAll queue).1 ∧
      (l.serve waiting queue).1.map (·.1) = queue.map (·.1) ∧
      (l.serve waiting queue).2.disk.log = (l.handleAll queue).2.disk.log ∧
      (l.serve waiting queue).2.disk.temp = (l.handleAll queue).2.disk.temp ∧
      (l.serve waiting queue).2.writer.pending = [] ∧
      (l.serve waiting queue).2.appended = (l.handleAll queue).2.appended := by
  have shows := shows_of_start works opened
  have alike : l.Alike l := ⟨_, _, _, shows, shows⟩
  obtain ⟨same, _, _, _, together, by_itself⟩ := alike.serve waiting queue
  refine ⟨same, ?_, ?_, ?_, together.whole.none_waits, ?_⟩
  · rw [same, senders_handleAll]
  · rw [together.whole.log_eq, by_itself.whole.log_eq]
  · rw [together.temp_eq, by_itself.temp_eq]
  · rw [together.appended, by_itself.appended]

/-- Two transactions are committed together, and the question that has arrived behind them ends the
batch. A compaction and a third transaction follow. -/
theorem serve_eq_handleAll_together :
    ∃ l, start Disk.empty = .ok l ∧
      let queue : List (String × Command) := [("anna", .append [.slotDeleted ⟨1⟩, .slotDeleted ⟨2⟩]),
        ("bela", .append [.slotDeleted ⟨3⟩]), ("cleo", .appended), ("dora", .compact []),
        ("emil", .append [.slotDeleted ⟨4⟩])]
      takeWaiting 3 queue.tail = ⟨[("bela", [.slotDeleted ⟨3⟩])], some ("cleo", .appended),
        [("dora", .compact []), ("emil", .append [.slotDeleted ⟨4⟩])]⟩ ∧
      (l.serve [3] queue).1 = [("anna", .done (.ok ())), ("bela", .done (.ok ())), ("cleo", .count 3),
        ("dora", .done (.ok ())), ("emil", .done (.ok ()))] ∧
      (l.serve [3] queue).2.appended = 1 := by
  have works : Disk.empty.Works := fun _ _ => rfl
  refine ⟨_, rfl, rfl, ?_, ?_⟩
  · rw [(serve_eq_handleAll (d := .empty) works rfl _ _).1]
    rfl
  · rw [(serve_eq_handleAll (d := .empty) works rfl _ _).2.2.2.2.2]
    rfl

end Log

end Timetable.Journal
