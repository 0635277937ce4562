import Timetable.Journal.Record
import Timetable.Proofs.RoundTrip.Date
import Timetable.Proofs.RoundTrip.Ident

/-!
# Events and their bytes

Every event that fits into a record is read back from its payload. A reader is put against the bytes
that it takes: it finds its value in front of anything that may follow.
-/

set_option autoImplicit false

namespace Timetable.Journal

/-- The reader takes just these bytes, whatever follows them, and makes them the value. -/
def Reads {α : Type} (take : Reader α) (bytes : List UInt8) (a : α) : Prop :=
  ∀ rest, take (bytes ++ rest) = some (a, rest)

section Readers

variable {α β : Type}

theorem Reads.pure (a : α) : Reads (Pure.pure a) [] a := fun _ => rfl

theorem Reads.bind {take : Reader α} {next : α → Reader β} {xs ys : List UInt8} {a : α} {b : β}
    (first : Reads take xs a) (second : Reads (next a) ys b) :
    Reads (take >>= next) (xs ++ ys) b := by
  intro rest
  rw [List.append_assoc]
  show (take (xs ++ (ys ++ rest))).bind _ = _
  rw [first]
  exact second rest

/-- The last step of a reader, which only puts the value together. -/
theorem Reads.map {take : Reader α} {xs : List UInt8} {a : α} (f : α → β)
    (read : Reads take xs a) : Reads (take >>= fun a => Pure.pure (f a)) xs (f a) := by
  intro rest
  show (take (xs ++ rest)).bind _ = _
  rw [read]
  rfl

theorem Reads.require {take : Reader α} {xs : List UInt8} {a : α} {f : α → Option β} {b : β}
    (read : Reads take xs a) (h : f a = some b) :
    Reads (take >>= fun a => Journal.require (f a)) xs b := by
  intro rest
  show (take (xs ++ rest)).bind _ = _
  rw [read]
  show (f a).map (·, rest) = _
  rw [h]
  rfl

theorem reads_takeBytes (bytes : List UInt8) : Reads (takeBytes bytes.length) bytes bytes :=
  split?_append rfl

theorem reads_takeNat (width : Nat) {n : Nat} (h : n < Nat.pow 256 width) :
    Reads (takeNat width) (littleEndian width n) n := by
  have bytes := reads_takeBytes (littleEndian width n)
  rw [length_littleEndian] at bytes
  have value := bytes.map ofLittleEndian
  rwa [ofLittleEndian_littleEndian, Nat.mod_eq_of_lt h] at value

theorem reads_takeUInt32 (n : UInt32) : Reads takeUInt32 (putUInt32 n) n := by
  have value := (reads_takeNat 4 n.toNat_lt).map UInt32.ofNat
  rwa [UInt32.ofNat_toNat] at value

theorem reads_takeUInt64 (n : UInt64) : Reads takeUInt64 (putUInt64 n) n := by
  have value := (reads_takeNat 8 n.toNat_lt).map UInt64.ofNat
  rwa [UInt64.ofNat_toNat] at value

@[simp] theorem ofUtf8?_utf8 (s : String) : ofUtf8? (utf8 s) = some s := by
  have bytes : (⟨(utf8 s).toArray⟩ : ByteArray) = s.toByteArray := by simp [utf8]
  rw [ofUtf8?, bytes, String.fromUTF8?, dif_pos s.isValidUTF8]
  rfl

theorem reads_takeText {s : String} (h : (utf8 s).length < Nat.pow 256 8) :
    Reads takeText (putText s) s :=
  (reads_takeNat 8 h).bind ((reads_takeBytes (utf8 s)).require (ofUtf8?_utf8 s))

theorem reads_takeOption {take : Reader α} {put : α → List UInt8} {o : Option α}
    (each : ∀ a ∈ o, Reads take (put a) a) : Reads (takeOption take) (putOption put o) o := by
  cases o with
  | none => exact (reads_takeNat 1 (by decide : 0 < Nat.pow 256 1)).bind (Reads.pure none)
  | some a =>
    exact (reads_takeNat 1 (by decide : 1 < Nat.pow 256 1)).bind ((each a rfl).map some)

theorem reads_takeMany {take : Reader α} {put : α → List UInt8} {as : List α}
    (each : ∀ a ∈ as, Reads take (put a) a) :
    Reads (takeMany take as.length) (as.flatMap put) as := by
  induction as with
  | nil => exact Reads.pure []
  | cons a as ih =>
    have rest := ih fun b hb => each b (List.mem_cons_of_mem _ hb)
    rw [List.flatMap_cons]
    exact (each a List.mem_cons_self).bind (rest.map (a :: ·))

theorem reads_takeList {take : Reader α} {put : α → List UInt8} {as : List α}
    (h : as.length < Nat.pow 256 8) (each : ∀ a ∈ as, Reads take (put a) a) :
    Reads (takeList take) (putList put as) as :=
  (reads_takeNat 8 h).bind (reads_takeMany each)

end Readers

/-! The sizes of what is written. -/

@[simp] theorem length_putText (s : String) : (putText s).length = 8 + (utf8 s).length := by
  rw [putText, List.length_append, length_littleEndian]

theorem length_utf8_cons (c : Char) (cs : List Char) :
    (utf8 (String.ofList (c :: cs))).length = c.utf8Size + (utf8 (String.ofList cs)).length := by
  simp [utf8, List.utf8Encode]

theorem length_utf8_ofList_le (cs : List Char) : (utf8 (String.ofList cs)).length ≤ 4 * cs.length := by
  induction cs with
  | nil => exact Nat.le_refl 0
  | cons c cs ih =>
    have first : c.utf8Size ≤ 4 := c.utf8Size_le_four
    rw [length_utf8_cons, List.length_cons]
    omega

theorem length_utf8_le (s : String) : (utf8 s).length ≤ 4 * s.length := by
  have chars := length_utf8_ofList_le s.toList
  rwa [String.ofList_toList, String.length_toList] at chars

theorem length_utf8_of_ascii {cs : List Char} (ascii : ∀ c ∈ cs, c.utf8Size = 1) :
    (utf8 (String.ofList cs)).length = cs.length := by
  induction cs with
  | nil => rfl
  | cons c cs ih =>
    rw [length_utf8_cons, ascii c List.mem_cons_self,
      ih fun d hd => ascii d (List.mem_cons_of_mem _ hd), List.length_cons, Nat.add_comm]

theorem utf8Size_of_mem_digits (count n : Nat) {rest : List Char}
    (ascii : ∀ c ∈ rest, c.utf8Size = 1) : ∀ c ∈ Ident.digits count n rest, c.utf8Size = 1 := by
  induction count generalizing n rest with
  | zero => exact ascii
  | succ count ih =>
    apply ih (n / 32)
    intro c hc
    rcases List.mem_cons.1 hc with rfl | hc
    · have all : ∀ d < 32, (Ident.alphabet.getD d '0').utf8Size = 1 := by decide
      exact all _ (Nat.mod_lt n (by decide))
    · exact ascii c hc

@[simp] theorem length_utf8_text (i : Ident) : (utf8 i.text).length = 26 := by
  rw [Ident.text, Ident.chars, length_utf8_of_ascii (utf8Size_of_mem_digits 26 i.toNat (by simp)),
    Ident.length_digits]
  rfl

@[simp] theorem length_putIdent (i : Ident) : (putIdent i).length = 34 := by
  rw [putIdent, length_putText, length_utf8_text]

/-! The fields of events. -/

theorem reads_takeIdent (i : Ident) : Reads takeIdent (putIdent i) i :=
  (reads_takeText (by simp)).require (Ident.ofText?_text i)

theorem reads_takeDate {d : Date} (h : (utf8 d.text).length < Nat.pow 256 8) :
    Reads takeDate (putDate d) d :=
  (reads_takeText h).require (Date.ofText?_text d)

theorem reads_takeWeekday (d : Weekday) : Reads takeWeekday (putWeekday d) d := by
  have small := d.number_le
  exact (reads_takeNat 1 (Nat.lt_of_le_of_lt small.2 (by decide))).require d.ofNumber?_number

theorem reads_takeSlot {s : Slot} (h : (putSlot s).length < Nat.pow 256 8) :
    Reads takeSlot (putSlot s) s := by
  simp only [putSlot, List.length_append, length_putText] at h
  simp only [putSlot, List.append_assoc]
  exact (reads_takeIdent _).bind <| (reads_takeUInt32 _).bind <| (reads_takeUInt32 _).bind <|
    (reads_takeWeekday _).bind <| (reads_takeText (by omega)).bind <| (reads_takeUInt32 _).map _

theorem reads_takeFilter {f : SlotFilter} (h : (putFilter f).length < Nat.pow 256 8) :
    Reads takeFilter (putFilter f) f := by
  have cohort : ∀ c ∈ f.cohort, Reads takeText (putText c) c := by
    intro c hc
    refine reads_takeText ?_
    simp only [putFilter, List.length_append, Option.mem_def.1 hc, putOption, List.length_cons,
      length_putText] at h
    omega
  simp only [putFilter, List.append_assoc]
  exact (reads_takeIdent _).bind <| (reads_takeIdent _).bind <|
    (reads_takeOption fun _ _ => reads_takeUInt64 _).bind <| (reads_takeOption cohort).map _

theorem reads_takeSupervisor (s : Supervisor) : Reads takeSupervisor (putSupervisor s) s := by
  simp only [putSupervisor, List.append_assoc]
  exact (reads_takeIdent _).bind <| (reads_takeIdent _).bind <| (reads_takeUInt64 _).map _

@[simp] theorem length_putSupervisor (s : Supervisor) : (putSupervisor s).length = 76 := by
  simp [putSupervisor, putUInt64]

theorem length_flatMap_putSupervisor (supervisors : List Supervisor) :
    (supervisors.flatMap putSupervisor).length = 76 * supervisors.length := by
  induction supervisors with
  | nil => rfl
  | cons s supervisors ih =>
    rw [List.flatMap_cons, List.length_append, ih, length_putSupervisor, List.length_cons]
    omega

theorem reads_takeReservation {r : Reservation} (h : (putReservation r).length < Nat.pow 256 8) :
    Reads takeReservation (putReservation r) r := by
  simp only [putReservation, putDate, List.length_append, length_putText] at h
  simp only [putReservation, List.append_assoc]
  exact (reads_takeIdent _).bind <| (reads_takeIdent _).bind <|
    (reads_takeDate (by omega)).bind <| (reads_takeUInt64 _).bind <| (reads_takeUInt64 _).map _

theorem reads_takeFields {e : Event} (h : (putFields e).length < Nat.pow 256 8) :
    Reads (takeFields (kind e).toNat) (putFields e) e := by
  cases e with
  | slotCreated slot supervisors =>
    simp only [putFields, putList, List.length_append, length_flatMap_putSupervisor] at h
    exact (reads_takeSlot (by omega)).bind <|
      (reads_takeList (by omega) fun s _ => reads_takeSupervisor s).map _
  | slotUpdated slot => exact (reads_takeSlot h).map _
  | slotDeleted id => exact (reads_takeIdent id).map _
  | filterAdded filter => exact (reads_takeFilter h).map _
  | filterRemoved id slotId => exact (reads_takeIdent id).bind <| (reads_takeIdent slotId).map _
  | supervisorAdded supervisor => exact (reads_takeSupervisor supervisor).map _
  | supervisorRemoved slotId userId =>
    exact (reads_takeIdent slotId).bind <| (reads_takeUInt64 userId).map _
  | reservationBooked reservation => exact (reads_takeReservation h).map _
  | reservationCancelled id slotId =>
    exact (reads_takeIdent id).bind <| (reads_takeIdent slotId).map _

/-- What is written of an event is read as that event, whatever follows it. -/
theorem reads_takeEvent {e : Event} (h : (payload e).length < Nat.pow 256 8) :
    Reads takeEvent (payload e) e := by
  rw [payload, List.length_append] at h
  exact (reads_takeNat 4 (kind e).toNat_lt).bind (reads_takeFields (by omega))

theorem ofPayload?_append {e : Event} (h : (payload e).length < Nat.pow 256 8)
    (rest : List UInt8) : ofPayload? (payload e ++ rest) = some e := by
  show ((takeEvent (payload e ++ rest)).map (·.1)) = some e
  rw [reads_takeEvent h]
  rfl

end Timetable.Journal
