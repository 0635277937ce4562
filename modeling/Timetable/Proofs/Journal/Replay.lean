import Timetable.Journal.Log
import Timetable.Proofs.RoundTrip.Payload

/-!
# Reading the journal

A frame stands for one payload only, and more bytes behind it do not change what is read of it.
So the events of some bytes are a prefix of what is read of them with more bytes behind, and all
that matters for the rest is what was left unread. Records are read back one after the other, and
of a record that was cut off nothing is read.
-/

set_option autoImplicit false

namespace Timetable.Journal

/-- The event fits into a record that can be read. -/
def Fits (e : Event) : Prop := (payload e).length ≤ maxPayload

instance (e : Event) : Decidable (Fits e) := inferInstanceAs (Decidable (_ ≤ _))

/-- A payload with its length in front and its checksum behind. -/
def framed (payload : List UInt8) : List UInt8 :=
  littleEndian 4 payload.length ++ (payload ++ putUInt32 (checksum payload))

/-- What is left once the sound records at the front have been read. -/
def unread (bytes : List UInt8) : List UInt8 :=
  match _h : next? bytes with
  | some (_, rest) => unread rest
  | none => bytes
termination_by bytes.length
decreasing_by
  have := length_of_next? _h
  omega

/-! ## Frames -/

theorem split?_eq_some_iff {n : Nat} {bytes front rest : List UInt8} :
    split? n bytes = some (front, rest) ↔ front.length = n ∧ bytes = front ++ rest := by
  constructor
  · intro h
    refine ⟨length_fst_of_split? h, ?_⟩
    unfold split? at h
    split at h
    · cases h
      exact (List.take_append_drop n bytes).symm
    · cases h
  · rintro ⟨length, rfl⟩
    exact split?_append length rest

@[simp] theorem ofLittleEndian_cons (byte : UInt8) (bytes : List UInt8) :
    ofLittleEndian (byte :: bytes) = byte.toNat + 256 * ofLittleEndian bytes := by
  simp only [ofLittleEndian, List.foldr_cons]

theorem littleEndian_ofLittleEndian (bytes : List UInt8) :
    littleEndian bytes.length (ofLittleEndian bytes) = bytes := by
  induction bytes with
  | nil => rfl
  | cons byte bytes ih =>
    have small : byte.toNat < 256 := byte.toNat_lt
    have rest : (byte.toNat + 256 * ofLittleEndian bytes) / 256 = ofLittleEndian bytes := by omega
    have first : UInt8.ofNat (byte.toNat + 256 * ofLittleEndian bytes) = byte := by
      apply UInt8.toNat_inj.1
      rw [UInt8.toNat_ofNat']
      omega
    rw [List.length_cons, littleEndian, ofLittleEndian_cons, rest, first, ih]

theorem eq_littleEndian_iff {width n : Nat} {bytes : List UInt8} (small : n < Nat.pow 256 width) :
    bytes = littleEndian width n ↔ bytes.length = width ∧ ofLittleEndian bytes = n := by
  constructor
  · rintro rfl
    rw [ofLittleEndian_littleEndian, Nat.mod_eq_of_lt small]
    exact ⟨length_littleEndian width n, rfl⟩
  · rintro ⟨rfl, rfl⟩
    exact (littleEndian_ofLittleEndian bytes).symm

@[simp] theorem length_putUInt32 (n : UInt32) : (putUInt32 n).length = 4 := length_littleEndian 4 _

@[simp] theorem length_framed (payload : List UInt8) :
    (framed payload).length = payload.length + 8 := by
  simp only [framed, putUInt32, List.length_append, length_littleEndian]
  omega

/-- A frame is read exactly where it stands: there is one way to write a payload. -/
theorem frame?_eq_some_iff {bytes payload rest : List UInt8} :
    frame? bytes = some (payload, rest) ↔
      payload.length ≤ maxPayload ∧ bytes = framed payload ++ rest := by
  constructor
  · intro h
    simp only [frame?, bind, Option.bind_eq_some_iff, Prod.exists] at h
    obtain ⟨front, after, hfront, h⟩ := h
    split at h
    · rename_i short
      simp only [Option.bind_eq_some_iff, Prod.exists] at h
      obtain ⟨payload', after', hpayload, sum, rest', hsum, h⟩ := h
      split at h
      · rename_i sound
        cases h
        obtain ⟨four, rfl⟩ := split?_eq_some_iff.1 hfront
        obtain ⟨length, rfl⟩ := split?_eq_some_iff.1 hpayload
        obtain ⟨four', rfl⟩ := split?_eq_some_iff.1 hsum
        rw [← length] at short
        have small : payload.length < Nat.pow 256 4 := Nat.lt_of_le_of_lt short (by decide)
        refine ⟨short, ?_⟩
        rw [framed, putUInt32, ← (eq_littleEndian_iff small).2 ⟨four, length.symm⟩,
          ← (eq_littleEndian_iff (UInt32.toNat_lt _)).2 ⟨four', sound⟩]
        simp only [List.append_assoc]
      · cases h
    · cases h
  · rintro ⟨short, rfl⟩
    have small : payload.length < Nat.pow 256 4 := Nat.lt_of_le_of_lt short (by decide)
    have length : ofLittleEndian (littleEndian 4 payload.length) = payload.length :=
      ((eq_littleEndian_iff small).1 rfl).2
    have sum : ofLittleEndian (putUInt32 (checksum payload)) = (checksum payload).toNat :=
      ((eq_littleEndian_iff (UInt32.toNat_lt _)).1 rfl).2
    have first := split?_append (length_littleEndian 4 payload.length)
      (payload ++ (putUInt32 (checksum payload) ++ rest))
    have second := split?_append (rfl : payload.length = payload.length)
      (putUInt32 (checksum payload) ++ rest)
    have third := split?_append (length_putUInt32 (checksum payload)) rest
    simp only [frame?, framed, List.append_assoc, bind, first, Option.bind_some, length,
      if_pos short, second, third, if_pos sum]

/-- The first four bytes of a frame tell how long its payload is. -/
theorem ofLittleEndian_take_framed {payload : List UInt8} (short : payload.length ≤ maxPayload)
    (rest : List UInt8) : ofLittleEndian ((framed payload ++ rest).take 4) = payload.length := by
  have small : payload.length < Nat.pow 256 4 := Nat.lt_of_le_of_lt short (by decide)
  rw [framed, List.append_assoc, List.take_append_of_le_length (by simp),
    List.take_of_length_le (by simp)]
  exact ((eq_littleEndian_iff small).1 rfl).2

/-- A frame that ends within the front of some bytes is read whatever follows that front. -/
theorem exists_append_of_framed {front more rest payload : List UInt8}
    (h : front ++ more = framed payload ++ rest) (within : payload.length + 8 ≤ front.length) :
    ∃ rest', front = framed payload ++ rest' := by
  have first : framed payload <+: front ++ more := ⟨rest, h.symm⟩
  obtain ⟨rest', eq⟩ := List.prefix_of_prefix_length_le first (List.prefix_append front more)
    (by rw [length_framed]; exact within)
  exact ⟨rest', eq.symm⟩

theorem frame?_append {bytes payload rest : List UInt8} (h : frame? bytes = some (payload, rest))
    (more : List UInt8) : frame? (bytes ++ more) = some (payload, rest ++ more) := by
  obtain ⟨short, rfl⟩ := frame?_eq_some_iff.1 h
  exact frame?_eq_some_iff.2 ⟨short, List.append_assoc ..⟩

/-- Of a frame that was cut off nothing is read. -/
theorem frame?_eq_none_of_cut {bytes more payload rest : List UInt8}
    (whole : frame? (bytes ++ more) = some (payload, rest))
    (cut : bytes.length < payload.length + 8) : frame? bytes = none := by
  refine Option.eq_none_iff_forall_ne_some.2 ?_
  rintro ⟨payload', rest'⟩ h
  have same := whole.symm.trans (frame?_append h more)
  cases same
  have length := length_of_frame? h
  omega

/-! ## Events -/

theorem next?_eq_some_iff {bytes rest : List UInt8} {e : Event} :
    next? bytes = some (e, rest) ↔
      ∃ payload, payload.length ≤ maxPayload ∧ ofPayload? payload = some e ∧
        bytes = framed payload ++ rest := by
  simp only [next?, bind, Option.bind_eq_some_iff, Prod.exists, frame?_eq_some_iff]
  constructor
  · rintro ⟨payload, rest', ⟨short, rfl⟩, e', read, h⟩
    cases h
    exact ⟨payload, short, read, rfl⟩
  · rintro ⟨payload, short, read, rfl⟩
    exact ⟨payload, rest, ⟨short, rfl⟩, e, read, rfl⟩

theorem next?_append {bytes rest : List UInt8} {e : Event} (h : next? bytes = some (e, rest))
    (more : List UInt8) : next? (bytes ++ more) = some (e, rest ++ more) := by
  obtain ⟨payload, short, read, rfl⟩ := next?_eq_some_iff.1 h
  exact next?_eq_some_iff.2 ⟨payload, short, read, List.append_assoc ..⟩

theorem record_eq_framed (e : Event) : record e = framed (payload e) := by
  simp [record, recordParts, framed]

theorem ofPayload?_payload {e : Event} (h : Fits e) : ofPayload? (payload e) = some e := by
  have read := ofPayload?_append (e := e) (Nat.lt_of_le_of_lt h (by decide)) []
  rwa [List.append_nil] at read

theorem next?_record {e : Event} (h : Fits e) (rest : List UInt8) :
    next? (record e ++ rest) = some (e, rest) := by
  rw [record_eq_framed]
  exact next?_eq_some_iff.2 ⟨payload e, h, ofPayload?_payload h, rfl⟩

theorem replay_of_next? {bytes rest : List UInt8} {e : Event} (h : next? bytes = some (e, rest)) :
    replay bytes = e :: replay rest := by
  rw [replay]
  split
  · rename_i h'
    cases h.symm.trans h'
    rfl
  · rename_i h'
    cases h.symm.trans h'

theorem replay_of_next?_none {bytes : List UInt8} (h : next? bytes = none) : replay bytes = [] := by
  rw [replay]
  split
  · rename_i h'
    cases h.symm.trans h'
  · rfl

theorem replay_eq_cons_iff {bytes : List UInt8} {e : Event} {es : List Event} :
    replay bytes = e :: es ↔ ∃ rest, next? bytes = some (e, rest) ∧ replay rest = es := by
  constructor
  · intro h
    rw [replay] at h
    split at h
    · rename_i next
      cases h
      exact ⟨_, next, rfl⟩
    · cases h
  · rintro ⟨rest, next, rfl⟩
    exact replay_of_next? next

theorem unread_of_next? {bytes rest : List UInt8} {e : Event} (h : next? bytes = some (e, rest)) :
    unread bytes = unread rest := by
  rw [unread]
  split
  · rename_i h'
    cases h.symm.trans h'
    rfl
  · rename_i h'
    cases h.symm.trans h'

theorem unread_of_next?_none {bytes : List UInt8} (h : next? bytes = none) :
    unread bytes = bytes := by
  rw [unread]
  split
  · rename_i h'
    cases h.symm.trans h'
  · rfl

theorem next?_eq_none_of_cut {e : Event} (h : Fits e) {n : Nat} (cut : n < (record e).length) :
    next? ((record e).take n) = none := by
  rw [record_eq_framed] at cut ⊢
  have whole : frame? ((framed (payload e)).take n ++ (framed (payload e)).drop n) =
      some (payload e, []) := by
    rw [List.take_append_drop]
    exact frame?_eq_some_iff.2 ⟨h, (List.append_nil _).symm⟩
  have short : ((framed (payload e)).take n).length < (payload e).length + 8 := by
    rw [length_framed] at cut
    rw [List.length_take]
    omega
  rw [next?, frame?_eq_none_of_cut whole short]
  rfl

/-! ## What is read of more bytes -/

/-- More bytes behind take nothing away: what is read first stays as it is, and what comes
after depends on what was left unread alone. -/
theorem replay_append (bytes more : List UInt8) :
    replay (bytes ++ more) = replay bytes ++ replay (unread bytes ++ more) := by
  fun_induction unread bytes with
  | case1 bytes e rest h ih =>
    rw [replay_of_next? h, replay_of_next? (next?_append h more), ih, List.cons_append]
  | case2 bytes h => rw [replay_of_next?_none h, List.nil_append]

theorem next?_unread (bytes : List UInt8) : next? (unread bytes) = none := by
  fun_induction unread bytes with
  | case1 bytes e rest h ih => exact ih
  | case2 bytes h => exact h

@[simp] theorem replay_unread (bytes : List UInt8) : replay (unread bytes) = [] :=
  replay_of_next?_none (next?_unread bytes)

@[simp] theorem replay_nil : replay [] = [] := replay_of_next?_none rfl

@[simp] theorem unread_nil : unread [] = [] := unread_of_next?_none rfl

theorem records_cons (e : Event) (es : List Event) : records (e :: es) = record e ++ records es :=
  List.flatMap_cons

@[simp] theorem records_singleton (e : Event) : records [e] = record e := List.flatMap_singleton ..

theorem records_append (es fs : List Event) : records (es ++ fs) = records es ++ records fs :=
  List.flatMap_append

/-- What was recorded is read back, whatever stands behind it. -/
theorem replay_records_append {es : List Event} (fit : ∀ e ∈ es, Fits e) (more : List UInt8) :
    replay (records es ++ more) = es ++ replay more := by
  induction es with
  | nil => rfl
  | cons e es ih =>
    rw [records_cons, List.append_assoc, replay_of_next? (next?_record (fit e List.mem_cons_self) _),
      ih fun e he => fit e (List.mem_cons_of_mem _ he), List.cons_append]

theorem unread_records_append {es : List Event} (fit : ∀ e ∈ es, Fits e) (more : List UInt8) :
    unread (records es ++ more) = unread more := by
  induction es with
  | nil => rfl
  | cons e es ih =>
    rw [records_cons, List.append_assoc, unread_of_next? (next?_record (fit e List.mem_cons_self) _),
      ih fun e he => fit e (List.mem_cons_of_mem _ he)]

theorem replay_records {es : List Event} (fit : ∀ e ∈ es, Fits e) : replay (records es) = es := by
  have read := replay_records_append fit []
  rwa [replay_nil, List.append_nil, List.append_nil] at read

theorem unread_records {es : List Event} (fit : ∀ e ∈ es, Fits e) : unread (records es) = [] := by
  have read := unread_records_append fit []
  rwa [unread_nil, List.append_nil] at read

/-! ## What is read of fewer bytes -/

/-- How many of the records are whole in the first `k` bytes. -/
def wholeRecords : List Event → Nat → Nat
  | [], _ => 0
  | e :: es, k =>
    if (record e).length ≤ k then wholeRecords es (k - (record e).length) + 1 else 0

theorem wholeRecords_le (es : List Event) (k : Nat) : wholeRecords es k ≤ es.length := by
  induction es generalizing k with
  | nil => exact Nat.le_refl 0
  | cons e es ih =>
    rw [wholeRecords]
    split
    · exact Nat.succ_le_succ (ih _)
    · exact Nat.zero_le _

/-- Of a journal that has been cut off the whole records are read, and nothing of the one that
was hit. -/
theorem replay_take_records {es : List Event} (fit : ∀ e ∈ es, Fits e) (k : Nat) :
    replay ((records es).take k) = es.take (wholeRecords es k) := by
  induction es generalizing k with
  | nil =>
    rw [records, List.flatMap_nil, List.take_nil, replay_nil, List.take_nil]
  | cons e es ih =>
    have fits := fit e List.mem_cons_self
    rw [records_cons, wholeRecords]
    split
    · rename_i whole
      rw [List.take_append, List.take_of_length_le whole,
        replay_of_next? (next?_record fits _), ih fun e he => fit e (List.mem_cons_of_mem _ he),
        List.take_succ_cons]
    · rename_i hit
      rw [List.take_append_of_le_length (by omega),
        replay_of_next?_none (next?_eq_none_of_cut fits (by omega)), List.take_zero]

/-- A record is whole in the first `k` bytes if it ends there. -/
theorem lt_wholeRecords_iff {es : List Event} {i : Nat} (hi : i < es.length) (k : Nat) :
    i < wholeRecords es k ↔ (records (es.take (i + 1))).length ≤ k := by
  induction es generalizing i k with
  | nil => cases hi
  | cons e es ih =>
    rw [wholeRecords, List.take_succ_cons, records_cons, List.length_append]
    cases i with
    | zero =>
      rw [List.take_zero, records, List.flatMap_nil, List.length_nil]
      split <;> omega
    | succ i =>
      have rest := ih (Nat.lt_of_succ_lt_succ hi) (k - (record e).length)
      split <;> omega

theorem wholeRecords_eq_length {es : List Event} {k : Nat} (all : (records es).length ≤ k) :
    wholeRecords es k = es.length := by
  have le := wholeRecords_le es k
  by_cases short : wholeRecords es k < es.length
  · have last : es.length - 1 < es.length := by omega
    have ends : es.take (es.length - 1 + 1) = es := List.take_of_length_le (by omega)
    have whole := (lt_wholeRecords_iff last k).2 (ends.symm ▸ all)
    omega
  · omega

/-- **What is read of a journal that was cut off anywhere**: the events whose records end within
what is left of it, and nothing else. Each event is read back from its payload, and a journal that
is left whole is read back to its end. -/
theorem events_of_cut_off {es : List Event} (fit : ∀ e ∈ es, Fits e) (k : Nat) :
    (∀ e ∈ es, ofPayload? (payload e) = some e) ∧
    ∃ n ≤ es.length, (∀ i < es.length, i < n ↔ (records (es.take (i + 1))).length ≤ k) ∧
      ((records es).length ≤ k → n = es.length) ∧
      ∀ d : Disk, d.log = .file ((records es).take k) → Log.events d = .ok (es.take n) := by
  refine ⟨fun e he => ofPayload?_payload (fit e he), wholeRecords es k, wholeRecords_le es k,
    fun i hi => lt_wholeRecords_iff hi k, wholeRecords_eq_length, ?_⟩
  intro d file
  rw [Log.events, file]
  exact congrArg Except.ok (replay_take_records fit k)

/-- Events of unusual shape: an empty room, a filter without a criterion, and dates with a sign and
with five digits. -/
def unusual : List Event := [
  .slotCreated ⟨.ofNat 0, 0, 4294967295, .sunday, "", 0⟩ [],
  .filterAdded ⟨.ofNat 1, .ofNat 0, none, none⟩,
  .reservationBooked ⟨.ofNat 2, .ofNat 0, ⟨-720000, by decide, by decide⟩, 7, 8⟩,
  .reservationBooked ⟨.ofNat 3, .ofNat 0, ⟨3000000, by decide, by decide⟩, 8, 7⟩]

/-- The journal of the unusual events without its last byte. -/
def cutUnusual : Disk where
  log := .file ((records unusual).take ((records unusual).length - 1))
  temp := .absent
  fate := fun _ _ => none
  calls := 0

theorem events_of_cut_off_unusual :
    (∀ e ∈ unusual, Fits e) ∧ Log.events cutUnusual = .ok (unusual.take 3) := by
  have fit : ∀ e ∈ unusual, Fits e := by decide +kernel
  obtain ⟨-, n, le, whole, -, read⟩ := events_of_cut_off fit ((records unusual).length - 1)
  have three : 2 < n := (whole 2 (by decide)).2 (by decide +kernel)
  have not_four : ¬ 3 < n := fun lt => absurd ((whole 3 (by decide)).1 lt) (by decide +kernel)
  obtain rfl : n = 3 := by omega
  exact ⟨fit, read cutUnusual rfl⟩

end Timetable.Journal
