import Timetable.Proofs.Journal.Replay

/-!
# A damaged byte is noticed

No two remainders are moved down to the same one: the polynomial has its highest bit set, and what
has been moved down has not. So a byte that differs makes a difference to the remainder for good,
whatever comes behind it. A record of which one byte of the payload or of the checksum has been
altered is therefore not sound, and the journal is read up to it.

A byte of the length is another matter, as the checksum does not cover it.
-/

set_option autoImplicit false

namespace Timetable.Journal

/-! ## Remainders -/

theorem low_bit_iff (crc : UInt32) : crc &&& 1 = 1 ↔ crc.toNat % 2 = 1 := by
  rw [← UInt32.toNat_inj, UInt32.toNat_and]
  exact iff_of_eq (congrArg (· = 1) (Nat.and_one_is_mod _))

theorem toNat_shiftRight_one (crc : UInt32) : (crc >>> 1).toNat = crc.toNat / 2 :=
  (UInt32.toNat_shiftRight ..).trans (Nat.shiftRight_eq_div_pow ..)

/-- The highest bit tells whether a bit was dropped. -/
theorem testBit_shift (crc : UInt32) :
    (shift crc).toNat.testBit 31 = decide (crc.toNat % 2 = 1) := by
  have lower : crc.toNat / 2 < 2 ^ 31 := by
    have := crc.toNat_lt
    omega
  have clear : (crc >>> 1).toNat.testBit 31 = false := by
    rw [toNat_shiftRight_one]
    exact Nat.testBit_lt_two_pow lower
  have set : polynomial.toNat.testBit 31 = true := rfl
  simp only [shift, low_bit_iff]
  split
  · rename_i odd
    rw [UInt32.toNat_xor, Nat.testBit_xor, clear, set, decide_eq_true odd]
    rfl
  · rename_i even
    rw [clear, decide_eq_false even]

theorem shift_injective {a b : UInt32} (h : shift a = shift b) : a = b := by
  have parity : a.toNat % 2 = 1 ↔ b.toNat % 2 = 1 := by
    rw [← decide_eq_decide, ← testBit_shift, ← testBit_shift, h]
  have half : a >>> 1 = b >>> 1 := by
    simp only [shift, low_bit_iff] at h
    by_cases odd : b.toNat % 2 = 1
    · rw [if_pos (parity.2 odd), if_pos odd] at h
      exact (UInt32.xor_left_inj _).1 h
    · rw [if_neg (mt parity.1 odd), if_neg odd] at h
      exact h
  have half := congrArg UInt32.toNat half
  rw [toNat_shiftRight_one, toNat_shiftRight_one] at half
  apply UInt32.toNat_inj.1
  omega

theorem absorbByte_eq_iff {a b : UInt32} {byte byte' : UInt8} :
    absorbByte a byte = absorbByte b byte' ↔ a ^^^ byte.toUInt32 = b ^^^ byte'.toUInt32 := by
  constructor
  · intro h
    iterate 8 replace h := shift_injective h
    exact h
  · intro h
    rw [absorbByte, h, absorbByte]

/-- What comes behind does not undo a difference. -/
theorem remainder_injective {a b : UInt32} {bytes : List UInt8}
    (h : remainder a bytes = remainder b bytes) : a = b := by
  induction bytes generalizing a b with
  | nil => exact h
  | cons byte bytes ih => exact (UInt32.xor_left_inj _).1 (absorbByte_eq_iff.1 (ih h))

/-- Bytes that differ in one place have different checksums. -/
theorem checksum_ne (front back : List UInt8) {byte byte' : UInt8} (differ : byte ≠ byte') :
    checksum (front ++ byte :: back) ≠ checksum (front ++ byte' :: back) := by
  intro same
  have same := (UInt32.xor_left_inj _).1 same
  rw [remainder_append, remainder_append] at same
  have absorbed : absorbByte _ byte = absorbByte _ byte' := remainder_injective same
  have same_word := (UInt32.xor_right_inj _).1 (absorbByte_eq_iff.1 absorbed)
  exact differ (UInt8.toUInt32_inj.1 same_word)

/-! ## Altered bytes -/

/-- One byte altered by a mask. -/
def flipped (bytes : List UInt8) (i : Nat) (mask : UInt8) : List UInt8 :=
  bytes.modify i (· ^^^ mask)

@[simp] theorem length_flipped (bytes : List UInt8) (i : Nat) (mask : UInt8) :
    (flipped bytes i mask).length = bytes.length := List.length_modify ..

theorem flipped_append_left {front : List UInt8} {i : Nat} (hi : i < front.length)
    (back : List UInt8) (mask : UInt8) :
    flipped (front ++ back) i mask = flipped front i mask ++ back := by
  induction front generalizing i with
  | nil => cases hi
  | cons byte front ih =>
    cases i with
    | zero => rfl
    | succ i => exact congrArg (byte :: ·) (ih (Nat.lt_of_succ_lt_succ hi))

theorem flipped_append_right (front back : List UInt8) (i : Nat) (mask : UInt8) :
    flipped (front ++ back) (front.length + i) mask = front ++ flipped back i mask := by
  induction front with
  | nil => rw [List.length_nil, Nat.zero_add, List.nil_append, List.nil_append]
  | cons byte front ih =>
    rw [List.length_cons, Nat.add_right_comm]
    exact congrArg (byte :: ·) ih

theorem xor_ne_self {mask : UInt8} (nonzero : mask ≠ 0) (byte : UInt8) : byte ≠ byte ^^^ mask := by
  intro same
  rw [← UInt8.xor_zero (a := byte), UInt8.xor_assoc, UInt8.zero_xor] at same
  exact nonzero ((UInt8.xor_right_inj _).1 same).symm

/-- An altered byte stands between what was before it and behind it. -/
theorem exists_flipped_eq {bytes : List UInt8} {i : Nat} (hi : i < bytes.length) {mask : UInt8}
    (nonzero : mask ≠ 0) : ∃ front byte byte' back, byte ≠ byte' ∧
      bytes = front ++ byte :: back ∧ flipped bytes i mask = front ++ byte' :: back := by
  refine ⟨bytes.take i, bytes[i], bytes[i] ^^^ mask, bytes.drop (i + 1), xor_ne_self nonzero _, ?_,
    List.modify_eq_take_cons_drop hi⟩
  rw [List.getElem_cons_drop, List.take_append_drop]

theorem flipped_ne {bytes : List UInt8} {i : Nat} (hi : i < bytes.length) {mask : UInt8}
    (nonzero : mask ≠ 0) : flipped bytes i mask ≠ bytes := by
  obtain ⟨front, byte, byte', back, differ, eq, eq'⟩ := exists_flipped_eq hi nonzero
  rw [eq', eq]
  intro same
  exact differ (List.cons.inj (List.append_cancel_left same)).1.symm

theorem checksum_flipped_ne {payload : List UInt8} {i : Nat} (hi : i < payload.length)
    {mask : UInt8} (nonzero : mask ≠ 0) :
    checksum (flipped payload i mask) ≠ checksum payload := by
  obtain ⟨front, byte, byte', back, differ, eq, eq'⟩ := exists_flipped_eq hi nonzero
  rw [eq', eq]
  exact checksum_ne front back differ.symm

/-! ## Records -/

/-- A payload with its checksum behind. -/
def summed (payload : List UInt8) : List UInt8 := payload ++ putUInt32 (checksum payload)

theorem length_summed (payload : List UInt8) : (summed payload).length = payload.length + 4 := by
  rw [summed, List.length_append, length_putUInt32]

theorem putUInt32_injective {a b : UInt32} (h : putUInt32 a = putUInt32 b) : a = b := by
  have small (n : UInt32) : n.toNat < Nat.pow 256 4 := UInt32.toNat_lt n
  apply UInt32.toNat_inj.1
  rw [← ((eq_littleEndian_iff (small a)).1 rfl).2, ← ((eq_littleEndian_iff (small b)).1 rfl).2]
  exact congrArg ofLittleEndian h

/-- No payload of the same length has, with its checksum, all bytes but one in common. -/
theorem flipped_summed_ne {payload payload' : List UInt8} (length : payload'.length = payload.length)
    {i : Nat} (hi : i < payload.length + 4) {mask : UInt8} (nonzero : mask ≠ 0) :
    flipped (summed payload) i mask ≠ summed payload' := by
  intro same
  rw [summed, summed] at same
  by_cases in_payload : i < payload.length
  · rw [flipped_append_left in_payload] at same
    obtain ⟨rfl, same_sum⟩ := List.append_inj same (by rw [length_flipped, length])
    exact checksum_flipped_ne in_payload nonzero (putUInt32_injective same_sum).symm
  · obtain ⟨k, rfl⟩ := Nat.exists_eq_add_of_le (Nat.not_lt.1 in_payload)
    rw [flipped_append_right] at same
    obtain ⟨rfl, same_sum⟩ := List.append_inj same length.symm
    have in_sum : k < (putUInt32 (checksum payload)).length := by
      rw [length_putUInt32]
      omega
    exact flipped_ne in_sum nonzero same_sum

/-- **A record with an altered byte behind its length is not read**, whatever stands behind it. -/
theorem next?_eq_none_of_flipped {e : Event} (fits : Fits e) {i : Nat}
    (hi : i < (payload e).length + 4) {mask : UInt8} (nonzero : mask ≠ 0) (rest : List UInt8) :
    next? (flipped (record e) (4 + i) mask ++ rest) = none := by
  have small : (payload e).length < Nat.pow 256 4 := Nat.lt_of_le_of_lt fits (by decide)
  have altered : flipped (record e) (4 + i) mask =
      littleEndian 4 (payload e).length ++ flipped (summed (payload e)) i mask := by
    rw [record_eq_framed, framed, ← summed]
    have split := flipped_append_right (littleEndian 4 (payload e).length) (summed (payload e)) i
      mask
    rwa [length_littleEndian] at split
  refine Option.eq_none_iff_forall_ne_some.2 ?_
  rintro ⟨e', rest'⟩ read
  obtain ⟨payload', short, -, eq⟩ := next?_eq_some_iff.1 read
  rw [altered, List.append_assoc] at eq
  -- The length is as it was, so whatever is read would have the payload and the checksum in place.
  have told := ofLittleEndian_take_framed short rest'
  rw [← eq, List.take_left' (length_littleEndian 4 _), ((eq_littleEndian_iff small).1 rfl).2] at told
  rw [framed, ← summed, List.append_assoc, told] at eq
  have same := List.append_cancel_left eq
  have lengths : (flipped (summed (payload e)) i mask).length = (summed payload').length := by
    rw [length_flipped, length_summed, length_summed, told]
  exact flipped_summed_ne told.symm hi nonzero (List.append_inj_left same lengths)

/-- **A journal of which one byte of a payload or of a checksum has been altered** is read up to the
record that was hit, and no further. -/
theorem events_of_flipped {es : List Event} (fit : ∀ e ∈ es, Fits e) {n : Nat} (hn : n < es.length)
    {i : Nat} (hi : i < (payload es[n]).length + 4) {mask : UInt8} (nonzero : mask ≠ 0) {d : Disk}
    (damaged : d.log = .file (flipped (records es) ((records (es.take n)).length + (4 + i)) mask)) :
    Log.events d = .ok (es.take n) := by
  have parts : records es = records (es.take n) ++ (record es[n] ++ records (es.drop (n + 1))) := by
    rw [← records_cons, ← records_append, List.getElem_cons_drop, List.take_append_drop]
  have in_record : 4 + i < (record es[n]).length := by
    rw [record_eq_framed, length_framed]
    omega
  have hit := next?_eq_none_of_flipped (fit _ (List.getElem_mem hn)) hi nonzero
    (records (es.drop (n + 1)))
  rw [Log.events, damaged, parts, flipped_append_right, flipped_append_left in_record]
  dsimp only
  rw [replay_records_append fun e he => fit e (List.mem_of_mem_take he), replay_of_next?_none hit,
    List.append_nil]

/-- The journal of the unusual events, where the byte that says of the third one that it is a booking
says that it is a cancellation. -/
def recastUnusual : Disk where
  log := .file (flipped (records unusual) ((records (unusual.take 2)).length + (4 + 0)) 15)
  temp := .absent
  fate := fun _ _ => none
  calls := 0

theorem events_of_flipped_recast :
    (∀ e ∈ unusual, Fits e) ∧ (payload unusual[2])[0]? = some 7 ∧ (7 ^^^ 15 : UInt8) = 8 ∧
      Log.events recastUnusual = .ok (unusual.take 2) := by
  have fit : ∀ e ∈ unusual, Fits e := by decide +kernel
  have third : 2 < unusual.length := by decide
  have within : 0 < (payload unusual[2]).length + 4 := Nat.succ_pos _
  have nonzero : (15 : UInt8) ≠ 0 := by decide
  have recast : recastUnusual.log = .file (flipped (records unusual)
    ((records (unusual.take 2)).length + (4 + 0)) 15) := rfl
  refine ⟨fit, by decide +kernel, by decide, ?_⟩
  exact events_of_flipped fit third within nonzero recast

end Timetable.Journal
