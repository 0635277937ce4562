import Timetable.Proofs.Journal.Replay

/-!
# Pieces of records

A record is written in three parts, and a failure may leave only the first of them behind. The next
record then fills up the frame that has been begun. A length by itself spoils everything behind it,
for the event that is found there would be of a kind that does not exist. A payload without its
checksum may be completed by chance, but only by a length that has lost its own record.
-/

set_option autoImplicit false

namespace Timetable.Journal

/-- What may be left of a record that is written part by part. -/
inductive Piece where
  | whole (e : Event)
  /-- The length alone. -/
  | length (e : Event)
  /-- The length and the payload. -/
  | body (e : Event)

namespace Piece

def event : Piece → Event
  | whole e | length e | body e => e

def bytes : Piece → List UInt8
  | whole e => record e
  | length e => littleEndian 4 (payload e).length
  | body e => littleEndian 4 (payload e).length ++ payload e

def hasPayload : Piece → Bool
  | whole _ | body _ => true
  | length _ => false

/-- Pieces one after the other. -/
def joined (ps : List Piece) : List UInt8 := ps.flatMap bytes

end Piece

/-! ## Payloads -/

/-- The first field of every event is an id. -/
theorem putFields_eq (e : Event) : ∃ i more, putFields e = putIdent i ++ more := by
  cases e <;> simp only [putFields, putSlot, putFilter, putSupervisor, putReservation,
    List.append_assoc] <;> first | exact ⟨_, _, rfl⟩ | exact ⟨_, [], (List.append_nil _).symm⟩

theorem payload_eq (e : Event) :
    ∃ more, payload e = littleEndian 4 (kind e).toNat ++ (26 :: 0 :: 0 :: 0 :: more) := by
  obtain ⟨i, more, fields⟩ := putFields_eq e
  have low : littleEndian 8 26 = [26, 0, 0, 0, 0, 0, 0, 0] := by decide
  rw [payload, fields, putIdent, putText, length_utf8_text, low]
  exact ⟨_, rfl⟩

theorem lt_length_payload (e : Event) : 8 < (payload e).length := by
  obtain ⟨i, more, fields⟩ := putFields_eq e
  rw [payload, fields, List.length_append, List.length_append, length_putIdent, length_putUInt32]
  omega

theorem takeFields_eq_none {kind : Nat} (h : 8 < kind) (bytes : List UInt8) :
    takeFields kind bytes = none := by
  unfold takeFields
  split
  all_goals first | omega | rfl

/-- A payload that can be read begins with the number of a kind. -/
theorem kind_of_ofPayload? {bytes : List UInt8} {e : Event} (h : ofPayload? bytes = some e) :
    4 ≤ bytes.length ∧ ofLittleEndian (bytes.take 4) ≤ 8 := by
  have run : ofPayload? bytes =
      ((split? 4 bytes).bind fun parts => takeFields (ofLittleEndian parts.1) parts.2).map (·.1) := by
    unfold ofPayload? takeEvent takeNat takeBytes
    simp only [StateT.run, bind, StateT.bind]
    cases split? 4 bytes <;> rfl
  rw [run] at h
  obtain ⟨⟨e', rest'⟩, read, -⟩ := Option.map_eq_some_iff.1 h
  obtain ⟨⟨front, rest⟩, first, fields⟩ := Option.bind_eq_some_iff.1 read
  obtain ⟨four, rfl⟩ := split?_eq_some_iff.1 first
  refine ⟨by rw [List.length_append]; omega, ?_⟩
  rw [List.take_append_of_le_length (Nat.le_of_eq four.symm), List.take_of_length_le
    (Nat.le_of_eq four)]
  apply Nat.le_of_not_lt
  intro too_large
  cases (takeFields_eq_none too_large rest).symm.trans fields

/-! ## What a frame of pieces holds -/

/-- A length with the next record behind it is not read: that record would have to be of a kind that
does not exist. -/
theorem next?_length (e : Event) {e' : Event} (fit' : Fits e') (rest : List UInt8) :
    next? (littleEndian 4 (payload e).length ++ (littleEndian 4 (payload e').length ++ rest)) =
      none := by
  refine Option.eq_none_iff_forall_ne_some.2 ?_
  rintro ⟨z, rest'⟩ h
  obtain ⟨p, short, read, eq⟩ := next?_eq_some_iff.1 h
  obtain ⟨four, kind⟩ := kind_of_ofPayload? read
  have behind := congrArg (·.drop 4) eq
  simp only [framed, List.append_assoc] at behind
  rw [List.drop_left' (length_littleEndian 4 _), List.drop_left' (length_littleEndian 4 _)] at behind
  have front := congrArg (·.take 4) behind
  rw [List.take_append_of_le_length four, List.take_left' (length_littleEndian 4 _)] at front
  rw [← front, ofLittleEndian_littleEndian, Nat.mod_eq_of_lt (Nat.lt_of_le_of_lt fit' (by decide))]
    at kind
  have := lt_length_payload e'
  omega

/-- A payload without its length is not read: what is taken for its length is the number of its
kind, and what is taken for the kind is the length of an id. -/
theorem next?_payload (e : Event) (rest : List UInt8) : next? (payload e ++ rest) = none := by
  refine Option.eq_none_iff_forall_ne_some.2 ?_
  rintro ⟨z, rest'⟩ h
  obtain ⟨p, short, read, eq⟩ := next?_eq_some_iff.1 h
  obtain ⟨four, kind⟩ := kind_of_ofPayload? read
  obtain ⟨more, payload_eq⟩ := payload_eq e
  have behind := congrArg (·.drop 4) eq
  simp only [framed, payload_eq, List.append_assoc] at behind
  rw [List.drop_left' (length_littleEndian 4 _), List.drop_left' (length_littleEndian 4 _)] at behind
  have front := congrArg (·.take 4) behind
  rw [List.take_append_of_le_length four] at front
  rw [← front] at kind
  simp [ofLittleEndian] at kind

/-- A length with its payload is read if the next four bytes happen to be the checksum. -/
theorem next?_body {e z : Event} {rest rest' : List UInt8} (fit : Fits e)
    (h : next? (littleEndian 4 (payload e).length ++ payload e ++ rest) = some (z, rest')) :
    z = e ∧ ∃ sum, sum.length = 4 ∧ rest = sum ++ rest' := by
  obtain ⟨p, short, read, eq⟩ := next?_eq_some_iff.1 h
  have length := ofLittleEndian_take_framed short rest'
  rw [← eq, List.append_assoc, List.take_left' (length_littleEndian 4 _),
    ofLittleEndian_littleEndian, Nat.mod_eq_of_lt (Nat.lt_of_le_of_lt fit (by decide))] at length
  have behind := congrArg (·.drop 4) eq
  simp only [framed, List.append_assoc] at behind
  rw [List.drop_left' (length_littleEndian 4 _), List.drop_left' (length_littleEndian 4 _)] at behind
  obtain ⟨same, behind⟩ := List.append_inj behind length
  rw [← same, ofPayload?_payload fit] at read
  cases read
  exact ⟨rfl, _, length_putUInt32 _, behind⟩

/-! ## Reading pieces -/

open Piece

theorem joined_cons (p : Piece) (ps : List Piece) : joined (p :: ps) = p.bytes ++ joined ps :=
  List.flatMap_cons

theorem joined_append (ps qs : List Piece) : joined (ps ++ qs) = joined ps ++ joined qs :=
  List.flatMap_append

/-- Every piece begins with the length of its payload. -/
theorem Piece.bytes_eq (p : Piece) :
    ∃ more, p.bytes = littleEndian 4 (payload p.event).length ++ more := by
  cases p with
  | whole e => exact ⟨_, record_eq_framed e⟩
  | length e => exact ⟨[], (List.append_nil _).symm⟩
  | body e => exact ⟨payload e, rfl⟩

/-- A length by itself keeps everything behind it from being read. -/
theorem next?_joined_length {e : Event} {ps : List Piece} (fit : ∀ p ∈ length e :: ps, Fits p.event) :
    next? (joined (length e :: ps)) = none := by
  rw [joined_cons]
  cases ps with
  | nil =>
    refine Option.eq_none_iff_forall_ne_some.2 ?_
    rintro ⟨z, rest⟩ h
    have enough := length_of_next? h
    simp [bytes, joined] at enough
  | cons p ps =>
    obtain ⟨more, begins⟩ := p.bytes_eq
    rw [joined_cons, begins, List.append_assoc]
    exact next?_length e (fit p (List.mem_cons_of_mem _ List.mem_cons_self)) _

theorem joined_cons_ne_nil (p : Piece) (ps : List Piece) : joined (p :: ps) ≠ [] := by
  obtain ⟨more, begins⟩ := p.bytes_eq
  intro h
  have length := congrArg List.length h
  simp [joined_cons, begins] at length

/-- Behind a payload that is read without its checksum there is a length that has lost its record. -/
theorem exists_length_of_body {e z : Event} {ps : List Piece} {rest : List UInt8} (fit : Fits e)
    (next : next? (joined (body e :: ps)) = some (z, rest)) (read : unread rest = []) :
    z = e ∧ ∃ e' qs, ps = length e' :: qs ∧ rest = joined qs := by
  rw [joined_cons] at next
  obtain ⟨rfl, sum, four, behind⟩ := next?_body fit next
  refine ⟨rfl, ?_⟩
  have lost (e' : Event) (more : List UInt8)
      (h : joined ps = littleEndian 4 (payload e').length ++ (payload e' ++ more)) : False := by
    obtain ⟨-, eq⟩ := List.append_inj (behind.symm.trans h)
      (four.trans (length_littleEndian 4 _).symm)
    rw [eq, unread_of_next?_none (next?_payload e' more)] at read
    have length := congrArg List.length read
    have := lt_length_payload e'
    rw [List.length_append, List.length_nil] at length
    omega
  cases ps with
  | nil =>
    have length := congrArg List.length behind
    rw [joined, List.flatMap_nil, List.length_append, List.length_nil] at length
    omega
  | cons p qs =>
    rw [joined_cons] at behind lost
    cases p with
    | whole e' =>
      refine (lost e' (putUInt32 (checksum (payload e')) ++ joined qs) ?_).elim
      rw [bytes, record_eq_framed, framed]
      simp only [List.append_assoc]
    | body e' =>
      refine (lost e' (joined qs) ?_).elim
      rw [bytes, List.append_assoc]
    | length e' =>
      obtain ⟨-, eq⟩ := List.append_inj behind ((length_littleEndian 4 _).trans four.symm)
      exact ⟨e', qs, rfl, eq.symm⟩

/-- If pieces are read to their end, then an event is read for each of their payloads. -/
theorem length_replay_joined : (ps : List Piece) → (∀ p ∈ ps, Fits p.event) →
    unread (joined ps) = [] → (replay (joined ps)).length = ps.countP hasPayload
  | [], _, _ => by simp [joined]
  | whole e :: ps, fit, read => by
    have next : next? (joined (whole e :: ps)) = some (e, joined ps) :=
      next?_record (fit _ List.mem_cons_self) (joined ps)
    rw [unread_of_next? next] at read
    have rest := length_replay_joined ps (fun p h => fit p (List.mem_cons_of_mem _ h)) read
    rw [replay_of_next? next, List.length_cons, rest, List.countP_cons_of_pos rfl]
  | length e :: ps, fit, read => by
    rw [unread_of_next?_none (next?_joined_length fit)] at read
    exact absurd read (joined_cons_ne_nil _ ps)
  | body e :: ps, fit, read => by
    cases next : next? (joined (body e :: ps)) with
    | none =>
      rw [unread_of_next?_none next] at read
      exact absurd read (joined_cons_ne_nil _ ps)
    | some first =>
      obtain ⟨z, rest⟩ := first
      rw [unread_of_next? next] at read
      obtain ⟨rfl, e', qs, rfl, rfl⟩ := exists_length_of_body (fit _ List.mem_cons_self) next read
      have rest := length_replay_joined qs
        (fun p h => fit p (List.mem_cons_of_mem _ (List.mem_cons_of_mem _ h))) read
      rw [replay_of_next? next, List.length_cons, rest, List.countP_cons_of_pos rfl,
        List.countP_cons_of_neg (by simp [hasPayload])]

/-- Pieces that are read to their end do not begin with a length by itself. -/
theorem hasPayload_of_read {p : Piece} {ps : List Piece} (fit : ∀ q ∈ p :: ps, Fits q.event)
    (read : unread (joined (p :: ps)) = []) : p.hasPayload := by
  cases p with
  | whole e => rfl
  | body e => rfl
  | length e =>
    rw [unread_of_next?_none (next?_joined_length fit)] at read
    exact absurd read (joined_cons_ne_nil _ ps)

/-- The first parts of the records of events are pieces, and all of the parts are whole records. -/
theorem exists_pieces (es : List Event) (n : Nat) :
    ∃ ps, ((es.flatMap recordParts).take n).flatten = joined ps ∧ (∀ p ∈ ps, p.event ∈ es) ∧
      ((es.flatMap recordParts).take n = es.flatMap recordParts → ps = es.map whole) ∧
      (n ≠ 0 → es ≠ [] → ps ≠ []) := by
  induction es generalizing n with
  | nil => exact ⟨[], by simp [joined], by simp, fun _ => rfl, fun _ h => absurd rfl h⟩
  | cons e es ih =>
    have parts : (e :: es).flatMap recordParts =
        littleEndian 4 (payload e).length :: payload e :: putUInt32 (checksum (payload e)) ::
          es.flatMap recordParts := by simp [recordParts]
    rw [parts]
    rcases n with _ | _ | _ | n
    · exact ⟨[], by simp [joined], by simp, by simp, by simp⟩
    · exact ⟨[length e], by simp [joined, bytes], by simp [event], by simp, by simp⟩
    · exact ⟨[body e], by simp [joined, bytes], by simp [event], by simp, by simp⟩
    · obtain ⟨ps, eq, from_es, whole_all, -⟩ := ih n
      refine ⟨whole e :: ps, ?_, ?_, ?_, fun _ _ => List.cons_ne_nil _ _⟩
      · rw [joined_cons, ← eq, bytes, record_eq_framed, framed]
        simp
      · intro p h
        rcases List.mem_cons.1 h with rfl | h
        · exact List.mem_cons_self
        · exact List.mem_cons_of_mem _ (from_es p h)
      · intro h
        simp only [List.take_succ_cons, List.cons.injEq, true_and] at h
        rw [whole_all h, List.map_cons]

end Timetable.Journal
