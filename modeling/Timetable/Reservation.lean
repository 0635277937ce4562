import Timetable.Slot
import Timetable.Date

/-!
# Reservations

A reservation takes a seat of a slot on one date. The reservations of a slot are kept in order of
date, those of one date in the order in which they were made.
-/

set_option autoImplicit false

namespace Timetable

structure Reservation where
  id : Ident
  slotId : Ident
  date : Date
  userId : UserId
  /-- Who made it: the user, or a supervisor for the user. -/
  reserverId : UserId
  deriving DecidableEq

namespace Reservation

/-- Puts a reservation behind those of its date and of earlier dates. -/
def insert (r : Reservation) (rs : List Reservation) : List Reservation :=
  rs.takeWhile (·.date ≤ r.date) ++ r :: rs.dropWhile (·.date ≤ r.date)

/-- The reservations of one date, among reservations in order of date. -/
def onDate (date : Date) (rs : List Reservation) : List Reservation :=
  (rs.dropWhile (·.date < date)).takeWhile (·.date ≤ date)

/-- The reservations are in order of date. -/
def Sorted (rs : List Reservation) : Prop := rs.Pairwise (·.date ≤ ·.date)

theorem insert_cons (r s : Reservation) (rs : List Reservation) :
    r.insert (s :: rs) = if s.date ≤ r.date then s :: r.insert rs else r :: s :: rs := by
  by_cases h : s.date ≤ r.date <;> simp [insert, h]

theorem perm_insert (r : Reservation) (rs : List Reservation) : (r.insert rs).Perm (r :: rs) := by
  rw [insert]
  refine List.perm_middle.trans (List.Perm.cons r ?_)
  rw [List.takeWhile_append_dropWhile]

theorem mem_insert {r s : Reservation} {rs : List Reservation} :
    s ∈ r.insert rs ↔ s = r ∨ s ∈ rs := by
  rw [(perm_insert r rs).mem_iff, List.mem_cons]

theorem Sorted.insert {rs : List Reservation} (sorted : Sorted rs) (r : Reservation) :
    Sorted (r.insert rs) := by
  induction rs with
  | nil => exact List.pairwise_singleton _ _
  | cons s rs ih =>
    obtain ⟨first, rest⟩ := List.pairwise_cons.1 sorted
    rw [insert_cons]
    split
    · rename_i before
      refine List.pairwise_cons.2 ⟨?_, ih rest⟩
      intro t ht
      obtain rfl | ht := mem_insert.1 ht
      · exact before
      · exact first t ht
    · rename_i after
      have next : r.date ≤ s.date := Int.le_of_lt (Int.not_le.1 after)
      refine List.pairwise_cons.2 ⟨?_, sorted⟩
      intro t ht
      obtain rfl | ht := List.mem_cons.1 ht
      · exact next
      · exact Int.le_trans next (first t ht)

theorem Sorted.onDate_eq_filter {rs : List Reservation} (sorted : Sorted rs) (date : Date) :
    onDate date rs = rs.filter (·.date = date) := by
  induction rs with
  | nil => rfl
  | cons r rs ih =>
    obtain ⟨first, sorted⟩ := List.pairwise_cons.1 sorted
    by_cases before : r.date < date
    · have differ : r.date ≠ date := by
        rintro rfl
        exact absurd before (Int.lt_irrefl _)
      simpa [onDate, before, differ] using ih sorted
    · simp only [onDate, List.dropWhile_cons, before, decide_false, Bool.false_eq_true,
        ↓reduceIte]
      by_cases same : r.date = date
      · subst same
        have rest := ih sorted
        have none_before : rs.dropWhile (fun s => decide (s.date < r.date)) = rs := by
          cases rs with
          | nil => rfl
          | cons s rs =>
            have : ¬ s.date < r.date := Int.not_lt.2 (first s List.mem_cons_self)
            simp [this]
        rw [onDate, none_before] at rest
        have self : r.date ≤ r.date := Int.le_refl _
        simp [self, rest]
      · have later : ¬ r.date ≤ date := fun h =>
          same (Date.ext (Int.le_antisymm h (Int.not_lt.1 before)))
        have none_on : rs.filter (fun s => decide (s.date = date)) = [] := by
          refine List.filter_eq_nil_iff.2 fun s hs => ?_
          have := first s hs
          simp only [decide_eq_true_eq]
          rintro rfl
          exact later this
        simp [later, same, none_on]

end Reservation

end Timetable
