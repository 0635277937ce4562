import Mathlib.Data.List.Basic
import Mathlib.Data.List.Induction
import Timetable.Proofs.Registry.Seats

/-!
# In order of date

The reservations of a slot are entered one after the other and struck out again, by ids that may be
those of several. What the slot keeps is at any time the list of those that are left, as they were
entered, sorted by date; the ones of one date stay in the order in which they were entered. Where
reservations are in order of date, a search by halves finds the places of a date among them.
-/

set_option autoImplicit false

namespace Timetable

namespace Reservation

variable {r x : Reservation} {rs entered : List Reservation} {date : Date} {id : Ident}

/-! ## Searching by halves -/

section Search

variable {test : Reservation → Bool}

/-- The first place between `low` and `high` at which the test fails, found by halves. -/
def search (test : Reservation → Bool) (rs : List Reservation) (low high : Nat) : Nat :=
  if low < high then
    let middle := low + (high - low) / 2
    if rs[middle]?.any test then search test rs (middle + 1) high else search test rs low middle
  else low
termination_by high - low

/-- The place in front of which the test holds and from which on it fails. -/
def divide (test : Reservation → Bool) (rs : List Reservation) : Nat := search test rs 0 rs.length

/-- Behind a reservation that fails the test all others fail it. -/
def Divided (test : Reservation → Bool) (rs : List Reservation) : Prop :=
  rs.Pairwise fun a b => test b → test a

theorem Divided.lt_length_takeWhile_iff (divided : Divided test rs) {place : Nat}
    (there : rs[place]? = some r) : place < (rs.takeWhile test).length ↔ test r = true := by
  induction rs generalizing place with
  | nil => cases there
  | cons first rest ih =>
    obtain ⟨of_first, divided⟩ := List.pairwise_cons.1 divided
    rw [List.takeWhile_cons]
    split
    · rename_i holds
      cases place with
      | zero =>
        cases there
        exact iff_of_true (Nat.zero_lt_succ _) holds
      | succ place => exact Nat.succ_lt_succ_iff.trans (ih divided there)
    · rename_i fails
      refine iff_of_false (Nat.not_lt_zero _) fun holds => fails ?_
      cases place with
      | zero =>
        cases there
        exact holds
      | succ place => exact of_first r (List.mem_of_getElem? there) holds

/-- The search finds where the test begins to fail, whatever it has left to look at. -/
theorem Divided.search_eq (divided : Divided test rs) {low high : Nat}
    (from_low : low ≤ (rs.takeWhile test).length) (to_high : (rs.takeWhile test).length ≤ high)
    (within : high ≤ rs.length) : search test rs low high = (rs.takeWhile test).length := by
  fun_induction search test rs low high with
  | case1 low high open_yet middle holds ih =>
    have there : rs[middle]? = some rs[middle] := List.getElem?_eq_getElem (by omega)
    rw [there] at holds
    exact ih ((divided.lt_length_takeWhile_iff there).2 holds) to_high within
  | case2 low high open_yet middle fails ih =>
    have there : rs[middle]? = some rs[middle] := List.getElem?_eq_getElem (by omega)
    rw [there] at fails
    refine ih from_low ?_ (by omega)
    exact Nat.not_lt.1 fun lt => fails ((divided.lt_length_takeWhile_iff there).1 lt)
  | case3 low high closed => omega

theorem Divided.divide_eq (divided : Divided test rs) :
    divide test rs = (rs.takeWhile test).length :=
  divided.search_eq (Nat.zero_le _) (List.takeWhile_sublist _).length_le (Nat.le_refl _)

/-- What comes in front of the place that is found, and what from there on. -/
theorem Divided.take_drop (divided : Divided test rs) :
    rs.take (divide test rs) = rs.takeWhile test ∧
      rs.drop (divide test rs) = rs.dropWhile test := by
  rw [divided.divide_eq]
  constructor
  · exact (List.prefix_iff_eq_take.1 (List.takeWhile_prefix test)).symm
  · have behind : (rs.takeWhile test ++ rs.dropWhile test).drop (rs.takeWhile test).length =
        rs.dropWhile test := List.drop_left
    rwa [List.takeWhile_append_dropWhile] at behind

end Search

theorem Sorted.divided_le (sorted : Sorted rs) (date : Date) :
    Divided (fun r => decide (r.date ≤ date)) rs := by
  refine sorted.imp fun {a b} before first => ?_
  exact decide_eq_true (Int.le_trans before (of_decide_eq_true first))

theorem Sorted.divided_lt (sorted : Sorted rs) (date : Date) :
    Divided (fun r => decide (r.date < date)) rs := by
  refine sorted.imp fun {a b} before first => ?_
  exact decide_eq_true (Int.lt_of_le_of_lt before (of_decide_eq_true first))

/-- A reservation is put in at the place that the search finds. -/
theorem Sorted.insert_eq_divide (sorted : Sorted rs) (r : Reservation) :
    r.insert rs = rs.take (divide (·.date ≤ r.date) rs) ++
      r :: rs.drop (divide (·.date ≤ r.date) rs) := by
  obtain ⟨front, back⟩ := (sorted.divided_le r.date).take_drop
  rw [front, back, Reservation.insert]

theorem takeWhile_le_eq (date : Date) (rs : List Reservation) :
    rs.takeWhile (·.date ≤ date) = rs.takeWhile (·.date < date) ++ onDate date rs := by
  induction rs with
  | nil => rfl
  | cons r rs ih =>
    by_cases before : r.date < date
    · have not_behind : r.date ≤ date := Int.le_of_lt before
      simpa [onDate, before, not_behind] using ih
    · simp [onDate, before]

/-- The reservations of a date lie between the places that two searches find. -/
theorem Sorted.onDate_eq_divide (sorted : Sorted rs) (date : Date) :
    onDate date rs =
      (rs.take (divide (·.date ≤ date) rs)).drop (divide (·.date < date) rs) := by
  rw [(sorted.divided_le date).take_drop.1, (sorted.divided_lt date).divide_eq, takeWhile_le_eq]
  exact List.drop_left.symm

/-! ## Sorting by date -/

/-- The reservations in order of date. Those of one date stay in the order that they have. -/
def byDate (rs : List Reservation) : List Reservation :=
  rs.mergeSort fun a b => decide (a.date ≤ b.date)

theorem le_trans_date (a b c : Reservation) (first : decide (a.date ≤ b.date) = true)
    (second : decide (b.date ≤ c.date) = true) : decide (a.date ≤ c.date) = true :=
  decide_eq_true (Int.le_trans (of_decide_eq_true first) (of_decide_eq_true second))

theorem le_total_date (a b : Reservation) :
    (decide (a.date ≤ b.date) || decide (b.date ≤ a.date)) = true := by
  rw [Bool.or_eq_true, decide_eq_true_iff, decide_eq_true_iff]
  exact Int.le_total _ _

theorem sorted_byDate (rs : List Reservation) : Sorted (byDate rs) :=
  (List.pairwise_mergeSort le_trans_date le_total_date rs).imp of_decide_eq_true

/-- Sorting does not change the order of what is on one date. -/
theorem filter_byDate (rs : List Reservation) (date : Date) :
    (byDate rs).filter (·.date = date) = rs.filter (·.date = date) := by
  have on_date : (rs.filter (·.date = date)).Pairwise fun a b => decide (a.date ≤ b.date) := by
    refine List.pairwise_of_forall_mem_list fun a ha b hb => decide_eq_true ?_
    rw [of_decide_eq_true (List.mem_filter.1 ha).2, of_decide_eq_true (List.mem_filter.1 hb).2]
    exact Int.le_refl _
  have kept : (rs.filter (·.date = date)).Sublist (byDate rs) :=
    List.sublist_mergeSort le_trans_date le_total_date on_date List.filter_sublist
  have kept := kept.filter (·.date = date)
  rw [List.filter_filter] at kept
  simp only [Bool.and_self] at kept
  exact (kept.eq_of_length ((List.mergeSort_perm rs _).filter _).length_eq.symm).symm

theorem mem_of_filter_date {xs ys : List Reservation}
    (same : ∀ date : Date, xs.filter (·.date = date) = ys.filter (·.date = date)) (mem : x ∈ xs) :
    x ∈ ys := by
  have on_date : x ∈ xs.filter (·.date = x.date) := List.mem_filter.2 ⟨mem, decide_eq_true rfl⟩
  rw [same] at on_date
  exact (List.mem_filter.1 on_date).1

/-- What is in order of date is told by what it has on each date. -/
theorem Sorted.eq_of_filter_date {xs ys : List Reservation} (sorted : Sorted xs)
    (sorted' : Sorted ys)
    (same : ∀ date : Date, xs.filter (·.date = date) = ys.filter (·.date = date)) : xs = ys := by
  induction xs generalizing ys with
  | nil =>
    refine (List.eq_nil_iff_forall_not_mem.2 fun y hy => ?_).symm
    exact List.not_mem_nil (mem_of_filter_date (fun date => (same date).symm) hy)
  | cons x xs ih =>
    cases ys with
    | nil => exact absurd (mem_of_filter_date same List.mem_cons_self) List.not_mem_nil
    | cons y ys =>
      obtain ⟨first, rest⟩ := List.pairwise_cons.1 sorted
      obtain ⟨first', rest'⟩ := List.pairwise_cons.1 sorted'
      -- The first of each list is in the other one, so both are on the same date.
      have not_later : x.date ≤ y.date := by
        obtain rfl | hy := List.mem_cons.1
          (mem_of_filter_date (fun date => (same date).symm) List.mem_cons_self)
        · exact Int.le_refl _
        · exact first y hy
      have not_later' : y.date ≤ x.date := by
        obtain rfl | hx := List.mem_cons.1 (mem_of_filter_date same List.mem_cons_self)
        · exact Int.le_refl _
        · exact first' x hx
      have on_date : y.date = x.date := Date.ext (Int.le_antisymm not_later' not_later)
      have heads := same x.date
      simp only [List.filter_cons, on_date, decide_true, ↓reduceIte] at heads
      obtain ⟨rfl, -⟩ := List.cons.inj heads
      refine congrArg (List.cons x) (ih rest rest' fun date => ?_)
      have tails := same date
      rw [List.filter_cons, List.filter_cons] at tails
      split at tails
      · exact (List.cons.inj tails).2
      · exact tails

/-- A list in order of date is the sorted list of all that has the same reservations on each date,
in the same order. -/
theorem Sorted.eq_byDate (sorted : Sorted rs)
    (same : ∀ date : Date, rs.filter (·.date = date) = entered.filter (·.date = date)) :
    rs = byDate entered :=
  sorted.eq_of_filter_date (sorted_byDate entered) fun date => by rw [same, filter_byDate]

/-- What is put in comes behind all that is on its date. -/
theorem Sorted.filter_insert (sorted : Sorted rs) (r : Reservation) (date : Date) :
    (r.insert rs).filter (·.date = date) = (rs ++ [r]).filter (·.date = date) := by
  induction rs with
  | nil => rfl
  | cons s rs ih =>
    obtain ⟨first, sorted⟩ := List.pairwise_cons.1 sorted
    rw [insert_cons]
    split
    · rw [List.filter_cons, ih sorted, List.cons_append, List.filter_cons]
    · rename_i behind
      rw [← List.singleton_append, List.filter_append, List.filter_append]
      by_cases on_date : r.date = date
      · -- All others are later, so none of them is on that date.
        have none_on : (s :: rs).filter (·.date = date) = [] := by
          refine List.filter_eq_nil_iff.2 fun t ht same => behind ?_
          rw [on_date, ← of_decide_eq_true same]
          obtain rfl | ht := List.mem_cons.1 ht
          · exact Int.le_refl _
          · exact first t ht
        rw [none_on, List.append_nil, List.nil_append]
      · have dropped : [r].filter (·.date = date) = [] := by simp [on_date]
        rw [dropped, List.append_nil, List.nil_append]

/-- To put a reservation in is to enter it and sort. -/
theorem insert_byDate (entered : List Reservation) (r : Reservation) :
    r.insert (byDate entered) = byDate (entered ++ [r]) := by
  refine ((sorted_byDate entered).insert r).eq_byDate fun date => ?_
  rw [(sorted_byDate entered).filter_insert, List.filter_append, List.filter_append, filter_byDate]

/-! ## The first of an id -/

/-- Of the reservations of an id, the one of the first date, and of those the one that was entered
first. -/
def firstOf? (id : Ident) (entered : List Reservation) : Option Reservation :=
  (entered.filter (·.id == id)).minOn? (·.date)

/-- Another reservation behind the others is the first one only if it is alone or earlier. -/
theorem minOn?_snoc (rs : List Reservation) (r : Reservation) :
    (rs ++ [r]).minOn? (·.date) =
      some ((rs.minOn? (·.date)).elim r fun first => if first.date ≤ r.date then first else r) := by
  cases rs with
  | nil => rfl
  | cons s rs =>
    rw [List.cons_append, List.minOn?, List.minOn?, List.foldl_append]
    rfl

theorem head?_byDate (rs : List Reservation) : (byDate rs).head? = rs.minOn? (·.date) := by
  induction rs using List.reverseRecOn with
  | nil => simp [byDate]
  | append_singleton rs r ih =>
    rw [← insert_byDate, minOn?_snoc, ← ih]
    cases byDate rs with
    | nil => rfl
    | cons first rest =>
      rw [insert_cons]
      split
      · rename_i behind
        exact congrArg some (if_pos behind).symm
      · rename_i behind
        exact congrArg some (if_neg behind).symm

theorem byDate_filter (p : Reservation → Bool) (rs : List Reservation) :
    (byDate rs).filter p = byDate (rs.filter p) := by
  have sorted : Sorted ((byDate rs).filter p) := (sorted_byDate rs).sublist List.filter_sublist
  refine sorted.eq_byDate fun date => ?_
  rw [List.filter_comm, filter_byDate, List.filter_comm]

theorem find?_byDate (id : Ident) (entered : List Reservation) :
    (byDate entered).find? (·.id == id) = firstOf? id entered := by
  rw [← List.head?_filter, byDate_filter, head?_byDate, firstOf?]

theorem byDate_erase (rs : List Reservation) (r : Reservation) :
    (byDate rs).erase r = byDate (rs.erase r) := by
  have sorted : Sorted ((byDate rs).erase r) := (sorted_byDate rs).sublist List.erase_sublist
  refine sorted.eq_byDate fun date => ?_
  rw [← List.erase_filter, filter_byDate, List.erase_filter]

theorem eraseP_eq_erase_of_find? {p : Reservation → Bool} (found : rs.find? p = some x) :
    rs.eraseP p = rs.erase x := by
  induction rs with
  | nil => cases found
  | cons r rs ih =>
    rw [List.find?_cons] at found
    split at found
    · rename_i holds
      cases found
      rw [List.eraseP_cons_of_pos holds, List.erase_cons_head]
    · rename_i fails
      have differ : r ≠ x := by
        rintro rfl
        exact absurd (List.find?_some found) (Bool.eq_false_iff.1 fails)
      rw [List.eraseP_cons_of_neg (Bool.eq_false_iff.1 fails),
        List.erase_cons_tail (by simpa using differ), ih found]

/-! ## Reservations entered and struck out -/

/-- A reservation is entered, or the first one of an id is struck out. -/
inductive Filing where
  | enter (r : Reservation)
  | strike (id : Ident)

/-- What a filing makes of the reservations in the order in which they were entered, and which one
it strikes out. -/
def Filing.record (entered : List Reservation) : Filing → Option Reservation × List Reservation
  | enter r => (none, entered ++ [r])
  | strike id =>
    match firstOf? id entered with
    | none => (none, entered)
    | some r => (some r, entered.erase r)

/-- What each of the filings strikes out, and what they all leave. -/
def Filing.recordAll (entered : List Reservation) :
    List Filing → List (Option Reservation) × List Reservation
  | [] => ([], entered)
  | filing :: filings =>
    let rest := recordAll (filing.record entered).2 filings
    ((filing.record entered).1 :: rest.1, rest.2)

end Reservation

namespace Roster

open Reservation (Filing byDate divide)

variable {roster : Roster} {entered : List Reservation}

/-- Takes the first reservation of that id out, from the place at which it stands. -/
def takeReservation (roster : Roster) (id : Ident) : Option Reservation × Roster :=
  match roster.reservations.findIdx? (·.id == id) with
  | none => (none, roster)
  | some place =>
    (roster.reservations[place]?,
      { roster with reservations := roster.reservations.eraseIdx place })

theorem takeReservation_eq (roster : Roster) (id : Ident) :
    roster.takeReservation id = (roster.reservation? id, roster.removeReservation id) := by
  rw [takeReservation, reservation?, removeReservation, List.eraseP_eq_eraseIdx,
    List.find?_eq_bind_findIdx?_getElem?]
  cases roster.reservations.findIdx? (·.id == id) <;> rfl

def file (roster : Roster) : Filing → Option Reservation × Roster
  | .enter r => (none, roster.addReservation r)
  | .strike id => roster.takeReservation id

/-- The filings one after the other, with what each one strikes out. -/
def fileAll (roster : Roster) : List Filing → List (Option Reservation) × Roster
  | [] => ([], roster)
  | filing :: filings =>
    let rest := (roster.file filing).2.fileAll filings
    ((roster.file filing).1 :: rest.1, rest.2)

/-- One filing: a roster whose reservations are those that were entered, in order of date, gives
what the filing strikes out of these, and has what it leaves of them. -/
theorem file_eq (kept : roster.reservations = byDate entered) (filing : Filing) :
    roster.file filing = ((filing.record entered).1,
      { roster with reservations := byDate (filing.record entered).2 }) := by
  obtain ⟨slot, filters, supervisors, reservations⟩ := roster
  obtain rfl : reservations = byDate entered := kept
  cases filing with
  | enter r =>
    rw [file, addReservation, Reservation.insert_byDate]
    rfl
  | strike id =>
    have first := Reservation.find?_byDate id entered
    rw [file, takeReservation_eq, reservation?, removeReservation, first, Filing.record]
    split
    · rename_i missing
      rw [missing] at first ⊢
      rw [List.eraseP_of_forall_not (List.find?_eq_none.1 first)]
    · rename_i r found
      rw [Reservation.eraseP_eq_erase_of_find? (first.trans found), Reservation.byDate_erase, found]

theorem fileAll_eq (kept : roster.reservations = byDate entered) (filings : List Filing) :
    roster.fileAll filings = ((Filing.recordAll entered filings).1,
      { roster with reservations := byDate (Filing.recordAll entered filings).2 }) := by
  induction filings generalizing roster entered with
  | nil =>
    rw [fileAll, Filing.recordAll, ← kept]
  | cons filing filings ih =>
    rw [fileAll, file_eq kept filing, ih rfl, Filing.recordAll]

theorem reservationsOn_eq (kept : roster.reservations = byDate entered) (date : Date) :
    roster.reservationsOn date = entered.filter (·.date = date) := by
  rw [reservationsOn, kept, (Reservation.sorted_byDate entered).onDate_eq_filter,
    Reservation.filter_byDate]

/-- **Whatever is filed**, in whichever order and under whichever ids: a slot without reservations
gives each time the one that the filing strikes out of those that were entered, the first of its id
by date and then by entry, and has in the end all that are left, in order of date and then of entry.
Those of one date are found as they were entered, with how many they are and the first one of a user
among them. They lie between the places that two searches by halves find, and the next one of that
date is put in where the second search ends. -/
theorem fileAll_new (slot : Slot) (supervisors : List Supervisor) (filings : List Filing) :
    ∃ struck entered roster, Filing.recordAll [] filings = (struck, entered) ∧
      (new slot supervisors).fileAll filings = (struck, roster) ∧
      roster = { new slot supervisors with reservations := byDate entered } ∧
      ∀ date,
        roster.reservationsOn date = entered.filter (·.date = date) ∧
        roster.countOn date = (entered.filter (·.date = date)).length ∧
        (∀ user, roster.bookedBy? date user =
          (entered.filter (·.date = date)).find? (·.userId == user)) ∧
        roster.reservationsOn date =
          (roster.reservations.take (divide (·.date ≤ date) roster.reservations)).drop
            (divide (·.date < date) roster.reservations) ∧
        ∀ r : Reservation, r.date = date → (roster.addReservation r).reservations =
          roster.reservations.take (divide (·.date ≤ date) roster.reservations) ++
            r :: roster.reservations.drop (divide (·.date ≤ date) roster.reservations) := by
  have kept : (new slot supervisors).reservations = byDate [] := List.mergeSort_nil.symm
  have filed := fileAll_eq kept filings
  generalize Filing.recordAll [] filings = recorded at filed
  obtain ⟨struck, entered⟩ := recorded
  have sorted := Reservation.sorted_byDate entered
  refine ⟨struck, entered, _, rfl, filed, rfl, fun date => ?_⟩
  have on_date : reservationsOn { new slot supervisors with reservations := byDate entered } date =
      entered.filter (·.date = date) := reservationsOn_eq rfl date
  refine ⟨on_date, congrArg List.length on_date, fun user => ?_, sorted.onDate_eq_divide date, ?_⟩
  · rw [bookedBy?, on_date]
  · rintro r rfl
    exact sorted.insert_eq_divide r

end Roster

end Timetable
