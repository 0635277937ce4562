import Timetable.Proofs.Sessions

/-!
# Overfull dates

The dates on which a slot has more reservations than seats, and whose sessions are not over, are
listed in ascending order and each once, with what is reserved. A slot that has been validated has a
session on every date, so this cannot fail.
-/

set_option autoImplicit false

namespace Timetable.Overfull

variable {s : Slot} {bells : BellSchedule} {now : Int} {rs : List Reservation} {date : Date}

/-! ## Dates of reservations -/

theorem mem_addDate {d : Date} {ds : List Date} : d ∈ addDate date ds ↔ d = date ∨ d ∈ ds := by
  induction ds with
  | nil => rw [addDate, List.mem_singleton, or_iff_left List.not_mem_nil]
  | cons other rest ih =>
    rw [addDate]
    split
    · exact List.mem_cons
    · split
      · rename_i same
        rw [same, List.mem_cons, or_self_left]
      · rw [List.mem_cons, ih, List.mem_cons, or_left_comm]

theorem mem_dates : date ∈ dates rs ↔ ∃ r ∈ rs, r.date = date := by
  induction rs with
  | nil => simp [dates]
  | cons r rs ih =>
    rw [dates, List.foldr_cons, mem_addDate, ← dates, ih, eq_comm]
    simp only [List.mem_cons, exists_eq_or_imp]

theorem pairwise_addDate {ds : List Date} (ascending : ds.Pairwise (· < ·)) :
    (addDate date ds).Pairwise (· < ·) := by
  induction ds with
  | nil => exact List.pairwise_singleton _ _
  | cons other rest ih =>
    obtain ⟨first, ascending'⟩ := List.pairwise_cons.1 ascending
    rw [addDate]
    split
    · rename_i before
      refine List.pairwise_cons.2 ⟨?_, ascending⟩
      intro d hd
      obtain rfl | hd := List.mem_cons.1 hd
      · exact before
      · exact Int.lt_trans before (first d hd)
    · split
      · exact ascending
      · rename_i not_before differ
        refine List.pairwise_cons.2 ⟨?_, ih ascending'⟩
        intro d hd
        obtain rfl | hd := mem_addDate.1 hd
        · rw [Date.lt_iff] at not_before ⊢
          have other_day : d.day ≠ other.day := fun same => differ (Date.ext same)
          omega
        · exact first d hd

/-- The dates are in ascending order, and each is there once. -/
theorem pairwise_dates (rs : List Reservation) : (dates rs).Pairwise (· < ·) := by
  induction rs with
  | nil => exact List.Pairwise.nil
  | cons r rs ih => exact pairwise_addDate ih

/-! ## Dates that are overfull -/

/-- There are more reservations for the date than seats, and the session is not over. -/
def At (s : Slot) (bells : BellSchedule) (now : Int) (rs : List Reservation) (date : Date) : Prop :=
  s.capacity.toNat < rs.countP (·.date = date) ∧ ¬ s.IsOver bells now date

instance (s : Slot) (bells : BellSchedule) (now : Int) (rs : List Reservation) (date : Date) :
    Decidable (At s bells now rs date) := inferInstanceAs (Decidable (_ ∧ _))

/-- What is listed for a date. -/
def line (s : Slot) (rs : List Reservation) (date : Date) : Overfull :=
  ⟨date, rs.countP (·.date = date), s.capacity⟩

theorem eq_line_iff {o : Overfull} : o = line s rs o.date ↔
    o.count = rs.countP (·.date = o.date) ∧ o.capacity = s.capacity := by
  obtain ⟨date, count, capacity⟩ := o
  rw [line, Overfull.mk.injEq, eq_self, true_and]

/-- What is listed for the dates of reservations that are overfull. -/
def lines (s : Slot) (bells : BellSchedule) (now : Int) (rs : List Reservation) : List Overfull :=
  ((dates rs).filter fun d => At s bells now rs d).map (line s rs)

/-- What is listed is every overfull date, with what is reserved for it and the seats. -/
theorem mem_lines_iff {o : Overfull} :
    o ∈ lines s bells now rs ↔ At s bells now rs o.date ∧ o = line s rs o.date := by
  rw [lines, List.mem_map]
  constructor
  · rintro ⟨d, hd, rfl⟩
    exact ⟨of_decide_eq_true (List.mem_filter.1 hd).2, rfl⟩
  · rintro ⟨is_overfull, same⟩
    refine ⟨o.date, List.mem_filter.2 ⟨?_, decide_eq_true is_overfull⟩, same.symm⟩
    obtain ⟨r, hr, on_date⟩ := List.countP_pos_iff.1 (Nat.zero_lt_of_lt is_overfull.1)
    exact mem_dates.2 ⟨r, hr, of_decide_eq_true on_date⟩

/-- The list is in ascending order of date. -/
theorem pairwise_lines (s : Slot) (bells : BellSchedule) (now : Int) (rs : List Reservation) :
    (lines s bells now rs).Pairwise (·.date < ·.date) :=
  List.pairwise_map.2 ((pairwise_dates rs).filter _)

theorem among_eq_ok (valid : s.validate bells = .ok ()) (now : Int) (rs : List Reservation)
    (ds : List Date) :
    among s bells now rs ds = .ok ((ds.filter fun d => At s bells now rs d).map (line s rs)) := by
  induction ds with
  | nil => rfl
  | cons d ds ih =>
    simp only [among]
    split
    · rename_i room
      have not_overfull : ¬ At s bells now rs d := fun overfull => Nat.not_le.2 overfull.1 room
      rw [ih, List.filter_cons_of_neg (by simpa using not_overfull)]
    · rename_i full
      obtain ⟨phase, in_phase⟩ := Slot.exists_phaseOn_eq_ok valid now d
      simp only [ih, in_phase, bind, Except.bind, pure, Except.pure]
      by_cases ended : phase = .past
      · subst ended
        have not_overfull : ¬ At s bells now rs d := fun overfull => overfull.2 in_phase
        rw [if_pos rfl, List.filter_cons_of_neg (by simpa using not_overfull)]
      · have live : ¬ s.IsOver bells now d := fun is_over =>
          ended (Except.ok.inj (in_phase.symm.trans is_over))
        have overfull : At s bells now rs d := ⟨Nat.not_le.1 full, live⟩
        rw [if_neg ended, List.filter_cons_of_pos (by simpa using overfull)]
        rfl

/-- The overfull dates of a valid slot can be listed at any time. -/
theorem of_eq_ok (valid : s.validate bells = .ok ()) (now : Int) (rs : List Reservation) :
    Overfull.of s bells now rs = .ok (lines s bells now rs) := among_eq_ok valid now rs (dates rs)

end Timetable.Overfull
