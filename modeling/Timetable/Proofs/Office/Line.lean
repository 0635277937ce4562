import Timetable.Ticket

/-!
# Who is served

A roster is held by one job at a time, and nobody looks at it meanwhile. A ticket that is served
stays served until it is given back, whoever else comes or leaves.
-/

set_option autoImplicit false

namespace Timetable.Ticket

variable {t a b : Ticket} {line : List Ticket}

theorem isServed_cons_iff {first : Ticket} :
    t.isServed (first :: line) = true ↔ first = t ∨ first.bars t = false ∧ t.isServed line = true := by
  simp only [isServed, Bool.or_eq_true, beq_iff_eq, Bool.and_eq_true, Bool.not_eq_true']

/-- Who comes later does not matter to those who are served. -/
theorem isServed_append (served : t.isServed line = true) (later : List Ticket) :
    t.isServed (line ++ later) = true := by
  induction line with
  | nil => cases served
  | cons first line ih =>
    rw [List.cons_append, isServed_cons_iff]
    exact (isServed_cons_iff.1 served).imp_right (And.imp_right ih)

/-- Who leaves does not matter to those who stay. -/
theorem isServed_filter {p : Ticket → Bool} (served : t.isServed line = true) (stays : p t = true) :
    t.isServed (line.filter p) = true := by
  induction line with
  | nil => cases served
  | cons first line ih =>
    rcases isServed_cons_iff.1 served with rfl | ⟨passes, later⟩
    · rw [List.filter_cons_of_pos stays, isServed_cons_iff]
      exact .inl rfl
    · by_cases first_stays : p first = true
      · rw [List.filter_cons_of_pos first_stays, isServed_cons_iff]
        exact .inr ⟨passes, ih later⟩
      · rw [List.filter_cons_of_neg first_stays]
        exact ih later

theorem bars_comm (a b : Ticket) : a.bars b = b.bars a := by
  rw [bars, bars, Bool.or_comm, BEq.comm]

/-- Two that bar each other are not both served. -/
theorem eq_of_isServed (first : a.isServed line = true) (second : b.isServed line = true)
    (bar : a.bars b = true) : a = b := by
  induction line with
  | nil => cases first
  | cons head line ih =>
    rcases isServed_cons_iff.1 first with rfl | ⟨passes, later⟩
    · rcases isServed_cons_iff.1 second with same | ⟨passes, -⟩
      · exact same
      · exact absurd bar (Bool.eq_false_iff.1 passes)
    · rcases isServed_cons_iff.1 second with rfl | ⟨-, later'⟩
      · rw [bars_comm] at bar
        exact absurd bar (Bool.eq_false_iff.1 passes)
      · exact ih later later'

/-- No two jobs hold the same roster. -/
theorem job_eq_of_isServed {i j : Nat} {slot : Ident}
    (first : isServed ⟨i, slot, .hold⟩ line = true)
    (second : isServed ⟨j, slot, .hold⟩ line = true) : i = j := by
  have bar : bars ⟨i, slot, .hold⟩ ⟨j, slot, .hold⟩ = true := by simp [bars]
  exact congrArg Ticket.job (eq_of_isServed first second bar)

end Timetable.Ticket
