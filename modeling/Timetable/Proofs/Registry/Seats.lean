import Timetable.Proofs.Registry.WellFormed

/-!
# Seats

How many reservations a slot has on a date, and what events do to them. Whatever the events, the
reservations of a slot are in order of date, so that those of one date are found together. Events
that neither create, change or delete a slot nor book leave each slot the reservations that it has,
or fewer.
-/

set_option autoImplicit false

namespace Timetable

/-! ## In order of date -/

namespace Roster

variable {roster : Roster}

theorem sorted_apply (sorted : Reservation.Sorted roster.reservations) (e : Event) :
    Reservation.Sorted (roster.apply e).reservations := by
  cases e with
  | supervisorAdded s =>
    simp only [Roster.apply, linkSupervisor]
    split <;> exact sorted
  | reservationBooked r => exact sorted.insert r
  | reservationCancelled id slot => exact sorted.sublist List.eraseP_sublist
  | _ => exact sorted

theorem countOn_eq (sorted : Reservation.Sorted roster.reservations) (date : Date) :
    roster.countOn date = roster.reservations.countP (·.date = date) := by
  rw [countOn, reservationsOn, sorted.onDate_eq_filter, List.countP_eq_length_filter]

theorem countOn_addReservation (sorted : Reservation.Sorted roster.reservations) (s : Reservation)
    (date : Date) : (roster.addReservation s).countOn date =
      roster.countOn date + if s.date = date then 1 else 0 := by
  have sorted' : Reservation.Sorted (roster.addReservation s).reservations := sorted.insert s
  rw [countOn_eq sorted', countOn_eq sorted]
  refine ((Reservation.perm_insert s roster.reservations).countP_eq _).trans ?_
  simp [List.countP_cons]

theorem bookedBy?_eq_none_iff (sorted : Reservation.Sorted roster.reservations) {date : Date}
    {user : UserId} : roster.bookedBy? date user = none ↔
      ∀ s ∈ roster.reservations, s.date = date → s.userId ≠ user := by
  rw [bookedBy?, reservationsOn, sorted.onDate_eq_filter, List.find?_eq_none]
  simp only [List.mem_filter, decide_eq_true_eq, beq_iff_eq, and_imp]

end Roster

namespace Registry

variable {r : Registry}

/-- The reservations of every slot are in order of date. -/
def Ordered (r : Registry) : Prop :=
  ∀ id roster, r.roster? id = some roster → Reservation.Sorted roster.reservations

theorem WellFormed.ordered {bells : BellSchedule} (wf : r.WellFormed bells) : r.Ordered :=
  fun id roster found => (wf.roster id roster found).sorted

/-- Whatever is read from a journal, its reservations are in order. -/
theorem ordered_ofEvents (es : List Event) : (ofEvents es).Ordered :=
  forall_roster_ofEvents (P := fun _ roster => Reservation.Sorted roster.reservations)
    (fun _ _ => List.Pairwise.nil) (fun _ e _ sorted => Roster.sorted_apply sorted e) es

end Registry

/-! ## Events that book nothing -/

/-- The event neither creates, changes or deletes a slot nor books. -/
def Event.isQuiet : Event → Bool
  | slotCreated _ _ | slotUpdated _ | slotDeleted _ | reservationBooked _ => false
  | _ => true

/-- The slot is the same, and some reservations may be gone. -/
structure Roster.Thinned (before after : Roster) : Prop where
  slot : after.slot = before.slot
  reservations : after.reservations.Sublist before.reservations

namespace Roster

theorem Thinned.refl (roster : Roster) : Thinned roster roster := ⟨rfl, List.Sublist.refl _⟩

theorem Thinned.trans {a b c : Roster} (first : Thinned a b) (second : Thinned b c) : Thinned a c :=
  ⟨second.slot.trans first.slot, second.reservations.trans first.reservations⟩

theorem thinned_apply (roster : Roster) {e : Event} (quiet : e.isQuiet) :
    Thinned roster (roster.apply e) := by
  cases e with
  | supervisorAdded s =>
    simp only [Roster.apply, linkSupervisor]
    split
    · exact .refl roster
    · exact ⟨rfl, List.Sublist.refl _⟩
  | reservationCancelled id slot => exact ⟨rfl, List.eraseP_sublist⟩
  | slotCreated | slotUpdated | slotDeleted | reservationBooked => cases quiet
  | _ => exact ⟨rfl, List.Sublist.refl _⟩

theorem Thinned.countOn_le {before after : Roster} (thinned : Thinned before after)
    (sorted : Reservation.Sorted before.reservations) (date : Date) :
    after.countOn date ≤ before.countOn date := by
  rw [countOn_eq sorted, countOn_eq (sorted.sublist thinned.reservations)]
  exact thinned.reservations.countP_le

end Roster

namespace Registry

variable {r : Registry} {es : List Event} {id : Ident}

theorem isChange_of_isQuiet {e : Event} (quiet : e.isQuiet) : e.isChange := by
  cases e <;> first | rfl | cases quiet

theorem thinned_applyAll (quiet : ∀ e ∈ es, e.isQuiet) {roster : Roster}
    (found : r.roster? id = some roster) :
    ∃ roster', (r.applyAll es).roster? id = some roster' ∧ roster.Thinned roster' := by
  induction es generalizing r roster with
  | nil => exact ⟨roster, found, .refl roster⟩
  | cons e es ih =>
    have rest : ∀ e' ∈ es, e'.isQuiet := fun e' he => quiet e' (List.mem_cons_of_mem _ he)
    have first := quiet e List.mem_cons_self
    by_cases at_slot : e.slotId = id
    · have next : (r.apply e).roster? id = some (roster.apply e) := by
        rw [roster?_apply, if_pos at_slot, found, act_of_isChange (isChange_of_isQuiet first)]
      obtain ⟨roster', found', thinned⟩ := ih rest next
      exact ⟨roster', found', (roster.thinned_apply first).trans thinned⟩
    · have next : (r.apply e).roster? id = some roster := by
        rw [roster?_apply, if_neg at_slot, found]
      exact ih rest next

theorem roster?_applyAll_of_quiet (quiet : ∀ e ∈ es, e.isQuiet) (missing : r.roster? id = none) :
    (r.applyAll es).roster? id = none := by
  induction es generalizing r with
  | nil => exact missing
  | cons e es ih =>
    refine ih (fun e' he => quiet e' (List.mem_cons_of_mem _ he)) ?_
    rw [roster?_apply, missing, Event.act_eq_map (isChange_of_isQuiet (quiet e List.mem_cons_self))]
    exact ite_self _

/-- Events of other slots leave a slot alone. -/
theorem roster?_applyAll_of_others (others : ∀ e ∈ es, e.slotId ≠ id) :
    (r.applyAll es).roster? id = r.roster? id := by
  induction es generalizing r with
  | nil => rfl
  | cons e es ih =>
    refine (ih fun e' he => others e' (List.mem_cons_of_mem _ he)).trans ?_
    rw [roster?_apply, if_neg (others e List.mem_cons_self)]

end Registry

end Timetable
