import Timetable.Proofs.Registry.WellFormed

/-!
# Where ids come from

A registry has no slot, filter or reservation but those that events have brought. So an id that has
not been given out is not in use.
-/

set_option autoImplicit false

namespace Timetable

/-- The slot, filter or reservation that an event brings has one of these ids. -/
def Event.Within (given : Ident → Prop) : Event → Prop
  | slotCreated slot _ => given slot.id
  | filterAdded filter => given filter.id
  | reservationBooked reservation => given reservation.id
  | _ => True

namespace Registry

/-- Every slot, filter and reservation has one of these ids. -/
structure Within (given : Ident → Prop) (r : Registry) : Prop where
  slots : ∀ id roster, r.roster? id = some roster → given id
  entities : ∀ x id, r.slotOf? x = some id → given x

variable {r : Registry} {given : Ident → Prop} {e : Event}

theorem Within.empty (given : Ident → Prop) : Registry.empty.Within given where
  slots := by simp
  entities := by simp

theorem Within.mono {given' : Ident → Prop} (h : r.Within given) (more : ∀ i, given i → given' i) :
    r.Within given' where
  slots id roster found := more id (h.slots id roster found)
  entities x id found := more x (h.entities x id found)

/-- What the index has after an event it had before, unless the event adds it. -/
theorem slotOf?_of_apply {x id : Ident} (h : (r.apply e).slotOf? x = some id) :
    some x = e.adds? ∨ r.slotOf? x = some id := by
  obtain ⟨slot, supervisors, rfl⟩ | ⟨-, same, -⟩ | ⟨slot, roster, rfl, found⟩ |
    ⟨roster, change, found⟩ := event_cases r e
  · exact .inr h
  · exact .inr (same ▸ h)
  · rw [slotOf?_apply_slotDeleted found] at h
    split at h
    · cases h
    · exact .inr h
  · rw [slotOf?_apply change found, getElem?_reindexed] at h
    split at h
    · rename_i added
      exact .inl added
    · split at h
      · cases h
      · exact .inr h

theorem Within.apply (h : r.Within given) (brought : e.Within given) : (r.apply e).Within given where
  slots id roster found := by
    rw [roster?_apply] at found
    split at found
    · rename_i at_slot
      cases e with
      | slotCreated slot supervisors => exact at_slot ▸ brought
      | slotDeleted slot => cases found
      | _ =>
        rw [Event.act_eq_map rfl] at found
        obtain ⟨before, found, -⟩ := Option.map_eq_some_iff.1 found
        exact h.slots id before found
    · exact h.slots id roster found
  entities x id found := by
    rcases slotOf?_of_apply found with added | before
    · cases e with
      | filterAdded | reservationBooked =>
        cases added
        exact brought
      | _ => cases added
    · exact h.entities x id before

theorem Within.applyAll {es : List Event} (h : r.Within given)
    (brought : ∀ e ∈ es, e.Within given) : (r.applyAll es).Within given := by
  induction es generalizing r with
  | nil => exact h
  | cons e es ih =>
    exact ih (h.apply (brought e List.mem_cons_self)) fun e' he =>
      brought e' (List.mem_cons_of_mem _ he)

theorem Within.roster?_eq_none (h : r.Within given) {id : Ident} (new : ¬ given id) :
    r.roster? id = none :=
  Option.eq_none_iff_forall_ne_some.2 fun roster found => new (h.slots id roster found)

theorem Within.slotOf?_eq_none (h : r.Within given) {x : Ident} (new : ¬ given x) :
    r.slotOf? x = none :=
  Option.eq_none_iff_forall_ne_some.2 fun id found => new (h.entities x id found)

end Registry

end Timetable
