import Timetable.Proofs.Planner.Displacement

/-!
# Which ids are in use

The slots and reservations of a registry have ids that have been given out, and no two reservations
of a slot have the same. Only an event that brings a slot or a reservation puts another id to use.
-/

set_option autoImplicit false

namespace Timetable

/-- The event brings neither a slot nor a reservation. -/
def Event.bringsNothing : Event → Bool
  | slotCreated _ _ | reservationBooked _ => false
  | _ => true

namespace Registry

/-- Every slot and every reservation has one of these ids, and the reservations of each slot have
different ones. -/
structure Numbered (given : Ident → Prop) (r : Registry) : Prop where
  slots : ∀ id roster, r.roster? id = some roster → given id
  reservations : ∀ id roster, r.roster? id = some roster → ∀ x ∈ roster.reservations, given x.id
  distinct : r.Distinct

variable {r : Registry} {given given' : Ident → Prop} {e : Event} {bells : BellSchedule}

theorem WellFormed.numbered (wf : r.WellFormed bells) (within : r.Within given) :
    r.Numbered given where
  slots := within.slots
  reservations id roster found x mem := by
    have there : x.id ∈ roster.entities := List.mem_append_right _ (List.mem_map_of_mem mem)
    exact within.entities x.id id ((wf.index x.id id).2 ⟨roster, found, there⟩)
  distinct id roster found := wf.indexed.nodup_reservations found

namespace Numbered

variable (numbered : r.Numbered given)
include numbered

theorem mono (more : ∀ id, given id → given' id) : r.Numbered given' where
  slots id roster found := more id (numbered.slots id roster found)
  reservations id roster found x mem := more x.id (numbered.reservations id roster found x mem)
  distinct := numbered.distinct

/-- Without the event a slot has the reservations that it has with it, and maybe more. -/
theorem apply (nothing : e.bringsNothing) : (r.apply e).Numbered given := by
  suffices thinner : ∀ id roster, (r.apply e).roster? id = some roster →
      ∃ before, r.roster? id = some before ∧ roster.reservations.Sublist before.reservations by
    refine ⟨fun id roster found => ?_, fun id roster found x mem => ?_, fun id roster found => ?_⟩
    all_goals obtain ⟨before, there, fewer⟩ := thinner id roster found
    · exact numbered.slots id before there
    · exact numbered.reservations id before there x (fewer.subset mem)
    · exact (numbered.distinct id before there).sublist (fewer.map _)
  intro id roster found
  rw [roster?_apply] at found
  split at found
  · cases e with
    | slotCreated | reservationBooked => cases nothing
    | slotDeleted => cases found
    | reservationCancelled x slot =>
      obtain ⟨before, there, rfl⟩ := Option.map_eq_some_iff.1 found
      exact ⟨before, there, List.eraseP_sublist⟩
    | _ =>
      rw [Event.act_eq_map rfl] at found
      obtain ⟨before, there, rfl⟩ := Option.map_eq_some_iff.1 found
      refine ⟨before, there, ?_⟩
      rw [before.reservations_apply rfl]
  · exact ⟨roster, found, List.Sublist.refl _⟩

theorem apply_slotCreated (slot : Slot) (supervisors : List Supervisor) :
    (r.apply (.slotCreated slot supervisors)).Numbered fun id => given id ∨ id = slot.id := by
  have cases_of {id : Ident} {roster : Roster}
      (found : (r.apply (.slotCreated slot supervisors)).roster? id = some roster) :
      id = slot.id ∧ roster = .new slot supervisors ∨ r.roster? id = some roster := by
    rw [roster?_apply] at found
    split at found
    · rename_i here
      cases found
      exact .inl ⟨here.symm, rfl⟩
    · exact .inr found
  refine ⟨fun id roster found => ?_, fun id roster found x mem => ?_, fun id roster found => ?_⟩
  all_goals rcases cases_of found with ⟨here, rfl⟩ | before
  · exact .inr here
  · exact .inl (numbered.slots id roster before)
  · cases mem
  · exact .inl (numbered.reservations id roster before x mem)
  · exact List.nodup_nil
  · exact numbered.distinct id roster before

theorem apply_reservationBooked {x : Reservation} (new : ¬ given x.id) :
    (r.apply (.reservationBooked x)).Numbered fun id => given id ∨ id = x.id := by
  have cases_of {id : Ident} {roster : Roster}
      (found : (r.apply (.reservationBooked x)).roster? id = some roster) :
      ∃ before, r.roster? id = some before ∧
        (roster = before ∨ roster = before.addReservation x) := by
    rw [roster?_apply] at found
    split at found
    · obtain ⟨before, there, rfl⟩ := Option.map_eq_some_iff.1 found
      exact ⟨before, there, .inr rfl⟩
    · exact ⟨roster, found, .inl rfl⟩
  refine ⟨fun id roster found => ?_, fun id roster found y mem => ?_, fun id roster found => ?_⟩
  all_goals obtain ⟨before, there, rfl | rfl⟩ := cases_of found
  · exact .inl (numbered.slots id roster there)
  · exact .inl (numbered.slots id before there)
  · exact .inl (numbered.reservations id roster there y mem)
  · rcases Reservation.mem_insert.1 mem with rfl | mem
    · exact .inr rfl
    · exact .inl (numbered.reservations id before there y mem)
  · exact numbered.distinct id roster there
  · refine ((Reservation.perm_insert x before.reservations).map (·.id)).nodup_iff.2 ?_
    refine List.nodup_cons.2 ⟨fun mem => ?_, numbered.distinct id before there⟩
    obtain ⟨y, there', same⟩ := List.mem_map.1 mem
    dsimp only at same
    exact new (same ▸ numbered.reservations id before there y there')

theorem applyAll {es : List Event} (nothing : ∀ e ∈ es, e.bringsNothing) :
    (r.applyAll es).Numbered given := by
  induction es generalizing r with
  | nil => exact numbered
  | cons e es ih =>
    obtain ⟨first, rest⟩ := List.forall_mem_cons.1 nothing
    exact ih (numbered.apply first) rest

end Numbered

theorem Filed.applyAll (filed : r.Filed) (es : List Event) : (r.applyAll es).Filed :=
  forall_roster_applyAll Roster.Filed.new (fun _ _ _ => Roster.Filed.apply) filed es

end Registry

end Timetable
