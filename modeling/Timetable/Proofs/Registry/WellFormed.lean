import Timetable.Occurrence
import Timetable.Proofs.Registry.Effects

/-!
# Well-formed registries

What holds of every registry that the planner builds: each slot is valid and stands under its own
id, what belongs to it says so, its reservations are in order, nothing exceeds its limit, and the
index leads from each filter and reservation to its slot. An event keeps all of this if it is valid
by itself and the registry has room for it.

Much of what is asked of a registry needs only two parts of this: that its slots fit the bell
schedule, and that its index has exactly what is stored.
-/

set_option autoImplicit false

namespace Timetable

/-! ## Events that are let in -/

/-- The filter or reservation that an event adds. -/
def Event.adds? : Event → Option Ident
  | filterAdded filter => some filter.id
  | reservationBooked reservation => some reservation.id
  | _ => none

/-- The filter or reservation that an event removes. -/
def Event.removes? : Event → Option Ident
  | filterRemoved id _ => some id
  | reservationCancelled id _ => some id
  | _ => none

/-- The filter sets a criterion, and its cohort, if it has one, is of sensible length. -/
structure SlotFilter.Valid (f : SlotFilter) : Prop where
  sets : f.courseId.isSome ∨ f.cohort.isSome
  cohort : ∀ c ∈ f.cohort, validateCohort c = .ok ()

/-- Links of supervisors to a slot: each for a user of its own, and not too many. -/
structure Links (id : Ident) (supervisors : List Supervisor) : Prop where
  slot : ∀ s ∈ supervisors, s.slotId = id
  nodup : (supervisors.map (·.userId)).Nodup
  length_le : supervisors.length ≤ maxSupervisors

/-- What is asked of an event by itself. -/
def Event.Valid (bells : BellSchedule) : Event → Prop
  | slotCreated slot supervisors => slot.validate bells = .ok () ∧ Links slot.id supervisors
  | slotUpdated slot => slot.validate bells = .ok ()
  | filterAdded filter => filter.Valid
  | _ => True

/-- The roster has room for what an event adds, and what the event removes is of the right kind. -/
def Roster.Admits (roster : Roster) : Event → Prop
  | .filterAdded _ => roster.filters.length < maxFilters
  | .filterRemoved id _ => id ∉ roster.reservations.map (·.id)
  | .supervisorAdded _ => roster.supervisors.length < maxSupervisors
  | .reservationBooked _ => roster.reservations.length < maxReservations
  | .reservationCancelled id _ => id ∉ roster.filters.map (·.id)
  | _ => True

/-- The registry has room for an event: what it adds is new, and what it removes does not belong to
another slot. -/
structure Registry.Admits (r : Registry) (e : Event) : Prop where
  created : ∀ slot supervisors, e = .slotCreated slot supervisors →
    r.roster? slot.id = none ∧ r.rosters.size < maxSlots
  added : ∀ x ∈ e.adds?, r.slotOf? x = none
  removed : ∀ x ∈ e.removes?, r.slotOf? x = none ∨ r.slotOf? x = some e.slotId
  roster : ∀ roster, r.roster? e.slotId = some roster → roster.Admits e

/-! ## Rosters -/

structure Roster.WellFormed (bells : BellSchedule) (id : Ident) (roster : Roster) : Prop where
  slot_id : roster.slot.id = id
  slot_valid : roster.slot.validate bells = .ok ()
  links : Links id roster.supervisors
  filter_slot : ∀ f ∈ roster.filters, f.slotId = id
  filter_valid : ∀ f ∈ roster.filters, f.Valid
  filters_le : roster.filters.length ≤ maxFilters
  reservation_slot : ∀ r ∈ roster.reservations, r.slotId = id
  reservations_le : roster.reservations.length ≤ maxReservations
  sorted : Reservation.Sorted roster.reservations
  nodup : roster.entities.Nodup

variable {bells : BellSchedule} {id : Ident} {e : Event}

theorem Links.link {supervisors : List Supervisor} (links : Links id supervisors) {s : Supervisor}
    (slot : s.slotId = id) (room : supervisors.length < maxSupervisors)
    (new : s.userId ∉ supervisors.map (·.userId)) : Links id (supervisors ++ [s]) where
  slot t ht := by
    rcases List.mem_append.1 ht with ht | ht
    · exact links.slot t ht
    · rwa [List.mem_singleton.1 ht]
  nodup := by
    rw [List.map_append, List.nodup_append]
    refine ⟨links.nodup, List.pairwise_singleton _ _, ?_⟩
    rintro a ha b hb rfl
    rw [List.map_cons, List.map_nil, List.mem_singleton] at hb
    exact new (hb ▸ ha)
  length_le := by
    rw [List.length_append]
    exact room

theorem Links.sublist {supervisors some_of_them : List Supervisor} (links : Links id supervisors)
    (h : some_of_them.Sublist supervisors) : Links id some_of_them where
  slot s hs := links.slot s (h.subset hs)
  nodup := links.nodup.sublist (h.map _)
  length_le := Nat.le_trans h.length_le links.length_le

namespace Roster

variable {roster : Roster}

theorem map_id_eraseP_filters (fs : List SlotFilter) (id : Ident) :
    (fs.eraseP (·.id == id)).map (·.id) = (fs.map (·.id)).erase id := by
  rw [List.erase_eq_eraseP', List.eraseP_map]
  rfl

theorem map_id_eraseP_reservations (rs : List Reservation) (id : Ident) :
    (rs.eraseP (·.id == id)).map (·.id) = (rs.map (·.id)).erase id := by
  rw [List.erase_eq_eraseP', List.eraseP_map]
  rfl

theorem entities_apply_of_adds (roster : Roster) {x : Ident} (h : e.adds? = some x) :
    (roster.apply e).entities.Perm (x :: roster.entities) := by
  cases e with
  | filterAdded f =>
    cases h
    simp only [Roster.apply, addFilter, entities, List.map_append, List.map_cons, List.map_nil,
      List.append_assoc]
    exact List.perm_middle
  | reservationBooked r =>
    cases h
    have added := (Reservation.perm_insert r roster.reservations).map (·.id)
    exact (added.append_left _).trans List.perm_middle
  | _ => cases h

theorem entities_apply_of_removes (admits : roster.Admits e) {x : Ident} (h : e.removes? = some x) :
    (roster.apply e).entities = roster.entities.erase x := by
  cases e with
  | filterRemoved y slot =>
    cases h
    have absent : x ∉ roster.reservations.map (·.id) := admits
    simp only [Roster.apply, removeFilter, entities, map_id_eraseP_filters]
    rw [List.erase_append]
    split
    · rfl
    · rename_i other
      rw [List.erase_of_not_mem other, List.erase_of_not_mem absent]
  | reservationCancelled y slot =>
    cases h
    have absent : x ∉ roster.filters.map (·.id) := admits
    simp only [Roster.apply, removeReservation, entities, map_id_eraseP_reservations]
    rw [List.erase_append_right _ absent]
  | _ => cases h

theorem entities_apply_of_neither (roster : Roster) (adds : e.adds? = none)
    (removes : e.removes? = none) : (roster.apply e).entities = roster.entities := by
  cases e with
  | filterAdded | reservationBooked => cases adds
  | filterRemoved | reservationCancelled => cases removes
  | supervisorAdded s =>
    simp only [Roster.apply, linkSupervisor]
    split <;> rfl
  | _ => rfl

/-- The entities of a roster after an event that it admits. -/
theorem mem_entities_apply (nodup : roster.entities.Nodup) (admits : roster.Admits e) {x : Ident} :
    x ∈ (roster.apply e).entities ↔
      some x = e.adds? ∨ x ∈ roster.entities ∧ some x ≠ e.removes? := by
  cases adds : e.adds? with
  | some y =>
    have not_both : e.removes? = none := by
      cases e <;> first | rfl | cases adds
    rw [(entities_apply_of_adds roster adds).mem_iff, List.mem_cons, not_both, Option.some_inj]
    simp
  | none =>
    cases removes : e.removes? with
    | some y =>
      rw [entities_apply_of_removes admits removes, nodup.mem_erase_iff]
      simp [and_comm]
    | none =>
      rw [entities_apply_of_neither roster adds removes]
      simp

theorem nodup_entities_apply (nodup : roster.entities.Nodup) (admits : roster.Admits e)
    (added : ∀ x ∈ e.adds?, x ∉ roster.entities) : (roster.apply e).entities.Nodup := by
  cases adds : e.adds? with
  | some y =>
    rw [(entities_apply_of_adds roster adds).nodup_iff]
    exact List.nodup_cons.2 ⟨added y adds, nodup⟩
  | none =>
    cases removes : e.removes? with
    | some y =>
      rw [entities_apply_of_removes admits removes]
      exact nodup.erase y
    | none => rwa [entities_apply_of_neither roster adds removes]

/-- A change keeps a roster well-formed if it is valid and the roster admits it. -/
theorem WellFormed.apply (wf : roster.WellFormed bells id) (valid : e.Valid bells)
    (at_slot : e.slotId = id) (admits : roster.Admits e)
    (added : ∀ x ∈ e.adds?, x ∉ roster.entities) : (roster.apply e).WellFormed bells id := by
  have nodup := nodup_entities_apply wf.nodup admits added
  cases e with
  | slotCreated slot supervisors => exact wf
  | slotDeleted slot => exact wf
  | slotUpdated slot => exact { wf with slot_id := at_slot, slot_valid := valid, nodup }
  | filterAdded f =>
    have room : roster.filters.length < maxFilters := admits
    refine { wf with filter_slot := ?_, filter_valid := ?_, filters_le := ?_, nodup }
    · intro g hg
      rcases List.mem_append.1 hg with hg | hg
      · exact wf.filter_slot g hg
      · rwa [List.mem_singleton.1 hg]
    · intro g hg
      rcases List.mem_append.1 hg with hg | hg
      · exact wf.filter_valid g hg
      · rwa [List.mem_singleton.1 hg]
    · simp only [Roster.apply, addFilter, List.length_append, List.length_singleton]
      exact room
  | filterRemoved x slot =>
    have fewer : (roster.removeFilter x).filters.Sublist roster.filters := List.eraseP_sublist
    exact { wf with
      filter_slot := fun f hf => wf.filter_slot f (fewer.subset hf)
      filter_valid := fun f hf => wf.filter_valid f (fewer.subset hf)
      filters_le := Nat.le_trans fewer.length_le wf.filters_le
      nodup }
  | supervisorAdded s =>
    have room : roster.supervisors.length < maxSupervisors := admits
    simp only [Roster.apply, linkSupervisor] at nodup ⊢
    split
    · exact wf
    · rename_i new
      refine { wf with links := wf.links.link at_slot room ?_ }
      simpa [hasSupervisor] using new
  | supervisorRemoved slot user =>
    exact { wf with links := wf.links.sublist List.filter_sublist, nodup }
  | reservationBooked r =>
    have room : roster.reservations.length < maxReservations := admits
    refine { wf with
      reservation_slot := ?_, reservations_le := ?_, sorted := wf.sorted.insert r, nodup }
    · intro s hs
      rcases Reservation.mem_insert.1 hs with rfl | hs
      · exact at_slot
      · exact wf.reservation_slot s hs
    · simp only [Roster.apply, addReservation]
      rw [(Reservation.perm_insert r roster.reservations).length_eq]
      exact room
  | reservationCancelled x slot =>
    have fewer : (roster.removeReservation x).reservations.Sublist roster.reservations :=
      List.eraseP_sublist
    exact { wf with
      reservation_slot := fun s hs => wf.reservation_slot s (fewer.subset hs)
      reservations_le := Nat.le_trans fewer.length_le wf.reservations_le
      sorted := wf.sorted.sublist fewer
      nodup }

theorem WellFormed.new {slot : Slot} {supervisors : List Supervisor}
    (valid : slot.validate bells = .ok ()) (links : Links slot.id supervisors) :
    (Roster.new slot supervisors).WellFormed bells slot.id where
  slot_id := rfl
  slot_valid := valid
  links := links
  filter_slot _ h := absurd h List.not_mem_nil
  filter_valid _ h := absurd h List.not_mem_nil
  filters_le := Nat.zero_le _
  reservation_slot _ h := absurd h List.not_mem_nil
  reservations_le := Nat.zero_le _
  sorted := List.Pairwise.nil
  nodup := List.Pairwise.nil

end Roster

/-! ## Registries -/

structure Registry.WellFormed (bells : BellSchedule) (r : Registry) : Prop where
  roster : ∀ id roster, r.roster? id = some roster → roster.WellFormed bells id
  index : ∀ x id, r.slotOf? x = some id ↔ ∃ roster, r.roster? id = some roster ∧ x ∈ roster.entities
  size_le : r.rosters.size ≤ maxSlots

/-- The index leads from each filter and reservation to its slot and from nothing else, and no slot
has two of the same id. -/
structure Registry.Indexed (r : Registry) : Prop where
  nodup : ∀ id roster, r.roster? id = some roster → roster.entities.Nodup
  index : ∀ x id, r.slotOf? x = some id ↔ ∃ roster, r.roster? id = some roster ∧ x ∈ roster.entities

/-- Every slot fits the bell schedule. -/
def Registry.Fits (bells : BellSchedule) (r : Registry) : Prop :=
  ∀ id roster, r.roster? id = some roster → roster.slot.validate bells = .ok ()

namespace Registry

variable {r : Registry}

theorem WellFormed.indexed (wf : r.WellFormed bells) : r.Indexed :=
  ⟨fun id roster found => (wf.roster id roster found).nodup, wf.index⟩

theorem WellFormed.fits (wf : r.WellFormed bells) : r.Fits bells :=
  fun id roster found => (wf.roster id roster found).slot_valid

theorem Indexed.nodup_reservations (indexed : r.Indexed) {roster : Roster}
    (found : r.roster? id = some roster) : (roster.reservations.map (·.id)).Nodup :=
  (List.nodup_append.1 (indexed.nodup id roster found)).2.1

theorem Indexed.not_mem_entities (indexed : r.Indexed) {x : Ident} (h : r.slotOf? x = none)
    {roster : Roster} (found : r.roster? id = some roster) : x ∉ roster.entities := by
  intro mem
  cases h.symm.trans ((indexed.index x id).2 ⟨roster, found, mem⟩)

theorem WellFormed.empty (bells : BellSchedule) : Registry.empty.WellFormed bells where
  roster := by simp
  index := by simp
  size_le := Nat.zero_le _

/-- What the index says after a change. -/
theorem getElem?_reindexed (index : Std.ExtTreeMap Ident Ident) (e : Event) (x : Ident) :
    (reindexed index e)[x]? =
      if some x = e.adds? then some e.slotId else if some x = e.removes? then none else index[x]? := by
  cases e with
  | filterAdded f =>
    refine (getElem?_insert_ident ..).trans ?_
    simp [Event.adds?, Event.removes?, Event.slotId, eq_comm]
  | reservationBooked s =>
    refine (getElem?_insert_ident ..).trans ?_
    simp [Event.adds?, Event.removes?, Event.slotId, eq_comm]
  | filterRemoved y slot =>
    refine (getElem?_erase_ident ..).trans ?_
    simp [Event.adds?, Event.removes?, eq_comm]
  | reservationCancelled y slot =>
    refine (getElem?_erase_ident ..).trans ?_
    simp [Event.adds?, Event.removes?, eq_comm]
  | _ => simp [reindexed, Event.adds?, Event.removes?]

theorem size_insert_le {r : Registry} {roster : Roster} (found : r.roster? id = some roster)
    (roster' : Roster) : (r.rosters.insert id roster').size ≤ r.rosters.size := by
  have present : id ∈ r.rosters := by
    rw [Std.ExtTreeMap.mem_iff_isSome_getElem?]
    exact Option.isSome_iff_exists.2 ⟨roster, found⟩
  have same : (r.rosters.insert id roster').size = r.rosters.size := by
    rw [Std.ExtTreeMap.size_insert, if_pos (Std.ExtTreeMap.mem_iff_contains.1 present)]
  exact Nat.le_of_eq same

/-- A change keeps the index exact. -/
theorem index_apply_of_isChange (wf : r.WellFormed bells) (admits : r.Admits e) (h : e.isChange)
    {roster : Roster} (found : r.roster? e.slotId = some roster) (x id : Ident) :
    (r.apply e).slotOf? x = some id ↔
      ∃ roster, (r.apply e).roster? id = some roster ∧ x ∈ roster.entities := by
  have of_roster := admits.roster roster found
  rw [slotOf?_apply h found, getElem?_reindexed, roster?_apply]
  by_cases at_slot : e.slotId = id
  · subst at_slot
    rw [if_pos rfl, found, act_of_isChange h]
    have mem := Roster.mem_entities_apply (wf.roster _ _ found).nodup of_roster (x := x)
    simp only [Option.some_inj, exists_eq_left', mem]
    split
    · rename_i added
      simp [added]
    · rename_i not_added
      split
      · rename_i removed
        refine ⟨nofun, ?_⟩
        rintro (added | ⟨-, other⟩)
        · exact absurd added not_added
        · exact absurd removed other
      · rename_i not_removed
        have before := wf.index x e.slotId
        simp only [found, Option.some_inj, exists_eq_left'] at before
        simp only [not_added, false_or, ne_eq, not_removed, not_false_eq_true, and_true]
        exact before
  · rw [if_neg at_slot, ← wf.index x id]
    split
    · rename_i added
      have new := admits.added x added.symm
      simp [new, at_slot]
    · split
      · rename_i removed
        have old := admits.removed x removed.symm
        rcases old with old | old <;> simp [old, at_slot]
      · exact Iff.rfl

/-- A deletion keeps the index exact. -/
theorem index_apply_slotDeleted (wf : r.WellFormed bells) {slot : Ident} {roster : Roster}
    (found : r.roster? slot = some roster) (x id : Ident) :
    (r.apply (.slotDeleted slot)).slotOf? x = some id ↔
      ∃ roster, (r.apply (.slotDeleted slot)).roster? id = some roster ∧ x ∈ roster.entities := by
  have indexed := wf.index x slot
  simp only [found, Option.some_inj, exists_eq_left'] at indexed
  have deleted : (r.apply (.slotDeleted slot)).roster? id =
      if slot = id then none else r.roster? id := roster?_apply r (.slotDeleted slot) id
  rw [slotOf?_apply_slotDeleted found, deleted]
  by_cases at_slot : slot = id
  · subst at_slot
    split
    · simp
    · rename_i other
      simp [indexed, other]
  · rw [if_neg at_slot, ← wf.index x id]
    split
    · rename_i mem
      simp [indexed.2 mem, at_slot]
    · exact Iff.rfl

/-- A creation keeps the index exact, as the new slot has nothing in it yet. -/
theorem index_apply_slotCreated (wf : r.WellFormed bells) {slot : Slot} (new : r.roster? slot.id = none)
    (supervisors : List Supervisor) (x id : Ident) :
    (r.apply (.slotCreated slot supervisors)).slotOf? x = some id ↔
      ∃ roster, (r.apply (.slotCreated slot supervisors)).roster? id = some roster ∧
        x ∈ roster.entities := by
  refine (wf.index x id).trans ?_
  rw [roster?_apply]
  split
  · rename_i at_slot
    rw [← at_slot, Event.slotId, new]
    simp [Event.act, Roster.new, Roster.entities]
  · exact Iff.rfl

/-- **An event that is valid and let in keeps the registry well-formed.** -/
theorem WellFormed.apply (wf : r.WellFormed bells) (valid : e.Valid bells) (admits : r.Admits e) :
    (r.apply e).WellFormed bells := by
  obtain ⟨slot, supervisors, rfl⟩ | ⟨-, same, -⟩ | ⟨slot, roster, rfl, found⟩ |
    ⟨roster, change, found⟩ := event_cases r e
  · obtain ⟨new, room⟩ := admits.created slot supervisors rfl
    refine ⟨?_, index_apply_slotCreated wf new supervisors, ?_⟩
    · intro id roster h
      rw [roster?_apply] at h
      split at h
      · rename_i at_slot
        cases h
        rw [← at_slot]
        exact Roster.WellFormed.new valid.1 valid.2
      · exact wf.roster id roster h
    · exact Nat.le_trans Std.ExtTreeMap.size_insert_le room
  · rwa [same]
  · refine ⟨?_, index_apply_slotDeleted wf found, ?_⟩
    · intro id roster' h
      rw [roster?_apply] at h
      split at h
      · cases h
      · exact wf.roster id roster' h
    · rw [apply_slotDeleted found]
      exact Nat.le_trans Std.ExtTreeMap.size_erase_le wf.size_le
  · refine ⟨?_, index_apply_of_isChange wf admits change found, ?_⟩
    · intro id roster' h
      rw [roster?_apply] at h
      split at h
      · rename_i at_slot
        subst at_slot
        rw [found, act_of_isChange change] at h
        cases h
        exact (wf.roster _ _ found).apply valid rfl (admits.roster roster found) fun x hx =>
          wf.indexed.not_mem_entities (admits.added x hx) found
      · exact wf.roster id roster' h
    · rw [apply_of_roster?_eq_some change found]
      exact Nat.le_trans (size_insert_le found _) wf.size_le

/-- The events are valid, and each is let in after those before it. -/
def AdmitsAll (bells : BellSchedule) (r : Registry) : List Event → Prop
  | [] => True
  | e :: es => e.Valid bells ∧ r.Admits e ∧ (r.apply e).AdmitsAll bells es

theorem AdmitsAll.valid {es : List Event} (h : r.AdmitsAll bells es) : ∀ e ∈ es, e.Valid bells := by
  induction es generalizing r with
  | nil => exact fun e he => absurd he List.not_mem_nil
  | cons e es ih =>
    intro e' he
    rcases List.mem_cons.1 he with rfl | he
    · exact h.1
    · exact ih h.2.2 e' he

theorem WellFormed.applyAll {es : List Event} (wf : r.WellFormed bells) (h : r.AdmitsAll bells es) :
    (r.applyAll es).WellFormed bells := by
  induction es generalizing r with
  | nil => exact wf
  | cons e es ih => exact ih (wf.apply h.1 h.2.1) h.2.2

end Registry

end Timetable
