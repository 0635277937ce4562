import Timetable.Registry

/-!
# What an event changes

An event reaches the roster of its slot and no other, and of the index it changes only what it
names. A deletion takes the filters and reservations of its slot out of the index with it.
-/

set_option autoImplicit false

namespace Timetable

/-- The ids of the filters and reservations of a roster. -/
def Roster.entities (roster : Roster) : List Ident :=
  roster.filters.map (·.id) ++ roster.reservations.map (·.id)

/-- The event belongs to the life of a slot, between its creation and its deletion. -/
def Event.isChange : Event → Bool
  | slotCreated _ _ | slotDeleted _ => false
  | _ => true

/-- What an event makes of the roster of its slot, if there is one. -/
def Event.act : Event → Option Roster → Option Roster
  | slotCreated slot supervisors, _ => some (Roster.new slot supervisors)
  | slotDeleted _, _ => none
  | e, roster => roster.map (·.apply e)

theorem Event.act_eq_map {e : Event} (h : e.isChange) (roster : Option Roster) :
    e.act roster = roster.map (·.apply e) := by
  cases e <;> first | rfl | cases h

section Map

variable {α : Type} (t : Std.ExtTreeMap Ident α)

theorem getElem?_insert_ident (k a : Ident) (v : α) :
    (t.insert k v)[a]? = if k = a then some v else t[a]? := by
  rw [Std.ExtTreeMap.getElem?_insert]
  simp only [Std.LawfulEqCmp.compare_eq_iff_eq]

theorem getElem?_erase_ident (k a : Ident) :
    (t.erase k)[a]? = if k = a then none else t[a]? := by
  rw [Std.ExtTreeMap.getElem?_erase]
  simp only [Std.LawfulEqCmp.compare_eq_iff_eq]

theorem getElem?_eraseAll (ks : List Ident) (a : Ident) :
    (ks.foldl (·.erase ·) t)[a]? = if a ∈ ks then none else t[a]? := by
  induction ks generalizing t with
  | nil => simp
  | cons k ks ih =>
    rw [List.foldl_cons, ih, getElem?_erase_ident]
    by_cases same : k = a
    · simp [same]
    · simp [same, Ne.symm same]

end Map

namespace Registry

@[simp] theorem roster?_empty (id : Ident) : empty.roster? id = none :=
  Std.ExtTreeMap.getElem?_empty

@[simp] theorem slotOf?_empty (entity : Ident) : empty.slotOf? entity = none :=
  Std.ExtTreeMap.getElem?_empty

theorem apply_of_isChange (r : Registry) {e : Event} (h : e.isChange) :
    r.apply e = match r.roster? e.slotId with
      | some roster => ⟨r.rosters.insert e.slotId (roster.apply e), reindexed r.index e⟩
      | none => r := by
  cases e <;> first | rfl | cases h

theorem apply_of_roster?_eq_some {r : Registry} {e : Event} {roster : Roster} (h : e.isChange)
    (found : r.roster? e.slotId = some roster) :
    r.apply e = ⟨r.rosters.insert e.slotId (roster.apply e), reindexed r.index e⟩ := by
  rw [apply_of_isChange r h, found]

theorem apply_slotDeleted {r : Registry} {id : Ident} {roster : Roster}
    (found : r.roster? id = some roster) :
    r.apply (.slotDeleted id) = ⟨r.rosters.erase id, unindexed r.index roster⟩ := by
  simp only [apply, found]

theorem act_of_isChange {e : Event} (h : e.isChange) (roster : Roster) :
    e.act (some roster) = some (roster.apply e) := by
  rw [Event.act_eq_map h, Option.map_some]

/-- **What can become of an event**: it creates a slot, it is passed over as its slot does not exist,
it deletes a slot, or it changes one. -/
theorem event_cases (r : Registry) (e : Event) :
    (∃ slot supervisors, e = .slotCreated slot supervisors) ∨
    (r.roster? e.slotId = none ∧ r.apply e = r ∧ e.act none = none) ∨
    (∃ slot roster, e = .slotDeleted slot ∧ r.roster? slot = some roster) ∨
    (∃ roster, e.isChange ∧ r.roster? e.slotId = some roster) := by
  cases e with
  | slotCreated slot supervisors => exact .inl ⟨slot, supervisors, rfl⟩
  | slotDeleted slot =>
    cases found : r.roster? slot with
    | none => exact .inr (.inl ⟨found, by simp only [apply, found], rfl⟩)
    | some roster => exact .inr (.inr (.inl ⟨slot, roster, rfl, found⟩))
  | _ =>
    cases found : r.roster? (Event.slotId _) with
    | none => exact .inr (.inl ⟨rfl, by rw [apply_of_isChange r rfl, found], rfl⟩)
    | some roster => exact .inr (.inr (.inr ⟨roster, rfl, rfl⟩))

/-- An event acts on the roster of its slot, and leaves the others as they are. -/
theorem roster?_apply (r : Registry) (e : Event) (id : Ident) :
    (r.apply e).roster? id = if e.slotId = id then e.act (r.roster? id) else r.roster? id := by
  obtain ⟨slot, supervisors, rfl⟩ | ⟨missing, same, acted⟩ | ⟨slot, roster, rfl, found⟩ |
    ⟨roster, change, found⟩ := event_cases r e
  · exact getElem?_insert_ident ..
  · rw [same]
    split
    · rename_i at_slot
      rw [← at_slot, missing, acted]
    · rfl
  · rw [apply_slotDeleted found]
    exact getElem?_erase_ident ..
  · rw [apply_of_roster?_eq_some change found]
    refine (getElem?_insert_ident ..).trans ?_
    split
    · rename_i at_slot
      rw [← at_slot, found, act_of_isChange change]
    · rfl

section Rosters

variable {P : Ident → Roster → Prop}
  (created : ∀ slot supervisors, P slot.id (.new slot supervisors))
  (changed : ∀ roster e, e.isChange → P e.slotId roster → P e.slotId (roster.apply e))
include created changed

/-- What new rosters have and every change of a roster keeps is kept by every event. -/
theorem forall_roster_apply {r : Registry}
    (h : ∀ id roster, r.roster? id = some roster → P id roster) (e : Event) :
    ∀ id roster, (r.apply e).roster? id = some roster → P id roster := by
  intro id roster found
  rw [roster?_apply] at found
  split at found
  · rename_i at_slot
    subst at_slot
    cases e with
    | slotCreated slot supervisors =>
      cases found
      exact created slot supervisors
    | slotDeleted slot => cases found
    | _ =>
      rw [Event.act_eq_map rfl] at found
      obtain ⟨before, there, rfl⟩ := Option.map_eq_some_iff.1 found
      exact changed before _ rfl (h _ before there)
  · exact h id roster found

theorem forall_roster_applyAll {r : Registry}
    (h : ∀ id roster, r.roster? id = some roster → P id roster) (es : List Event) :
    ∀ id roster, (r.applyAll es).roster? id = some roster → P id roster := by
  induction es generalizing r with
  | nil => exact h
  | cons e es ih => exact ih (forall_roster_apply created changed h e)

/-- So it holds of whatever is read from a journal. -/
theorem forall_roster_ofEvents (es : List Event) :
    ∀ id roster, (ofEvents es).roster? id = some roster → P id roster := by
  refine forall_roster_applyAll created changed ?_ es
  intro id roster found
  rw [roster?_empty] at found
  cases found

end Rosters

/-- What an event takes out of the index or puts into it, in a registry that has its slot. -/
theorem slotOf?_apply {r : Registry} {e : Event} {roster : Roster} (h : e.isChange)
    (found : r.roster? e.slotId = some roster) (entity : Ident) :
    (r.apply e).slotOf? entity = (reindexed r.index e)[entity]? := by
  rw [apply_of_roster?_eq_some h found]
  rfl

theorem slotOf?_apply_slotDeleted {r : Registry} {id : Ident} {roster : Roster}
    (found : r.roster? id = some roster) (entity : Ident) :
    (r.apply (.slotDeleted id)).slotOf? entity =
      if entity ∈ roster.entities then none else r.slotOf? entity := by
  rw [apply_slotDeleted found]
  exact getElem?_eraseAll ..

end Registry

end Timetable
