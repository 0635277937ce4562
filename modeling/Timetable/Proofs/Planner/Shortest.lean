import Mathlib.Data.List.Perm.Basic
import Timetable.Proofs.Planner.Compacted
import Timetable.Proofs.Planner.WellKept

/-!
# The shortest journal

A compaction writes one event for each slot, each filter and each reservation. Every event that a
journal holds, whatever it does, makes that list longer by one at most. So no journal from which the
same rosters are built holds fewer events, however its slots have come and gone.
-/

set_option autoImplicit false

namespace Timetable

namespace Roster

theorem length_events (roster : Roster) :
    roster.events.length = 1 + roster.filters.length + roster.reservations.length := by
  rw [events, List.length_append, List.length_cons, List.length_map, List.length_map,
    Nat.add_comm 1]

/-- A change brings one filter or one reservation at most. -/
theorem length_events_apply_le (roster : Roster) (e : Event) :
    (roster.apply e).events.length ≤ roster.events.length + 1 := by
  rw [length_events, length_events]
  cases e with
  | slotCreated | slotUpdated | slotDeleted | supervisorRemoved => exact Nat.le_succ _
  | supervisorAdded s =>
    simp only [apply, linkSupervisor]
    split <;> exact Nat.le_succ _
  | filterAdded f =>
    simp only [apply, addFilter, List.length_append, List.length_singleton]
    omega
  | filterRemoved id slot =>
    have shorter := (List.eraseP_sublist (p := (·.id == id)) (l := roster.filters)).length_le
    simp only [apply, removeFilter]
    omega
  | reservationBooked r =>
    have longer := (Reservation.perm_insert r roster.reservations).length_eq
    rw [List.length_cons] at longer
    simp only [apply, addReservation]
    omega
  | reservationCancelled id slot =>
    have shorter := (List.eraseP_sublist (p := (·.id == id)) (l := roster.reservations)).length_le
    simp only [apply, removeReservation]
    omega

/-- How many events lead to a roster, if there is one. -/
def cost (roster : Option Roster) : Nat := roster.elim 0 (·.events.length)

/-- Whatever becomes of a slot in one event costs one event more at most. -/
theorem cost_act_le (e : Event) (roster : Option Roster) : cost (e.act roster) ≤ cost roster + 1 := by
  have changed (change : e.isChange) : cost (e.act roster) ≤ cost roster + 1 := by
    rw [Event.act_eq_map change]
    cases roster with
    | none => exact Nat.zero_le _
    | some roster => exact roster.length_events_apply_le e
  cases e with
  | slotCreated slot supervisors => exact Nat.le_add_left 1 _
  | slotDeleted id => exact Nat.zero_le _
  | _ => exact changed rfl

end Roster

namespace Registry

/-! ## What the list consists of -/

/-- The list has one event for each slot, each filter and each reservation, and no others. -/
theorem perm_events (r : Registry) : r.events.Perm
    (r.rosterList.map (fun roster => .slotCreated roster.slot roster.supervisors) ++
      (r.rosterList.flatMap (·.filters)).map .filterAdded ++
      (r.rosterList.flatMap (·.reservations)).map .reservationBooked) := by
  rw [← List.flatMap_singleton' (r.rosterList.map _), List.flatMap_map, List.map_flatMap,
    List.map_flatMap]
  refine .symm (((List.flatMap_append_perm ..).append_right _).trans ?_)
  exact List.flatMap_append_perm ..

/-- No two events of the list are the same. -/
theorem WellFormed.nodup_events {bells : BellSchedule} {r : Registry} (wf : r.WellFormed bells) :
    r.events.Nodup := by
  have of_slot (slot : Ident) (roster : Roster) (found : r.roster? slot = some roster) :
      ∀ e ∈ roster.events, e.slotId = slot := by
    have well := wf.roster slot roster found
    rw [Roster.events_eq, Roster.changes, List.forall_mem_cons, List.forall_mem_append,
      List.forall_mem_map, List.forall_mem_map]
    exact ⟨well.slot_id, well.filter_slot, well.reservation_slot⟩
  rw [events_eq_flatMap, List.nodup_flatMap]
  constructor
  · rintro ⟨slot, roster⟩ mem
    obtain ⟨filters, reservations, -⟩ :=
      List.nodup_append.1 (wf.roster slot roster (mem_toList_iff.1 mem)).nodup
    rw [Roster.events_eq, Roster.changes, List.nodup_cons, List.nodup_append]
    refine ⟨by simp, filters.of_map.map fun f g same => Event.filterAdded.inj same,
      reservations.of_map.map fun x y same => Event.reservationBooked.inj same, ?_⟩
    intro e he e' he'
    obtain ⟨f, -, rfl⟩ := List.mem_map.1 he
    obtain ⟨x, -, rfl⟩ := List.mem_map.1 he'
    intro same
    cases same
  · refine r.distinct_toList.imp_of_mem fun hp hq differ e he he' => differ ?_
    exact (of_slot _ _ (mem_toList_iff.1 hp) e he).symm.trans
      (of_slot _ _ (mem_toList_iff.1 hq) e he')

/-! ## How long it is -/

/-- A map without one of its entries. -/
theorem perm_toList {α : Type} (t : Std.ExtTreeMap Ident α) (k : Ident) :
    t.toList.Perm ((t[k]?.map (k, ·)).toList ++ (t.erase k).toList) := by
  have nodup (t : Std.ExtTreeMap Ident α) : t.toList.Nodup := by
    refine t.distinct_keys_toList.imp fun differ same => differ ?_
    rw [same]
    exact Std.ReflCmp.compare_self
  have mem_iff (t : Std.ExtTreeMap Ident α) (p : Ident × α) : p ∈ t.toList ↔ t[p.1]? = some p.2 :=
    Std.ExtTreeMap.mem_toList_iff_getElem?_eq_some
  have at_k (p : Ident × α) : p ∈ (t[k]?.map (k, ·)).toList ↔ p.1 = k ∧ t[k]? = some p.2 := by
    rw [Option.mem_toList, Option.map_eq_some_iff]
    constructor
    · rintro ⟨v, found, rfl⟩
      exact ⟨rfl, found⟩
    · rintro ⟨rfl, found⟩
      exact ⟨p.2, found, rfl⟩
  refine (List.perm_ext_iff_of_nodup (nodup t) ?_).2 fun p => ?_
  · refine List.nodup_append.2 ⟨?_, nodup _, ?_⟩
    · cases t[k]? <;> simp
    · rintro p hp _ hq rfl
      rw [mem_iff, getElem?_erase_ident, if_pos ((at_k p).1 hp).1.symm] at hq
      cases hq
  · rw [List.mem_append, at_k, mem_iff, mem_iff, getElem?_erase_ident]
    by_cases same : k = p.1
    · simp [← same]
    · simp [same, Ne.symm same]

/-- The list is made up of the events of one slot and those of the others. -/
theorem length_events_eq (r : Registry) (slot : Ident) : r.events.length =
    Roster.cost (r.roster? slot) + ((r.rosters.erase slot).toList.flatMap (·.2.events)).length := by
  have same := ((perm_toList r.rosters slot).flatMap_right (·.2.events)).length_eq
  rw [events_eq_flatMap, same, List.flatMap_append, List.length_append, roster?]
  congr 1
  cases r.rosters[slot]? with
  | none => rfl
  | some roster => exact congrArg List.length (List.flatMap_singleton ..)

/-- Every event makes the list longer by one at most. -/
theorem length_events_apply_le (r : Registry) (e : Event) :
    (r.apply e).events.length ≤ r.events.length + 1 := by
  have others : (r.apply e).rosters.erase e.slotId = r.rosters.erase e.slotId := by
    apply Std.ExtTreeMap.ext_getElem?
    intro k
    rw [getElem?_erase_ident, getElem?_erase_ident]
    split
    · rfl
    · rename_i other
      exact (roster?_apply r e k).trans (if_neg other)
  have here : (r.apply e).roster? e.slotId = e.act (r.roster? e.slotId) :=
    (roster?_apply ..).trans (if_pos rfl)
  have more := Roster.cost_act_le e (r.roster? e.slotId)
  rw [length_events_eq (r.apply e) e.slotId, length_events_eq r e.slotId, others, here]
  omega

theorem length_events_applyAll_le (r : Registry) (es : List Event) :
    (r.applyAll es).events.length ≤ r.events.length + es.length := by
  induction es generalizing r with
  | nil => exact Nat.le_refl _
  | cons e es ih =>
    have first := r.length_events_apply_le e
    have rest := ih (r.apply e)
    rw [applyAll_cons, List.length_cons]
    omega

/-- **No list of events that leads to these rosters is shorter**, whatever it does to the index. -/
theorem length_events_le {r : Registry} {es : List Event}
    (leads : ∀ slot, (ofEvents es).roster? slot = r.roster? slot) : r.events.length ≤ es.length := by
  have same : (ofEvents es).rosters = r.rosters := Std.ExtTreeMap.ext_getElem? leads
  have shorter := empty.length_events_applyAll_le es
  rw [show empty.events = [] from rfl, List.length_nil, Nat.zero_add] at shorter
  rw [events_eq_flatMap, ← same, ← events_eq_flatMap]
  exact shorter

end Registry

namespace Planner

/-- **A compaction leaves the shortest journal.** On a disk that works it writes one event for each
slot, each filter and each reservation and no others. Every list of events from which the same
rosters are built is at least as long, whatever slots it makes anew or removes and whatever events
are passed over. At every moment of a history the events that are written are all different, and the
registry is built again from what is read of them. -/
theorem compacted_journal_shortest (p : Planner) :
    (p.log.disk.Works → p.log.disk.log ≠ .directory → p.log.disk.temp ≠ .directory →
      p.compact.1 = .ok ()) ∧
    (p.compact.1 = .ok () →
      p.compact.2.log.disk.log = .file (Journal.records p.registry.events)) ∧
    p.registry.events.Perm
      (p.registry.rosterList.map (fun roster => .slotCreated roster.slot roster.supervisors) ++
        (p.registry.rosterList.flatMap (·.filters)).map .filterAdded ++
        (p.registry.rosterList.flatMap (·.reservations)).map .reservationBooked) ∧
    (∀ es, (∀ slot, (Registry.ofEvents es).roster? slot = p.registry.roster? slot) →
      p.registry.events.length ≤ es.length) ∧
    ∀ rules first steps, History rules first steps p →
      p.registry.events.Nodup ∧
        Journal.replay (Journal.records p.registry.events) = p.registry.events ∧
        Registry.ofEvents p.registry.events = p.registry := by
  refine ⟨?_, ?_, p.registry.perm_events, fun es => Registry.length_events_le, ?_⟩
  · intro works log temp
    exact compact_eq_ok_iff.2 (Journal.Log.compact_of_works works log temp _).1
  · intro done
    have whole := Journal.Log.compact_of_ok (compact_eq_ok_iff.1 done)
    exact whole.log_eq
  · intro rules first steps h
    obtain ⟨stands, -, -⟩ := h.stands
    exact ⟨stands.wellFormed.nodup_events, Journal.replay_records stands.fits,
      Registry.ofEvents_events stands.wellFormed⟩

set_option maxRecDepth 2000 in
/-- One reservation of three has given way to another, so eight events come down to six. -/
theorem compacted_journal_shortest_displacing : ∃ q,
    History .oneStudent opened (Demand.displacing.map .request) q ∧ q.compact.1 = .ok () ∧
      ∃ es, q.compact.2.log.disk.log = .file (Journal.records es) ∧
        Journal.replay (Journal.records es) = es ∧ Registry.ofEvents es = q.registry ∧
        es.length = 6 ∧ ∀ es', Registry.ofEvents es' = q.registry → 6 ≤ es'.length := by
  obtain ⟨q, h⟩ := History.of_works (Demand.displacing.map .request) (d := .empty)
    (fun _ _ => rfl) (.inl rfl) (by decide) start_opened (Rules.freshBelow_oneStudent (by decide))
  obtain ⟨works, log, temp, six⟩ : q.log.disk.Works ∧ q.log.disk.log ≠ .directory ∧
      q.log.disk.temp ≠ .directory ∧ q.registry.events.length = 6 := by
    cases (rfl : opened.run .oneStudent (Demand.displacing.map .request) = _).symm.trans h.ran
    exact ⟨fun _ _ => rfl, nofun, nofun, by decide +kernel⟩
  obtain ⟨compacts, written, -, shortest, of_history⟩ := compacted_journal_shortest q
  obtain ⟨-, read, built⟩ := of_history _ _ _ h
  have done := compacts works log temp
  refine ⟨q, h, done, q.registry.events, written done, read, built, six, fun es' leads => ?_⟩
  rw [← six]
  exact shortest es' fun slot => by rw [leads]

end Planner

end Timetable
