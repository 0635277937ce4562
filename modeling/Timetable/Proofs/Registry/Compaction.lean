import Timetable.Proofs.Registry.WellFormed

/-!
# Compaction

The events that a registry is boiled down to lead back to it: they rebuild its rosters one by one,
and no roster takes from the index what another has put there.
-/

set_option autoImplicit false

namespace Timetable

/-- A reservation that is not earlier than any other goes to the end. -/
theorem Reservation.insert_of_le {r : Reservation} {rs : List Reservation}
    (h : ∀ s ∈ rs, s.date ≤ r.date) : r.insert rs = rs ++ [r] := by
  induction rs with
  | nil => rfl
  | cons s rs ih =>
    rw [insert_cons, if_pos (h s List.mem_cons_self), ih fun t ht => h t (List.mem_cons_of_mem _ ht),
      List.cons_append]

namespace Roster

/-- The events of a roster after its creation. -/
def changes (roster : Roster) : List Event :=
  roster.filters.map .filterAdded ++ roster.reservations.map .reservationBooked

theorem events_eq (roster : Roster) :
    roster.events = .slotCreated roster.slot roster.supervisors :: roster.changes := rfl

theorem foldl_filterAdded (roster : Roster) (fs : List SlotFilter) :
    (fs.map Event.filterAdded).foldl Roster.apply roster =
      { roster with filters := roster.filters ++ fs } := by
  induction fs generalizing roster with
  | nil => simp
  | cons f fs ih =>
    rw [List.map_cons, List.foldl_cons, ih]
    simp [Roster.apply, addFilter]

/-- Reservations in order of date are booked one behind the other. -/
theorem foldl_reservationBooked (roster : Roster) (rs : List Reservation)
    (sorted : Reservation.Sorted (roster.reservations ++ rs)) :
    (rs.map Event.reservationBooked).foldl Roster.apply roster =
      { roster with reservations := roster.reservations ++ rs } := by
  induction rs generalizing roster with
  | nil => simp
  | cons r rs ih =>
    have last : r.insert roster.reservations = roster.reservations ++ [r] :=
      Reservation.insert_of_le fun s hs =>
        (List.pairwise_append.1 sorted).2.2 s hs r List.mem_cons_self
    have booked : roster.apply (.reservationBooked r) =
        { roster with reservations := roster.reservations ++ [r] } := by
      simp only [Roster.apply, addReservation, last]
    rw [List.map_cons, List.foldl_cons, booked, ih]
    · simp
    · simpa using sorted

/-- The events of a roster lead to it, if its reservations are in order. -/
theorem foldl_changes (roster : Roster) (sorted : Reservation.Sorted roster.reservations) :
    roster.changes.foldl Roster.apply (.new roster.slot roster.supervisors) = roster := by
  rw [changes, List.foldl_append, foldl_filterAdded, foldl_reservationBooked]
  · rfl
  · exact sorted

end Roster

namespace Registry

variable {bells : BellSchedule} {r : Registry} {id : Ident} {roster : Roster}

/-- What changes of one slot come to. -/
theorem applyAll_changes {es : List Event} (found : r.roster? id = some roster)
    (changes : ∀ e ∈ es, e.isChange ∧ e.slotId = id) :
    (∀ k, (r.applyAll es).roster? k =
        if id = k then some (es.foldl Roster.apply roster) else r.roster? k) ∧
      ∀ x, (r.applyAll es).slotOf? x = (es.foldl reindexed r.index)[x]? := by
  induction es generalizing r roster with
  | nil =>
    refine ⟨?_, fun x => rfl⟩
    intro k
    split
    · rename_i same
      exact same ▸ found
    · rfl
  | cons e es ih =>
    obtain ⟨change, rfl⟩ := changes e List.mem_cons_self
    have next : r.apply e = ⟨r.rosters.insert e.slotId (roster.apply e), reindexed r.index e⟩ :=
      apply_of_roster?_eq_some change found
    have found' : (r.apply e).roster? e.slotId = some (roster.apply e) := by
      rw [roster?_apply, if_pos rfl, found, act_of_isChange change]
    obtain ⟨rosters, index⟩ := ih found' fun e' he => changes e' (List.mem_cons_of_mem _ he)
    constructor
    · intro k
      refine (rosters k).trans ?_
      rw [roster?_apply]
      split
      · rfl
      · rfl
    · intro x
      refine (index x).trans ?_
      rw [next]
      rfl

theorem getElem?_foldl_reindexed {es : List Event} (index : Std.ExtTreeMap Ident Ident)
    (adds : ∀ e ∈ es, e.slotId = id ∧ e.adds?.isSome) (x : Ident) :
    (es.foldl reindexed index)[x]? = if x ∈ es.filterMap Event.adds? then some id else index[x]? := by
  induction es generalizing index with
  | nil => simp
  | cons e es ih =>
    obtain ⟨rfl, some_added⟩ := adds e List.mem_cons_self
    obtain ⟨y, added⟩ := Option.isSome_iff_exists.1 some_added
    have not_removes : e.removes? = none := by
      cases e <;> first | rfl | cases added
    rw [List.foldl_cons, ih _ fun e' he => adds e' (List.mem_cons_of_mem _ he), getElem?_reindexed,
      List.filterMap_cons_some added, added, not_removes]
    by_cases same : x = y
    · simp [same]
    · simp [same]

theorem filterMap_adds?_changes (roster : Roster) :
    roster.changes.filterMap Event.adds? = roster.entities := by
  simp [Roster.changes, Roster.entities, Function.comp_def, Event.adds?]

/-- The events of a roster put it in its place and its filters and reservations into the index,
whatever was there. -/
theorem applyAll_events_roster (wf : roster.WellFormed bells id) (r : Registry) :
    (∀ k, (r.applyAll roster.events).roster? k = if id = k then some roster else r.roster? k) ∧
      ∀ x, (r.applyAll roster.events).slotOf? x =
        if x ∈ roster.entities then some id else r.slotOf? x := by
  have of_slot : ∀ e ∈ roster.changes, e.isChange ∧ e.slotId = id ∧ e.adds?.isSome := by
    intro e he
    rcases List.mem_append.1 he with he | he
    · obtain ⟨f, hf, rfl⟩ := List.mem_map.1 he
      exact ⟨rfl, wf.filter_slot f hf, rfl⟩
    · obtain ⟨s, hs, rfl⟩ := List.mem_map.1 he
      exact ⟨rfl, wf.reservation_slot s hs, rfl⟩
  have created (k : Ident) : (r.apply (.slotCreated roster.slot roster.supervisors)).roster? k =
      if id = k then some (Roster.new roster.slot roster.supervisors) else r.roster? k := by
    rw [← wf.slot_id]
    exact roster?_apply ..
  obtain ⟨rosters, index⟩ := applyAll_changes ((created id).trans (if_pos rfl)) fun e he =>
    ⟨(of_slot e he).1, (of_slot e he).2.1⟩
  rw [Roster.events_eq]
  constructor
  · intro k
    refine (rosters k).trans ?_
    rw [roster.foldl_changes wf.sorted, created]
    split
    · rfl
    · rfl
  · intro x
    refine (index x).trans ?_
    rw [getElem?_foldl_reindexed _ fun e he => (of_slot e he).2, filterMap_adds?_changes]
    rfl

/-- The rosters of different slots are rebuilt one after the other. -/
theorem applyAll_events_rosters (ps : List (Ident × Roster))
    (wf : ∀ p ∈ ps, p.2.WellFormed bells p.1) (distinct : ps.Pairwise fun p q => p.1 ≠ q.1)
    (disjoint : ps.Pairwise fun p q => ∀ x ∈ p.2.entities, x ∉ q.2.entities) (r : Registry) :
    (∀ p ∈ ps, (r.applyAll (ps.flatMap (·.2.events))).roster? p.1 = some p.2 ∧
        ∀ x ∈ p.2.entities, (r.applyAll (ps.flatMap (·.2.events))).slotOf? x = some p.1) ∧
      (∀ k, (∀ p ∈ ps, p.1 ≠ k) →
        (r.applyAll (ps.flatMap (·.2.events))).roster? k = r.roster? k) ∧
      ∀ x, (∀ p ∈ ps, x ∉ p.2.entities) →
        (r.applyAll (ps.flatMap (·.2.events))).slotOf? x = r.slotOf? x := by
  induction ps generalizing r with
  | nil => exact ⟨fun p hp => absurd hp List.not_mem_nil, fun _ _ => rfl, fun _ _ => rfl⟩
  | cons p ps ih =>
    obtain ⟨other, distinct⟩ := List.pairwise_cons.1 distinct
    obtain ⟨apart, disjoint⟩ := List.pairwise_cons.1 disjoint
    obtain ⟨rosters, index⟩ := applyAll_events_roster (wf p List.mem_cons_self) r
    obtain ⟨placed, rosters', index'⟩ := ih (fun q hq => wf q (List.mem_cons_of_mem _ hq)) distinct
      disjoint (r.applyAll p.2.events)
    rw [List.flatMap_cons, applyAll_append]
    refine ⟨?_, ?_, ?_⟩
    · intro q hq
      rcases List.mem_cons.1 hq with rfl | hq
      · constructor
        · rw [rosters' q.1 fun p hp => (other p hp).symm, rosters, if_pos rfl]
        · intro x hx
          rw [index' x fun p hp => apart p hp x hx, index, if_pos hx]
      · exact placed q hq
    · intro k hk
      rw [rosters' k fun q hq => hk q (List.mem_cons_of_mem _ hq), rosters,
        if_neg (hk p List.mem_cons_self)]
    · intro x hx
      rw [index' x fun q hq => hx q (List.mem_cons_of_mem _ hq), index,
        if_neg (hx p List.mem_cons_self)]

theorem events_eq_flatMap (r : Registry) : r.events = r.rosters.toList.flatMap (·.2.events) := by
  rw [events, rosterList, List.flatMap_map]

theorem mem_toList_iff {p : Ident × Roster} : p ∈ r.rosters.toList ↔ r.roster? p.1 = some p.2 :=
  Std.ExtTreeMap.mem_toList_iff_getElem?_eq_some

theorem distinct_toList (r : Registry) : r.rosters.toList.Pairwise fun p q => p.1 ≠ q.1 := by
  refine r.rosters.distinct_keys_toList.imp fun differ same => differ ?_
  rw [same]
  exact Std.ReflCmp.compare_self

/-- No filter or reservation belongs to two slots. -/
theorem Indexed.disjoint_toList (indexed : r.Indexed) :
    r.rosters.toList.Pairwise fun p q => ∀ x ∈ p.2.entities, x ∉ q.2.entities := by
  refine r.distinct_toList.imp_of_mem fun hp hq differ x hx hx' => differ ?_
  have first := (indexed.index x _).2 ⟨_, mem_toList_iff.1 hp, hx⟩
  have second := (indexed.index x _).2 ⟨_, mem_toList_iff.1 hq, hx'⟩
  exact Option.some.inj (first.symm.trans second)

/-- **A registry is rebuilt from the events that it is boiled down to.** -/
theorem ofEvents_events (wf : r.WellFormed bells) : ofEvents r.events = r := by
  obtain ⟨placed, rosters, index⟩ := applyAll_events_rosters r.rosters.toList
    (fun p hp => wf.roster p.1 p.2 (mem_toList_iff.1 hp)) r.distinct_toList
    wf.indexed.disjoint_toList empty
  rw [events_eq_flatMap]
  apply ext
  · intro id
    cases found : r.roster? id with
    | some roster => exact (placed (id, roster) (mem_toList_iff.2 found)).1
    | none =>
      refine (rosters id ?_).trans (roster?_empty id)
      rintro p hp rfl
      cases found.symm.trans (mem_toList_iff.1 hp)
  · intro x
    cases indexed : r.slotOf? x with
    | some id =>
      obtain ⟨roster, found, hx⟩ := (wf.index x id).1 indexed
      exact (placed (id, roster) (mem_toList_iff.2 found)).2 x hx
    | none =>
      refine (index x ?_).trans (slotOf?_empty x)
      intro p hp hx
      cases indexed.symm.trans ((wf.index x p.1).2 ⟨p.2, mem_toList_iff.1 hp, hx⟩)

/-- The events that a registry is boiled down to are valid by themselves. -/
theorem valid_of_mem_events (wf : r.WellFormed bells) : ∀ e ∈ r.events, e.Valid bells := by
  intro e he
  rw [events_eq_flatMap] at he
  obtain ⟨p, hp, he⟩ := List.mem_flatMap.1 he
  have of_roster := wf.roster p.1 p.2 (mem_toList_iff.1 hp)
  rw [Roster.events_eq, Roster.changes] at he
  rcases List.mem_cons.1 he with rfl | he
  · refine ⟨of_roster.slot_valid, ?_⟩
    rw [of_roster.slot_id]
    exact of_roster.links
  · rcases List.mem_append.1 he with he | he
    · obtain ⟨f, hf, rfl⟩ := List.mem_map.1 he
      exact of_roster.filter_valid f hf
    · obtain ⟨s, hs, rfl⟩ := List.mem_map.1 he
      trivial

end Registry

end Timetable
