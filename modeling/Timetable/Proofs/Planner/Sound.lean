import Timetable.Proofs.Journal.Size
import Timetable.Proofs.Planner.Decisions
import Timetable.Proofs.Registry.Within

/-!
# What is decided on is let in

Every change that is decided on can be carried out on a well-formed registry: its events are valid
and the registry has room for each of them when its turn comes, if what they bring in has a new id.
For a booking that means that the cancellations ahead of it make no less room for it.
-/

set_option autoImplicit false

namespace Timetable

theorem Roster.of_filter?_eq_some {roster : Roster} {id : Ident} {filter : SlotFilter}
    (h : roster.filter? id = some filter) : filter ∈ roster.filters ∧ filter.id = id :=
  ⟨List.mem_of_find?_eq_some h, by simpa using List.find?_some h⟩

theorem Roster.of_reservation?_eq_some {roster : Roster} {id : Ident} {reservation : Reservation}
    (h : roster.reservation? id = some reservation) :
    reservation ∈ roster.reservations ∧ reservation.id = id :=
  ⟨List.mem_of_find?_eq_some h, by simpa using List.find?_some h⟩

/-- The event cancels a reservation that the registry has. -/
def Registry.Cancels (r : Registry) (e : Event) : Prop :=
  ∃ slot roster id, r.roster? slot = some roster ∧ id ∈ roster.reservations.map (·.id) ∧
    e = .reservationCancelled id slot

namespace Registry

variable {bells : BellSchedule} {r : Registry} {id slot : Ident}

/-! ## Cancellations -/

/-- After a cancellation the registry lets in what it let in before. -/
theorem Admits.apply_cancelled {e : Event} (h : r.Admits e) (id slot : Ident) :
    (r.apply (.reservationCancelled id slot)).Admits e := by
  have rosters (k : Ident) : (r.apply (.reservationCancelled id slot)).roster? k =
      if slot = k then (r.roster? k).map (·.removeReservation id) else r.roster? k := by
    rw [roster?_apply]
    rfl
  have index (x k : Ident) (found : (r.apply (.reservationCancelled id slot)).slotOf? x = some k) :
      r.slotOf? x = some k := by
    rcases slotOf?_of_apply found with added | before
    · cases added
    · exact before
  have size : (r.apply (.reservationCancelled id slot)).rosters.size ≤ r.rosters.size := by
    rw [apply_of_isChange r rfl]
    split
    · rename_i found
      exact size_insert_le found _
    · exact Nat.le_refl _
  refine ⟨?_, ?_, ?_, ?_⟩
  · intro s supervisors created
    obtain ⟨missing, room⟩ := h.created s supervisors created
    refine ⟨?_, Nat.lt_of_le_of_lt size room⟩
    rw [rosters, missing]
    exact ite_self _
  · intro x added
    apply Option.eq_none_iff_forall_ne_some.2
    intro k found
    cases (h.added x added).symm.trans (index x k found)
  · intro x removed
    cases found : (r.apply (.reservationCancelled id slot)).slotOf? x with
    | none => exact .inl rfl
    | some k =>
      have before := index x k found
      rw [← before]
      exact h.removed x removed
  · intro roster found
    rw [rosters] at found
    split at found
    · obtain ⟨before, at_slot, rfl⟩ := Option.map_eq_some_iff.1 found
      have fewer : (before.removeReservation id).reservations.Sublist before.reservations :=
        List.eraseP_sublist
      have admits := h.roster before at_slot
      cases e with
      | filterRemoved x k => exact fun mem => admits ((fewer.map _).subset mem)
      | reservationBooked s => exact Nat.lt_of_le_of_lt fewer.length_le admits
      | _ => exact admits
    · exact h.roster roster found

/-- An event that is let in by itself is let in behind cancellations, too. -/
theorem admitsAll_of_cancellations {cancellations : List Event} {e : Event}
    (cancelled : ∀ c ∈ cancellations, r.Admits c ∧ ∃ id slot, c = .reservationCancelled id slot)
    (valid : e.Valid bells) (admits : r.Admits e) : r.AdmitsAll bells (cancellations ++ [e]) := by
  induction cancellations generalizing r with
  | nil => exact ⟨valid, admits, trivial⟩
  | cons c cs ih =>
    obtain ⟨now, id, slot, rfl⟩ := cancelled c List.mem_cons_self
    refine ⟨trivial, now, ih ?_ (admits.apply_cancelled id slot)⟩
    intro c hc
    obtain ⟨later, shape⟩ := cancelled c (List.mem_cons_of_mem _ hc)
    exact ⟨later.apply_cancelled id slot, shape⟩

variable (wf : r.WellFormed bells)
include wf

theorem admits_reservationCancelled {roster : Roster} (found : r.roster? slot = some roster)
    (mem : id ∈ roster.reservations.map (·.id)) : r.Admits (.reservationCancelled id slot) := by
  refine ⟨nofun, nofun, ?_, ?_⟩
  · rintro x ⟨⟩
    exact .inr ((wf.index id slot).2 ⟨roster, found, List.mem_append_right _ mem⟩)
  · intro roster' found'
    cases found.symm.trans found'
    intro mem'
    exact (List.nodup_append.1 (wf.roster slot roster found).nodup).2.2 id mem' id mem rfl

theorem admits_filterRemoved {roster : Roster} (found : r.roster? slot = some roster)
    (mem : id ∈ roster.filters.map (·.id)) : r.Admits (.filterRemoved id slot) := by
  refine ⟨nofun, nofun, ?_, ?_⟩
  · rintro x ⟨⟩
    exact .inr ((wf.index id slot).2 ⟨roster, found, List.mem_append_left _ mem⟩)
  · intro roster' found'
    cases found.symm.trans found'
    intro mem'
    exact (List.nodup_append.1 (wf.roster slot roster found).nodup).2.2 id mem id mem' rfl

/-- What a booking displaces is reserved in another slot. -/
theorem cancels_of_mem_displacedFrom {b : Booking} {s : Slot} {held : List Ident} {e : Event}
    (h : e ∈ r.displacedFrom b s held) : r.Cancels e ∧ e.slotId ≠ b.slot := by
  obtain ⟨-, other, -, elsewhere, roster, found, -, x, on_date, -, rfl⟩ := mem_displacedFrom_iff.1 h
  have of_roster := wf.roster other roster found
  rw [Roster.reservationsOn, of_roster.sorted.onDate_eq_filter] at on_date
  have reserved := (List.mem_filter.1 on_date).1
  refine ⟨⟨other, roster, x.id, found, List.mem_map_of_mem reserved, ?_⟩, ?_⟩
  · rw [of_roster.slot_id]
  · rw [Event.slotId, of_roster.slot_id]
    exact elsewhere

end Registry

/-! ## Sound transactions -/

/-- Reservations are cancelled and then a new one is booked in one of the slots. -/
def Registry.Displacing (r : Registry) (events : List Event) : Prop :=
  ∃ cancellations s, events = cancellations ++ [.reservationBooked s] ∧
    (∀ c ∈ cancellations, r.Cancels c) ∧ (r.roster? s.slotId).isSome ∧ r.slotOf? s.id = none

/-- The events are let in one after the other, what they bring has one of the given ids, and each is
short enough to wait in the buffer. More than one event are written only to make room for a
booking. -/
structure Registry.Sound (bells : BellSchedule) (given : Ident → Prop) (r : Registry)
    (events : List Event) : Prop where
  admitted : r.AdmitsAll bells events
  brought : ∀ e ∈ events, e.Within given
  links_le : ∀ e ∈ events, e.links.length ≤ 1
  shape : events.length ≤ 1 ∨ r.Displacing events

namespace Registry

variable {rules : Rules} {given : Ident → Prop} {r : Registry} {now : Int} {slot id : Ident}
  {user : UserId}

theorem sound_nil (bells : BellSchedule) (given : Ident → Prop) (r : Registry) :
    r.Sound bells given [] where
  admitted := trivial
  brought _ h := absurd h List.not_mem_nil
  links_le _ h := absurd h List.not_mem_nil
  shape := .inl (Nat.zero_le 1)

theorem sound_singleton {bells : BellSchedule} {e : Event} (valid : e.Valid bells)
    (admits : r.Admits e) (brought : e.Within given) (links : e.links.length ≤ 1) :
    r.Sound bells given [e] where
  admitted := ⟨valid, admits, trivial⟩
  brought _ h := List.mem_singleton.1 h ▸ brought
  links_le _ h := List.mem_singleton.1 h ▸ links
  shape := .inl (Nat.le_refl 1)

/-- Every event that an operation writes fits into the buffer with room to spare. -/
theorem Sound.small {bells : BellSchedule} {events : List Event} (sound : r.Sound bells given events) :
    ∀ e ∈ events, (Journal.payload e).length < Journal.capacity := by
  intro e he
  have short := Journal.length_payload_le (sound.admitted.valid e he)
  have few := sound.links_le e he
  rw [Journal.capacity]
  omega

theorem sound_create {s : Slot} {link : Ident} {creator : UserId} {c : Change Slot}
    (h : r.create rules s link creator = .ok c) (new : r.roster? s.id = none) (hid : given s.id) :
    r.Sound rules.bells given c.events := by
  obtain ⟨valid, room, rfl⟩ := create_eq_ok_iff.1 h
  refine sound_singleton ⟨valid, ?_, ?_, ?_⟩ ⟨?_, nofun, nofun, fun _ _ => trivial⟩ hid
    (Nat.le_refl 1)
  · intro l hl
    rw [List.mem_singleton.1 hl]
  · exact List.pairwise_singleton _ _
  · exact Nat.le_of_ble_eq_true rfl
  · rintro _ _ ⟨⟩
    exact ⟨new, room⟩

theorem sound_update {patch : SlotPatch} {c : Change (List Overfull)}
    (h : r.update rules now slot patch user = .ok c) : r.Sound rules.bells given c.events := by
  obtain ⟨roster, -, valid, -, overfull, -, rfl⟩ := update_eq_ok_iff.1 h
  exact sound_singleton valid ⟨nofun, nofun, nofun, fun _ _ => trivial⟩ trivial (Nat.zero_le _)

theorem sound_delete {c : Change Unit} (h : r.delete rules now slot user = .ok c) :
    r.Sound rules.bells given c.events := by
  obtain ⟨roster, -, rfl⟩ := delete_eq_ok_iff.1 h
  exact sound_singleton trivial ⟨nofun, nofun, nofun, fun _ _ => trivial⟩ trivial (Nat.zero_le _)

theorem sound_addFilter {course : Option CourseId} {cohort : Option String}
    {c : Change SlotFilter} (h : r.addFilter rules slot course cohort user id = .ok c)
    (new : r.slotOf? id = none) (hid : given id) : r.Sound rules.bells given c.events := by
  obtain ⟨valid, roster, supervised, room, rfl⟩ := addFilter_eq_ok_iff.1 h
  have found := (supervisedRoster_eq_ok_iff.1 supervised).1
  refine sound_singleton valid ⟨nofun, ?_, nofun, ?_⟩ hid (Nat.zero_le _)
  · rintro x ⟨⟩
    exact new
  · intro roster' found'
    cases found.symm.trans found'
    exact room

theorem sound_removeFilter {c : Change Unit} (wf : r.WellFormed rules.bells)
    (h : r.removeFilter rules id user = .ok c) : r.Sound rules.bells given c.events := by
  obtain ⟨roster, holding, has, -, rfl⟩ := removeFilter_eq_ok_iff.1 h
  obtain ⟨slot, -, found⟩ := rosterHolding_eq_ok_iff.1 holding
  obtain ⟨filter, has⟩ := Option.isSome_iff_exists.1 has
  obtain ⟨there, rfl⟩ := Roster.of_filter?_eq_some has
  have mem : filter.id ∈ roster.filters.map (·.id) := List.mem_map_of_mem there
  rw [(wf.roster slot roster found).slot_id]
  exact sound_singleton trivial (admits_filterRemoved wf found mem) trivial (Nat.zero_le _)

theorem sound_addSupervisor {linked : UserId} {c : Change Unit}
    (h : r.addSupervisor rules slot linked user id = .ok c) :
    r.Sound rules.bells given c.events := by
  obtain ⟨roster, supervised, ⟨-, rfl⟩ | ⟨-, room, rfl⟩⟩ := addSupervisor_eq_ok_iff.1 h
  · exact sound_nil ..
  · have found := (supervisedRoster_eq_ok_iff.1 supervised).1
    refine sound_singleton trivial ⟨nofun, nofun, nofun, ?_⟩ trivial (Nat.zero_le _)
    intro roster' found'
    cases found.symm.trans found'
    exact room

theorem sound_removeSupervisor {linked : UserId} {c : Change Unit}
    (h : r.removeSupervisor rules slot linked user = .ok c) :
    r.Sound rules.bells given c.events := by
  obtain ⟨roster, -, ⟨-, rfl⟩ | ⟨-, rfl⟩⟩ := removeSupervisor_eq_ok_iff.1 h
  · exact sound_singleton trivial ⟨nofun, nofun, nofun, fun _ _ => trivial⟩ trivial (Nat.zero_le _)
  · exact sound_nil ..

theorem sound_book {b : Booking} {c : Change Reservation} (wf : r.WellFormed rules.bells)
    (h : r.book rules now b id = .ok c) (new : r.slotOf? id = none) (hid : given id) :
    r.Sound rules.bells given c.events := by
  obtain ⟨-, student, -, held, -, h⟩ := book_eq_ok_iff.1 h
  obtain ⟨roster, found, seat, rfl⟩ := bookHeld_eq_ok_iff.1 h
  obtain ⟨-, -, -, -, -, -, -, room⟩ := requireSeat_eq_ok_iff.1 seat
  have cancelled (e : Event) (he : e ∈ r.displacedFrom b roster.slot held) :
      r.Admits e ∧ ∃ id slot, e = .reservationCancelled id slot := by
    obtain ⟨⟨other, _, x, found, mem, rfl⟩, -⟩ := cancels_of_mem_displacedFrom wf he
    exact ⟨admits_reservationCancelled wf found mem, x, other, rfl⟩
  refine ⟨admitsAll_of_cancellations cancelled trivial ⟨nofun, ?_, nofun, ?_⟩, ?_, ?_,
    .inr ⟨_, _, rfl, fun e he => (cancels_of_mem_displacedFrom wf he).1, ?_, new⟩⟩
  · rintro x ⟨⟩
    exact new
  · intro roster' found'
    cases found.symm.trans found'
    exact room
  · intro e he
    rcases List.mem_append.1 he with he | he
    · obtain ⟨-, x, other, rfl⟩ := cancelled e he
      trivial
    · rw [List.mem_singleton.1 he]
      exact hid
  · intro e he
    rcases List.mem_append.1 he with he | he
    · obtain ⟨-, x, other, rfl⟩ := cancelled e he
      exact Nat.zero_le _
    · rw [List.mem_singleton.1 he]
      exact Nat.zero_le _
  · rw [found]
    rfl

theorem sound_unbook {force strict : Bool} {c : Change UnbookMode} (wf : r.WellFormed rules.bells)
    (h : r.unbook rules now id user force strict = .ok c) : r.Sound rules.bells given c.events := by
  obtain ⟨roster, holding, reservation, has, phase, -, mode, -, rfl⟩ := unbook_eq_ok_iff.1 h
  obtain ⟨slot, -, found⟩ := rosterHolding_eq_ok_iff.1 holding
  obtain ⟨there, rfl⟩ := Roster.of_reservation?_eq_some has
  have at_slot := (wf.roster slot roster found).reservation_slot reservation there
  have mem : reservation.id ∈ roster.reservations.map (·.id) := List.mem_map_of_mem there
  have cancelled : r.Sound rules.bells given
      [.reservationCancelled reservation.id reservation.slotId] := by
    rw [at_slot]
    exact sound_singleton trivial (admits_reservationCancelled wf found mem) trivial
      (Nat.zero_le _)
  cases mode with
  | requested => exact sound_nil ..
  | _ => exact cancelled

end Registry

end Timetable
