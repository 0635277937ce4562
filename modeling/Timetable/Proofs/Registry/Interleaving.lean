import Timetable.Proofs.Registry.Filed

/-!
# The order of events of different slots

Transactions on different slots may reach the journal in any order. What the journal adds up to
depends on the order of the events of each slot alone, if no filter or reservation is named under
two slots: of the rosters an event changes only that of its slot, and of the index only what it
names and what its slot holds.
-/

set_option autoImplicit false

namespace Timetable

variable {e : Event} {x slot : Ident}

/-! ## What an event does to an entry of the index -/

namespace Event

/-- The filter or reservation that an event adds or removes. -/
def names? (e : Event) : Option Ident := e.adds?.or e.removes?

theorem names?_eq_of_adds (h : e.adds? = some x) : e.names? = some x := by
  rw [names?, h, Option.some_or]

theorem names?_eq_of_removes (h : e.removes? = some x) : e.names? = some x := by
  cases e <;> first | exact h | cases h

/-- What an event makes of the entry of a filter or reservation in the index, where this is the
roster of the event's slot. -/
def refer (e : Event) (x : Ident) : Option Roster → Option Ident → Option Ident
  | none, entry => entry
  | some roster, entry =>
    match e with
    | slotDeleted _ => if x ∈ roster.entities then none else entry
    | e => if some x = e.adds? then some e.slotId else if some x = e.removes? then none else entry

theorem refer_of_isChange (h : e.isChange) (roster : Roster) (entry : Option Ident) :
    e.refer x (some roster) entry =
      if some x = e.adds? then some e.slotId else if some x = e.removes? then none else entry := by
  cases e <;> first | rfl | cases h

/-- The entry of what an event does not name, and its slot does not hold, stays. -/
theorem refer_of_not_named (not_named : e.names? ≠ some x) {roster : Option Roster}
    (not_held : ∀ held ∈ roster, x ∉ held.entities) (entry : Option Ident) :
    e.refer x roster entry = entry := by
  have not_added : ¬ some x = e.adds? := fun added => not_named (names?_eq_of_adds added.symm)
  have not_removed : ¬ some x = e.removes? :=
    fun removed => not_named (names?_eq_of_removes removed.symm)
  cases roster with
  | none => rfl
  | some roster =>
    cases e with
    | slotDeleted slot => exact if_neg (not_held roster rfl)
    | _ =>
      rw [refer, if_neg not_added, if_neg not_removed]
      nofun

end Event

namespace Roster

/-- What an event that adds nothing leaves of what a roster holds. -/
theorem entities_apply_sublist (roster : Roster) (adds : e.adds? = none) :
    (roster.apply e).entities.Sublist roster.entities := by
  cases e with
  | filterAdded | reservationBooked => cases adds
  | filterRemoved y slot => exact (List.eraseP_sublist.map _).append_right _
  | reservationCancelled y slot => exact (List.eraseP_sublist.map _).append_left _
  | _ =>
    rw [entities_apply_of_neither roster adds rfl]

/-- A roster holds nothing after an event but what it held before and what the event names. -/
theorem mem_of_mem_entities_apply {roster : Roster} (mem : x ∈ (roster.apply e).entities) :
    e.names? = some x ∨ x ∈ roster.entities := by
  cases adds : e.adds? with
  | some y =>
    rcases List.mem_cons.1 ((entities_apply_of_adds roster adds).mem_iff.1 mem) with rfl | held
    · exact .inl (Event.names?_eq_of_adds adds)
    · exact .inr held
  | none => exact .inr ((entities_apply_sublist roster adds).subset mem)

end Roster

namespace Registry

variable {r : Registry}

/-- Of the index an event changes an entry as the roster of its slot tells. -/
theorem slotOf?_apply_eq_refer (r : Registry) (e : Event) (x : Ident) :
    (r.apply e).slotOf? x = e.refer x (r.roster? e.slotId) (r.slotOf? x) := by
  obtain ⟨slot, supervisors, rfl⟩ | ⟨missing, same, -⟩ | ⟨slot, roster, rfl, found⟩ |
    ⟨roster, change, found⟩ := event_cases r e
  · cases r.roster? (Event.slotCreated slot supervisors).slotId <;> rfl
  · rw [same, missing]
    rfl
  · rw [slotOf?_apply_slotDeleted found, Event.slotId, found]
    rfl
  · rw [slotOf?_apply change found, getElem?_reindexed, found, Event.refer_of_isChange change]
    rfl

/-! ## The events of one slot -/

/-- Slots other than this one do not hold the filter or reservation. -/
def HeldBy (slot x : Ident) (r : Registry) : Prop :=
  ∀ other roster, r.roster? other = some roster → other ≠ slot → x ∉ roster.entities

theorem HeldBy.apply (held : r.HeldBy slot x) (own : e.names? = some x → e.slotId = slot) :
    (r.apply e).HeldBy slot x := by
  intro other roster found elsewhere mem
  rw [roster?_apply] at found
  split at found
  · rename_i at_slot
    have not_named : e.names? ≠ some x := fun named => elsewhere (at_slot ▸ own named)
    cases e with
    | slotCreated s supervisors =>
      cases found
      cases mem
    | slotDeleted s => cases found
    | _ =>
      rw [Event.act_eq_map rfl] at found
      obtain ⟨before, there, rfl⟩ := Option.map_eq_some_iff.1 found
      have still := (Roster.mem_of_mem_entities_apply mem).resolve_left not_named
      exact held other before there elsewhere still
  · exact held other roster found elsewhere mem

/-- **What becomes of a slot and of what belongs to it** is told by the events of the slot: one after
the other they act on its roster and on the entry of the filter or reservation in the index. -/
theorem view_applyAll (es : List Event) (held : r.HeldBy slot x)
    (own : ∀ e ∈ es, e.names? = some x → e.slotId = slot) :
    ((r.applyAll es).roster? slot, (r.applyAll es).slotOf? x) =
      (es.filter (·.slotId = slot)).foldl (fun view e => (e.act view.1, e.refer x view.1 view.2))
        (r.roster? slot, r.slotOf? x) := by
  induction es generalizing r with
  | nil => rfl
  | cons e es ih =>
    obtain ⟨own_first, own_rest⟩ := List.forall_mem_cons.1 own
    rw [applyAll_cons, ih (held.apply own_first) own_rest, roster?_apply, slotOf?_apply_eq_refer,
      List.filter_cons]
    by_cases at_slot : e.slotId = slot
    · simp only [at_slot, decide_true, ↓reduceIte, List.foldl_cons]
    · have not_held : ∀ roster ∈ r.roster? e.slotId, x ∉ roster.entities :=
        fun roster found => held e.slotId roster found at_slot
      have not_named : e.names? ≠ some x := fun named => at_slot (own_first named)
      rw [Event.refer_of_not_named not_named not_held]
      simp only [at_slot, decide_false, Bool.false_eq_true, ↓reduceIte]

theorem heldBy_empty (slot x : Ident) : empty.HeldBy slot x := by
  intro other roster found
  rw [roster?_empty] at found
  cases found

/-- **The order of events of different slots does not matter.** Two journals that have for each slot
the same events in the same order add up to the same registry, rosters and index, if events that name
the same filter or reservation are of the same slot. Slots may be created, deleted and created anew
in between, and there may be events of slots that do not exist. -/
theorem ofEvents_eq_of_same_by_slot {xs ys : List Event}
    (same : ∀ slot : Ident, xs.filter (·.slotId = slot) = ys.filter (·.slotId = slot))
    (apart : ∀ e ∈ xs, ∀ e' ∈ xs, e.names?.isSome → e.names? = e'.names? →
      e.slotId = e'.slotId) :
    ofEvents xs = ofEvents ys := by
  have mem_iff (e : Event) : e ∈ xs ↔ e ∈ ys := by
    have of_slot : e ∈ xs.filter (·.slotId = e.slotId) ↔ e ∈ ys.filter (·.slotId = e.slotId) := by
      rw [same]
    simpa using of_slot
  -- All events that name `x` are of one slot, and of any slot if there are none.
  have owner (x : Ident) : ∃ slot, ∀ e ∈ xs, e.names? = some x → e.slotId = slot := by
    by_cases named : ∃ e ∈ xs, e.names? = some x
    · obtain ⟨e, mem, names⟩ := named
      refine ⟨e.slotId, fun e' mem' names' => ?_⟩
      exact apart e' mem' e mem (Option.isSome_of_eq_some names') (names'.trans names.symm)
    · exact ⟨x, fun e mem names => absurd ⟨e, mem, names⟩ named⟩
  refine Registry.ext ?_ ?_
  · intro slot
    rw [ofEvents, ofEvents, roster?_applyAll, roster?_applyAll, same]
  · intro x
    obtain ⟨slot, own⟩ := owner x
    have of_xs := view_applyAll xs (heldBy_empty slot x) own
    have of_ys := view_applyAll ys (heldBy_empty slot x)
      fun e mem => own e ((mem_iff e).2 mem)
    rw [same, ← of_ys] at of_xs
    exact congrArg Prod.snd of_xs

end Registry

/-! Slot 0 is deleted and created anew, and slot 2 does not exist. -/

namespace Event

def onSlot (id : Nat) : Slot := ⟨.ofNat id, 1, 1, .thursday, "101", 5⟩

def filterOn (slot id : Nat) : Event := .filterAdded ⟨.ofNat id, .ofNat slot, none, some "1a"⟩

def bookedOn (slot id : Nat) : Event := .reservationBooked ⟨.ofNat id, .ofNat slot, .epoch, 7, 7⟩

def inTurns : List Event :=
  [.slotCreated (onSlot 0) [], .slotCreated (onSlot 1) [], filterOn 0 10, filterOn 1 11,
    bookedOn 0 12, .slotDeleted (.ofNat 0), bookedOn 1 13, filterOn 2 14,
    .slotCreated (onSlot 0) [], filterOn 0 10, .reservationCancelled (.ofNat 13) (.ofNat 1)]

def slotBySlot : List Event :=
  [filterOn 2 14, .slotCreated (onSlot 1) [], filterOn 1 11, bookedOn 1 13,
    .reservationCancelled (.ofNat 13) (.ofNat 1), .slotCreated (onSlot 0) [], filterOn 0 10,
    bookedOn 0 12, .slotDeleted (.ofNat 0), .slotCreated (onSlot 0) [], filterOn 0 10]

theorem filter_inTurns (slot : Ident) :
    inTurns.filter (·.slotId = slot) = slotBySlot.filter (·.slotId = slot) := by
  by_cases zero : Ident.ofNat 0 = slot
  · subst zero
    decide
  · by_cases one : Ident.ofNat 1 = slot
    · subst one
      decide
    · by_cases two : Ident.ofNat 2 = slot
      · subst two
        decide
      · simp [inTurns, slotBySlot, onSlot, filterOn, bookedOn, slotId, zero, one, two]

end Event

theorem Registry.ofEvents_eq_of_same_by_slot_recreated :
    (∀ slot : Ident, Event.inTurns.filter (·.slotId = slot) =
      Event.slotBySlot.filter (·.slotId = slot)) ∧
    (∀ e ∈ Event.inTurns, ∀ e' ∈ Event.inTurns, e.names?.isSome → e.names? = e'.names? →
      e.slotId = e'.slotId) ∧
    ofEvents Event.inTurns = ofEvents Event.slotBySlot := by
  have apart : ∀ e ∈ Event.inTurns, ∀ e' ∈ Event.inTurns, e.names?.isSome → e.names? = e'.names? →
      e.slotId = e'.slotId := by decide
  exact ⟨Event.filter_inTurns, apart, ofEvents_eq_of_same_by_slot Event.filter_inTurns apart⟩

end Timetable
