import Timetable.Event

/-!
# The registry

The rosters of all slots by id, and an index that leads from a filter or reservation to the slot
that holds it. The registry is what the events of the journal add up to.
-/

set_option autoImplicit false

namespace Timetable

structure Registry where
  rosters : Std.ExtTreeMap Ident Roster
  /-- The slot of each filter and reservation. -/
  index : Std.ExtTreeMap Ident Ident

namespace Registry

def empty : Registry := ⟨∅, ∅⟩

def roster? (r : Registry) (slot : Ident) : Option Roster := r.rosters[slot]?

def slotOf? (r : Registry) (entity : Ident) : Option Ident := r.index[entity]?

/-- The rosters in order of slot id. -/
def rosterList (r : Registry) : List Roster := r.rosters.toList.map (·.2)

/-- The index without the filters and reservations of a roster. -/
def unindexed (index : Std.ExtTreeMap Ident Ident) (roster : Roster) : Std.ExtTreeMap Ident Ident :=
  (roster.filters.map (·.id) ++ roster.reservations.map (·.id)).foldl (·.erase ·) index

/-- What an event changes in the index, once it has reached the roster of its slot. -/
def reindexed (index : Std.ExtTreeMap Ident Ident) : Event → Std.ExtTreeMap Ident Ident
  | .filterAdded filter => index.insert filter.id filter.slotId
  | .filterRemoved id _ => index.erase id
  | .reservationBooked reservation => index.insert reservation.id reservation.slotId
  | .reservationCancelled id _ => index.erase id
  | _ => index

/-- A slot may be created anew, and then starts with a new roster; any other event of a slot that
does not exist is passed over. -/
def apply (r : Registry) (e : Event) : Registry :=
  match e with
  | .slotCreated slot supervisors =>
    { r with rosters := r.rosters.insert slot.id (Roster.new slot supervisors) }
  | .slotDeleted id =>
    match r.roster? id with
    | some roster => ⟨r.rosters.erase id, unindexed r.index roster⟩
    | none => r
  | e =>
    match r.roster? e.slotId with
    | some roster => ⟨r.rosters.insert e.slotId (roster.apply e), reindexed r.index e⟩
    | none => r

def applyAll (r : Registry) (events : List Event) : Registry := events.foldl apply r

def ofEvents (events : List Event) : Registry := empty.applyAll events

/-- The shortest list of events that leads to the registry, slot by slot. -/
def events (r : Registry) : List Event := r.rosterList.flatMap Roster.events

@[ext] theorem ext {a b : Registry} (rosters : ∀ id : Ident, a.roster? id = b.roster? id)
    (index : ∀ id : Ident, a.slotOf? id = b.slotOf? id) : a = b := by
  cases a
  cases b
  congr 1
  · exact Std.ExtTreeMap.ext_getElem? rosters
  · exact Std.ExtTreeMap.ext_getElem? index

theorem applyAll_singleton (r : Registry) (e : Event) : r.applyAll [e] = r.apply e := rfl

theorem applyAll_append (r : Registry) (xs ys : List Event) :
    r.applyAll (xs ++ ys) = (r.applyAll xs).applyAll ys := List.foldl_append

theorem applyAll_cons (r : Registry) (e : Event) (es : List Event) :
    r.applyAll (e :: es) = (r.apply e).applyAll es := rfl

end Registry

end Timetable
