import Timetable.Change.Booking
import Timetable.Change.Filters
import Timetable.Change.Slots
import Timetable.Change.Supervisors
import Timetable.Change.Unbooking
import Timetable.Journal.Queue
import Timetable.Listing

/-!
# The planner

The registry together with the journal that keeps it, the hub through which users are told of
changes, and the counters. A change is written to the journal first. Only when that has succeeded do
its events reach the registry and its notices the hub; an operation that is refused leaves both as
they were.
-/

set_option autoImplicit false

namespace Timetable

structure Planner where
  registry : Registry
  log : Journal.Log
  hub : Hub
  counters : Counters
  /-- How many ids have been given out. -/
  drawn : Nat

namespace Planner

/-- Opens the journal of a disk and builds the registry from it. -/
def start (disk : Journal.Disk) (hub : Hub) (counters : Counters) (drawn : Nat) :
    Except Journal.DiskError Planner := do
  let events ← Journal.Log.events disk
  return {
    registry := Registry.ofEvents events
    log := ← Journal.Log.start disk
    hub, counters, drawn }

/-- Closes the journal and opens it again. -/
def restart (p : Planner) : Except Journal.DiskError Planner :=
  start p.log.close p.hub p.counters p.drawn

def count (p : Planner) (c : Counter) : Planner := { p with counters := p.counters.bump c }

/-- An id that has not been given out yet. -/
def draw (p : Planner) (rules : Rules) : Ident × Planner :=
  (rules.ids p.drawn, { p with drawn := p.drawn + 1 })

/-- Sends the notices of a change. -/
def tell (p : Planner) (now : Int) (notices : List (UserId × Ident × Trigger)) : Planner :=
  { p with
    hub := p.hub.sendAll (notices.map fun (user, reservation, trigger) =>
      ⟨user, reservation, trigger, now⟩) }

/-- Writes the events of one transaction to the journal and then applies them. -/
def record (p : Planner) (events : List Event) : Except Refusal Unit × Planner :=
  match p.log.commit [events] with
  | (.error e, log) => (.error (.storage e), { p with log })
  | (.ok (), log) => (.ok (), { p with log, registry := p.registry.applyAll events })

/-- Carries out a change, unless it has been refused. -/
def settle {α : Type} (p : Planner) (now : Int) (decision : Except Refusal (Change α)) :
    Except Refusal α × Planner :=
  match decision with
  | .error refusal => (.error refusal, p)
  | .ok change =>
    match change.events with
    | [] => (.ok change.answer, p.tell now change.notices)
    | events =>
      match p.record events with
      | (.error refusal, p) => (.error refusal, p)
      | (.ok (), p) => (.ok change.answer, p.tell now change.notices)

variable (p : Planner) (rules : Rules) (now : Int) (user : UserId)

def createSlot (startUnit duration : UInt32) (weekday : Weekday) (room : String)
    (capacity : UInt32) : Except Refusal Slot × Planner :=
  let (id, p) := p.draw rules
  let (link, p) := p.draw rules
  p.settle now
    (p.registry.create rules ⟨id, startUnit, duration, weekday, room, capacity⟩ link user)

def updateSlot (slot : Ident) (patch : SlotPatch) : Except Refusal (List Overfull) × Planner :=
  p.settle now (p.registry.update rules now slot patch user)

def deleteSlot (slot : Ident) : Except Refusal Unit × Planner :=
  p.settle now (p.registry.delete rules now slot user)

def addFilter (slot : Ident) (course : Option CourseId) (cohort : Option String) :
    Except Refusal SlotFilter × Planner :=
  let (id, p) := p.draw rules
  p.settle now (p.registry.addFilter rules slot course cohort user id)

def removeFilter (filter : Ident) : Except Refusal Unit × Planner :=
  p.settle now (p.registry.removeFilter rules filter user)

def addSupervisor (slot : Ident) (linked : UserId) : Except Refusal Unit × Planner :=
  let (id, p) := p.draw rules
  p.settle now (p.registry.addSupervisor rules slot linked user id)

def removeSupervisor (slot : Ident) (linked : UserId) : Except Refusal Unit × Planner :=
  p.settle now (p.registry.removeSupervisor rules slot linked user)

/-- Books a student; `user` is the one who books. -/
def book (slot : Ident) (date : Date) (student : UserId) : Except Refusal Reservation × Planner :=
  let (id, p) := p.draw rules
  match p.settle now (p.registry.book rules now ⟨slot, date, student, user⟩ id) with
  | (.ok reservation, p) => (.ok reservation, p.count .bookings)
  | (.error refusal, p) => (.error refusal, p.count (.rejections refusal.code))

def unbook (reservation : Ident) (force strict : Bool) : Except Refusal UnbookMode × Planner :=
  match p.settle now (p.registry.unbook rules now reservation user force strict) with
  | (.ok mode, p) => (.ok mode, p.count (.unbookings mode))
  | (.error refusal, p) => (.error refusal, p)

/-- Replaces the journal by the shortest list of events that leads to the registry. -/
def compact : Except Refusal Unit × Planner :=
  let (outcome, log) := p.log.compact p.registry.events
  (outcome.mapError .storage, { p with log })

/-- Compacts the journal if enough events have been appended to it; tells whether that was done. -/
def compactIfDue (threshold : Nat) : Bool × Planner :=
  if p.log.appended < threshold then (false, p)
  else
    match p.compact with
    | (.ok (), p) => (true, p)
    | (.error _, p) => (false, p)

end Planner

end Timetable
