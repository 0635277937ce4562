import Timetable.Change.Slots
import Timetable.Json.Tree
import Timetable.Listing

/-!
# Records in JSON

The JSON form of slots, filters, supervisors, reservations, users and notices, and how it is read.
An object may have more members than are asked for. A user or a patch may also be given as the list
of its members in order.
-/

set_option autoImplicit false

namespace Timetable

namespace Json

/-- The members with the given names, of an object or of a list that gives them in order. -/
def record? (names : List String) : Json → Option (List (String × Json))
  | .obj members => some members
  | .arr items => if items.length ≤ names.length then some (names.zip items) else none
  | _ => none

namespace Tree

/-- Takes up a member of an object. Those without a known name are passed over, and a name may not
come twice. -/
def addMember? (names : List String) (depth : Nat) (found : List (String × Json))
    (member : List Unit16 × Tree) : Option (List (String × Json)) := do
  let name := String.ofList (← decodeUnits? member.1)
  if name ∈ names then
    if (found.lookup name).isSome then none
    else return (name, ← json? depth member.2) :: found
  else return found

/-- The members with the given names, as they stand in a text. -/
def record? (names : List String) (depth : Nat) : Tree → Option (List (String × Json))
  | .obj members => members.foldlM (addMember? names depth) []
  | .arr items =>
    if items.length ≤ names.length then return names.zip (← items.mapM (json? depth)) else none
  | _ => none

end Tree

/-- A member that must be there. -/
def required? {α : Type} (read : Json → Option α) (members : List (String × Json))
    (name : String) : Option α := (members.lookup name).bind read

/-- A member that may be absent; if it is there it must be readable. -/
def optionalMember? {α : Type} (read : Json → Option α) (members : List (String × Json))
    (name : String) (otherwise : α) : Option α :=
  match members.lookup name with
  | some value => read value
  | none => some otherwise

end Json

open Json

def Ident.ofJson? (j : Json) : Option Ident := j.str?.bind Ident.ofText?

def Ident.json (i : Ident) : Json := .str i.text

def Date.ofJson? (j : Json) : Option Date := j.str?.bind Date.ofText?

def Date.json (d : Date) : Json := .str d.text

def Weekday.ofJson? (j : Json) : Option Weekday := (j.nat? 256).bind Weekday.ofNumber?

namespace Slot

/-- The members of a slot, in order of name. -/
def members (s : Slot) : List (String × Json) :=
  [("duration", nat s.duration.toNat), ("id", s.id.json), ("room", .str s.room),
    ("size", nat s.capacity.toNat), ("startunit", nat s.startUnit.toNat),
    ("weekday", nat s.weekday.number)]

def json (s : Slot) : Json := .obj s.members

def ofJson? (j : Json) : Option Slot := do
  let members ← j.record? ["id", "startunit", "duration", "weekday", "room", "size"]
  return {
    id := ← required? Ident.ofJson? members "id"
    startUnit := ← required? uint32? members "startunit"
    duration := ← required? uint32? members "duration"
    weekday := ← required? Weekday.ofJson? members "weekday"
    room := ← required? str? members "room"
    capacity := ← required? uint32? members "size" }

end Slot

/-- The members of a patch, all of which may be absent or null. -/
def SlotPatch.ofJson? (j : Json) : Option SlotPatch := do
  let members ← j.record? ["startunit", "duration", "weekday", "room", "size"]
  return {
    startUnit := ← optionalMember? (optional? uint32?) members "startunit" none
    duration := ← optionalMember? (optional? uint32?) members "duration" none
    weekday := ← optionalMember? (optional? Weekday.ofJson?) members "weekday" none
    room := ← optionalMember? (optional? str?) members "room" none
    capacity := ← optionalMember? (optional? uint32?) members "size" none }

namespace SlotFilter

def json (f : SlotFilter) : Json :=
  .obj [("courseid", (f.courseId.map fun c => nat c.toNat).getD .null), ("id", f.id.json),
    ("slotid", f.slotId.json), ("vintage", Json.ofText? f.cohort)]

def ofJson? (j : Json) : Option SlotFilter := do
  let members ← j.record? ["id", "slotid", "courseid", "vintage"]
  return {
    id := ← required? Ident.ofJson? members "id"
    slotId := ← required? Ident.ofJson? members "slotid"
    courseId := ← optionalMember? (optional? uint64?) members "courseid" none
    cohort := ← optionalMember? (optional? str?) members "vintage" none }

end SlotFilter

namespace Supervisor

def json (s : Supervisor) : Json :=
  .obj [("id", s.id.json), ("slotid", s.slotId.json), ("userid", nat s.userId.toNat)]

def ofJson? (j : Json) : Option Supervisor := do
  let members ← j.record? ["id", "slotid", "userid"]
  return {
    id := ← required? Ident.ofJson? members "id"
    slotId := ← required? Ident.ofJson? members "slotid"
    userId := ← required? uint64? members "userid" }

end Supervisor

namespace Reservation

def json (r : Reservation) : Json :=
  .obj [("date", r.date.json), ("id", r.id.json), ("reserverid", nat r.reserverId.toNat),
    ("slotid", r.slotId.json), ("userid", nat r.userId.toNat)]

def ofJson? (j : Json) : Option Reservation := do
  let members ← j.record? ["id", "slotid", "date", "userid", "reserverid"]
  return {
    id := ← required? Ident.ofJson? members "id"
    slotId := ← required? Ident.ofJson? members "slotid"
    date := ← required? Date.ofJson? members "date"
    userId := ← required? uint64? members "userid"
    reserverId := ← required? uint64? members "reserverid" }

end Reservation

def SlotInfo.json (i : SlotInfo) : Json :=
  ofMembers (i.slot.members ++
    [("fullness", nat i.fullness), ("for_curuser", .bool i.forViewer),
      ("supervisors", .arr (i.supervisors.map fun u => nat u.toNat)),
      ("filters", .arr (i.filters.map SlotFilter.json))])

def Overfull.json (o : Overfull) : Json :=
  .obj [("capacity", nat o.capacity.toNat), ("count", nat o.count), ("date", o.date.json)]

def Notice.json (n : Notice) : Json :=
  .obj [("reservationid", n.reservationId.json), ("timestamp", .int n.timestamp),
    ("trigger", .str n.trigger.name), ("userid", nat n.userId.toNat)]

namespace UserProfile

def memberNames : List String := ["id", "capabilities", "courses", "cohort"]

def courses? (j : Json) : Option (List CourseId) := do
  return (← (← j.arr?).mapM uint64?).foldl (fun courses c => addCourse c courses) []

/-- All members but the id may be absent. -/
def ofMembers? (members : List (String × Json)) : Option UserProfile := do
  return {
    id := ← required? uint64? members "id"
    capabilities := CapabilitySet.ofBits (← optionalMember? uint32? members "capabilities" 0)
    courses := ← optionalMember? courses? members "courses" []
    cohort := ← optionalMember? (optional? str?) members "cohort" none }

def ofJson? (j : Json) : Option UserProfile := do ofMembers? (← j.record? memberNames)

def json (u : UserProfile) : Json :=
  .obj [("capabilities", nat u.capabilities.bits.toNat), ("cohort", Json.ofText? u.cohort),
    ("courses", .arr (u.courses.map fun c => nat c.toNat)), ("id", nat u.id.toNat)]

end UserProfile

/-- Reads the text of a directory: a list of profiles, of which later ones count. -/
def Directory.ofText? (s : String) : Option Directory := do
  let .arr items ← Tree.ofText? s | none
  let profiles ← items.mapM fun item => do
    UserProfile.ofMembers? (← item.record? UserProfile.memberNames (maxDepth - 2))
  return Directory.ofProfiles profiles

end Timetable
