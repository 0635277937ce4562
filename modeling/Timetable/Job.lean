import Timetable.Service
import Timetable.Ticket

/-!
# Jobs

A request that is carried out while others are, too, is a job. It goes on from one wait to the next:
it waits to look at a roster or to hold it, and for the journal. What it decides on is settled
while it holds the rosters, and it gives them up when the registry has been changed.

Only requests for a change are jobs. Most of them hold one roster. Who books for somebody else looks
up the weekday of the slot, looks through all other slots for those on the same weekday, one after
the other and in any order, and then holds these slots, in order of id. A slot that has been deleted
meanwhile is passed over.
-/

set_option autoImplicit false

namespace Timetable

/-- What is answered to a job, and what is counted with it. -/
structure Reply where
  payload : Json
  counts : List Counter

inductive Stage where
  /-- Has just come. -/
  | new
  /-- Waits to look up the weekday of the slot that is to be booked. -/
  | looking (slot : Ident)
  /-- Waits to look whether `slot` is on the weekday, before those that are left. -/
  | scanning (weekday : Weekday) (slot : Ident) (left chosen : List Ident)
  /-- Waits to hold `slot`, before those that are left. -/
  | taking (slot : Ident) (left held : List Ident)
  /-- Waits for the journal to take the change. -/
  | writing (held : List Ident) (change : Change Reply)
  /-- The journal has answered. -/
  | written (held : List Ident) (change : Change Reply) (outcome : Journal.Outcome)
  | done (result : Except Refusal (Change Reply))

namespace Stage

/-- The slots whose rosters are held. -/
def held : Stage → List Ident
  | taking _ _ held | writing held _ | written held _ _ => held
  | _ => []

/-- The ticket that is waited with. -/
def ticket? (job : Nat) : Stage → Option Ticket
  | looking slot | scanning _ slot _ _ => some ⟨job, slot, .look⟩
  | taking slot _ _ => some ⟨job, slot, .hold⟩
  | _ => none

/-- The events that reach the registry when the job goes on. -/
def events : Stage → List Event
  | written _ change (.ok ()) => change.events
  | _ => []

/-- What the journal is to take. -/
def transaction : Stage → List Event
  | writing _ change => change.events
  | _ => []

/-- The journal answers. -/
def answered (outcome : Journal.Outcome) : Stage → Stage
  | writing held change => written held change outcome
  | stage => stage

end Stage

structure Job where
  caller : UserId
  action : Action
  /-- When the request came. -/
  came : Int
  /-- Which of all ids is the first that is drawn for it. -/
  first : Nat
  /-- The slot that it is about, unless it creates one. -/
  slot : Option Ident
  stage : Stage

/-- The action is carried out as a job. -/
def Action.isChange : Action → Bool
  | createSlot .. | updateSlot .. | deleteSlot .. | addSlotFilter .. | deleteSlotFilter ..
  | addSlotSupervisor .. | removeSlotSupervisor .. | bookReservation .. | unbookReservation .. => true
  | _ => false

/-- The slot that a change is about. -/
def Action.slot? (r : Registry) : Action → Option Ident
  | updateSlot slot _ | deleteSlot slot | addSlotFilter slot _ _ | addSlotSupervisor slot _
  | removeSlotSupervisor slot _ | bookReservation slot _ _ => some slot
  | deleteSlotFilter entity | unbookReservation entity _ _ => r.slotOf? entity
  | _ => none

/-- Puts a slot among others in order of id. -/
def Ident.insert (slot : Ident) : List Ident → List Ident
  | [] => [slot]
  | other :: slots =>
    if slot < other then slot :: other :: slots else other :: slot.insert slots

namespace Job

variable (job : Job) (r : Registry) (rules : Rules) (now : Int)

def booking? : Option Registry.Booking :=
  match job.action with
  | .bookReservation slot date user => some ⟨slot, date, user.getD job.caller, job.caller⟩
  | _ => none

/-- Books with the rosters that are held. -/
def book (b : Registry.Booking) (held : List Ident) : Except Refusal (Change Reservation) := do
  let student ← rules.directory.require b.student
  r.bookHeld rules (dateOf job.came) b student held (rules.ids job.first)

/-- Decides with the rosters that are held. A filter or reservation is only looked for in the slot
that is held. -/
def decision (held : List Ident) : Except Refusal (Change Reply) :=
  let id := rules.ids job.first
  match job.action with
  | .createSlot startUnit duration weekday room capacity =>
    (r.create rules ⟨id, startUnit, duration, weekday, room, capacity⟩ (rules.ids (job.first + 1))
      job.caller).map (.map fun slot => ⟨slot.json, []⟩)
  | .updateSlot slot patch =>
    (r.update rules now slot patch job.caller).map
      (.map fun overfull => ⟨.obj [("overfull", Planner.listJson Overfull.json overfull)], []⟩)
  | .deleteSlot slot => (r.delete rules now slot job.caller).map (.map fun _ => ⟨.null, []⟩)
  | .addSlotFilter slot course cohort =>
    (r.addFilter rules slot course cohort job.caller id).map (.map fun filter => ⟨filter.json, []⟩)
  | .deleteSlotFilter filter =>
    if r.slotOf? filter = job.slot then
      (r.removeFilter rules filter job.caller).map (.map fun _ => ⟨.null, []⟩)
    else .error (.notFound filter)
  | .addSlotSupervisor slot user =>
    (r.addSupervisor rules slot user job.caller id).map (.map fun _ => ⟨.null, []⟩)
  | .removeSlotSupervisor slot user =>
    (r.removeSupervisor rules slot user job.caller).map (.map fun _ => ⟨.null, []⟩)
  | .bookReservation slot date user =>
    (job.book r rules ⟨slot, date, user.getD job.caller, job.caller⟩ held).map
      (.map fun reservation => ⟨reservation.json, [.bookings]⟩)
  | .unbookReservation reservation nice strict =>
    if r.slotOf? reservation = job.slot then
      (r.unbook rules now reservation job.caller (!nice) strict).map
        (.map fun mode => ⟨mode.json, [.unbookings mode]⟩)
    else .error (.notFound reservation)
  | _ => .ok (.none ⟨.null, []⟩)

/-- Decides, and waits for the journal if there is something to be written. -/
def decided (held : List Ident) : Stage :=
  match job.decision r rules now held with
  | .error refusal => .done (.error refusal)
  | .ok change => if change.events = [] then .done (.ok change) else .writing held change

/-- Goes on to hold the slots that are left. Without the slot that it is about the job is refused. -/
def take (held : List Ident) : List Ident → Stage
  | [] => job.decided r rules now held
  | slot :: left =>
    if (r.roster? slot).isSome then .taking slot left held
    else if job.slot = some slot then job.decided r rules now held
    else take held left

/-- Goes on to look at one of the slots that are left. -/
def scan (pick : Nat) (weekday : Weekday) (left chosen : List Ident) : Stage :=
  match left.drop pick ++ left.take pick with
  | [] => job.take r rules now [] chosen
  | slot :: left => .scanning weekday slot left chosen

/-- What becomes of a job that has just come. -/
def start : Stage :=
  match job.booking? with
  | some b =>
    if b.date < dateOf job.came then .done (.error (.pastDate b.date))
    else
      match rules.directory.require b.student with
      | .error refusal => .done (.error refusal)
      | .ok _ =>
        if b.isOnBehalf ∧ (r.roster? b.slot).isSome then .looking b.slot
        else job.take r rules now [] [b.slot]
  | none => job.take r rules now [] job.slot.toList

/-- What becomes of a job that has what it waited for. -/
def next (pick : Nat) : Stage :=
  match job.stage with
  | .new => job.start r rules now
  | .looking slot =>
    match r.roster? slot with
    | some roster =>
      job.scan r rules now pick roster.slot.weekday
        ((r.rosters.toList.map (·.1)).filter (· ≠ slot)) [slot]
    | none => job.decided r rules now []
  | .scanning weekday slot left chosen =>
    let chosen :=
      if (r.roster? slot).any (·.slot.weekday = weekday) then slot.insert chosen else chosen
    job.scan r rules now pick weekday left chosen
  | .taking slot left held =>
    if (r.roster? slot).isSome then job.take r rules now (held ++ [slot]) left
    else job.take r rules now held (slot :: left)
  | .written _ change (.ok ()) => .done (.ok change)
  | .written _ _ (.error e) => .done (.error (.storage e))
  | stage => stage

/-- The counters that a job bumps in the end. -/
def counters (result : Except Refusal (Change Reply)) : List Counter :=
  (match result, job.booking? with
    | .ok change, _ => change.answer.counts
    | .error refusal, some _ => [.rejections refusal.code]
    | .error _, none => []) ++ [.requests job.action.name result.isOk]

end Job

end Timetable
