import Timetable.Planner
import Timetable.Request

/-!
# The service

Requests are carried out by the planner and answered in JSON. Every request that can be read is
counted by the name of its action and by whether it succeeded, and so is every wrong token.
-/

set_option autoImplicit false

namespace Timetable

/-- The outcome of a cancellation as it is answered. -/
def UnbookMode.json : UnbookMode → Json
  | requested => .str "requested"
  | _ => .str "removed"

namespace Planner

/-- Gives the result of an operation its JSON form. -/
def answer {α : Type} (form : α → Json) (result : Except Refusal α × Planner) :
    Except Refusal Json × Planner := (result.1.map form, result.2)

def listJson {α : Type} (form : α → Json) (as : List α) : Json := .arr (as.map form)

/-- Carries out an action. Listening is up to the session, and nothing is done for it here. -/
def perform (p : Planner) (rules : Rules) (now : Int) (caller : UserId) :
    Action → Except Refusal Json × Planner
  | .createSlot startUnit duration weekday room capacity =>
    answer Slot.json (p.createSlot rules now caller startUnit duration weekday room capacity)
  | .updateSlot slot patch =>
    answer (fun overfull => .obj [("overfull", listJson Overfull.json overfull)])
      (p.updateSlot rules now caller slot patch)
  | .deleteSlot slot => answer (fun _ => .null) (p.deleteSlot rules now caller slot)
  | .getAllSlots => answer (listJson SlotInfo.json) (p.registry.allSlots rules now caller, p)
  | .getMySlots => answer (listJson SlotInfo.json) (p.registry.mySlots rules now caller, p)
  | .getStudentSlots user =>
    answer (listJson SlotInfo.json) (p.registry.studentSlots rules now caller user, p)
  | .getSupervisorSlots =>
    answer (listJson SlotInfo.json) (p.registry.supervisorSlots rules now caller, p)
  | .addSlotFilter slot course cohort =>
    answer SlotFilter.json (p.addFilter rules now caller slot course cohort)
  | .deleteSlotFilter filter => answer (fun _ => .null) (p.removeFilter rules now caller filter)
  | .getSlotFilters slot =>
    answer (listJson SlotFilter.json) (p.registry.slotFilters rules slot caller, p)
  | .addSlotSupervisor slot user =>
    answer (fun _ => .null) (p.addSupervisor rules now caller slot user)
  | .removeSlotSupervisor slot user =>
    answer (fun _ => .null) (p.removeSupervisor rules now caller slot user)
  | .bookReservation slot date user =>
    answer Reservation.json (p.book rules now caller slot date (user.getD caller))
  | .unbookReservation reservation nice strict =>
    answer UnbookMode.json (p.unbook rules now caller reservation (!nice) strict)
  | .getSlotReservations slot =>
    answer (listJson Reservation.json) (p.registry.slotReservations rules now slot caller, p)
  | .getMyReservations =>
    answer (listJson Reservation.json) (p.registry.myReservations rules now caller, p)
  | .listen => (.ok .null, p)
  | .unlisten => (.ok .null, p)

/-- Carries out an action and counts it. -/
def invoke (p : Planner) (rules : Rules) (now : Int) (caller : UserId) (action : Action) :
    Except Refusal Json × Planner :=
  let (result, p) := p.perform rules now caller action
  (result, p.count (.requests action.name result.isOk))

/-- Reads a line and counts a wrong token. -/
def readLine (p : Planner) (line token : String) :
    Except (Json × RequestError) Request × Planner :=
  let request := Request.ofText line token
  match request with
  | .error (_, .unauthenticated) => (request, p.count .authFailures)
  | _ => (request, p)

/-- The reply to a request. -/
def reply (id : Json) : Except Refusal Json → Json
  | .ok payload => okReply id payload
  | .error refusal => errorReply id (.refused refusal)

/-- Answers a line that does not come over a session. -/
def answerLine (p : Planner) (rules : Rules) (now : Int) (line token : String) :
    Json × Planner :=
  match p.readLine line token with
  | (.error (id, error), p) => (errorReply id error, p)
  | (.ok request, p) =>
    let (result, p) := p.invoke rules now request.caller request.action
    (reply request.id result, p)

end Planner

end Timetable
