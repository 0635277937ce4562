import Timetable.Action

/-!
# Requests

A request is a line of JSON with an id for the reply, a caller, the token of the service, the name
of an action and its arguments. The token is compared before the action and its arguments are looked
at.
-/

set_option autoImplicit false

namespace Timetable

/-- Why a request is not answered by an action. -/
inductive RequestError where
  | tooLong
  | malformed
  | unauthenticated
  | params (error : ParamError)
  | refused (refusal : Refusal)
  deriving DecidableEq

namespace RequestError

def code : RequestError → String
  | tooLong => "malformed_request"
  | malformed => "malformed_request"
  | unauthenticated => "unauthenticated"
  | params _ => "invalid_params"
  | refused refusal => refusal.code

def message : RequestError → String
  | tooLong => "malformed request: request line too long"
  | malformed => "malformed request: the line is no request"
  | unauthenticated => "invalid service token"
  | params error => "invalid params: " ++ error.message
  | refused refusal => refusal.message

end RequestError

/-- A request whose action has not been looked at. -/
structure Envelope where
  id : Json
  caller : UserId
  token : String
  function : String
  args : Json

structure Request where
  id : Json
  caller : UserId
  action : Action

namespace Envelope

def memberNames : List String := ["id", "caller", "token", "function", "args"]

def ofMembers? (members : List (String × Json)) : Option Envelope := do
  return {
    id := (members.lookup "id").getD .null
    caller := ← Json.required? Json.uint64? members "caller"
    token := ← Json.optionalMember? Json.str? members "token" ""
    function := ← Json.required? Json.str? members "function"
    args := (members.lookup "args").getD .null }

def ofText? (line : String) : Option Envelope := do
  ofMembers? (← (← Json.Tree.ofText? line).record? memberNames (Json.maxDepth - 1))

def action (e : Envelope) : Except ParamError Action :=
  match e.args with
  | .obj args => Action.ofArgs e.function args
  | .null => Action.ofArgs e.function []
  | _ => .error .notAnObject

/-- The request in an envelope, for those who know the token. -/
def request (e : Envelope) (token : String) : Except RequestError Request :=
  if e.token ≠ token then .error .unauthenticated
  else
    match e.action with
    | .ok action => .ok ⟨e.id, e.caller, action⟩
    | .error error => .error (.params error)

end Envelope

namespace Request

/-- Reads a line. An error comes with the id of the request, or null if that could not be read. -/
def ofText (line token : String) : Except (Json × RequestError) Request :=
  match Envelope.ofText? line with
  | none => .error (.null, .malformed)
  | some e => (e.request token).mapError (e.id, ·)

end Request

/-- The reply to a request that was carried out. -/
def okReply (id payload : Json) : Json := .obj [("id", id), ("ok", payload)]

def errorReply (id : Json) (error : RequestError) : Json :=
  .obj [("error", .obj [("code", .str error.code), ("message", .str error.message)]), ("id", id)]

end Timetable
