import Timetable.LineReader
import Timetable.Service

/-!
# Sessions

A client sends lines and gets one reply for each line that is not blank, in the order of the lines.
While it listens it also gets the notices of one user. A line that is too long is answered as well.
The session is over when the reader of the lines is at its end or a line is no text.
-/

set_option autoImplicit false

namespace Timetable

/-- Why a session is over. -/
inductive Ending where
  | finished
  /-- A line was not UTF-8. -/
  | invalidData
  /-- The client was no longer there to take a reply. -/
  | brokenPipe
  deriving DecidableEq

structure Session where
  reader : LineReader
  /-- The client takes nothing more. -/
  gone : Bool
  listening : Option Receiver
  ending : Option Ending

namespace Session

def new : Session := ⟨.new, false, none, none⟩

/-- The planner and the session with which one line is handled. -/
abbrev State := Planner × Session

/-- Stops listening; the channel is closed if nobody else listens. -/
def stopListening (p : Planner) (listening : Option Receiver) : Planner :=
  match listening with
  | none => p
  | some r => { p with hub := (p.hub.leave r).release r.userId }

def startListening (p : Planner) (listening : Option Receiver) (user : UserId) :
    Planner × Receiver :=
  let p := stopListening p listening
  let (r, hub) := p.hub.subscribe user
  ({ p with hub }, r)

/-- Carries out a request. A session that asks for it listens to the notices of the caller. -/
def carryOut (p : Planner) (listening : Option Receiver) (rules : Rules) (now : Int)
    (request : Request) : Json × Planner × Option Receiver :=
  match request.action with
  | .listen =>
    let (p, r) := startListening p listening request.caller
    (okReply request.id .null, p.count (.requests "listen" true), some r)
  | .unlisten =>
    let p := stopListening p listening
    (okReply request.id .null, p.count (.requests "unlisten" true), none)
  | action =>
    let (result, p) := p.invoke rules now request.caller action
    (Planner.reply request.id result, p, listening)

/-- The reply to a line that is not blank. -/
def handleLine (p : Planner) (listening : Option Receiver) (rules : Rules) (now : Int)
    (token line : String) : Json × Planner × Option Receiver :=
  match p.readLine line token with
  | (.error (id, error), p) => (errorReply id error, p, listening)
  | (.ok request, p) => carryOut p listening rules now request

/-- What a client is sent that is told of something. -/
def noticeLine (n : Notice) : Json := .obj [("notification", n.json)]

def isBlankLine (line : String) : Bool := line.toList.all Text.isBlank

def finish (p : Planner) (s : Session) (ending : Ending) : State :=
  (stopListening p s.listening, { s with listening := none, ending := some ending })

/-- Handles the lines that have come in, and gives the replies to them. -/
def serve (p : Planner) (s : Session) (rules : Rules) (now : Int) (token : String) :
    List Json × State :=
  match _h : s.reader.poll with
  | (.pending, reader) => ([], p, { s with reader })
  | (.ended, reader) => ([], finish p { s with reader } .finished)
  | (.invalid, reader) => ([], finish p { s with reader } .invalidData)
  | (.tooLong, reader) =>
    if s.gone then ([], finish p { s with reader } .brokenPipe)
    else
      let (replies, state) := serve p { s with reader } rules now token
      (errorReply .null .tooLong :: replies, state)
  | (.line text, reader) =>
    if isBlankLine text then serve p { s with reader } rules now token
    else
      let (reply, p, listening) := handleLine p s.listening rules now token text
      if s.gone then ([], finish p { s with reader, listening } .brokenPipe)
      else
        let (replies, state) := serve p { s with reader, listening } rules now token
        (reply :: replies, state)
termination_by s.reader.left
decreasing_by all_goals exact LineReader.left_poll _h ⟨nofun, nofun⟩

/-- The notices that wait for the session. How many were missed is not told, and who hears that the
channel is gone listens no more. -/
def notices (p : Planner) (listening : Option Receiver) : List Json × Option Receiver :=
  match listening with
  | none => ([], none)
  | some r =>
    let (received, r) := p.hub.receiveAll r
    (received.filterMap fun
      | .notice n => some (noticeLine n)
      | _ => none, if .closed ∈ received then none else some r)

/-- Brings a session up to date: first its lines are answered, then it gets its notices. -/
def run (p : Planner) (s : Session) (rules : Rules) (now : Int) (token : String) :
    List Json × State :=
  if s.ending.isSome then ([], p, s)
  else
    let (replies, p, s) := serve p s rules now token
    let (notices, listening) := notices p s.listening
    (replies ++ notices, p, { s with listening })

/-- The client sends bytes. -/
def send (s : Session) (bytes : List UInt8) : Session :=
  { s with reader := s.reader.receive bytes }

/-- The client sends nothing more. -/
def closeInput (s : Session) : Session := { s with reader := s.reader.close }

/-- The client sends and takes nothing more. -/
def hangUp (s : Session) : Session := { s with reader := s.reader.close, gone := true }

end Session

end Timetable
