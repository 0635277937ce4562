import Timetable.Ident
import Timetable.User

/-!
# Notices

What users are told about their reservations, and the hub that passes it on. A user has a channel as
long as somebody listens; every receiver on it gets what is sent after it came. A channel keeps the
latest 256 notices: a receiver that falls further behind learns how many it has missed and goes on
with the oldest that is kept.
-/

set_option autoImplicit false

namespace Timetable

/-- Why a user is told about a reservation. -/
inductive Trigger where
  /-- A supervisor made it for the user. -/
  | bookForced
  /-- A supervisor asks the user to cancel it. -/
  | unbookRequested
  /-- A supervisor removed it, or its slot. -/
  | unbookForced
  deriving DecidableEq

def Trigger.name : Trigger → String
  | bookForced => "book_forced"
  | unbookRequested => "unbook_requested"
  | unbookForced => "unbook_forced"

structure Notice where
  userId : UserId
  reservationId : Ident
  trigger : Trigger
  timestamp : Int
  deriving DecidableEq

/-- How many notices a channel keeps. -/
def channelCapacity : Nat := 256

structure Channel where
  /-- Tells a channel from earlier ones of the same user. -/
  serial : Nat
  /-- How many notices have been sent. -/
  sent : Nat
  /-- The latest of them, oldest first. -/
  recent : List Notice
  receivers : Nat

namespace Channel

def send (c : Channel) (n : Notice) : Channel :=
  let recent := c.recent ++ [n]
  { c with sent := c.sent + 1, recent := recent.drop (recent.length - channelCapacity) }

/-- The number of the oldest notice that is kept. -/
def oldest (c : Channel) : Nat := c.sent - c.recent.length

end Channel

structure Receiver where
  userId : UserId
  serial : Nat
  /-- The number of the notice to be received next. -/
  next : Nat

inductive Received where
  | notice (n : Notice)
  /-- So many notices were dropped before they were received. -/
  | lagged (missed : Nat)
  | nothing
  /-- The channel is gone. -/
  | closed
  deriving DecidableEq

structure Hub where
  channels : Std.ExtTreeMap UserId Channel
  /-- How many channels have been opened. -/
  opened : Nat

namespace Hub

def empty : Hub := ⟨∅, 0⟩

/-- The channel a receiver belongs to, if it is still open. -/
def channel? (h : Hub) (r : Receiver) : Option Channel :=
  (h.channels[r.userId]?).filter (·.serial == r.serial)

def subscribe (h : Hub) (user : UserId) : Receiver × Hub :=
  match h.channels[user]? with
  | some c =>
    (⟨user, c.serial, c.sent⟩,
      { h with channels := h.channels.insert user { c with receivers := c.receivers + 1 } })
  | none =>
    (⟨user, h.opened, 0⟩, ⟨h.channels.insert user ⟨h.opened, 0, [], 1⟩, h.opened + 1⟩)

/-- A notice to a user without receivers is lost. -/
def send (h : Hub) (n : Notice) : Hub :=
  match h.channels[n.userId]? with
  | some c =>
    if c.receivers = 0 then h
    else { h with channels := h.channels.insert n.userId (c.send n) }
  | none => h

def sendAll (h : Hub) (notices : List Notice) : Hub := notices.foldl send h

/-- A receiver goes away. -/
def leave (h : Hub) (r : Receiver) : Hub :=
  match h.channel? r with
  | some c =>
    { h with channels := h.channels.insert r.userId { c with receivers := c.receivers - 1 } }
  | none => h

/-- Closes the channel of a user to whom nobody listens. -/
def release (h : Hub) (user : UserId) : Hub :=
  match h.channels[user]? with
  | some c => if c.receivers = 0 then { h with channels := h.channels.erase user } else h
  | none => h

def receive (h : Hub) (r : Receiver) : Received × Receiver :=
  match h.channel? r with
  | none => (.closed, r)
  | some c =>
    if r.next < c.oldest then (.lagged (c.oldest - r.next), { r with next := c.oldest })
    else
      match c.recent[r.next - c.oldest]? with
      | some n => (.notice n, { r with next := r.next + 1 })
      | none => (.nothing, r)

/-- Receives until nothing is waiting, `most` times at most. -/
def receiveMany (h : Hub) : (most : Nat) → Receiver → List Received × Receiver
  | 0, r => ([], r)
  | most + 1, r =>
    match h.receive r with
    | (.nothing, r) => ([], r)
    | (.closed, r) => ([.closed], r)
    | (received, r) =>
      let (more, r) := h.receiveMany most r
      (received :: more, r)

/-- Receives all that is waiting: at most the count of missed notices and what the channel keeps. -/
def receiveAll (h : Hub) (r : Receiver) : List Received × Receiver :=
  h.receiveMany (channelCapacity + 1) r

end Hub

end Timetable
