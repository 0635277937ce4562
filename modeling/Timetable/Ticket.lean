import Timetable.Ident

/-!
# Waiting in line

Who wants to see the roster of a slot takes a ticket and stands in line behind all who have come
before. Those who only look at a roster are served together. Who holds one is served alone, and
stays at the head of the line for as long as that takes.
-/

set_option autoImplicit false

namespace Timetable

inductive Access where
  | look
  | hold
  deriving DecidableEq

/-- The ticket of a job for the roster of a slot. -/
structure Ticket where
  job : Nat
  slot : Ident
  access : Access
  deriving DecidableEq

namespace Ticket

/-- Two tickets are not served at the same time. -/
def bars (a b : Ticket) : Bool := a.slot == b.slot && (a.access == .hold || b.access == .hold)

/-- A ticket in the line is served if none in front of it bars it. -/
def isServed (t : Ticket) : List Ticket → Bool
  | [] => false
  | first :: line => first == t || (!first.bars t && t.isServed line)

end Ticket

end Timetable
