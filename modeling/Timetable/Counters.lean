/-!
# Counters

What the server counts: requests, wrong tokens, bookings made and refused, and cancellations.
-/

set_option autoImplicit false

namespace Timetable

/-- How a reservation was given up. -/
inductive UnbookMode where
  | self
  | forced
  /-- Not given up: its owner was asked to. -/
  | requested
  deriving DecidableEq

def UnbookMode.name : UnbookMode → String
  | self => "self"
  | forced => "forced"
  | requested => "requested"

inductive Counter where
  | requests (function : String) (ok : Bool)
  | authFailures
  | bookings
  | rejections (reason : String)
  | unbookings (mode : UnbookMode)
  deriving DecidableEq

/-- What a counter counts, whatever its labels. -/
def Counter.family : Counter → String
  | requests _ _ => "slotbook_requests_total"
  | authFailures => "slotbook_auth_failures_total"
  | bookings => "slotbook_bookings_total"
  | rejections _ => "slotbook_booking_rejections_total"
  | unbookings _ => "slotbook_unbookings_total"

/-- The labels of a counter in order of their names. -/
def Counter.labels : Counter → List (String × String)
  | requests function ok => [("function", function), ("status", if ok then "ok" else "error")]
  | rejections reason => [("reason", reason)]
  | unbookings mode => [("mode", mode.name)]
  | authFailures | bookings => []

/-- The family of a counter, then its labels between braces. -/
def Counter.name (c : Counter) : String :=
  let labels := c.labels.map fun (label, value) => label ++ "=" ++ value
  c.family ++ "\x7b" ++ ",".intercalate labels ++ "\x7d"

/-- The counters that have been touched, each once. -/
abbrev Counters := List (Counter × Nat)

namespace Counters

def count (cs : Counters) (c : Counter) : Nat := (cs.lookup c).getD 0

def bump (cs : Counters) (c : Counter) : Counters :=
  match cs with
  | [] => [(c, 1)]
  | (other, n) :: rest => if other = c then (c, n + 1) :: rest else (other, n) :: bump rest c

theorem count_bump (cs : Counters) (c d : Counter) :
    (cs.bump c).count d = cs.count d + if c = d then 1 else 0 := by
  induction cs with
  | nil =>
    by_cases h : c = d
    · simp [bump, count, h]
    · have differ : (d == c) = false := by simpa using Ne.symm h
      simp [bump, count, List.lookup_cons, h, differ]
  | cons entry rest ih =>
    obtain ⟨other, n⟩ := entry
    rw [bump]
    split
    · rename_i h
      subst h
      by_cases h : other = d
      · simp [count, h]
      · have differ : (d == other) = false := by simpa using Ne.symm h
        simp [count, List.lookup_cons, h, differ]
    · rename_i h
      by_cases h' : d = other
      · subst h'
        simp [count, Ne.symm h]
      · have differ : (d == other) = false := by simpa using h'
        simpa [count, List.lookup_cons, differ] using ih

end Counters

end Timetable
