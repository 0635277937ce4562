import Timetable.Journal.Log

/-!
# The queue in front of the log

Several users of the journal hand in commands and wait, each for the response to its own. Commands
are handled in the order of their arrival. Transactions that already wait when one is taken from the
queue are committed together with it. A command of another kind ends such a batch; it has been taken
from the queue by then and is handled right behind the batch.
-/

set_option autoImplicit false

namespace Timetable.Journal

inductive Command where
  /-- The events of one transaction. -/
  | append (events : List Event)
  | compact (events : List Event)
  /-- Asks how many events have been appended since the journal was opened or compacted. -/
  | appended

inductive Response where
  | done (outcome : Outcome)
  | count (n : Nat)

/-- What is taken from the queue behind a transaction. Commands and transactions stand with those who
wait for the response. -/
structure Taken (α : Type) where
  /-- The transactions that are committed with it. -/
  batch : List (α × List Event)
  /-- The command that ends the batch, if it is not just the queue that has run empty. -/
  deferred : Option (α × Command)
  rest : List (α × Command)

variable {α : Type}

/-- Takes transactions from the queue up to a command of another kind. No more than `waiting`
commands have arrived. -/
def takeWaiting (waiting : Nat) (queue : List (α × Command)) : Taken α :=
  match waiting, queue with
  | waiting + 1, (sender, .append events) :: rest =>
    let taken := takeWaiting waiting rest
    { taken with batch := (sender, events) :: taken.batch }
  | _ + 1, command :: rest => ⟨[], some command, rest⟩
  | _, queue => ⟨[], none, queue⟩

theorem length_takeWaiting (waiting : Nat) (queue : List (α × Command)) :
    (takeWaiting waiting queue).rest.length ≤ queue.length := by
  fun_induction takeWaiting waiting queue with
  | case1 waiting sender events rest taken ih => exact Nat.le_succ_of_le ih
  | case2 => exact Nat.le_succ _
  | case3 => exact Nat.le_refl _

namespace Log

/-- Handles a command by itself. -/
def handle (l : Log) : Command → Response × Log
  | .append events =>
    let (outcome, l) := l.commit [events]
    (.done outcome, l)
  | .compact events =>
    let (outcome, l) := l.compact events
    (.done outcome, l)
  | .appended => (.count l.appended, l)

/-- Handles commands one after the other, each by itself. -/
def handleAll (l : Log) : List (α × Command) → List (α × Response) × Log
  | [] => ([], l)
  | (sender, command) :: rest =>
    let (response, l) := l.handle command
    let (responses, l) := l.handleAll rest
    ((sender, response) :: responses, l)

/-- Handles a queue. The numbers in `waiting` tell, for each transaction that begins a batch, how
many commands have arrived behind it by then. -/
def serve (l : Log) (waiting : List Nat) (queue : List (α × Command)) :
    List (α × Response) × Log :=
  match queue with
  | [] => ([], l)
  | (sender, .append events) :: rest =>
    let taken := takeWaiting (waiting.headD 0) rest
    let batch := (sender, events) :: taken.batch
    let (outcome, l) := l.commit (batch.map (·.2))
    let (deferred, l) := l.handleAll taken.deferred.toList
    let (responses, l) := l.serve waiting.tail taken.rest
    (batch.map (fun (sender, _) => (sender, .done outcome)) ++ deferred ++ responses, l)
  | (sender, command) :: rest =>
    let (response, l) := l.handle command
    let (responses, l) := l.serve waiting rest
    ((sender, response) :: responses, l)
termination_by queue.length
decreasing_by
  · have := length_takeWaiting (waiting.headD 0) rest
    simp only [List.length_cons]
    omega
  · simp

end Log

end Timetable.Journal
