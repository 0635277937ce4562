import Timetable.Job

/-!
# The office

The planner at work on several jobs at once. Any job that has what it waits for may go on next, the
journal takes the transactions that wait for it in batches of any size, and requests come at any
time. So a run of the office is a list of moves, and nothing else is left to chance.
-/

set_option autoImplicit false

namespace Timetable

structure Office where
  planner : Planner
  now : Int
  /-- In the order in which they have come, those that are done included. -/
  jobs : List Job
  /-- The tickets for the rosters of all slots. -/
  line : List Ticket
  /-- The jobs that wait for the journal. -/
  queue : List Nat

inductive Move where
  | arrive (caller : UserId) (action : Action)
  /-- A job goes on. Who looks through the slots picks one to be looked at next. -/
  | goOn (job pick : Nat)
  /-- The journal takes the first transaction that waits and up to `more` others in one batch. -/
  | write (more : Nat)
  | clock (now : Int)

/-- Tells what a job is answered in the end and counts it. -/
def Planner.conclude (p : Planner) (now : Int) (job : Job) : Stage → Planner
  | .done result =>
    let p := match result with
      | .ok change => p.tell now change.notices
      | .error _ => p
    (job.counters result).foldl count p
  | _ => p

namespace Office

/-- Nobody is in the office. -/
def opened (planner : Planner) (now : Int) : Office := ⟨planner, now, [], [], []⟩

/-- The job has what it waits for. -/
def isReady (o : Office) (i : Nat) (job : Job) : Bool :=
  match job.stage.ticket? i, job.stage with
  | some t, _ => t.isServed o.line
  | none, .written .. => true
  | none, _ => false

/-- A job comes to its next stage. Of its tickets it keeps those for the rosters that it holds, and
it takes one for what it waits for next. -/
def advance (o : Office) (i : Nat) (job : Job) (stage : Stage) : Office where
  planner :=
    Planner.conclude { o.planner with registry := o.planner.registry.applyAll job.stage.events }
      o.now job stage
  now := o.now
  jobs := o.jobs.set i { job with stage }
  line := o.line.filter (fun t => t.job ≠ i ∨ t.slot ∈ stage.held) ++ (stage.ticket? i).toList
  queue := match stage with
    | .writing .. => o.queue ++ [i]
    | _ => o.queue

/-- A request comes. -/
def arrive (o : Office) (rules : Rules) (caller : UserId) (action : Action) : Office :=
  if action.isChange then
    let r := o.planner.registry
    let job : Job := ⟨caller, action, o.now, o.planner.drawn, action.slot? r, .new⟩
    let planner := { o.planner with drawn := o.planner.drawn + action.draws }
    advance { o with planner, jobs := o.jobs ++ [job] } o.jobs.length job
      (job.next r rules o.now 0)
  else o

def goOn (o : Office) (rules : Rules) (i pick : Nat) : Office :=
  match o.jobs[i]? with
  | some job =>
    if o.isReady i job then o.advance i job (job.next o.planner.registry rules o.now pick) else o
  | none => o

/-- The transaction that the journal is to take for a job. -/
def transaction (o : Office) (i : Nat) : List Event :=
  match o.jobs[i]? with
  | some job => job.stage.transaction
  | none => []

def write (o : Office) (more : Nat) : Office :=
  match o.queue.take (more + 1) with
  | [] => o
  | batch =>
    let (outcome, log) := o.planner.log.commit (batch.map o.transaction)
    { o with
      planner := { o.planner with log }
      jobs := o.jobs.mapIdx fun i job =>
        if i ∈ batch then { job with stage := job.stage.answered outcome } else job
      queue := o.queue.drop (more + 1) }

def step (o : Office) (rules : Rules) : Move → Office
  | .arrive caller action => o.arrive rules caller action
  | .goOn i pick => o.goOn rules i pick
  | .write more => o.write more
  | .clock now => { o with now }

def run (o : Office) (rules : Rules) (moves : List Move) : Office :=
  moves.foldl (fun o m => o.step rules m) o

end Office

end Timetable
