import Timetable.Office
import Timetable.Proofs.Office.Jobs
import Timetable.Proofs.Office.Line

/-!
# What every move keeps

A roster changes only by the job that holds it. So what a job has decided on while it holds its
rosters still stands when the journal has taken it, whatever the others do meanwhile. A job that
brings something new brings it with an id that nobody else has.
-/

set_option autoImplicit false

namespace Timetable

namespace Stage

def isDone : Stage → Bool
  | done _ => true
  | _ => false

theorem held_answered (stage : Stage) (outcome : Journal.Outcome) :
    (stage.answered outcome).held = stage.held := by
  cases stage <;> rfl

theorem isDone_answered (stage : Stage) (outcome : Journal.Outcome) :
    (stage.answered outcome).isDone = stage.isDone := by
  cases stage <;> rfl

theorem events_cases (stage : Stage) :
    stage.events = [] ∨ ∃ held change, stage = .written held change (.ok ()) := by
  cases stage with
  | written held change outcome =>
    cases outcome with
    | error e => exact .inl rfl
    | ok u => exact .inr ⟨held, change, rfl⟩
  | _ => exact .inl rfl

end Stage

theorem Job.Stands.writes {job : Job} {rules : Rules} {r : Registry} {stage : Stage}
    (stands : job.Stands rules r stage) : job.Writes rules stage.held stage.events := by
  cases stands with
  | @written held change outcome there decided =>
    cases outcome with
    | error e => exact .nothing
    | ok u => exact decided.writes
  | _ => exact .nothing

theorem Job.next_of_written {job : Job} {r : Registry} (rules : Rules) (now : Int)
    {held : List Ident} {change : Change Reply}
    (written : job.stage = .written held change (.ok ())) (pick : Nat) :
    job.next r rules now pick = .done (.ok change) := by
  rw [next, written]

namespace Planner

variable (p : Planner)

theorem foldl_count (cs : List Counter) :
    (cs.foldl count p).registry = p.registry ∧ (cs.foldl count p).drawn = p.drawn := by
  induction cs generalizing p with
  | nil => exact ⟨rfl, rfl⟩
  | cons c cs ih => exact ih (p.count c)

theorem conclude_spec (now : Int) (job : Job) (stage : Stage) :
    (p.conclude now job stage).registry = p.registry ∧
      (p.conclude now job stage).drawn = p.drawn := by
  cases stage with
  | done result =>
    cases result with
    | ok change => exact (p.tell now change.notices).foldl_count (job.counters (.ok change))
    | error refusal => exact p.foldl_count (job.counters (.error refusal))
  | _ => exact ⟨rfl, rfl⟩

end Planner

namespace Office

variable {o : Office} {rules : Rules} {i : Nat} {job : Job} {stage : Stage} {m : Move}

/-! ## The office after a move -/

theorem registry_advance (o : Office) (i : Nat) (job : Job) (stage : Stage) :
    (o.advance i job stage).planner.registry = o.planner.registry.applyAll job.stage.events :=
  (Planner.conclude_spec ..).1

theorem drawn_advance (o : Office) (i : Nat) (job : Job) (stage : Stage) :
    (o.advance i job stage).planner.drawn = o.planner.drawn :=
  (Planner.conclude_spec ..).2

theorem getElem?_advance (found : o.jobs[i]? = some job) (stage : Stage) (j : Nat) :
    (o.advance i job stage).jobs[j]? = if i = j then some { job with stage } else o.jobs[j]? := by
  obtain ⟨below, -⟩ := List.getElem?_eq_some_iff.1 found
  exact (List.getElem?_set).trans (by rw [if_pos below])

theorem before_of_advance (found : o.jobs[i]? = some job) {j : Nat} {a : Job}
    (there : (o.advance i job stage).jobs[j]? = some a) :
    ∃ before, o.jobs[j]? = some before ∧ before.first = a.first ∧ before.action = a.action := by
  rw [getElem?_advance found] at there
  split at there
  · rename_i here
    cases there
    exact ⟨job, here ▸ found, rfl, rfl⟩
  · exact ⟨a, there, rfl, rfl⟩

/-- The office when a request has just come. -/
def joined (o : Office) (job : Job) : Office :=
  { o with
    planner := { o.planner with drawn := o.planner.drawn + job.action.draws }
    jobs := o.jobs ++ [job] }

/-- The job of a request that comes. -/
def newJob (o : Office) (caller : UserId) (action : Action) : Job :=
  ⟨caller, action, o.now, o.planner.drawn, action.slot? o.planner.registry, .new⟩

theorem getElem?_joined (o : Office) (job : Job) : (o.joined job).jobs[o.jobs.length]? = some job :=
  List.getElem?_concat_length

theorem arrive_eq (o : Office) (rules : Rules) (caller : UserId) {action : Action}
    (change : action.isChange = true) : o.arrive rules caller action =
      (o.joined (o.newJob caller action)).advance o.jobs.length (o.newJob caller action)
        ((o.newJob caller action).next o.planner.registry rules o.now 0) :=
  if_pos change

theorem registry_arrive (o : Office) (rules : Rules) (caller : UserId) {action : Action}
    (change : action.isChange = true) :
    (o.arrive rules caller action).planner.registry = o.planner.registry := by
  rw [arrive_eq o rules caller change, registry_advance]
  rfl

theorem getElem?_arrive (o : Office) (rules : Rules) (caller : UserId) {action : Action}
    (change : action.isChange = true) : (o.arrive rules caller action).jobs[o.jobs.length]? =
      some { o.newJob caller action with
        stage := (o.newJob caller action).next o.planner.registry rules o.now 0 } := by
  rw [arrive_eq o rules caller change, getElem?_advance (o.getElem?_joined _), if_pos rfl]

/-- Of the jobs that wait for the journal some are answered. -/
theorem getElem?_write {more : Nat} (there : (o.write more).jobs[i]? = some job) :
    ∃ before, o.jobs[i]? = some before ∧ ∃ outcome, job = before ∨
      job = { before with stage := before.stage.answered outcome } := by
  rw [write] at there
  split at there
  · exact ⟨job, there, .ok (), .inl rfl⟩
  · rw [List.getElem?_mapIdx] at there
    obtain ⟨before, found, rfl⟩ := Option.map_eq_some_iff.1 there
    by_cases answered : i ∈ o.queue.take (more + 1)
    · exact ⟨before, found, _, .inr (if_pos answered)⟩
    · exact ⟨before, found, .ok (), .inl (if_neg answered)⟩

theorem write_spec (o : Office) (more : Nat) :
    (o.write more).planner.registry = o.planner.registry ∧
      (o.write more).planner.drawn = o.planner.drawn ∧ (o.write more).line = o.line := by
  rw [write]
  split <;> exact ⟨rfl, rfl, rfl⟩

/-- What a move makes of a job: it is left alone, the journal answers it, or it goes on. -/
inductive Went (o : Office) (rules : Rules) (job : Job) : Stage → Prop where
  | stays : Went o rules job job.stage
  | answered (outcome : Journal.Outcome) : Went o rules job (job.stage.answered outcome)
  | goesOn (pick : Nat) : Went o rules job (job.next o.planner.registry rules o.now pick)

/-- Of a job only its stage changes. -/
theorem getElem?_step (found : o.jobs[i]? = some job) (m : Move) :
    ∃ stage, o.Went rules job stage ∧ (o.step rules m).jobs[i]? = some { job with stage } := by
  have same : ∃ stage, o.Went rules job stage ∧ o.jobs[i]? = some { job with stage } :=
    ⟨job.stage, .stays, found⟩
  obtain ⟨below, -⟩ := List.getElem?_eq_some_iff.1 found
  cases m with
  | arrive caller action =>
    rw [step]
    by_cases change : action.isChange = true
    · refine ⟨job.stage, .stays, ?_⟩
      rw [arrive_eq o rules caller change, getElem?_advance (o.getElem?_joined _),
        if_neg (Nat.ne_of_gt below)]
      exact (List.getElem?_append_left below).trans found
    · rwa [arrive, if_neg change]
  | goOn j pick =>
    rw [step, goOn]
    split
    · rename_i other there
      split
      · by_cases here : j = i
        · subst here
          cases found.symm.trans there
          refine ⟨_, .goesOn pick, ?_⟩
          rw [getElem?_advance found, if_pos rfl]
        · refine ⟨job.stage, .stays, ?_⟩
          rw [getElem?_advance there, if_neg here]
          exact found
      · exact same
    · exact same
  | write more =>
    rw [step, write]
    split
    · exact same
    · rw [List.getElem?_mapIdx, found, Option.map_some]
      split
      · exact ⟨_, .answered _, rfl⟩
      · exact ⟨_, .stays, rfl⟩
  | clock now => exact same

theorem drawn_le_step (o : Office) (rules : Rules) (m : Move) :
    o.planner.drawn ≤ (o.step rules m).planner.drawn := by
  cases m with
  | arrive caller action =>
    rw [step]
    by_cases change : action.isChange = true
    · rw [arrive_eq o rules caller change, drawn_advance]
      exact Nat.le_add_right ..
    · have same : o.arrive rules caller action = o := if_neg change
      exact Nat.le_of_eq (by rw [same])
  | goOn j pick =>
    rw [step, goOn]
    split
    · split
      · exact Nat.le_of_eq (drawn_advance ..).symm
      · exact Nat.le_refl _
    · exact Nat.le_refl _
  | write more =>
    rw [step, write]
    split <;> exact Nat.le_refl _
  | clock now => exact Nat.le_refl _

theorem run_append (o : Office) (rules : Rules) (front back : List Move) :
    o.run rules (front ++ back) = (o.run rules front).run rules back := List.foldl_append

theorem drawn_le_run (o : Office) (rules : Rules) (moves : List Move) :
    o.planner.drawn ≤ (o.run rules moves).planner.drawn := by
  induction moves generalizing o with
  | nil => exact Nat.le_refl _
  | cons m moves ih => exact Nat.le_trans (o.drawn_le_step rules m) (ih _)

theorem isDone_of_isReady (ready : o.isReady i job = true) : job.stage.isDone = false := by
  obtain ⟨caller, action, came, first, slot, stage⟩ := job
  cases stage with
  | done => cases ready
  | _ => rfl

/-! ## Soundness -/

/-- The id of that number is still to be used by a job that is under way. -/
def Reserves (o : Office) (n : Nat) : Prop :=
  ∃ (i : Nat) (job : Job), o.jobs[i]? = some job ∧ job.stage.isDone = false ∧ job.first ≤ n ∧
    n < job.first + job.action.draws

/-- An id that has been drawn and is not reserved. -/
def Given (o : Office) (rules : Rules) (id : Ident) : Prop :=
  ∃ n, n < o.planner.drawn ∧ ¬ o.Reserves n ∧ rules.ids n = id

/-- A job stands in an office, and it is served at the rosters that it holds. -/
structure Serves (o : Office) (rules : Rules) (i : Nat) (job : Job) : Prop where
  made : job.IsMade
  stands : job.Stands rules o.planner.registry job.stage
  served : ∀ s ∈ job.stage.held, Ticket.isServed ⟨i, s, .hold⟩ o.line = true

structure Sound (rules : Rules) (o : Office) : Prop where
  filed : o.planner.registry.Filed
  numbered : o.planner.registry.Numbered (o.Given rules)
  serves : ∀ (i : Nat) (job : Job), o.jobs[i]? = some job → o.Serves rules i job
  below : ∀ (i : Nat) (job : Job), o.jobs[i]? = some job →
    job.first + job.action.draws ≤ o.planner.drawn
  apart : ∀ (i j : Nat) (a b : Job), i < j → o.jobs[i]? = some a → o.jobs[j]? = some b →
    a.first + a.action.draws ≤ b.first

theorem sound_opened {planner : Planner} (filed : planner.registry.Filed)
    (numbered : planner.registry.Numbered (rules.Given planner.drawn)) (now : Int) :
    (opened planner now).Sound rules where
  filed := filed
  numbered := by
    refine numbered.mono fun id ⟨n, below, same⟩ => ⟨n, below, ?_, same⟩
    rintro ⟨i, job, found, -⟩
    cases found
  serves _ _ found := nomatch found
  below _ _ found := nomatch found
  apart _ _ _ _ _ found := nomatch found

namespace Sound

variable (sound : o.Sound rules) (fresh : rules.FreshBelow o.planner.drawn)
include sound fresh

/-- What a job is to bring is not there yet. -/
theorem not_given (found : o.jobs[i]? = some job) (under_way : job.stage.isDone = false) {id : Ident}
    (brings : job.Brings rules id) : ¬ o.Given rules id := by
  rintro ⟨n, drawn, unreserved, same⟩
  obtain ⟨draws, rfl⟩ := brings
  have below := sound.below i job found
  rcases Nat.lt_trichotomy n job.first with lt | rfl | lt
  · exact fresh n job.first lt (by omega) same
  · exact unreserved ⟨i, job, found, under_way, Nat.le_refl _, by omega⟩
  · exact fresh job.first n lt drawn same.symm

omit fresh in
/-- A job that goes on keeps its ids for as long as it is under way. -/
theorem reserves_advance (found : o.jobs[i]? = some job) (under_way : job.stage.isDone = false)
    {n : Nat} (reserved : (o.advance i job stage).Reserves n) : o.Reserves n ∧
      (stage.isDone = true → ¬ (job.first ≤ n ∧ n < job.first + job.action.draws)) := by
  obtain ⟨j, other, there, undone, first, last⟩ := reserved
  rw [getElem?_advance found] at there
  split at there
  · cases there
    refine ⟨⟨i, job, found, under_way, first, last⟩, fun finished => ?_⟩
    cases undone.symm.trans finished
  · rename_i differ
    refine ⟨⟨j, other, there, undone, first, last⟩, fun _ ⟨first', last'⟩ => ?_⟩
    rcases Nat.lt_or_gt_of_ne differ with lt | gt
    · have apart := sound.apart i j job other lt found there
      omega
    · have apart := sound.apart j i other job gt there found
      omega

/-- Nobody changes a roster that somebody else holds. -/
theorem roster?_eq (found : o.jobs[i]? = some job) {j : Nat} {other : Job}
    (there : o.jobs[j]? = some other) (differ : i ≠ j) {s : Ident} (mem : s ∈ other.stage.held) :
    (o.planner.registry.applyAll job.stage.events).roster? s = o.planner.registry.roster? s := by
  rcases job.stage.events_cases with nothing | ⟨held, change, stage⟩
  · rw [nothing]
    rfl
  · have under_way : job.stage.isDone = false := by rw [stage]; rfl
    have serves := sound.serves i job found
    have serves' := sound.serves j other there
    refine Registry.roster?_applyAll_of_others fun e written here => ?_
    subst here
    rcases serves.stands.writes.own e written with own | brings
    · exact differ (Ticket.job_eq_of_isServed (serves.served _ own) (serves'.served _ mem))
    · obtain ⟨roster, found'⟩ := Option.isSome_iff_exists.1 (serves'.stands.there _ mem)
      exact sound.not_given fresh found under_way brings (sound.numbered.slots _ roster found')

/-- A job that goes on puts no ids to use but those drawn for it, and when it has used them it is
done. -/
theorem numbered_advance (found : o.jobs[i]? = some job) (under_way : job.stage.isDone = false)
    (finished : job.stage.events ≠ [] → stage.isDone = true) :
    (o.advance i job stage).planner.registry.Numbered ((o.advance i job stage).Given rules) := by
  have given {id : Ident} (h : o.Given rules id) : (o.advance i job stage).Given rules id := by
    obtain ⟨n, drawn, unreserved, same⟩ := h
    refine ⟨n, by rwa [drawn_advance], fun reserved => unreserved ?_, same⟩
    exact (sound.reserves_advance found under_way reserved).1
  rw [registry_advance]
  by_cases nothing : job.stage.events = []
  · rw [nothing]
    exact sound.numbered.mono fun id => given
  · have writes := (sound.serves i job found).stands.writes
    have numbered := writes.numbered sound.numbered fun id =>
      sound.not_given fresh found under_way
    refine numbered.mono fun id => Or.rec given fun ⟨draws, same⟩ => ?_
    have below := sound.below i job found
    refine ⟨job.first, by rw [drawn_advance]; omega, fun reserved => ?_, same.symm⟩
    exact (sound.reserves_advance found under_way reserved).2 (finished nothing)
      ⟨Nat.le_refl _, by omega⟩

/-- A job that goes on disturbs nobody: the others stand as they stood. -/
theorem serves_advance (found : o.jobs[i]? = some job)
    (stands : job.Stands rules (o.planner.registry.applyAll job.stage.events) stage)
    (held_before : ∀ s ∈ stage.held, Ticket.isServed ⟨i, s, .hold⟩ o.line = true) {j : Nat}
    {other : Job} (there : (o.advance i job stage).jobs[j]? = some other) :
    (o.advance i job stage).Serves rules j other := by
  rw [getElem?_advance found] at there
  split at there
  · rename_i here
    cases there
    subst here
    refine ⟨(sound.serves i job found).made, ?_, fun s mem => ?_⟩
    · rw [registry_advance]
      exact stands.anyStage stage
    · refine Ticket.isServed_append (Ticket.isServed_filter (held_before s mem) ?_) _
      exact decide_eq_true (.inr mem)
  · rename_i differ
    obtain ⟨made, stood, served⟩ := sound.serves j other there
    refine ⟨made, ?_, fun s mem => ?_⟩
    · rw [registry_advance]
      exact stood.congr fun s => sound.roster?_eq fresh found there differ
    · refine Ticket.isServed_append (Ticket.isServed_filter (served s mem) ?_) _
      exact decide_eq_true (.inl (Ne.symm differ))

/-- A job that goes on keeps all in order. -/
theorem advance (found : o.jobs[i]? = some job) (under_way : job.stage.isDone = false)
    (ready : ∀ s left held, job.stage = .taking s left held →
      Ticket.isServed ⟨i, s, .hold⟩ o.line = true) (pick : Nat) :
    (o.advance i job (job.next o.planner.registry rules o.now pick)).Sound rules := by
  have serves := sound.serves i job found
  have finished (held : List Ident) (change : Change Reply)
      (written : job.stage = .written held change (.ok ())) :=
    Job.next_of_written (r := o.planner.registry) rules o.now written pick
  have held_before (s : Ident)
      (mem : s ∈ (job.next o.planner.registry rules o.now pick).held) :
      Ticket.isServed ⟨i, s, .hold⟩ o.line = true := by
    rcases Job.mem_held_next mem with mem | ⟨left, held, taking⟩
    · exact serves.served s mem
    · exact ready s left held taking
  have stands : job.Stands rules (o.planner.registry.applyAll job.stage.events)
      (job.next o.planner.registry rules o.now pick) := by
    rcases job.stage.events_cases with nothing | ⟨held, change, written⟩
    · rw [nothing]
      exact serves.stands.next sound.filed serves.made pick
    · rw [finished held change written]
      exact .done
  refine ⟨?_, sound.numbered_advance fresh found under_way fun some_event => ?_,
    fun j other => sound.serves_advance fresh found stands held_before, fun j other there => ?_,
    fun j k a b lt there there' => ?_⟩
  · rw [registry_advance]
    exact sound.filed.applyAll _
  · obtain ⟨held, change, written⟩ := job.stage.events_cases.resolve_left some_event
    rw [finished held change written]
    rfl
  · obtain ⟨before, there, first, action⟩ := before_of_advance found there
    rw [drawn_advance, ← first, ← action]
    exact sound.below j before there
  · obtain ⟨before, there, first, action⟩ := before_of_advance found there
    obtain ⟨before', there', first', -⟩ := before_of_advance found there'
    rw [← first, ← action, ← first']
    exact sound.apart j k before before' lt there there'

omit fresh in
/-- A request comes. -/
theorem joined (caller : UserId) (action : Action) :
    (o.joined (o.newJob caller action)).Sound rules := by
  have cases_of {j : Nat} {a : Job} (there : (o.joined (o.newJob caller action)).jobs[j]? = some a) :
      o.jobs[j]? = some a ∨ j = o.jobs.length ∧ a = o.newJob caller action := by
    rw [Office.joined, List.getElem?_append] at there
    split at there
    · exact .inl there
    · obtain ⟨at_end, same⟩ := List.getElem?_eq_some_iff.1 there
      rw [List.length_singleton] at at_end
      refine .inr ⟨by omega, ?_⟩
      rw [← same]
      exact List.getElem_singleton at_end
  refine ⟨sound.filed, sound.numbered.mono ?_, fun j a there => ?_, fun j a there => ?_,
    fun j k a b lt there there' => ?_⟩
  · rintro id ⟨n, drawn, unreserved, same⟩
    refine ⟨n, Nat.lt_of_lt_of_le drawn (Nat.le_add_right ..), ?_, same⟩
    rintro ⟨j, a, there, undone, first, last⟩
    rcases cases_of there with before | ⟨-, rfl⟩
    · exact unreserved ⟨j, a, before, undone, first, last⟩
    · exact absurd first (Nat.not_le.2 drawn)
  · rcases cases_of there with before | ⟨-, rfl⟩
    · exact ⟨(sound.serves j a before).made, (sound.serves j a before).stands,
        (sound.serves j a before).served⟩
    · exact ⟨⟨o.planner.registry, rfl⟩, .new, nofun⟩
  · rcases cases_of there with before | ⟨-, rfl⟩
    · exact Nat.le_trans (sound.below j a before) (Nat.le_add_right ..)
    · exact Nat.le_refl _
  · rcases cases_of there' with before' | ⟨rfl, rfl⟩
    · rcases cases_of there with before | ⟨rfl, -⟩
      · exact sound.apart j k a b lt before before'
      · obtain ⟨below, -⟩ := List.getElem?_eq_some_iff.1 before'
        omega
    · rcases cases_of there with before | ⟨rfl, -⟩
      · exact sound.below j a before
      · exact absurd lt (Nat.lt_irrefl _)

omit fresh in
/-- The journal answers some jobs. -/
theorem write (more : Nat) : (o.write more).Sound rules := by
  have jobs {j : Nat} {a : Job} (there : (o.write more).jobs[j]? = some a) :
      ∃ before, o.jobs[j]? = some before ∧ ∃ outcome, a = before ∨
        a = { before with stage := before.stage.answered outcome } := getElem?_write there
  obtain ⟨registry, drawn, line⟩ := o.write_spec more
  refine ⟨registry ▸ sound.filed, registry ▸ sound.numbered.mono ?_, fun j a there => ?_,
    fun j a there => ?_, fun j k a b lt there there' => ?_⟩
  · rintro id ⟨n, below, unreserved, same⟩
    refine ⟨n, drawn ▸ below, ?_, same⟩
    rintro ⟨j, a, there, undone, first, last⟩
    obtain ⟨before, found, outcome, rfl | rfl⟩ := jobs there
    · exact unreserved ⟨j, _, found, undone, first, last⟩
    · exact unreserved ⟨j, before, found, (before.stage.isDone_answered outcome) ▸ undone, first, last⟩
  · obtain ⟨before, found, outcome, rfl | rfl⟩ := jobs there
    · obtain ⟨made, stands, served⟩ := sound.serves j _ found
      exact ⟨made, registry ▸ stands, line ▸ served⟩
    · obtain ⟨made, stands, served⟩ := sound.serves j before found
      refine ⟨made, registry ▸ (stands.answered outcome).anyStage _, ?_⟩
      rw [line, Stage.held_answered]
      exact served
  · obtain ⟨before, found, outcome, rfl | rfl⟩ := jobs there
    · exact drawn ▸ sound.below j _ found
    · exact drawn ▸ sound.below j before found
  · obtain ⟨before, found, outcome, rfl | rfl⟩ := jobs there
    all_goals obtain ⟨before', found', outcome', rfl | rfl⟩ := jobs there'
    all_goals
      have apart := sound.apart j k _ _ lt found found'
      exact apart

omit fresh in
/-- **Every move keeps all in order.** -/
theorem step (m : Move) (fresh : rules.FreshBelow (o.step rules m).planner.drawn) :
    (o.step rules m).Sound rules := by
  cases m with
  | arrive caller action =>
    rw [Office.step] at fresh ⊢
    by_cases change : action.isChange = true
    · rw [arrive_eq o rules caller change, drawn_advance] at fresh
      rw [arrive_eq o rules caller change]
      exact (sound.joined caller action).advance fresh (o.getElem?_joined _) rfl nofun 0
    · rwa [arrive, if_neg change]
  | goOn i pick =>
    have fresh := fresh.mono (o.drawn_le_step rules (.goOn i pick))
    rw [Office.step, goOn]
    split
    · rename_i job found
      split
      · rename_i ready
        refine sound.advance fresh found (isDone_of_isReady ready) (fun s left held taking => ?_) pick
        rwa [isReady, taking] at ready
      · exact sound
    · exact sound
  | write more => exact sound.write more
  | clock now => exact ⟨sound.filed, sound.numbered, fun j a there =>
      ⟨(sound.serves j a there).made, (sound.serves j a there).stands,
        (sound.serves j a there).served⟩, sound.below, sound.apart⟩

omit fresh in
theorem run (moves : List Move) (fresh : rules.FreshBelow (o.run rules moves).planner.drawn) :
    (o.run rules moves).Sound rules := by
  induction moves generalizing o with
  | nil => exact sound
  | cons m moves ih =>
    have first := sound.step m (fresh.mono (drawn_le_run _ rules moves))
    exact ih first fresh

end Sound

end Office

end Timetable
