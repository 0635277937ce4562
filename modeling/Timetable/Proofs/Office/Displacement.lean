import Timetable.Proofs.Office.Seen
import Timetable.Proofs.Office.Steps

/-!
# Displacement while others are at work

Who books for somebody else takes from the student what overlaps in the slots that are held. Which
slots these are is settled by the weekdays that were looked up before any of them was held. If the
target or another slot comes to its weekday meanwhile, what the student has there stays.
-/

set_option autoImplicit false

namespace Timetable

namespace Registry

variable {r : Registry} {b : Booking} {target : Roster} {id : Ident}

/-- The student of a reservation has it and nothing else at the time of the slot. -/
def Alone (r : Registry) (target : Slot) (x : Reservation) : Prop :=
  ∀ id other, r.roster? id = some other → id = x.slotId ∨ other.slot.overlaps target = true →
    other.ofStudent x.date x.userId = if id = x.slotId then [x] else []

/-- The student has something for the date in a slot that overlaps and is not held. -/
def Misses (r : Registry) (b : Booking) (target : Slot) (held : List Ident) (id : Ident) : Prop :=
  id ≠ b.slot ∧ id ∉ held ∧ ∃ other, r.roster? id = some other ∧
    other.slot.overlaps target = true ∧ other.ofStudent b.date b.student ≠ []

/-- What becomes of the other slots when a booking for somebody else is applied. -/
theorem roster?_applyAll_booked_held (filed : r.Filed) (distinct : r.Distinct)
    (on_behalf : b.isOnBehalf = true) (s : Slot) (held : List Ident) (new : Ident)
    (elsewhere : id ≠ b.slot) :
    (r.applyAll (r.displacedFrom b s held ++ [.reservationBooked (b.reservation new)])).roster? id =
      (r.roster? id).map fun other =>
        if id ∈ held ∧ other.slot.overlaps s then other.withoutStudent b.date b.student
        else other := by
  have passes : (Event.reservationBooked (b.reservation new)).slotId ≠ id := elsewhere.symm
  rw [applyAll_append, applyAll_singleton, roster?_apply, if_neg passes,
    roster?_applyAll_displacedFrom_eq filed distinct on_behalf]
  simp only [ne_eq, elsewhere, not_false_eq_true, true_and]

/-- The student has the new reservation alone just if nothing is missed. -/
theorem alone_iff (filed : r.Filed) (distinct : r.Distinct) (on_behalf : b.isOnBehalf = true)
    (found : r.roster? b.slot = some target)
    (none_there : target.ofStudent b.date b.student = []) (held : List Ident) (new : Ident) :
    (r.applyAll (r.displacedFrom b target.slot held ++
        [.reservationBooked (b.reservation new)])).Alone target.slot (b.reservation new) ↔
      ∀ id, ¬ r.Misses b target.slot held id := by
  have at_slot := roster?_applyAll_booked_self filed found held new
  have at_others (id : Ident) (elsewhere : id ≠ b.slot) :=
    roster?_applyAll_booked_held filed distinct on_behalf target.slot held new elsewhere
  constructor
  · rintro alone id ⟨elsewhere, not_held, other, there, overlaps, something⟩
    have stays := at_others id elsewhere
    rw [there, Option.map_some, if_neg fun reached => not_held reached.1] at stays
    exact something ((alone id other stays (.inr overlaps)).trans (if_neg elsewhere))
  · intro nothing id roster there at_time
    by_cases here : id = b.slot
    · subst here
      cases at_slot.symm.trans there
      exact (Roster.ofStudent_addReservation (x := b.reservation new) none_there).trans
        (if_pos rfl).symm
    · refine Eq.trans ?_ (if_neg here).symm
      rw [at_others id here] at there
      obtain ⟨before, there', rfl⟩ := Option.map_eq_some_iff.1 there
      by_cases reached : id ∈ held ∧ before.slot.overlaps target.slot = true
      · rw [if_pos reached]
        exact before.ofStudent_withoutStudent b.date b.student
      · rw [if_neg reached] at at_time ⊢
        have overlaps := at_time.resolve_left here
        by_contra something
        exact nothing id ⟨here, fun mem => reached ⟨mem, overlaps⟩, before, there', overlaps,
          something⟩

end Registry

theorem Planner.History.numbered {rules : Rules} {p q : Planner} {steps : List Step}
    (h : History rules p steps q) : q.registry.Numbered (rules.Given q.drawn) :=
  h.stands.1.wellFormed.numbered h.stands.1.within

namespace Office

variable {o o₀ o₁ : Office} {rules : Rules} {i : Nat} {job : Job} {moves : List Move} {m : Move}
  {u : Registry}

/-- The registry as it was before, after or between some moves. -/
def Moment (o : Office) (rules : Rules) (moves : List Move) (u : Registry) : Prop :=
  ∃ front back, moves = front ++ back ∧ u = (o.run rules front).planner.registry

theorem moment_last (o : Office) (rules : Rules) (moves : List Move) :
    o.Moment rules moves (o.run rules moves).planner.registry :=
  ⟨moves, [], (List.append_nil _).symm, rfl⟩

theorem Moment.snoc (m : Move) (moment : o.Moment rules moves u) :
    o.Moment rules (moves ++ [m]) u := by
  obtain ⟨front, back, rfl, same⟩ := moment
  exact ⟨front, back ++ [m], List.append_assoc .., same⟩

/-! ## The booking until it is applied -/

variable {caller student : UserId} {slot : Ident} {date : Date}

/-- What a booking has seen is what was so at some moment since it came. -/
theorem sees_of_run (other : student ≠ caller) (moves : List Move)
    (arrived : o₁ = o₀.arrive rules caller (.bookReservation slot date (some student))) :
    ∃ stage, (o₁.run rules moves).jobs[o₀.jobs.length]? =
        some { o₀.newJob caller (.bookReservation slot date (some student)) with stage } ∧
      stage.Sees (o₁.Moment rules moves) slot := by
  have on_behalf : Registry.Booking.isOnBehalf ⟨slot, date, student, caller⟩ = true :=
    bne_iff_ne.2 other
  induction moves using List.reverseRecOn with
  | nil =>
    have change : (Action.bookReservation slot date (some student)).isChange = true := rfl
    have came := getElem?_arrive o₀ rules caller change
    have here : o₁.Moment rules [] o₀.planner.registry :=
      ⟨[], [], rfl, by rw [arrived]; exact (registry_arrive o₀ rules caller change).symm⟩
    have at_first : (o₀.newJob caller (.bookReservation slot date (some student))).stage.Sees
        (o₁.Moment rules []) slot := .new
    rw [← arrived] at came
    refine ⟨_, came, ?_⟩
    exact at_first.next (b := ⟨slot, date, student, caller⟩) rfl rfl here on_behalf 0
  | append_singleton moves m ih =>
    obtain ⟨stage, found, sees⟩ := ih
    obtain ⟨stage', went, found'⟩ := getElem?_step found m
    rw [run_append]
    refine ⟨stage', found', Stage.Sees.mono ?_ fun u => Moment.snoc m⟩
    cases went with
    | stays => exact sees
    | answered outcome => exact sees.answered outcome
    | goesOn pick =>
      have here := o₁.moment_last rules moves
      exact Stage.Sees.next (b := ⟨slot, date, student, caller⟩) rfl rfl here on_behalf sees pick

/-- What is the case when the journal has taken a booking: the office is sound, and the booking holds
what it has decided on. -/
theorem granted_of_written (sound : o.Sound rules) {b : Registry.Booking} {held : List Ident}
    {change : Change Reply} (found : o.jobs[i]? = some job) (booking : job.booking? = some b)
    (written : job.stage = .written held change (.ok ())) :
    ∃ target, o.planner.registry.roster? b.slot = some target ∧
      target.ofStudent b.date b.student = [] ∧
      change.answer = ⟨(b.reservation (rules.ids job.first)).json, [.bookings]⟩ ∧
      change.events = o.planner.registry.displacedFrom b target.slot held ++
        [.reservationBooked (b.reservation (rules.ids job.first))] := by
  have stands := (sound.serves i job found).stands
  rw [written] at stands
  cases stands with
  | written there decided =>
    obtain ⟨-, c, granted, rfl⟩ := decided.booked b booking
    obtain ⟨profile, -, granted⟩ := bind_eq_ok_iff.1 granted
    obtain ⟨target, found, seat, rfl⟩ := Registry.bookHeld_eq_ok_iff.1 granted
    obtain ⟨-, -, -, -, -, not_booked, -⟩ := Registry.requireSeat_eq_ok_iff.1 seat
    have sorted := (sound.filed b.slot target found).sorted
    refine ⟨target, found, ?_, rfl, rfl⟩
    refine List.filter_eq_nil_iff.2 fun x mem there => ?_
    obtain ⟨on_date, by_student⟩ := of_decide_eq_true there
    exact (Roster.bookedBy?_eq_none_iff sorted).1 not_booked x mem on_date by_student

/-- A job whose change the journal has taken applies it and is done. -/
theorem goOn_written {held : List Ident} {change : Change Reply} (rules : Rules)
    (found : o.jobs[i]? = some job) (written : job.stage = .written held change (.ok ())) (pick : Nat) :
    (o.goOn rules i pick).jobs[i]? = some { job with stage := .done (.ok change) } ∧
      (o.goOn rules i pick).planner.registry = o.planner.registry.applyAll change.events := by
  have ready : o.isReady i job = true := by rw [isReady, written]; rfl
  have next := Job.next_of_written (r := o.planner.registry) rules o.now written pick
  have eq : o.goOn rules i pick = o.advance i job (.done (.ok change)) := by
    rw [goOn, found]
    dsimp only
    rw [if_pos ready, next]
  rw [eq, getElem?_advance found, if_pos rfl, registry_advance, written]
  exact ⟨rfl, rfl⟩

/-- What a booking for somebody else does when it is applied. -/
theorem applied_of_written (sound : o.Sound rules) {b : Registry.Booking} {held : List Ident}
    {change : Change Reply} (found : o.jobs[i]? = some job) (booking : job.booking? = some b)
    (on_behalf : b.isOnBehalf = true) (written : job.stage = .written held change (.ok ()))
    (pick : Nat) :
    ∃ target o' x, o.planner.registry.roster? b.slot = some target ∧
      o' = o.goOn rules i pick ∧ x = b.reservation (rules.ids job.first) ∧
      o'.jobs[i]? = some { job with stage := .done (.ok change) } ∧
      change.answer = ⟨x.json, [.bookings]⟩ ∧
      o'.planner.registry.roster? b.slot = some (target.addReservation x) ∧
      (∀ id ≠ b.slot, o'.planner.registry.roster? id =
        (o.planner.registry.roster? id).map fun other =>
          if id ∈ held ∧ other.slot.overlaps target.slot then other.withoutStudent b.date b.student
          else other) ∧
      (o'.planner.registry.Alone target.slot x ↔
        ∀ id, ¬ o.planner.registry.Misses b target.slot held id) := by
  obtain ⟨target, there, none_there, answer, events⟩ :=
    granted_of_written sound found booking written
  obtain ⟨done, registry⟩ := goOn_written rules found written pick
  have distinct := sound.numbered.distinct
  refine ⟨target, _, _, there, rfl, rfl, done, answer, ?_⟩
  rw [registry, events]
  refine ⟨Registry.roster?_applyAll_booked_self sound.filed there held _, fun id elsewhere => ?_, ?_⟩
  · exact Registry.roster?_applyAll_booked_held sound.filed distinct on_behalf _ held _ elsewhere
  · exact Registry.alone_iff sound.filed distinct on_behalf there none_there held _

/-- Nothing is missed where all that matters has stayed on its weekday. -/
theorem not_misses_of_stays {past : Registry → Prop} {b : Registry.Booking} {target : Roster}
    {weekday : Weekday} {held : List Ident} {r : Registry} (seen : Seen past b.slot weekday held)
    (found : r.roster? b.slot = some target)
    (stays : ∀ id other, r.roster? id = some other →
      id = b.slot ∨ other.slot.overlaps target.slot = true ∧
        other.ofStudent b.date b.student ≠ [] →
      ∀ u, past u → u.weekday? id = some target.slot.weekday) (id : Ident) :
    ¬ r.Misses b target.slot held id := by
  rintro ⟨-, not_held, other, there, overlaps, something⟩
  obtain ⟨u, at_u, on_weekday⟩ := seen.target
  obtain ⟨v, at_v, elsewhere⟩ := (seen.others id).resolve_left not_held
  have same : weekday = target.slot.weekday :=
    Option.some.inj (on_weekday.symm.trans (stays b.slot target found (.inl rfl) u at_u))
  rw [same] at elsewhere
  exact elsewhere (stays id other there (.inr ⟨overlaps, something⟩) v at_v)

/-- **What becomes of a booking for somebody else**, from any state in which everything is filed and
no id is used twice, whatever comes before it and whatever others do from the moment it comes to the
moment it is applied. It is applied to the slots that it holds: the target gets the reservation, and
the student loses what is reserved for the date in the others that overlap the target. Nothing else
of any slot changes. So the student has the reservation alone just if nothing of the student's
overlaps in a slot that is not held. A slot is held unless it was seen off the weekday on which the
target was seen. So the student has the reservation alone if the target and the slots at its time in
which the student is booked have been on their weekday ever since the booking came. -/
theorem booked_alone_iff {p : Planner} {now : Int} {before after : List Move} {held : List Ident}
    {change : Change Reply} (filed : p.registry.Filed)
    (numbered : p.registry.Numbered (rules.Given p.drawn))
    (met : o₀ = (opened p now).run rules before)
    (arrived : o₁ = o₀.arrive rules caller (.bookReservation slot date (some student)))
    (other : student ≠ caller) (ran : o = o₁.run rules after)
    (fresh : rules.FreshBelow o.planner.drawn) (found : o.jobs[o₀.jobs.length]? = some job)
    (written : job.stage = .written held change (.ok ())) (pick : Nat) :
    ∃ target x o', o.planner.registry.roster? slot = some target ∧
      x = ⟨rules.ids o₀.planner.drawn, slot, date, student, caller⟩ ∧
      o' = o.goOn rules o₀.jobs.length pick ∧
      o'.jobs[o₀.jobs.length]? = some { job with stage := .done (.ok change) } ∧
      change.answer = ⟨x.json, [.bookings]⟩ ∧
      o'.planner.registry.roster? slot = some (target.addReservation x) ∧
      (∀ id ≠ slot, o'.planner.registry.roster? id = (o.planner.registry.roster? id).map fun other =>
        if id ∈ held ∧ other.slot.overlaps target.slot then other.withoutStudent date student
        else other) ∧
      (o'.planner.registry.Alone target.slot x ↔
        ∀ id, ¬ o.planner.registry.Misses ⟨slot, date, student, caller⟩ target.slot held id) ∧
      (∃ weekday, (∃ u, o₁.Moment rules after u ∧ u.weekday? slot = some weekday) ∧
        ∀ id ∉ held, ∃ u, o₁.Moment rules after u ∧ u.weekday? id ≠ some weekday) ∧
      ((∀ id other, o.planner.registry.roster? id = some other →
          id = slot ∨ other.slot.overlaps target.slot = true ∧ other.ofStudent date student ≠ [] →
          ∀ u, o₁.Moment rules after u → u.weekday? id = some target.slot.weekday) →
        o'.planner.registry.Alone target.slot x) := by
  have sound : o.Sound rules := by
    have whole : o = (opened p now).run rules
        (before ++ .arrive caller (.bookReservation slot date (some student)) :: after) := by
      rw [run_append, ← met, ran, arrived]
      rfl
    rw [whole] at fresh ⊢
    exact (sound_opened filed numbered now).run _ fresh
  -- since it came, only the stage of the job has changed
  obtain ⟨stage, found', sees⟩ := sees_of_run other after arrived
  rw [← ran] at found'
  cases found.symm.trans found'
  cases written
  cases sees with
  | @written weekday _ _ _ seen =>
    obtain ⟨target, o', x, there, goes_on, is_new, done, answer, at_slot, at_others, alone⟩ :=
      applied_of_written sound found (b := ⟨slot, date, student, caller⟩) rfl
        (bne_iff_ne.2 other) rfl pick
    refine ⟨target, x, o', there, is_new, goes_on, done, answer, at_slot, at_others, alone,
      ⟨weekday, seen.target, fun id => (seen.others id).resolve_left⟩, fun stays => alone.2 ?_⟩
    exact not_misses_of_stays seen there stays

/-! A student is displaced from a slot that gets another room at the same time -/

/-- The first slot is to get another room. -/
def newRoom : List Move := [
  .arrive 1 (.updateSlot (.ofNat 0) ⟨none, none, none, some "103", none⟩), .goOn 0 0]

/-- The booking waits for the room to be written, and then holds both slots. -/
def bookedAfterwards : List Move := [
  .goOn 1 0, .write 0, .goOn 0 0, .goOn 1 0, .goOn 1 0, .goOn 1 0, .write 0]

set_option maxRecDepth 4000 in
theorem booked_alone_iff_newRoom : ∃ q o₀ o₁ o first target x,
    Planner.opened.run .oneStudent ((Demand.displacing.take 6).map .request) = .ok q ∧
      o₀ = (opened q 0).run .oneStudent newRoom ∧
      o₁ = o₀.arrive .oneStudent 1 (.bookReservation (.ofNat 2) .epoch (some 7)) ∧
      o = o₁.run .oneStudent bookedAfterwards ∧
      o.planner.registry.roster? (.ofNat 0) = some first ∧ first.ofStudent .epoch 7 ≠ [] ∧
      o.planner.registry.roster? (.ofNat 2) = some target ∧
      (o.goOn .oneStudent o₀.jobs.length 0).planner.registry.Alone target.slot x := by
  obtain ⟨q, o₀, o₁, o, job, change, first, ran, met, arrived, ran', found, written, there,
      booked, drawn, slots⟩ : ∃ q o₀ o₁ o job change first,
      Planner.opened.run .oneStudent ((Demand.displacing.take 6).map .request) = .ok q ∧
        o₀ = (opened q 0).run .oneStudent newRoom ∧
        o₁ = o₀.arrive .oneStudent 1 (.bookReservation (.ofNat 2) .epoch (some 7)) ∧
        o = o₁.run .oneStudent bookedAfterwards ∧ o.jobs[o₀.jobs.length]? = some job ∧
        job.stage = .written [.ofNat 0, .ofNat 2] change (.ok ()) ∧
        o.planner.registry.roster? (.ofNat 0) = some first ∧ first.ofStudent .epoch 7 ≠ [] ∧
        o.planner.drawn ≤ 1000 ∧
        o.planner.registry.rosters.toList.map (·.1) = [.ofNat 0, .ofNat 2] := by
    refine ⟨_, _, _, _, _, _, _, rfl, rfl, rfl, rfl, rfl, rfl, rfl, ?_⟩
    decide +kernel
  obtain ⟨q', h⟩ := Planner.History.of_works ((Demand.displacing.take 6).map .request)
    (d := .empty) (fun _ _ => rfl) (.inl rfl) (by decide) Planner.start_opened
    (Rules.freshBelow_oneStudent (by decide))
  cases ran.symm.trans h.ran
  have filed := Planner.filed_of_start Planner.start_opened ran
  obtain ⟨target, x, o', there', -, goes_on, -, -, -, -, alone, -⟩ := booked_alone_iff filed
    h.numbered met arrived (by decide) ran' (Rules.freshBelow_oneStudent drawn) found written 0
  rw [goes_on] at alone
  refine ⟨q, o₀, o₁, o, first, target, x, ran, met, arrived, ran', there, booked, there',
    alone.2 ?_⟩
  rintro id ⟨-, not_held, other, there, -⟩
  refine not_held ?_
  rw [← slots]
  exact List.mem_map.2 ⟨(id, other), Registry.mem_toList_iff.2 there, rfl⟩

/-! The target comes to the weekday of another slot -/

/-- 2 January 1970. -/
def aFriday : Date := ⟨1, by decide, by decide⟩

/-- Two slots on two days. The student books the second one. -/
def twoDays : List Demand := [
  ⟨0, 1, .createSlot 1 1 .thursday "101" 5⟩,
  ⟨0, 1, .createSlot 1 1 .friday "102" 5⟩,
  ⟨0, 1, .addSlotFilter (.ofNat 0) none (some "1a")⟩,
  ⟨0, 1, .addSlotFilter (.ofNat 2) none (some "1a")⟩,
  ⟨0, 7, .bookReservation (.ofNat 2) aFriday none⟩]

/-- The first slot is moved to the day of the second one when the booking has looked up its weekday
and does not hold it yet. -/
def movedMeanwhile : List Move := [
  .arrive 1 (.updateSlot (.ofNat 0) ⟨none, none, some .friday, none, none⟩), .write 0, .goOn 0 0,
  .goOn 1 0, .goOn 1 0, .goOn 2 0, .write 0, .goOn 2 0, .goOn 1 0, .write 0]

set_option maxRecDepth 4000 in
theorem not_displaced_movedMeanwhile : ∃ q o₀ o₁ o job change target other x y,
    Planner.opened.run .oneStudent (twoDays.map .request) = .ok q ∧
      o₀ = (opened q 0).run .oneStudent newRoom ∧
      o₁ = o₀.arrive .oneStudent 1 (.bookReservation (.ofNat 0) aFriday (some 7)) ∧
      o = o₁.run .oneStudent movedMeanwhile ∧ o.jobs[o₀.jobs.length]? = some job ∧
      job.stage = .written [.ofNat 0] change (.ok ()) ∧
      (o.goOn .oneStudent o₀.jobs.length 0).planner.registry.roster? (.ofNat 0) = some target ∧
      (o.goOn .oneStudent o₀.jobs.length 0).planner.registry.roster? (.ofNat 2) = some other ∧
      Rules.oneStudent.FreshBelow o.planner.drawn ∧
      other.slot.overlaps target.slot = true ∧ change.answer = ⟨x.json, [.bookings]⟩ ∧
      target.ofStudent aFriday 7 = [x] ∧ other.ofStudent aFriday 7 = [y] := by
  refine ⟨_, _, _, _, _, _, _, _, _, _, rfl, rfl, rfl, rfl, rfl, rfl, rfl, rfl,
    Rules.freshBelow_oneStudent ?_, ?_, rfl, rfl, rfl⟩
  all_goals decide +kernel

end Office

end Timetable
