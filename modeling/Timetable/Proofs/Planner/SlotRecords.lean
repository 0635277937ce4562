import Timetable.Proofs.Planner.Bookable
import Timetable.Proofs.Registry.Isolation

/-!
# Records of slots

There are four listings of slots, and all have the same kind of record: how many are booked for the
session that comes next, who supervises the slot, who may book it, and whether the viewer has a
reservation to come. The viewer is the user who asks, except where a supervisor asks for the slots
of a student: there the viewer is the student.
-/

set_option autoImplicit false

namespace Timetable

/-! ## One record -/

/-- The user has a reservation of the slot for a session that is not over. -/
def Roster.Expects (roster : Roster) (bells : BellSchedule) (now : Int) (user : UserId) : Prop :=
  ∃ x ∈ roster.reservations, x.userId = user ∧ ¬ roster.slot.IsOver bells now x.date

/-- The record has the slot as it is, its supervisors and filters, and the number of reservations
that are stored for the session that comes next. -/
structure SlotInfo.RecordOf (info : SlotInfo) (roster : Roster) (bells : BellSchedule) (now : Int) :
    Prop where
  slot : info.slot = roster.slot
  fullness : ∃ next, roster.slot.nextDate bells now = .ok next ∧
    info.fullness = roster.reservations.countP (·.date = next)
  supervisors : info.supervisors = roster.supervisors.map (·.userId)
  filters : info.filters = roster.filters

namespace Roster

variable {roster : Roster} {bells : BellSchedule} {now : Int} {viewer : UserId} {info : SlotInfo}

/-- Whether a reservation is to come is found out, although the search stops at the first
one. -/
theorem hasLive_eq_true_iff {s : Slot} {rs : List Reservation} {live : Bool}
    (looked : hasLive s bells now viewer rs = .ok live) :
    live = true ↔ ∃ x ∈ rs, x.userId = viewer ∧ ¬ s.IsOver bells now x.date := by
  induction rs with
  | nil =>
    cases looked
    simp
  | cons x rs ih =>
    rw [hasLive] at looked
    rw [List.exists_mem_cons_iff]
    split at looked
    · rename_i own
      obtain ⟨phase, in_phase, looked⟩ := bind_eq_ok_iff.1 looked
      rw [Slot.isOver_iff_of_phaseOn in_phase]
      split at looked
      · rename_i to_come
        cases looked
        exact iff_of_true rfl (.inl ⟨own, to_come⟩)
      · rename_i ended
        rw [ih looked]
        exact (or_iff_right fun first => ended first.2).symm
    · rename_i other
      rw [ih looked]
      exact (or_iff_right fun first => other first.1).symm

/-- The record of a slot. -/
theorem recordOf_of_info (sorted : Reservation.Sorted roster.reservations)
    (told : roster.info bells now viewer = .ok info) :
    info.RecordOf roster bells now ∧
      (info.forViewer = true ↔ roster.Expects bells now viewer) := by
  obtain ⟨next, found, told⟩ := bind_eq_ok_iff.1 told
  obtain ⟨live, looked, told⟩ := bind_eq_ok_iff.1 told
  cases pure_eq_ok_iff.1 told
  exact ⟨⟨rfl, ⟨next, found, countOn_eq sorted next⟩, rfl, rfl⟩, hasLive_eq_true_iff looked⟩

end Roster

/-! ## A list of records -/

/-- The records of a listing are those of some of the rosters, in their order. -/
theorem Listing.exists_shown {l : Listing} {bells : BellSchedule} {now : Int} {viewer : UserId}
    {rosters : List Roster} {infos : List SlotInfo}
    (listed : l.of bells now viewer rosters = .ok infos) :
    ∃ shown : List (Roster × SlotInfo), (shown.map (·.1)).Sublist rosters ∧
      infos = shown.map (·.2) ∧ ∀ p ∈ shown, p.1.info bells now viewer = .ok p.2 := by
  induction rosters generalizing infos with
  | nil =>
    cases listed
    exact ⟨[], .slnil, rfl, nofun⟩
  | cons roster rosters ih =>
    obtain ⟨first, more, has, rest, rfl⟩ := of_cons_eq_ok_iff.1 listed
    obtain ⟨shown, sub, rfl, told⟩ := ih rest
    obtain ⟨judged, -, has⟩ := bind_eq_ok_iff.1 has
    cases judged with
    | false =>
      cases pure_eq_ok_iff.1 has
      exact ⟨shown, sub.cons roster, rfl, told⟩
    | true =>
      obtain ⟨info, first_told, has⟩ := bind_eq_ok_iff.1 has
      cases pure_eq_ok_iff.1 has
      exact ⟨(roster, info) :: shown, sub.cons_cons roster, rfl,
        List.forall_mem_cons.2 ⟨first_told, told⟩⟩

namespace Registry

variable {r : Registry} {rules : Rules} {now : Int} {viewer : UserId} {infos : List SlotInfo}

theorem ordered_rosterList (filed : r.Filed) :
    r.rosterList.Pairwise fun a b => a.slot.id < b.slot.id := by
  rw [rosterList, List.pairwise_map]
  refine r.rosters.ordered_keys_toList.imp_of_mem fun {a b} mem mem' before => ?_
  rw [(filed a.1 a.2 (mem_toList_iff.1 mem)).slot_id,
    (filed b.1 b.2 (mem_toList_iff.1 mem')).slot_id]
  exact Nat.compare_eq_lt.1 before

/-- A listing is in order of id, and has of each slot the record for the viewer. -/
theorem of_list_eq_ok (filed : r.Filed) {l : Listing}
    (listed : r.list rules now l viewer = .ok infos) :
    infos.Pairwise (fun a b => a.slot.id < b.slot.id) ∧
      ∀ info ∈ infos, ∃ roster, r.roster? info.slot.id = some roster ∧
        info.RecordOf roster rules.bells now ∧
        (info.forViewer = true ↔ roster.Expects rules.bells now viewer) := by
  obtain ⟨shown, sub, rfl, told⟩ := Listing.exists_shown listed
  have slot_eq (p : Roster × SlotInfo) (mem : p ∈ shown) : p.2.slot = p.1.slot :=
    (Roster.of_info_eq_ok (told p mem)).1
  constructor
  · have in_order := List.pairwise_map.1 ((ordered_rosterList filed).sublist sub)
    refine List.pairwise_map.2 (in_order.imp_of_mem fun mem mem' before => ?_)
    rwa [slot_eq _ mem, slot_eq _ mem']
  · rintro info there
    obtain ⟨p, mem, rfl⟩ := List.mem_map.1 there
    obtain ⟨id, found⟩ := mem_rosterList_iff.1 (sub.subset (List.mem_map_of_mem mem))
    have of_slot := filed id p.1 found
    refine ⟨p.1, ?_, Roster.recordOf_of_info of_slot.sorted (told p mem)⟩
    rw [slot_eq p mem, of_slot.slot_id]
    exact found

end Registry

/-! ## The four listings -/

/-- What a user can ask for: all slots, those to book, those into which a student could be booked,
or those that the user supervises. -/
inductive SlotQuery where
  | all
  | toBook
  | ofStudent (student : UserId)
  | supervised

namespace SlotQuery

variable {r : Registry} {rules : Rules} {now : Int} {caller : UserId} {query : SlotQuery}
  {infos : List SlotInfo}

def answer (r : Registry) (rules : Rules) (now : Int) (caller : UserId) :
    SlotQuery → Except Refusal (List SlotInfo)
  | all => r.allSlots rules now caller
  | toBook => r.mySlots rules now caller
  | ofStudent student => r.studentSlots rules now caller student
  | supervised => r.supervisorSlots rules now caller

/-- The user to whose reservations the records refer. -/
def viewer (caller : UserId) : SlotQuery → UserId
  | ofStudent student => student
  | _ => caller

def listing (rules : Rules) (caller : UserId) : SlotQuery → Listing
  | all => .all
  | toBook => .bookable (rules.directory.profile caller) rules.policy.listingDays
  | ofStudent student => .bookableBy (rules.directory.profile caller)
      (rules.directory.profile student) rules.policy.supervisorDays
  | supervised => .supervisedBy caller

/-- All slots are for slot masters only, and slots to book only for users who are known. -/
def Granted (rules : Rules) (caller : UserId) : SlotQuery → Prop
  | all => (rules.directory.profile caller).isSlotMaster = true
  | toBook => ∃ profile, rules.directory.profile? caller = some profile
  | ofStudent student => ∃ profile, rules.directory.profile? student = some profile
  | supervised => True

/-- What is found only for a user who is known. -/
theorem of_known_eq_ok_iff {user : UserId} {f : UserProfile → Except Refusal (List SlotInfo)} :
    (rules.directory.require user >>= f) = .ok infos ↔
      (∃ profile, rules.directory.profile? user = some profile) ∧
        f (rules.directory.profile user) = .ok infos := by
  rw [Directory.require, Directory.profile]
  cases rules.directory.profile? user with
  | none =>
    constructor
    · rintro ⟨⟩
    · rintro ⟨⟨_, ⟨⟩⟩, -⟩
  | some profile => exact (and_iff_right ⟨profile, rfl⟩).symm

/-- A query is answered by its listing, if it is granted. -/
theorem answer_eq_ok_iff : query.answer r rules now caller = .ok infos ↔
    query.Granted rules caller ∧
      r.list rules now (query.listing rules caller) (query.viewer caller) = .ok infos := by
  cases query with
  | all =>
    rw [answer, Registry.allSlots, Granted]
    split
    · rename_i master
      exact (and_iff_right master).symm
    · rename_i other
      exact ⟨nofun, fun granted => absurd granted.1 other⟩
  | toBook | ofStudent student => exact of_known_eq_ok_iff
  | supervised => exact (and_iff_right trivial).symm

end SlotQuery

namespace Planner

variable {p q : Planner} {rules : Rules} {steps : List Step}

/-- **Records of slots**, at any moment of a run, whatever was in the journal at the start and on
any disk. Every listing that is granted is given where the slots fit the bell schedule, as they do
in a history. Whichever listing is given, its records are in ascending order of slot id, and each
one has the slot as it is, with its supervisors and filters and the number of reservations that are
stored for the session that comes next, and says whether the viewer has a reservation to come. So
the records say whether the user who asks has one just if, on every slot that is listed, the viewer
has one just if this user has: always, as the user is the viewer, except in a listing for a
student. -/
theorem slot_records_of_run {disk : Journal.Disk} {hub : Hub} {counters : Counters} {drawn : Nat}
    (started : start disk hub counters drawn = .ok p) (ran : p.run rules steps = .ok q) (now : Int)
    (caller : UserId) (query : SlotQuery) :
    ((q.registry.Fits rules.bells ∨ History rules p steps q) → Dated now →
      query.Granted rules caller →
        ∃ infos, query.answer q.registry rules now caller = .ok infos) ∧
    ∀ infos, query.answer q.registry rules now caller = .ok infos →
      infos.Pairwise (fun a b => a.slot.id < b.slot.id) ∧
      (∀ info ∈ infos, ∃ roster, q.registry.roster? info.slot.id = some roster ∧
        info.RecordOf roster rules.bells now ∧
        (info.forViewer = true ↔ roster.Expects rules.bells now (query.viewer caller))) ∧
      ((∀ info ∈ infos, ∀ roster, q.registry.roster? info.slot.id = some roster →
          (info.forViewer = true ↔ roster.Expects rules.bells now caller)) ↔
        ∀ info ∈ infos, ∀ roster, q.registry.roster? info.slot.id = some roster →
          (roster.Expects rules.bells now (query.viewer caller) ↔
            roster.Expects rules.bells now caller)) := by
  have filed := filed_of_start started ran
  constructor
  · intro fitting dated granted
    obtain ⟨infos, listed, -⟩ := Registry.list_spec (fitting.elim id History.fits) dated
      (query.listing rules caller) (query.viewer caller)
    exact ⟨infos, SlotQuery.answer_eq_ok_iff.2 ⟨granted, listed⟩⟩
  · intro infos answered
    obtain ⟨in_order, records⟩ :=
      Registry.of_list_eq_ok filed (SlotQuery.answer_eq_ok_iff.1 answered).2
    refine ⟨in_order, records, forall₂_congr fun info mem => forall₂_congr fun roster found => ?_⟩
    obtain ⟨_, found', -, said⟩ := records info mem
    cases found.symm.trans found'
    rw [said]

set_option maxRecDepth 2000 in
/-- A student's reservation counts as the supervisor's. A supervisor who looks for slots for a
student is told by the record of a slot that there is a reservation to come, where the supervisor
has none. -/
theorem supervisor_told_of_student : ∃ q infos info roster,
    opened.run .twoStudents takenSeat = .ok q ∧
    (SlotQuery.ofStudent 7).answer q.registry .twoStudents 0 1 = .ok infos ∧ info ∈ infos ∧
    q.registry.roster? info.slot.id = some roster ∧ info.forViewer = true ∧
    ¬ roster.Expects .standard 0 1 := by
  refine ⟨_, _, _, _, rfl, rfl, List.mem_cons_self, rfl, rfl, ?_⟩
  rintro ⟨x, mem, own, -⟩
  revert x
  decide +kernel

set_option maxRecDepth 2000 in
/-- What supervisors are told of a student's slots is right of the student. -/
theorem slot_records_of_run_forStudent : ∃ q infos, opened.run .twoStudents takenSeat = .ok q ∧
    (SlotQuery.ofStudent 7).answer q.registry .twoStudents 0 1 = .ok infos ∧
    ∀ info ∈ infos, ∃ roster, q.registry.roster? info.slot.id = some roster ∧
      (info.forViewer = true ↔ roster.Expects .standard 0 7) := by
  have fresh : Rules.twoStudents.FreshBelow (Step.drawsAll takenSeat) :=
    Rules.freshBelow_oneStudent (by decide)
  obtain ⟨q, h⟩ := History.of_works takenSeat (d := .empty) (fun _ _ => rfl) (.inl rfl) (by decide)
    start_opened fresh
  obtain ⟨given, told⟩ := slot_records_of_run start_opened h.ran 0 1 (.ofStudent 7)
  obtain ⟨infos, answered⟩ := given (.inr h) ⟨by decide, by decide⟩ ⟨_, rfl⟩
  obtain ⟨-, records, -⟩ := told infos answered
  refine ⟨q, infos, h.ran, answered, fun info mem => ?_⟩
  obtain ⟨roster, found, -, said⟩ := records info mem
  exact ⟨roster, found, said⟩

end Planner

end Timetable
