import Timetable.Listing
import Timetable.Proofs.NextSession
import Timetable.Proofs.Planner.WellKept

/-!
# What listings show

A listing fails as a whole if it fails for one slot. Where every slot fits the bell schedule it does
not fail, and has a record of exactly those slots that are to be shown.
-/

set_option autoImplicit false

namespace Timetable

namespace Roster

variable {roster : Roster} {bells : BellSchedule} {now : Int}

theorem exists_hasLive_eq_ok {s : Slot} (valid : s.validate bells = .ok ()) (now : Int)
    (viewer : UserId) (rs : List Reservation) : ∃ live, hasLive s bells now viewer rs = .ok live := by
  induction rs with
  | nil => exact ⟨false, rfl⟩
  | cons r rs ih =>
    obtain ⟨phase, in_phase⟩ := s.exists_phaseOn_eq_ok valid now r.date
    simp only [hasLive, in_phase, bind, Except.bind]
    split
    · split
      · exact ⟨true, rfl⟩
      · exact ih
    · exact ih

/-- The record of a slot tells how many are booked for the session that comes next. -/
theorem of_info_eq_ok {viewer : UserId} {info : SlotInfo}
    (told : roster.info bells now viewer = .ok info) : info.slot = roster.slot ∧
      ∃ next, info.slot.nextDate bells now = .ok next ∧ info.fullness = roster.countOn next := by
  obtain ⟨next, found, told⟩ := bind_eq_ok_iff.1 told
  obtain ⟨live, -, told⟩ := bind_eq_ok_iff.1 told
  cases pure_eq_ok_iff.1 told
  exact ⟨rfl, next, found, rfl⟩

theorem exists_info_eq_ok (valid : roster.slot.validate bells = .ok ()) (dated : Dated now)
    (viewer : UserId) : ∃ info, roster.info bells now viewer = .ok info := by
  obtain ⟨next, found, -⟩ := Slot.nextDate_spec valid dated
  obtain ⟨live, looked⟩ := exists_hasLive_eq_ok valid now viewer roster.reservations
  rw [info, found, looked]
  exact ⟨_, rfl⟩

end Roster

namespace Listing

variable {roster : Roster} {bells : BellSchedule} {now : Int} {next : Date}

theorem exists_shows_eq_ok (l : Listing) (found : roster.slot.nextDate bells now = .ok next) :
    ∃ shown, l.shows bells now roster = .ok shown := by
  cases l with
  | all => exact ⟨true, rfl⟩
  | supervisedBy user => exact ⟨_, rfl⟩
  | bookable user days =>
    rw [shows, Roster.daysUntilNext, found]
    exact ⟨_, rfl⟩
  | bookableBy supervisor student days =>
    rw [shows, Roster.daysUntilNext, found]
    exact ⟨_, rfl⟩

theorem shows_bookable_iff {user : UserProfile} {days : Nat}
    (found : roster.slot.nextDate bells now = .ok next) :
    (bookable user days).shows bells now roster = .ok true ↔
      isEligible user roster.filters = true ∧ (dateOf now).daysUntil next ≤ days := by
  simp [shows, Roster.daysUntilNext, found, bind, Except.bind, pure, Except.pure]

theorem shows_bookableBy_iff {supervisor student : UserProfile} {days : Nat}
    (found : roster.slot.nextDate bells now = .ok next) :
    (bookableBy supervisor student days).shows bells now roster = .ok true ↔
      (roster.isSupervisedBy supervisor = true ∧ isEligible student roster.filters = true) ∧
        (dateOf now).daysUntil next < days := by
  simp [shows, Roster.daysUntilNext, found, bind, Except.bind, pure, Except.pure]

/-- A listing has the records of the rosters that it shows, if it fails for none of them. -/
theorem of_spec (viewer : UserId) {l : Listing} {rosters : List Roster}
    (judged : ∀ roster ∈ rosters, ∃ shown, l.shows bells now roster = .ok shown)
    (told : ∀ roster ∈ rosters, ∃ info, roster.info bells now viewer = .ok info) :
    ∃ infos, l.of bells now viewer rosters = .ok infos ∧
      ∀ info, info ∈ infos ↔ ∃ roster ∈ rosters, l.shows bells now roster = .ok true ∧
        roster.info bells now viewer = .ok info := by
  induction rosters with
  | nil => exact ⟨[], rfl, by simp⟩
  | cons roster rosters ih =>
    obtain ⟨⟨shown, judged⟩, judged_rest⟩ := List.forall_mem_cons.1 judged
    obtain ⟨⟨info, told⟩, told_rest⟩ := List.forall_mem_cons.1 told
    obtain ⟨infos, listed, mem_iff⟩ := ih judged_rest told_rest
    cases shown with
    | true =>
      refine ⟨info :: infos, ?_, fun other => ?_⟩
      · rw [of, judged, told, listed]
        rfl
      · rw [List.mem_cons, mem_iff, List.exists_mem_cons_iff, judged, told, Except.ok.injEq, eq_comm]
        simp
    | false =>
      refine ⟨infos, ?_, fun other => ?_⟩
      · rw [of, judged, listed]
        rfl
      · rw [mem_iff, List.exists_mem_cons_iff, judged]
        simp

end Listing

namespace Registry

variable {r : Registry} {rules : Rules} {now : Int}

/-- Where every slot fits the bell schedule no listing fails. -/
theorem list_spec (fits : r.Fits rules.bells) (dated : Dated now) (l : Listing) (viewer : UserId) :
    ∃ infos, r.list rules now l viewer = .ok infos ∧
      ∀ info, info ∈ infos ↔ ∃ id roster, r.roster? id = some roster ∧
        l.shows rules.bells now roster = .ok true ∧
        roster.info rules.bells now viewer = .ok info := by
  have judged (roster : Roster) (mem : roster ∈ r.rosterList) :
      ∃ shown, l.shows rules.bells now roster = .ok shown := by
    obtain ⟨id, found⟩ := mem_rosterList_iff.1 mem
    obtain ⟨next, next_found, -⟩ := Slot.nextDate_spec (fits id roster found) dated
    exact l.exists_shows_eq_ok next_found
  have told (roster : Roster) (mem : roster ∈ r.rosterList) :
      ∃ info, roster.info rules.bells now viewer = .ok info := by
    obtain ⟨id, found⟩ := mem_rosterList_iff.1 mem
    exact Roster.exists_info_eq_ok (fits id roster found) dated viewer
  obtain ⟨infos, listed, mem_iff⟩ := Listing.of_spec viewer judged told
  refine ⟨infos, listed, fun info => (mem_iff info).trans ?_⟩
  simp only [mem_rosterList_iff]
  constructor
  · rintro ⟨roster, ⟨id, found⟩, shown⟩
    exact ⟨id, roster, found, shown⟩
  · rintro ⟨id, roster, found, shown⟩
    exact ⟨roster, ⟨id, found⟩, shown⟩

end Registry

end Timetable
