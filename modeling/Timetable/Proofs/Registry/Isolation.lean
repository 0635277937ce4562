import Timetable.Proofs.Planner.Cut
import Timetable.Proofs.Registry.Listed

/-!
# What listings owe to strangers' slots

A user who looks for slots to book is shown none but those that admit the user, and a supervisor who
looks for a student none but those that the supervisor runs and that admit the student. But a
listing asks for the next session of every slot, and fails as a whole where it cannot be told, as
for a slot whose units are not in the bell schedule any more. So slots with which the user has
nothing to do matter in this one way, and in no other.
-/

set_option autoImplicit false

namespace Timetable

/-! ## The slots that concern a listing -/

namespace Listing

variable {l : Listing} {bells : BellSchedule} {now : Int} {viewer : UserId} {roster : Roster}

/-- The user of the listing has to do with the slot. -/
def concerns : Listing → Roster → Bool
  | all, _ => true
  | supervisedBy user, roster => roster.hasSupervisor user
  | bookable user _, roster => isEligible user roster.filters
  | bookableBy supervisor student _, roster =>
    roster.isSupervisedBy supervisor && isEligible student roster.filters

theorem concerns_of_shows (shown : l.shows bells now roster = .ok true) :
    l.concerns roster = true := by
  cases l with
  | all => rfl
  | supervisedBy user => exact Except.ok.inj shown
  | bookable user days =>
    obtain ⟨away, -, shown⟩ := bind_eq_ok_iff.1 shown
    exact (Bool.and_eq_true_iff.1 (pure_eq_ok_iff.1 shown).symm).1
  | bookableBy supervisor student days =>
    obtain ⟨away, -, shown⟩ := bind_eq_ok_iff.1 shown
    exact (Bool.and_eq_true_iff.1 (pure_eq_ok_iff.1 shown).symm).1

/-- What a listing has of one slot: its record, or nothing. -/
def entry (l : Listing) (bells : BellSchedule) (now : Int) (viewer : UserId) (roster : Roster) :
    Except Refusal (List SlotInfo) := do
  if ← l.shows bells now roster then return [← roster.info bells now viewer] else return []

theorem of_cons_eq_ok_iff {rest : List Roster} {infos : List SlotInfo} :
    l.of bells now viewer (roster :: rest) = .ok infos ↔ ∃ first more,
      l.entry bells now viewer roster = .ok first ∧ l.of bells now viewer rest = .ok more ∧
        infos = first ++ more := by
  rw [of, entry]
  cases l.shows bells now roster with
  | error refusal =>
    constructor
    · rintro ⟨⟩
    · rintro ⟨first, more, ⟨⟩, -⟩
  | ok shown =>
    cases shown with
    | false =>
      constructor
      · intro listed
        exact ⟨[], infos, rfl, listed, rfl⟩
      · rintro ⟨_, more, ⟨⟩, listed, rfl⟩
        exact listed
    | true =>
      change (do return (← roster.info bells now viewer) :: (← l.of bells now viewer rest)) = _ ↔
        ∃ first more, (do return [← roster.info bells now viewer]) = Except.ok first ∧ _
      simp only [bind_eq_ok_iff, pure_eq_ok_iff]
      constructor
      · rintro ⟨info, told, more, listed, rfl⟩
        exact ⟨[info], more, ⟨info, told, rfl⟩, listed, rfl⟩
      · rintro ⟨_, more, ⟨info, told, rfl⟩, listed, rfl⟩
        exact ⟨info, told, more, listed, rfl⟩

/-- A slot that does not concern a listing has no entry, if it can be judged. -/
theorem entry_of_not_concerns (stranger : l.concerns roster = false) {first : List SlotInfo} :
    l.entry bells now viewer roster = .ok first ↔
      (∃ shown, l.shows bells now roster = .ok shown) ∧ first = [] := by
  have hidden : l.shows bells now roster ≠ .ok true := by
    intro shown
    rw [concerns_of_shows shown] at stranger
    cases stranger
  rw [entry]
  cases judged : l.shows bells now roster with
  | error refusal =>
    constructor
    · exact nofun
    · rintro ⟨⟨_, ⟨⟩⟩, -⟩
  | ok shown =>
    cases shown with
    | true => exact absurd judged hidden
    | false =>
      constructor
      · intro given
        exact ⟨⟨false, rfl⟩, pure_eq_ok_iff.1 given⟩
      · rintro ⟨-, rfl⟩
        rfl

/-- A listing is given if every slot that does not concern it can be judged, and then it is that
of the slots which do. -/
theorem of_eq_ok_iff (rosters : List Roster) {infos : List SlotInfo} :
    l.of bells now viewer rosters = .ok infos ↔
      (∀ roster ∈ rosters, l.concerns roster = false →
        ∃ shown, l.shows bells now roster = .ok shown) ∧
        l.of bells now viewer (rosters.filter l.concerns) = .ok infos := by
  induction rosters generalizing infos with
  | nil => simp
  | cons roster rest ih =>
    rw [of_cons_eq_ok_iff, List.forall_mem_cons]
    cases concerned : l.concerns roster with
    | true =>
      rw [List.filter_cons_of_pos concerned, of_cons_eq_ok_iff]
      constructor
      · rintro ⟨first, more, has, listed, rfl⟩
        obtain ⟨judged, listed⟩ := ih.1 listed
        exact ⟨⟨nofun, judged⟩, first, more, has, listed, rfl⟩
      · rintro ⟨⟨-, judged⟩, first, more, has, listed, rfl⟩
        exact ⟨first, more, has, ih.2 ⟨judged, listed⟩, rfl⟩
    | false =>
      rw [List.filter_cons_of_neg (by rw [concerned]; exact Bool.false_ne_true)]
      constructor
      · rintro ⟨first, more, has, listed, rfl⟩
        obtain ⟨first_judged, rfl⟩ := (entry_of_not_concerns concerned).1 has
        obtain ⟨judged, listed⟩ := ih.1 listed
        exact ⟨⟨fun _ => first_judged, judged⟩, listed⟩
      · rintro ⟨⟨first_judged, judged⟩, listed⟩
        exact ⟨[], infos, (entry_of_not_concerns concerned).2 ⟨first_judged rfl, rfl⟩,
          ih.2 ⟨judged, listed⟩, rfl⟩

/-- A slot can be judged if its next session can be told. -/
theorem exists_shows_bookable_iff {user : UserProfile} {days : Nat} :
    (∃ shown, (bookable user days).shows bells now roster = .ok shown) ↔
      ∃ next, roster.slot.nextDate bells now = .ok next :=
  (exists_bind_pure_eq_ok_iff _).trans (exists_bind_pure_eq_ok_iff _)

theorem exists_shows_bookableBy_iff {supervisor student : UserProfile} {days : Nat} :
    (∃ shown, (bookableBy supervisor student days).shows bells now roster = .ok shown) ↔
      ∃ next, roster.slot.nextDate bells now = .ok next :=
  (exists_bind_pure_eq_ok_iff _).trans (exists_bind_pure_eq_ok_iff _)

end Listing

/-! ## One user's slots -/

/-- What is given for a known user on a condition. -/
theorem Directory.require_bind_eq_ok_iff {α : Type} {d : Directory} {user : UserId} {P : Prop}
    {f g : UserProfile → Except Refusal α} {a : α}
    (h : f (d.profile user) = .ok a ↔ P ∧ g (d.profile user) = .ok a) :
    (d.require user >>= f) = .ok a ↔ P ∧ (d.require user >>= g) = .ok a := by
  rw [profile] at h
  rw [require]
  cases known : d.profile? user with
  | none => exact ⟨nofun, fun given => nomatch given.2⟩
  | some profile =>
    rw [known] at h
    exact h

/-- Two answers that are given on conditions. -/
theorem toOption_eq_toOption_iff {α : Type} {a b x : Except Refusal α} {P Q : Prop}
    (first : ∀ i, a = .ok i ↔ P ∧ x = .ok i) (second : ∀ i, b = .ok i ↔ Q ∧ x = .ok i) :
    a.toOption = b.toOption ↔ (∃ e, x = .error e) ∨ (P ↔ Q) := by
  have same_iff : a.toOption = b.toOption ↔ ∀ i, a = .ok i ↔ b = .ok i := by
    cases a <;> cases b <;> simp [Except.toOption]
  rw [same_iff]
  simp only [first, second]
  cases x with
  | error e => simp
  | ok i => simp

namespace Registry

variable {r r' : Registry} {rules : Rules} {now : Int} {user student : UserId}
  {infos : List SlotInfo}

/-- The registry without the slots that do not concern somebody. -/
def only (concerned : Roster → Bool) (r : Registry) : Registry :=
  { r with rosters := r.rosters.filter fun _ roster => concerned roster }

/-- The registries differ only in slots that do not concern somebody. -/
def AgreeOn (concerned : Roster → Bool) (r r' : Registry) : Prop :=
  ∀ id, (r.roster? id).filter concerned = (r'.roster? id).filter concerned

/-- Of every slot that does not concern somebody the next session can be told. -/
def TellsOthers (concerned : Roster → Bool) (rules : Rules) (now : Int) (r : Registry) : Prop :=
  ∀ id roster, r.roster? id = some roster → concerned roster = false →
    ∃ next, roster.slot.nextDate rules.bells now = .ok next

theorem rosterList_only (concerned : Roster → Bool) (r : Registry) :
    (r.only concerned).rosterList = r.rosterList.filter concerned := by
  rw [rosterList, rosterList, only, Std.ExtTreeMap.toList_filter, List.filter_map]
  rfl

theorem AgreeOn.rosters_eq {concerned : Roster → Bool} (agree : AgreeOn concerned r r') :
    (r.only concerned).rosters = (r'.only concerned).rosters := by
  refine Std.ExtTreeMap.ext_getElem? fun id => ?_
  rw [only, only, Std.ExtTreeMap.getElem?_filter', Std.ExtTreeMap.getElem?_filter']
  exact agree id

/-- The slots that a user may book. -/
def openTo (rules : Rules) (user : UserId) (roster : Roster) : Bool :=
  isEligible (rules.directory.profile user) roster.filters

/-- The slots into which a supervisor may book a student. -/
def openBy (rules : Rules) (user student : UserId) (roster : Roster) : Bool :=
  roster.isSupervisedBy (rules.directory.profile user) &&
    isEligible (rules.directory.profile student) roster.filters

/-- A listing of a registry whose slots have all to be judged. -/
theorem list_eq_ok_iff {l : Listing} {viewer : UserId}
    (asks : ∀ roster : Roster, (∃ shown, l.shows rules.bells now roster = .ok shown) ↔
      ∃ next, roster.slot.nextDate rules.bells now = .ok next) :
    r.list rules now l viewer = .ok infos ↔
      r.TellsOthers l.concerns rules now ∧
        (r.only l.concerns).list rules now l viewer = .ok infos := by
  rw [list, list, rosterList_only, Listing.of_eq_ok_iff]
  refine and_congr_left fun _ => ?_
  simp only [asks, mem_rosterList_iff, TellsOthers]
  constructor
  · intro told id roster found
    exact told roster ⟨id, found⟩
  · rintro told roster ⟨id, found⟩
    exact told id roster found

/-- A user's slots are listed if the next session of every slot can be told that is not open to
the user, and then as if there were no such slots. -/
theorem mySlots_eq_ok_iff : r.mySlots rules now user = .ok infos ↔
    r.TellsOthers (openTo rules user) rules now ∧
      (r.only (openTo rules user)).mySlots rules now user = .ok infos :=
  Directory.require_bind_eq_ok_iff (list_eq_ok_iff fun _ => Listing.exists_shows_bookable_iff)

/-- The slots for a student are listed likewise. -/
theorem studentSlots_eq_ok_iff : r.studentSlots rules now user student = .ok infos ↔
    r.TellsOthers (openBy rules user student) rules now ∧
      (r.only (openBy rules user student)).studentSlots rules now user student = .ok infos :=
  Directory.require_bind_eq_ok_iff (list_eq_ok_iff fun _ => Listing.exists_shows_bookableBy_iff)

theorem TellsOthers.of_fits (fits : r.Fits rules.bells) (dated : Dated now)
    (concerned : Roster → Bool) : r.TellsOthers concerned rules now := by
  intro id roster found _
  obtain ⟨next, told, -⟩ := Slot.nextDate_spec (fits id roster found) dated
  exact ⟨next, told⟩

/-- **How far listings are isolated from slots with which the user has nothing to do.** Where two
registries differ only in such slots, a user's listing is the same for both, or fails for both, if
and only if it fails for the user's own slots, or the next session can be told of all the others of
the one and of all the others of the other, or of not all of them in both. The same is true of the
slots for a student. So it is where all slots fit the bell schedule. -/
theorem listings_isolated_iff (rules : Rules) (now : Int) (r r' : Registry) :
    (∀ user, AgreeOn (openTo rules user) r r' →
      ((r.mySlots rules now user).toOption = (r'.mySlots rules now user).toOption ↔
        (∃ e, (r.only (openTo rules user)).mySlots rules now user = .error e) ∨
          (r.TellsOthers (openTo rules user) rules now ↔
            r'.TellsOthers (openTo rules user) rules now))) ∧
    (∀ user student, AgreeOn (openBy rules user student) r r' →
      ((r.studentSlots rules now user student).toOption =
          (r'.studentSlots rules now user student).toOption ↔
        (∃ e, (r.only (openBy rules user student)).studentSlots rules now user student =
            .error e) ∨
          (r.TellsOthers (openBy rules user student) rules now ↔
            r'.TellsOthers (openBy rules user student) rules now))) ∧
    (r.Fits rules.bells → r'.Fits rules.bells → Dated now → ∀ concerned,
      r.TellsOthers concerned rules now ∧ r'.TellsOthers concerned rules now) := by
  refine ⟨fun user agree => ?_, fun user student agree => ?_, fun fits fits' dated concerned =>
    ⟨.of_fits fits dated concerned, .of_fits fits' dated concerned⟩⟩
  · have same : (r'.only (openTo rules user)).mySlots rules now user =
        (r.only (openTo rules user)).mySlots rules now user := by
      simp only [mySlots, list, rosterList, agree.rosters_eq]
    exact toOption_eq_toOption_iff (fun _ => mySlots_eq_ok_iff) fun _ => same ▸ mySlots_eq_ok_iff
  · have same : (r'.only (openBy rules user student)).studentSlots rules now user student =
        (r.only (openBy rules user student)).studentSlots rules now user student := by
      simp only [studentSlots, list, rosterList, agree.rosters_eq]
    exact toOption_eq_toOption_iff (fun _ => studentSlots_eq_ok_iff) fun _ =>
      same ▸ studentSlots_eq_ok_iff

/-! A slot that no filter opens to anybody -/

/-- The slot begins with the fifth unit. -/
def closedSlot : List Event := [.slotCreated ⟨.ofNat 1, 5, 1, .monday, "R1", 4⟩ []]

theorem roster?_closedSlot (id : Ident) : (ofEvents closedSlot).roster? id =
    if .ofNat 1 = id then some (.new ⟨.ofNat 1, 5, 1, .monday, "R1", 4⟩ []) else none := by
  rw [ofEvents, closedSlot, applyAll_singleton, roster?_apply, roster?_empty]
  rfl

/-- It concerns nobody who may only book where a filter admits somebody. -/
theorem agreeOn_closedSlot {concerned : Roster → Bool}
    (closed : concerned (.new ⟨.ofNat 1, 5, 1, .monday, "R1", 4⟩ []) = false) :
    AgreeOn concerned (ofEvents closedSlot) .empty := by
  intro id
  rw [roster?_closedSlot, roster?_empty]
  split
  · rw [Option.filter_some, closed]
    rfl
  · rfl

theorem fits_empty (bells : BellSchedule) : empty.Fits bells := by
  intro id roster found
  rw [roster?_empty] at found
  cases found

/-- On a school day with enough units it makes no difference. -/
theorem listings_isolated_closedSlot :
    ((ofEvents closedSlot).mySlots .oneStudent 0 7).toOption =
        (empty.mySlots .oneStudent 0 7).toOption ∧
      ((ofEvents closedSlot).studentSlots .oneStudent 0 1 7).toOption =
        (empty.studentSlots .oneStudent 0 1 7).toOption := by
  obtain ⟨for_user, for_student, told⟩ :=
    listings_isolated_iff .oneStudent 0 (ofEvents closedSlot) .empty
  have fits : (ofEvents closedSlot).Fits Rules.oneStudent.bells := by
    intro id roster found
    rw [roster?_closedSlot] at found
    split at found
    · cases found
      rfl
    · cases found
  have tells := told fits (fits_empty _) ⟨by decide, by decide⟩
  exact ⟨(for_user 7 (agreeOn_closedSlot rfl)).2 (.inr (iff_of_true (tells _).1 (tells _).2)),
    (for_student 1 7 (agreeOn_closedSlot rfl)).2 (.inr (iff_of_true (tells _).1 (tells _).2))⟩

end Registry

/-- A school day of two units only. -/
def Rules.twoUnits : Rules :=
  { Rules.oneStudent with
    bells := ⟨BellSchedule.standard.starts.take 2, by decide, by decide⟩ }

namespace Registry

/-- On a school day with fewer units the slot breaks the listings of users who have nothing to do
with it. -/
theorem not_isolated_closedSlot : ∃ p p',
    Planner.start ⟨.file (Journal.records closedSlot), .absent, fun _ _ => none, 0⟩ .empty [] 0 =
        .ok p ∧
      Planner.start .empty .empty [] 0 = .ok p' ∧
      AgreeOn (openTo .twoUnits 7) p.registry p'.registry ∧
      AgreeOn (openBy .twoUnits 1 7) p.registry p'.registry ∧
      p.registry.mySlots .twoUnits 0 7 = .error (.bells (.outOfRange 5 2)) ∧
      p'.registry.mySlots .twoUnits 0 7 = .ok [] ∧
      p.registry.studentSlots .twoUnits 0 1 7 = .error (.bells (.outOfRange 5 2)) ∧
      p'.registry.studentSlots .twoUnits 0 1 7 = .ok [] := by
  obtain ⟨p, started, registry, -⟩ := Planner.start_of_file
    (d := ⟨.file (Journal.records closedSlot), .absent, fun _ _ => none, 0⟩) (fun _ _ => rfl) rfl
    .empty [] 0
  rw [Journal.replay_records (by decide +kernel)] at registry
  refine ⟨p, Planner.opened, started, Planner.start_opened, ?_⟩
  rw [registry]
  exact ⟨agreeOn_closedSlot rfl, agreeOn_closedSlot rfl, rfl, rfl, rfl, rfl⟩

end Registry

end Timetable
