import Timetable.Proofs.Planner.Buckets
import Timetable.Proofs.Planner.Weekdays

/-!
# Overfull dates are reported

More reservations than seats come about only by an update that takes seats away, and that answers
with the dates concerned. From then on the reservations of such a date get fewer, until there are
seats again. So what the last update of the slot has answered covers every date that is overfull,
except where the session was over at the time of the update.
-/

set_option autoImplicit false

namespace Timetable

namespace Planner

variable {rules : Rules} {p q q' : Planner} {s : Step} {slot : Ident}

/-! ## What updates have answered -/

/-- The answer of a step that is an update of the slot and succeeds. -/
def report? (q : Planner) (rules : Rules) (slot : Ident) : Step → Option (List Overfull)
  | .request ⟨now, caller, .updateSlot id patch⟩ =>
    if id = slot then (q.updateSlot rules now caller id patch).1.toOption else none
  | _ => none

/-- The answer of the last update of the slot that succeeded in a run. -/
def lastReport? (p : Planner) (rules : Rules) (slot : Ident) : List Step → Option (List Overfull)
  | [] => none
  | s :: rest =>
    match p.step rules s with
    | .ok q => (q.lastReport? rules slot rest).or (p.report? rules slot s)
    | .error _ => none

theorem lastReport?_snoc {before : List Step} (ran : p.run rules before = .ok q) (slot : Ident)
    (stepped : q.step rules s = .ok q') :
    p.lastReport? rules slot (before ++ [s]) =
      (q.report? rules slot s).or (p.lastReport? rules slot before) := by
  induction before generalizing p with
  | nil =>
    cases ran
    simp only [List.nil_append, lastReport?, stepped, Option.none_or, Option.or_none]
  | cons s' before ih =>
    obtain ⟨p', stepped', ran'⟩ := bind_eq_ok_iff.1 ran
    simp only [List.cons_append, lastReport?, stepped', ih ran', Option.or_assoc]

theorem report?_eq_some_iff {report : List Overfull} : q.report? rules slot s = some report ↔
    ∃ now caller patch, s = .request ⟨now, caller, .updateSlot slot patch⟩ ∧
      (q.updateSlot rules now caller slot patch).1 = .ok report := by
  constructor
  · intro h
    unfold report? at h
    split at h
    · split at h
      · rename_i now caller id patch same
        subst same
        refine ⟨now, caller, patch, rfl, ?_⟩
        cases answer : (q.updateSlot rules now caller id patch).1 with
        | error e =>
          rw [answer] at h
          cases h
        | ok overfull =>
          rw [answer] at h
          exact congrArg Except.ok (Option.some.inj h)
      · cases h
    · cases h
  · rintro ⟨now, caller, patch, rfl, answered⟩
    rw [report?, if_pos rfl, answered]
    rfl

/-! ## Histories -/

/-- The report covers a date of a roster, unless its session is over. -/
def Covers (bells : BellSchedule) (now : Int) (roster : Roster) (date : Date)
    (report : List Overfull) : Prop :=
  ¬ roster.slot.IsOver bells now date →
    ∃ o ∈ report, o.date = date ∧ roster.countOn date ≤ o.count

/-- A report still covers a date if the slot is the same and there are no more reservations. -/
theorem Covers.of_countOn_le {bells : BellSchedule} {now : Int} {before after : Roster}
    {date : Date} {report : List Overfull} (covers : Covers bells now before date report)
    (same : after.slot = before.slot) (fewer : after.countOn date ≤ before.countOn date) :
    Covers bells now after date report := by
  rw [Covers, same]
  intro live
  obtain ⟨o, ho, on_date, count⟩ := covers live
  exact ⟨o, ho, on_date, Nat.le_trans fewer count⟩

/-- A roster that is overfull on a date has been updated, and the last report covers the date. -/
def Reported (p : Planner) (rules : Rules) (steps : List Step) (slot : Ident) (date : Date)
    (roster : Roster) : Prop :=
  roster.slot.capacity.toNat < roster.countOn date →
    ∃ report, p.lastReport? rules slot steps = some report ∧
      ∀ now, (∀ t ∈ Step.times steps, t ≤ now) → Covers rules.bells now roster date report

/-- What has been reported remains so while the slot is not updated and gets no reservation for
the date. -/
theorem Reported.keep {steps : List Step} {date : Date} {before after : Roster}
    (reported : p.Reported rules steps slot date before) (h : History rules p steps q)
    (stepped : q.step rules s = .ok q') (unreported : q.report? rules slot s = none)
    (same : after.slot = before.slot) (fewer : after.countOn date ≤ before.countOn date) :
    p.Reported rules (steps ++ [s]) slot date after := by
  intro full
  rw [same] at full
  obtain ⟨report, last, covers⟩ := reported (Nat.lt_of_lt_of_le full fewer)
  refine ⟨report, ?_, ?_⟩
  · rw [lastReport?_snoc h.ran slot stepped, unreported, Option.none_or, last]
  · intro now le
    rw [Step.times_snoc] at le
    exact (covers now fun t ht => le t (List.mem_append_left _ ht)).of_countOn_le same fewer

/-- An update reports what it makes overfull. -/
theorem Stands.reported (stands : q.Stands rules) {steps : List Step} {date : Date} {now : Int}
    {caller : UserId} {patch : SlotPatch} {report : List Overfull} (ran : p.run rules steps = .ok q)
    (answered : (q.updateSlot rules now caller slot patch).1 = .ok report) :
    ∀ roster ∈ (q.updateSlot rules now caller slot patch).2.registry.roster? slot,
      p.Reported rules (steps ++ [.request ⟨now, caller, .updateSlot slot patch⟩]) slot date
        roster := by
  obtain ⟨before, found, takes, updated⟩ := stands.updateSlot answered
  have sorted := (stands.wellFormed.roster slot before found).sorted
  rw [updated]
  rintro _ ⟨⟩ full
  have count := Roster.countOn_eq sorted date
  refine ⟨report, ?_, ?_⟩
  · rw [lastReport?_snoc ran slot rfl, report?_eq_some_iff.2 ⟨now, caller, patch, rfl, answered⟩]
    rfl
  · intro later le live
    have le_later : now ≤ later := by
      refine le now ?_
      rw [Step.times_snoc]
      exact List.mem_append_right _ List.mem_cons_self
    have live_then : ¬ (patch.apply before.slot).IsOver rules.bells now date :=
      fun ended => live (ended.mono takes.valid le_later)
    have is_overfull : Overfull.At (patch.apply before.slot) rules.bells now before.reservations
        date := ⟨Nat.lt_of_lt_of_eq full count, live_then⟩
    refine ⟨.line (patch.apply before.slot) before.reservations date, ?_, rfl, Nat.le_of_eq count⟩
    rw [(Roster.takes_iff.1 takes).2]
    exact Overfull.mem_lines_iff.2 ⟨is_overfull, rfl⟩

theorem History.reported {steps : List Step} (h : History rules p steps q) (slot : Ident)
    (date : Date) :
    ∀ roster ∈ q.registry.roster? slot, p.Reported rules steps slot date roster := by
  refine h.induction (P := fun steps q => ∀ roster ∈ q.registry.roster? slot,
    p.Reported rules steps slot date roster) ?_ ?_
  · intro first roster found
    rw [first.registry_eq_empty.1, Registry.roster?_empty] at found
    cases found
  · intro before s q q' h stepped h' ih
    cases report : q.report? rules slot s with
    | some overfull =>
      obtain ⟨now, caller, patch, rfl, answered⟩ := report?_eq_some_iff.1 report
      cases stepped
      exact h.stands.1.reported h.ran answered
    | none =>
      have turn := h.turn h' slot
      have sorted (roster : Roster) (found : roster ∈ q.registry.roster? slot) :=
        (h.stands.1.wellFormed.roster slot roster found).sorted
      generalize q.registry.roster? slot = old at turn ih sorted
      rintro roster found
      rw [found] at turn
      cases turn with
      | thinned thinned =>
        exact (ih _ rfl).keep h stepped report thinned.slot (thinned.countOn_le (sorted _ rfl) date)
      | created record supervisors => exact fun full => absurd full (Nat.not_lt_zero _)
      | updated asked answered takes =>
        cases report.symm.trans (report?_eq_some_iff.2 ⟨_, _, _, asked, answered⟩)
      | @booked before now caller booked user reservation asked answered seat =>
        -- There was a seat on the date that was booked; on other dates nothing changes.
        by_cases here : booked = date
        · subst here
          intro full
          exact absurd (seat.countOn_le (sorted _ rfl) rfl) (Nat.not_le.2 full)
        · have same := before.countOn_addReservation (sorted _ rfl)
            ⟨rules.ids q.drawn, slot, booked, user.getD caller, caller⟩ date
          rw [if_neg here] at same
          exact (ih _ rfl).keep h stepped report rfl (Nat.le_of_eq same)

/-- **Whatever is overfull has been reported.** If at some moment of a history a slot has more
reservations for a date than seats, it has been updated, and the answer of its last update that
succeeded has the date with no fewer reservations than there are now, unless the session is over at
the present time, which is not before the time of any request. -/
theorem overfull_reported {steps : List Step} (h : History rules p steps q) {slot : Ident}
    {roster : Roster} (found : q.registry.roster? slot = some roster) {date : Date}
    (full : roster.slot.capacity.toNat < roster.countOn date) :
    ∃ report, p.lastReport? rules slot steps = some report ∧
      ∀ now, (∀ t ∈ Step.times steps, t ≤ now) → ¬ roster.slot.IsOver rules.bells now date →
        ∃ o ∈ report, o.date = date ∧ roster.countOn date ≤ o.count :=
  h.reported slot date roster found full

/-! A slot loses its seats -/

/-- A student is booked, and then the slot is left without seats. -/
def shrunk : List Step := [
  .request ⟨0, 1, .createSlot 1 1 .thursday "101" 5⟩,
  .request ⟨0, 1, .addSlotFilter (.ofNat 0) none (some "1a")⟩,
  .request ⟨0, 7, .bookReservation (.ofNat 0) .epoch none⟩,
  .request ⟨0, 1, .updateSlot (.ofNat 0) ⟨none, none, none, none, some 0⟩⟩]

set_option maxRecDepth 2000 in
theorem overfull_reported_shrunk : ∃ q roster, History .oneStudent opened shrunk q ∧
    q.registry.roster? (.ofNat 0) = some roster ∧
    roster.slot.capacity.toNat < roster.countOn .epoch ∧
    ∃ report, opened.lastReport? .oneStudent (.ofNat 0) shrunk = some report ∧
      ∃ o ∈ report, o.date = .epoch ∧ roster.countOn .epoch ≤ o.count := by
  obtain ⟨q, h⟩ := History.of_works shrunk (d := .empty) (fun _ _ => rfl) (.inl rfl) (by decide)
    start_opened (Rules.freshBelow_oneStudent (by decide))
  obtain ⟨roster, found, full, live⟩ : ∃ roster, q.registry.roster? (.ofNat 0) = some roster ∧
      roster.slot.capacity.toNat < roster.countOn .epoch ∧
      ¬ roster.slot.IsOver .standard 0 .epoch := by
    cases (rfl : opened.run .oneStudent shrunk = _).symm.trans h.ran
    exact ⟨_, rfl, by decide +kernel, by decide +kernel⟩
  obtain ⟨report, last, covers⟩ := overfull_reported h found full
  exact ⟨q, roster, h, found, full, report, last, covers 0 (by decide) live⟩

/-- What is in the journal if the update was refused. -/
def shrunkEvents : List Event := [
  .slotCreated ⟨.ofNat 0, 1, 1, .thursday, "101", 5⟩ [⟨.ofNat 1, .ofNat 0, 1⟩],
  .filterAdded ⟨.ofNat 2, .ofNat 0, none, some "1a"⟩,
  .reservationBooked ⟨.ofNat 3, .ofNat 0, .epoch, 7, 7⟩,
  .slotUpdated ⟨.ofNat 0, 1, 1, .thursday, "101", 0⟩]

set_option maxRecDepth 2000 in
theorem overfull_unreported_by_restart : Rules.oneStudent.FreshBelow (Step.drawsAll shrunk) ∧
    ∃ p q q' roster, start (.failingAt 7) .empty [] 0 = .ok p ∧
      p.run .oneStudent shrunk = .ok q ∧ q.restart = .ok q' ∧
      q'.registry.roster? (.ofNat 0) = some roster ∧
      roster.slot.capacity.toNat < roster.countOn .epoch ∧
      ¬ roster.slot.IsOver .standard 0 .epoch ∧
      p.lastReport? .oneStudent (.ofNat 0) (shrunk ++ [.restart]) = none := by
  obtain ⟨p, q, q', roster, started, ran, restarted, found, full, live, unreported⟩ :
      ∃ p q q' roster, start (.failingAt 7) .empty [] 0 = .ok p ∧
        p.run .oneStudent shrunk = .ok q ∧ q.restart = .ok q' ∧
        q'.registry.roster? (.ofNat 0) = some roster ∧
        roster.slot.capacity.toNat < roster.countOn .epoch ∧
        ¬ roster.slot.IsOver .standard 0 .epoch ∧
        p.lastReport? .oneStudent (.ofNat 0) shrunk = none := by
    refine ⟨_, _, _, _, rfl, rfl, restart_of_records shrunkEvents ?_ ?_ rfl, rfl, ?_, ?_, rfl⟩
    all_goals decide +kernel
  refine ⟨Rules.freshBelow_oneStudent (by decide), p, q, q', roster, started, ran, restarted, found,
    full, live, ?_⟩
  rw [lastReport?_snoc (s := .restart) ran _ restarted, unreported]
  rfl

end Planner

end Timetable
