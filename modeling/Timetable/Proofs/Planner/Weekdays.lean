import Timetable.Proofs.Planner.Cut
import Timetable.Proofs.Planner.Turn
import Timetable.Proofs.Sessions

/-!
# Sessions that are not over

A reservation is made for the weekday of its slot, and a slot changes its weekday only when all its
sessions are over. Yet an update looks at the units that the slot had before. If it puts the end of
a session of today off, the session is not over any more, and today need not be the weekday of the
slot. That is the only way in which a session that is not over comes to stand on another weekday
than its slot, as long as the clock does not go back.
-/

set_option autoImplicit false

namespace Timetable

namespace Step

/-- When a step is asked for, if it is a request. -/
def time? : Step → Option Int
  | request demand => some demand.now
  | compact | restart => none

def times (steps : List Step) : List Int := steps.filterMap time?

theorem times_snoc (steps : List Step) (s : Step) :
    times (steps ++ [s]) = times steps ++ s.time?.toList := by
  rw [times, List.filterMap_append]
  cases h : s.time? <;> simp [times, h]

theorem pairwise_times_front {before after : List Step}
    (clock : (times (before ++ after)).Pairwise (· ≤ ·)) : (times before).Pairwise (· ≤ ·) := by
  rw [times, List.filterMap_append] at clock
  exact (List.pairwise_append.1 clock).1

end Step

namespace Roster

/-- Every reservation whose session is not over is for the weekday of the slot. -/
def OnDays (bells : BellSchedule) (now : Int) (roster : Roster) : Prop :=
  ∀ r ∈ roster.reservations, ¬ roster.slot.IsOver bells now r.date →
    r.date.weekday = roster.slot.weekday

instance (bells : BellSchedule) (now : Int) (roster : Roster) :
    Decidable (roster.OnDays bells now) := by
  unfold OnDays
  infer_instance

/-- With the patch a session is not over any more, and it is not on the weekday of the slot. -/
def Revives (bells : BellSchedule) (now : Int) (roster : Roster) (patch : SlotPatch) : Prop :=
  ∃ r ∈ roster.reservations, roster.slot.IsOver bells now r.date ∧
    ¬ (patch.apply roster.slot).IsOver bells now r.date ∧
    r.date.weekday ≠ (patch.apply roster.slot).weekday

variable {bells : BellSchedule} {now : Int} {roster : Roster} {patch : SlotPatch}

/-- Only a session of today is revived. -/
theorem Revives.today (revives : roster.Revives bells now patch)
    (valid : roster.slot.validate bells = .ok ())
    (valid' : (patch.apply roster.slot).validate bells = .ok ()) :
    ∃ r ∈ roster.reservations, r.date = dateOf now ∧
      (dateOf now).weekday ≠ (patch.apply roster.slot).weekday := by
  obtain ⟨r, hr, ended, not_over, off⟩ := revives
  have today := ended.date_eq valid valid' not_over
  exact ⟨r, hr, today, today ▸ off⟩

theorem OnDays.thinned {before after : Roster} (on_days : before.OnDays bells now)
    (thinned : before.Thinned after) : after.OnDays bells now := by
  intro r hr live
  rw [thinned.slot] at live ⊢
  exact on_days r (thinned.reservations.subset hr) live

theorem OnDays.addReservation (on_days : roster.OnDays bells now) {s : Reservation}
    (on_day : s.date.weekday = roster.slot.weekday) :
    (roster.addReservation s).OnDays bells now := by
  intro r hr live
  obtain rfl | hr := Reservation.mem_insert.1 hr
  · exact on_day
  · exact on_days r hr live

/-- An update that revives nothing keeps the sessions to come on the weekday, at every time from
then on. -/
theorem OnDays.patched {overfull : List Overfull} {t : Int} (on_days : roster.OnDays bells t)
    (takes : roster.Takes bells t patch overfull) (keeps : ¬ roster.Revives bells t patch)
    (le : t ≤ now) : OnDays bells now { roster with slot := patch.apply roster.slot } := by
  intro r hr live
  have live_at : ¬ (patch.apply roster.slot).IsOver bells t r.date :=
    fun ended => live (ended.mono takes.valid le)
  by_contra off
  have not_over : ¬ roster.slot.IsOver bells t r.date :=
    fun ended => keeps ⟨r, hr, ended, live_at, off⟩
  have on_day := on_days r hr not_over
  -- The weekday changes only if no session is ahead, and this one was.
  by_cases stays : (patch.apply roster.slot).weekday = roster.slot.weekday
  · exact off (on_day.trans stays.symm)
  · exact not_over (Registry.requireOver_eq_ok_iff.1 (takes.ended stays) r hr)

end Roster

namespace Planner

variable {rules : Rules} {p q q' : Planner} {s : Step} {id : Ident}

/-- The step is an update that succeeds and revives a session off the weekday. -/
def Revives (q : Planner) (rules : Rules) (s : Step) : Prop :=
  ∃ now caller id patch overfull roster, s = .request ⟨now, caller, .updateSlot id patch⟩ ∧
    (q.updateSlot rules now caller id patch).1 = .ok overfull ∧
    q.registry.roster? id = some roster ∧ roster.Revives rules.bells now patch

theorem Turn.onDays {before after : Option Roster} (turn : Turn rules q s id before after)
    (there : q.registry.roster? id = before) (keeps : ¬ q.Revives rules s) {now : Int}
    (now_on : ∀ roster ∈ before, roster.OnDays rules.bells now)
    (then_on : ∀ t ∈ s.time?, t ≤ now ∧ ∀ roster ∈ before, roster.OnDays rules.bells t) :
    ∀ roster ∈ after, roster.OnDays rules.bells now := by
  rintro roster ⟨⟩
  cases turn with
  | thinned thinned => exact (now_on _ rfl).thinned thinned
  | created slot supervisors => exact fun r hr => nomatch hr
  | @updated before t caller patch overfull asked answered takes =>
    obtain ⟨le, on_days⟩ := then_on t (asked ▸ rfl)
    refine (on_days before rfl).patched takes ?_ le
    intro revives
    exact keeps ⟨t, caller, id, patch, overfull, before, asked, answered, there, revives⟩
  | booked asked answered seat => exact (now_on _ rfl).addReservation seat.weekday

theorem History.onDays {steps : List Step} (h : History rules p steps q)
    (clock : (Step.times steps).Pairwise (· ≤ ·)) (keeps : p.Never Revives rules steps) {now : Int}
    (le : ∀ t ∈ Step.times steps, t ≤ now) (id : Ident) :
    ∀ roster ∈ q.registry.roster? id, roster.OnDays rules.bells now := by
  -- `now` stays general: the last step looks at the roster at the time of its own request.
  revert clock keeps now
  refine h.induction (P := fun steps q => (Step.times steps).Pairwise (· ≤ ·) →
    p.Never Revives rules steps → ∀ {now : Int}, (∀ t ∈ Step.times steps, t ≤ now) →
      ∀ roster ∈ q.registry.roster? id, roster.OnDays rules.bells now) ?_ ?_
  · intro first _ _ now _ roster found
    rw [first.registry_eq_empty.1, Registry.roster?_empty] at found
    cases found
  · intro before s q q' h stepped h' ih clock keeps now le
    rw [Step.times_snoc] at clock le
    obtain ⟨clock, -, order⟩ := List.pairwise_append.1 clock
    refine (h.turn h' id).onDays rfl (keeps.last h.ran) ?_ ?_
    · exact ih clock keeps.init fun t ht => le t (List.mem_append_left _ ht)
    · intro t ht
      have last : t ∈ s.time?.toList := Option.mem_toList.2 ht
      exact ⟨le t (List.mem_append_right _ last),
        ih clock keeps.init fun t' ht' => order t' ht' t last⟩

/-- **Sessions that are not over are on the weekday of their slot, at every moment of a history in
which the clock does not go back, exactly if no update of it revives one that is not.** -/
theorem onDays_iff {steps : List Step} (h : History rules p steps q)
    (clock : (Step.times steps).Pairwise (· ≤ ·)) :
    (∀ before after q', steps = before ++ after → p.run rules before = .ok q' →
      ∀ now, (∀ t ∈ Step.times before, t ≤ now) →
        ∀ id roster, q'.registry.roster? id = some roster → roster.OnDays rules.bells now) ↔
    p.Never Revives rules steps := by
  constructor
  · rintro on_days before s after q' rfl ran
      ⟨now, caller, id, patch, overfull, roster, asked, answered, found, r, hr, -, live, off⟩
    obtain ⟨_, there, -, updated⟩ := (h.front ran).stands.1.updateSlot answered
    cases found.symm.trans there
    have ran' : p.run rules (before ++ [s]) =
        .ok (q'.updateSlot rules now caller id patch).2 :=
      run_snoc_eq_ok_iff.2 ⟨q', ran, asked ▸ rfl⟩
    -- The session is off its weekday right after the update, at the time of the update.
    rw [List.append_cons] at clock on_days
    have le : ∀ t ∈ Step.times (before ++ [s]), t ≤ now := by
      have clock := Step.pairwise_times_front clock
      rw [Step.times_snoc, asked] at clock ⊢
      intro t ht
      rcases List.mem_append.1 ht with ht | ht
      · exact (List.pairwise_append.1 clock).2.2 t ht now List.mem_cons_self
      · exact Int.le_of_eq (List.mem_singleton.1 ht)
    exact off (on_days _ after _ rfl ran' now le id _ updated r hr live)
  · rintro keeps before after q' rfl ran now le id roster found
    exact (h.front ran).onDays (Step.pairwise_times_front clock) keeps.init le id roster found

/-! An update that revives a session -/

/-- Nothing is revived in a run without updates. -/
theorem onDays_displacing : ∃ q,
    History .oneStudent opened (Demand.displacing.map .request ++ [.compact, .restart]) q ∧
      ∀ now, 0 ≤ now → ∀ id roster, q.registry.roster? id = some roster →
        roster.OnDays .standard now := by
  obtain ⟨q, h⟩ := History.of_works (Demand.displacing.map .request ++ [.compact, .restart])
    (d := .empty) (fun _ _ => rfl) (.inl rfl) (by decide) start_opened
    (Rules.freshBelow_oneStudent (by decide))
  refine ⟨q, h, fun now le => ?_⟩
  refine (onDays_iff h (by decide)).2 ?_ _ [] q (List.append_nil _).symm h.ran now ?_
  · rintro before s after q' split - ⟨now, caller, id, patch, _, _, rfl, -⟩
    have mem : Step.request ⟨now, caller, .updateSlot id patch⟩ ∈ before ++ _ :: after :=
      List.mem_append_right _ List.mem_cons_self
    rw [← split] at mem
    simp [Demand.displacing] at mem
  · have at_zero : ∀ t ∈ Step.times (Demand.displacing.map .request ++ [.compact, .restart]),
        t = 0 := by decide
    exact fun t ht => Int.le_trans (Int.le_of_eq (at_zero t ht)) le

/-- At nine, when the session of the first unit is over, its slot is moved to the next day and to a
unit that ends later. -/
def movedAtNine : List Step := [
  .request ⟨0, 1, .createSlot 1 1 .thursday "101" 5⟩,
  .request ⟨0, 1, .addSlotFilter (.ofNat 0) none (some "1a")⟩,
  .request ⟨0, 7, .bookReservation (.ofNat 0) .epoch none⟩,
  .request ⟨32400000, 1, .updateSlot (.ofNat 0) ⟨some 3, none, some .friday, none, none⟩⟩]

set_option maxRecDepth 2000 in
theorem onDays_lost_by_update : Rules.oneStudent.FreshBelow (Step.drawsAll movedAtNine) ∧
    (Step.times movedAtNine).Pairwise (· ≤ ·) ∧
    ∃ q roster, start .empty .empty [] 0 = .ok opened ∧
      opened.run .oneStudent movedAtNine = .ok q ∧
      q.registry.roster? (.ofNat 0) = some roster ∧ ¬ roster.OnDays .standard 32400000 := by
  refine ⟨Rules.freshBelow_oneStudent (by decide), by decide, _, _, start_opened, rfl, rfl, ?_⟩
  decide +kernel

end Planner

end Timetable
