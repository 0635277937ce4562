import Timetable.Proofs.Planner.FirstCome
import Timetable.Proofs.Planner.Removals
import Timetable.Proofs.Planner.Reports

/-!
# Updates of a slot

A supervisor may patch a slot if it is valid with the patch, and if it stays on its weekday or has no
reservation for a session that is not over. For this it is the old units that count, but for the dates
that are overfull the new ones.
-/

set_option autoImplicit false

namespace Timetable

namespace Registry

variable {r : Registry} {rules : Rules} {slot : Ident} {caller : UserId} {roster : Roster}
  {c : Change (List Overfull)}

/-- What is decided on an update by a supervisor: if the slot can be patched, it is, and nothing
else can go wrong. -/
theorem update_of_supervised (found : r.roster? slot = some roster)
    (supervised : roster.isSupervisedBy (rules.directory.profile caller) = true) (now : Int)
    (patch : SlotPatch) :
    r.update rules now slot patch caller = .ok c ↔ roster.Accepts rules.bells now patch ∧
      c = .one (.slotUpdated (patch.apply roster.slot))
        (Overfull.lines (patch.apply roster.slot) rules.bells now roster.reservations) := by
  rw [update_eq_ok_iff]
  constructor
  · rintro ⟨_, supervised', valid, ended, overfull, listed, rfl⟩
    cases found.symm.trans (supervisedRoster_eq_ok_iff.1 supervised').1
    obtain ⟨accepts, rfl⟩ := Roster.takes_iff.1 ⟨valid, ended, listed⟩
    exact ⟨accepts, rfl⟩
  · rintro ⟨accepts, rfl⟩
    obtain ⟨valid, ended, listed⟩ := Roster.takes_iff.2 ⟨accepts, rfl⟩
    exact ⟨roster, supervisedRoster_eq_ok_iff.2 ⟨found, supervised⟩, valid, ended, _, listed, rfl⟩

/-- A new record changes nothing but the slot in its roster. -/
theorem roster?_apply_slotUpdated (found : r.roster? slot = some roster) {updated : Slot}
    (same_id : updated.id = slot) (id : Ident) : (r.apply (.slotUpdated updated)).roster? id =
      if id = slot then some { roster with slot := updated } else r.roster? id := by
  rw [roster?_apply, Event.slotId, same_id]
  by_cases here : slot = id
  · subst here
    rw [if_pos rfl, if_pos rfl, found]
    rfl
  · rw [if_neg here, if_neg (Ne.symm here)]

theorem slotOf?_apply_slotUpdated (found : r.roster? slot = some roster) {updated : Slot}
    (same_id : updated.id = slot) (entity : Ident) :
    (r.apply (.slotUpdated updated)).slotOf? entity = r.slotOf? entity := by
  subst same_id
  exact slotOf?_apply rfl found entity

end Registry

namespace Planner

variable {p q : Planner} {rules : Rules} {slot : Ident} {caller : UserId} {roster : Roster}
  {steps : List Step}

/-- A supervisor's update is carried out if the slot can be patched, and refused otherwise. -/
theorem updateSlot_of_supervised (works : q.log.disk.Works)
    (found : q.registry.roster? slot = some roster)
    (supervised : roster.isSupervisedBy (rules.directory.profile caller) = true) (now : Int)
    (patch : SlotPatch) :
    if roster.Accepts rules.bells now patch then
      (q.updateSlot rules now caller slot patch).1 =
          .ok (Overfull.lines (patch.apply roster.slot) rules.bells now roster.reservations) ∧
        (q.updateSlot rules now caller slot patch).2.registry =
          q.registry.apply (.slotUpdated (patch.apply roster.slot))
    else
      (∃ refusal, (q.updateSlot rules now caller slot patch).1 = .error refusal) ∧
        (q.updateSlot rules now caller slot patch).2.registry = q.registry := by
  have decided {c : Change (List Overfull)} :=
    Registry.update_of_supervised (c := c) found supervised now patch
  obtain ⟨answered, registry, -⟩ :=
    settle_of_works works now (q.registry.update rules now slot patch caller)
  rw [updateSlot, answered, registry]
  split
  · rename_i accepts
    rw [decided.2 ⟨accepts, rfl⟩]
    exact ⟨rfl, rfl⟩
  · rename_i unfit
    cases decision : q.registry.update rules now slot patch caller with
    | error refusal => exact ⟨⟨refusal, rfl⟩, rfl⟩
    | ok c => exact absurd (decided.1 decision).1 unfit

/-- **What a supervisor's update does.** At any moment of a run, on any disk that works from then
on, it succeeds just if the slot with the patch is valid, and stays on its weekday or has no
reservation whose session is not over by its old units. Then the new record of the slot is the old
one with the fields that the patch sets, and nothing else is changed. It answers with the dates on
which there are more reservations than the new record has seats and the session is not over by the
new units, in ascending order, with how many reservations there are. If it does not succeed,
nothing is changed. -/
theorem update_of_supervisor {disk : Journal.Disk} {hub : Hub} {counters : Counters} {drawn : Nat}
    (started : start disk hub counters drawn = .ok p) (ran : p.run rules steps = .ok q)
    (found : q.registry.roster? slot = some roster)
    (supervised : roster.isSupervisedBy (rules.directory.profile caller) = true) (now : Int)
    (patch : SlotPatch) :
    ∃ updated result after,
      updated = ⟨slot, patch.startUnit.getD roster.slot.startUnit,
        patch.duration.getD roster.slot.duration, patch.weekday.getD roster.slot.weekday,
        patch.room.getD roster.slot.room, patch.capacity.getD roster.slot.capacity⟩ ∧
      q.mended.updateSlot rules now caller slot patch = (result, after) ∧
      ((∃ overfull, result = .ok overfull) ↔ updated.validate rules.bells = .ok () ∧
        (updated.weekday = roster.slot.weekday ∨
          ∀ x ∈ roster.reservations, roster.slot.IsOver rules.bells now x.date)) ∧
      (∀ refusal, result = .error refusal → after.registry = q.registry) ∧
      ∀ overfull, result = .ok overfull →
        (∀ id, after.registry.roster? id =
          if id = slot then some { roster with slot := updated } else q.registry.roster? id) ∧
        (∀ entity, after.registry.slotOf? entity = q.registry.slotOf? entity) ∧
        overfull.Pairwise (·.date < ·.date) ∧
        ∀ o, o ∈ overfull ↔
          updated.capacity.toNat < roster.reservations.countP (·.date = o.date) ∧
            ¬ updated.IsOver rules.bells now o.date ∧
            o.count = roster.reservations.countP (·.date = o.date) ∧
            o.capacity = updated.capacity := by
  have slot_id : (patch.apply roster.slot).id = slot :=
    (filed_of_start started ran slot roster found).slot_id
  have works : q.mended.log.disk.Works := fun _ _ => rfl
  have updated := updateSlot_of_supervised works found supervised now patch
  generalize q.mended.updateSlot rules now caller slot patch = outcome at updated
  obtain ⟨result, after⟩ := outcome
  refine ⟨patch.apply roster.slot, result, after, ?_, rfl, ?_⟩
  · rw [← slot_id]
    rfl
  · split at updated
    · rename_i accepts
      obtain ⟨rfl, registry⟩ := updated
      refine ⟨iff_of_true ⟨_, rfl⟩ accepts, fun refusal refused => (nomatch refused), ?_⟩
      rintro _ ⟨⟩
      rw [registry]
      refine ⟨Registry.roster?_apply_slotUpdated found slot_id,
        Registry.slotOf?_apply_slotUpdated found slot_id, Overfull.pairwise_lines .., fun o => ?_⟩
      rw [Overfull.mem_lines_iff, Overfull.eq_line_iff, Overfull.At, and_assoc]
    · rename_i unfit
      obtain ⟨⟨refusal, rfl⟩, registry⟩ := updated
      exact ⟨iff_of_false nofun unfit, fun _ _ => registry, nofun⟩

/-- The slot with one reservation loses its seats, and gets another room at another time. -/
def moving : SlotPatch := ⟨some 2, none, none, some "102", some 0⟩

set_option maxRecDepth 2000 in
theorem update_of_supervisor_moving : ∃ q roster overfull after,
    opened.run .oneStudent (shrunk.take 3) = .ok q ∧
      q.registry.roster? (.ofNat 0) = some roster ∧
      roster.isSupervisedBy (Rules.oneStudent.directory.profile 1) = true ∧
      q.updateSlot .oneStudent 0 1 (.ofNat 0) moving = (.ok overfull, after) ∧
      after.registry.roster? (.ofNat 0) =
        some { roster with slot := ⟨.ofNat 0, 2, 1, .thursday, "102", 0⟩ } ∧
      ⟨.epoch, 1, 0⟩ ∈ overfull := by
  obtain ⟨q, roster, ran, found, works, slot, reservations, supervised⟩ : ∃ q roster,
      opened.run .oneStudent (shrunk.take 3) = .ok q ∧
        q.registry.roster? (.ofNat 0) = some roster ∧ q.log.disk.Works ∧
        roster.slot = ⟨.ofNat 0, 1, 1, .thursday, "101", 5⟩ ∧
        roster.reservations = [⟨.ofNat 3, .ofNat 0, .epoch, 7, 7⟩] ∧
        roster.isSupervisedBy (Rules.oneStudent.directory.profile 1) = true :=
    ⟨_, _, rfl, rfl, fun _ _ => rfl, rfl, rfl, rfl⟩
  obtain ⟨updated, result, after, patched, answered, ok_iff, -, done⟩ :=
    update_of_supervisor start_opened ran found supervised 0 moving
  rw [mended_of_works works] at answered
  rw [slot] at patched ok_iff
  subst patched
  obtain ⟨overfull, rfl⟩ := ok_iff.2 ⟨by decide, .inl rfl⟩
  obtain ⟨rosters, -, -, overfull_iff⟩ := done overfull rfl
  refine ⟨q, roster, overfull, after, ran, found, supervised, answered, rosters _, ?_⟩
  rw [overfull_iff, reservations]
  decide +kernel

end Planner

end Timetable
