import Timetable.Proofs.Overfull
import Timetable.Proofs.Planner.Cut
import Timetable.Proofs.Planner.History

/-!
# What is refused leaves no trace

An operation that is refused leaves the registry and the notices of all users as they were, however
late it is refused: by what is asked for, by the authority of the caller, by the state of the slot,
or by the journal. Unless it was the journal that refused, the journal is untouched as well.

The dates on which a slot has too many reservations can be looked up after the change of the slot
has been recorded, too. A refusal could come too late then, but there is none: a slot that has been
validated has a session on every date.
-/

set_option autoImplicit false

namespace Timetable

/-- The roster with its record patched, if the caller may patch it so. -/
def Registry.patched (r : Registry) (rules : Rules) (now : Int) (slot : Ident) (patch : SlotPatch)
    (user : UserId) : Except Refusal Roster := do
  let roster ← r.supervisedRoster rules slot user
  let updated := patch.apply roster.slot
  updated.validate rules.bells
  if updated.weekday ≠ roster.slot.weekday then
    requireOver roster.slot rules.bells now roster.reservations
  return { roster with slot := updated }

namespace Registry

variable {r : Registry} {rules : Rules} {now : Int} {slot : Ident} {patch : SlotPatch}
  {user : UserId}

theorem update_eq_bind_patched :
    r.update rules now slot patch user = do
      let roster ← r.patched rules now slot patch user
      return .one (.slotUpdated roster.slot)
        (← Overfull.of roster.slot rules.bells now roster.reservations) := by
  rw [update, patched]
  cases r.supervisedRoster rules slot user with
  | error refusal => rfl
  | ok roster =>
    simp only [bind, Except.bind]
    cases (patch.apply roster.slot).validate rules.bells with
    | error refusal => rfl
    | ok u =>
      dsimp only
      split
      · cases requireOver roster.slot rules.bells now roster.reservations <;> rfl
      · rfl

theorem validate_of_patched {roster : Roster}
    (h : r.patched rules now slot patch user = .ok roster) :
    roster.slot.validate rules.bells = .ok () := by
  simp only [patched, bind_eq_ok_iff, Unique.exists_iff, PUnit.default_eq_unit] at h
  obtain ⟨before, -, valid, h⟩ := h
  split at h
  · obtain ⟨⟨⟩, -, h⟩ := bind_eq_ok_iff.1 h
    cases h
    exact valid
  · cases h
    exact valid

end Registry

namespace Planner

variable {p q : Planner} {rules : Rules} {now : Int} {refusal : Refusal}

/-- Updates a slot, and looks up its overfull dates only when that has been recorded. -/
def updateThenList (p : Planner) (rules : Rules) (now : Int) (user : UserId) (slot : Ident)
    (patch : SlotPatch) : Except Refusal (List Overfull) × Planner :=
  match p.registry.patched rules now slot patch user with
  | .error refusal => (.error refusal, p)
  | .ok roster =>
    match p.record [.slotUpdated roster.slot] with
    | (.error refusal, p) => (.error refusal, p)
    | (.ok (), p) => (Overfull.of roster.slot rules.bells now roster.reservations, p)

/-- It makes no difference when the overfull dates are looked up, as that cannot fail. -/
theorem updateThenList_eq (p : Planner) (rules : Rules) (now : Int) (user : UserId) (slot : Ident)
    (patch : SlotPatch) :
    p.updateThenList rules now user slot patch = p.updateSlot rules now user slot patch := by
  rw [updateThenList, updateSlot, Registry.update_eq_bind_patched]
  cases admitted : p.registry.patched rules now slot patch user with
  | error refusal => rfl
  | ok roster =>
    have listed := Overfull.of_eq_ok (Registry.validate_of_patched admitted) now roster.reservations
    simp only [bind, Except.bind, listed]
    rfl

/-! ## Refusals -/

/-- A refusal has changed nothing that users can see, and nothing in the journal either unless it
comes from there. -/
structure Spared (p : Planner) (refusal : Refusal) (q : Planner) : Prop where
  registry : q.registry = p.registry
  hub : q.hub = p.hub
  log : (∀ e, refusal ≠ .storage e) → q.log = p.log

theorem Spared.refl (p : Planner) (refusal : Refusal) : p.Spared refusal p :=
  ⟨rfl, rfl, fun _ => rfl⟩

/-- A change that is not carried out, whether it is not decided on or not recorded. -/
theorem spared_settle {α : Type} {decision : Except Refusal (Change α)}
    (refused : (p.settle now decision).1 = .error refusal) :
    p.Spared refusal (p.settle now decision).2 := by
  have settling := p.settling now decision
  generalize p.settle now decision = result at settling refused
  cases settling with
  | refused => exact Spared.refl p refusal
  | unwritten | taken => cases refused
  | denied =>
    cases refused
    exact ⟨rfl, rfl, fun other => absurd rfl (other _)⟩

theorem spared_book {caller : UserId} {slot : Ident} {date : Date} {student : UserId}
    (refused : (p.book rules now caller slot date student).1 = .error refusal) :
    p.Spared refusal (p.book rules now caller slot date student).2 := by
  obtain ⟨_, counters, rfl, booked⟩ := p.book_eq_settle rules now caller slot date student
  rw [booked] at refused ⊢
  obtain ⟨registry, hub, log⟩ := spared_settle refused
  exact ⟨registry, hub, log⟩

theorem spared_unbook {caller : UserId} {id : Ident} {force strict : Bool}
    (refused : (p.unbook rules now caller id force strict).1 = .error refusal) :
    p.Spared refusal (p.unbook rules now caller id force strict).2 := by
  have spared : (p.settle now (p.registry.unbook rules now id caller force strict)).1 =
        .error refusal → p.Spared refusal
      (p.settle now (p.registry.unbook rules now id caller force strict)).2 := spared_settle
  rw [unbook] at refused ⊢
  generalize p.settle now _ = result at refused spared ⊢
  obtain ⟨outcome, q⟩ := result
  cases outcome with
  | ok mode => cases refused
  | error other =>
    cases refused
    exact spared rfl

theorem spared_compact (refused : p.compact.1 = .error refusal) : p.Spared refusal p.compact.2 := by
  refine ⟨rfl, rfl, fun other => ?_⟩
  unfold compact at refused
  generalize p.log.compact p.registry.events = result at refused
  obtain ⟨outcome, log⟩ := result
  cases outcome with
  | ok u => cases refused
  | error e =>
    cases refused
    exact absurd rfl (other e)

theorem of_answer_eq_error {α : Type} {form : α → Json} {result : Except Refusal α × Planner}
    (refused : (answer form result).1 = .error refusal) : result.1 = .error refusal := by
  obtain ⟨outcome, q⟩ := result
  cases outcome with
  | ok a => cases refused
  | error other =>
    cases refused
    rfl

/-- **What is refused leaves no trace**, in any state and whatever is asked for: the registry and
what every user is yet to be told are as before, and so is the journal unless it is the journal that
refuses. The same goes for a compaction. An update is refused before it is recorded or not at all:
to look up the overfull dates only afterwards comes to the same. -/
theorem spared_of_refused (p : Planner) (rules : Rules) (now : Int) (caller : UserId) :
    (∀ action refusal, (p.perform rules now caller action).1 = .error refusal →
      p.Spared refusal (p.perform rules now caller action).2) ∧
    (∀ refusal, p.compact.1 = .error refusal → p.Spared refusal p.compact.2) ∧
    ∀ slot patch, p.updateThenList rules now caller slot patch =
      p.updateSlot rules now caller slot patch := by
  refine ⟨?_, fun refusal => spared_compact, fun slot patch => p.updateThenList_eq ..⟩
  intro action refusal refused
  -- Ids that have been drawn in vain are not given back, which is all that is left of a refusal.
  have drawn {n : Nat} {q : Planner} (spared : Spared { p with drawn := n } refusal q) :
      p.Spared refusal q := ⟨spared.registry, spared.hub, spared.log⟩
  cases action with
  | createSlot startUnit duration weekday room capacity =>
    exact drawn (spared_settle (of_answer_eq_error refused))
  | updateSlot slot patch => exact spared_settle (of_answer_eq_error refused)
  | deleteSlot slot => exact spared_settle (of_answer_eq_error refused)
  | addSlotFilter slot course cohort => exact drawn (spared_settle (of_answer_eq_error refused))
  | deleteSlotFilter filter => exact spared_settle (of_answer_eq_error refused)
  | addSlotSupervisor slot user => exact drawn (spared_settle (of_answer_eq_error refused))
  | removeSlotSupervisor slot user => exact spared_settle (of_answer_eq_error refused)
  | bookReservation slot date user => exact spared_book (of_answer_eq_error refused)
  | unbookReservation reservation nice strict => exact spared_unbook (of_answer_eq_error refused)
  | _ => exact Spared.refl p refusal

set_option maxRecDepth 2000 in
/-- A booking that would displace another one is refused by the journal, and a deletion for want of
authority. -/
theorem spared_of_refused_displacing : ∃ p q,
    start (.failingAt 13) .empty [] 0 = .ok p ∧
      p.run .oneStudent ((Demand.displacing.take 6).map .request) = .ok q ∧
      (q.perform .oneStudent 0 1 (.bookReservation (.ofNat 2) .epoch (some 7))).1 =
        .error (.storage .fileTooLarge) ∧
      (q.perform .oneStudent 0 1 (.bookReservation (.ofNat 2) .epoch (some 7))).2.registry =
        q.registry ∧
      (q.perform .oneStudent 0 1 (.deleteSlot (.ofNat 9))).1 = .error (.notFound (.ofNat 9)) ∧
      (q.perform .oneStudent 0 1 (.deleteSlot (.ofNat 9))).2.log = q.log := by
  obtain ⟨p, q, started, ran, denied, missing⟩ : ∃ p q,
      start (.failingAt 13) .empty [] 0 = .ok p ∧
        p.run .oneStudent ((Demand.displacing.take 6).map .request) = .ok q ∧
        (q.perform .oneStudent 0 1 (.bookReservation (.ofNat 2) .epoch (some 7))).1 =
          .error (.storage .fileTooLarge) ∧
        (q.perform .oneStudent 0 1 (.deleteSlot (.ofNat 9))).1 = .error (.notFound (.ofNat 9)) :=
    ⟨_, _, rfl, rfl, rfl, rfl⟩
  have spared := (spared_of_refused q .oneStudent 0 1).1
  exact ⟨p, q, started, ran, denied, (spared _ _ denied).registry, missing,
    (spared _ _ missing).log nofun⟩

end Planner

end Timetable
