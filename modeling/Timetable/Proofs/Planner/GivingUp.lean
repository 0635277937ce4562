import Timetable.Proofs.Planner.Removals
import Timetable.Proofs.Planner.Turn
import Timetable.Proofs.Planner.WellKept

/-!
# Giving up a reservation

Who asks for a reservation to be given up gets the reply that is due, or hears that there is no such
reservation. If it is removed, nothing else goes with it, and it does not come back: its id is never
given out again, so from then on there is no such reservation.
-/

set_option autoImplicit false

namespace Timetable

/-- Among reservations with different ids each is found by its id. -/
theorem Roster.reservation?_of_mem {roster : Roster}
    (unique : (roster.reservations.map (·.id)).Nodup) {x : Reservation}
    (mem : x ∈ roster.reservations) : roster.reservation? x.id = some x := by
  cases found : roster.reservation? x.id with
  | none => exact absurd (List.mem_map_of_mem mem) (Roster.reservation?_eq_none_iff.1 found)
  | some y =>
    obtain ⟨there, same⟩ := Roster.of_reservation?_eq_some found
    rw [List.inj_on_of_nodup_map unique there mem same]

/-- The reply is that the reservation has been removed. -/
def Removed (reply : Except Refusal UnbookMode) : Prop := reply = .ok .self ∨ reply = .ok .forced

namespace Registry

variable {r : Registry} {rules : Rules} {now : Int} {slot id : Ident} {user : UserId}
  {roster : Roster} {x : Reservation} {force strict : Bool}

/-! ## What is decided -/

/-- A reservation that a slot has is found, and decided on by the phase of its session. -/
theorem Indexed.unbook_of_mem (indexed : r.Indexed) (fits : r.Fits rules.bells)
    (found : r.roster? slot = some roster) (mem : x ∈ roster.reservations) :
    ∃ phase, roster.slot.phaseOn rules.bells now x.date = .ok phase ∧
      (r.unbook rules now x.id user force strict).map (·.answer) =
        unbookMode rules roster x phase user force strict := by
  have holding : r.rosterHolding x.id = .ok roster := by
    refine indexed.rosterHolding_eq_ok_iff.2 ⟨mem_rosterList_iff.2 ⟨slot, found⟩, ?_⟩
    exact List.mem_append_right _ (List.mem_map_of_mem mem)
  have there := Roster.reservation?_of_mem (indexed.nodup_reservations found) mem
  obtain ⟨phase, in_phase⟩ := Slot.exists_phaseOn_eq_ok (fits slot roster found) now x.date
  refine ⟨phase, in_phase, ?_⟩
  simp only [unbook, bind, Except.bind, holding, there, in_phase]
  rcases unbookMode rules roster x phase user force strict with refusal | mode
  · rfl
  · cases mode <;> rfl

/-- Unless the reservation is removed, nothing is to be written. -/
theorem eventsOf_unbook_of_not_removed
    (kept : ¬ Removed ((r.unbook rules now id user force strict).map (·.answer))) :
    Change.eventsOf (r.unbook rules now id user force strict) = [] := by
  cases decided : r.unbook rules now id user force strict with
  | error refusal => rfl
  | ok c =>
    obtain ⟨roster, -, x, -, phase, -, mode, -, rfl⟩ := unbook_eq_ok_iff.1 decided
    rw [decided] at kept
    cases mode with
    | self => exact absurd (.inl rfl) kept
    | forced => exact absurd (.inr rfl) kept
    | requested => rfl

/-! ## What is removed -/

/-- One reservation is taken from a slot, and its id from the index. -/
structure Drops (r : Registry) (slot : Ident) (roster : Roster) (x : Reservation) (r' : Registry) :
    Prop where
  roster : ∃ front back, roster.reservations = front ++ x :: back ∧
    r'.roster? slot = some { roster with reservations := front ++ back }
  others : ∀ other, other ≠ slot → r'.roster? other = r.roster? other
  index : ∀ entity, r'.slotOf? entity = if entity = x.id then none else r.slotOf? entity

theorem drops_apply (found : r.roster? slot = some roster) (has : roster.reservation? id = some x) :
    r.Drops slot roster x (r.apply (.reservationCancelled id slot)) := by
  obtain ⟨mem, rfl⟩ := Roster.of_reservation?_eq_some has
  obtain ⟨front, back, split, left⟩ := Roster.removeReservation_of_has has
  refine ⟨⟨front, back, split, ?_⟩, ?_, ?_⟩
  · rw [roster?_apply, ← left, found]
    exact if_pos rfl
  · intro other elsewhere
    rw [roster?_apply]
    exact if_neg (Ne.symm elsewhere)
  · intro entity
    rw [slotOf?_apply rfl found, getElem?_reindexed, if_neg nofun]
    simp only [Event.removes?, Option.some_inj]
    rfl

/-- When a reservation is removed, nothing else is. -/
theorem drops_of_unbook (filed : r.Filed) {c : Change UnbookMode}
    (decided : r.unbook rules now id user force strict = .ok c)
    (removed : Removed (.ok c.answer)) : ∃ slot roster x, r.roster? slot = some roster ∧
      x.id = id ∧ r.Drops slot roster x (r.applyAll c.events) := by
  obtain ⟨roster, holding, x, has, -, -, mode, -, rfl⟩ := unbook_eq_ok_iff.1 decided
  obtain ⟨slot, -, found⟩ := Registry.rosterHolding_eq_ok_iff.1 holding
  obtain ⟨mem, same⟩ := Roster.of_reservation?_eq_some has
  have at_slot : x.slotId = slot := (filed slot roster found).reservation_slot x mem
  refine ⟨slot, roster, x, found, same, ?_⟩
  rw [← at_slot] at found ⊢
  cases mode with
  | self | forced => exact drops_apply found has
  | requested => rcases removed with removed | removed <;> cases removed

/-- No slot has a reservation of that id. -/
def Lacks (r : Registry) (id : Ident) : Prop :=
  ∀ roster ∈ r.rosterList, id ∉ roster.reservations.map (·.id)

theorem Lacks.not_mem (lacks : r.Lacks id) (found : r.roster? slot = some roster) :
    id ∉ roster.reservations.map (·.id) := lacks roster (mem_rosterList_iff.2 ⟨slot, found⟩)

/-- What has been dropped is in no slot. -/
theorem Indexed.lacks (indexed : r.Indexed) (gone : r.slotOf? id = none) : r.Lacks id := by
  intro roster mem there
  obtain ⟨slot, found⟩ := mem_rosterList_iff.1 mem
  exact indexed.not_mem_entities gone found (List.mem_append_right _ there)

end Registry

namespace Planner

variable {p q q' : Planner} {rules : Rules} {steps more : List Step} {s : Step} {id : Ident}
  {now : Int} {caller : UserId} {force strict : Bool}

theorem unbook_eq_notFound_iff (indexed : q.registry.Indexed) (fits : q.registry.Fits rules.bells) :
    (q.unbook rules now caller id force strict).1 = .error (.notFound id) ↔ q.registry.Lacks id := by
  rw [Registry.Lacks, ← indexed.unbook_eq_notFound_iff fits]
  exact (settled_unbook q rules now caller id force strict).1.eq_error_iff nofun

/-- On a disk that works the answer is as has been decided. -/
theorem unbook_of_works (works : q.log.disk.Works) (rules : Rules) (now : Int) (caller : UserId)
    (id : Ident) (force strict : Bool) :
    (q.unbook rules now caller id force strict).1 =
      (q.registry.unbook rules now id caller force strict).map (·.answer) := by
  obtain ⟨_, counters, rfl, unbooked⟩ := q.unbook_eq_settle rules now caller id force strict
  rw [unbooked]
  exact (settle_of_works works now _).1

/-- When a reservation has been removed, nothing else has. -/
theorem drops_of_unbook (filed : q.registry.Filed)
    (removed : Removed (q.unbook rules now caller id force strict).1) :
    ∃ slot roster x, q.registry.roster? slot = some roster ∧ x.id = id ∧
      q.registry.Drops slot roster x (q.unbook rules now caller id force strict).2.registry := by
  obtain ⟨settled, -⟩ := settled_unbook q rules now caller id force strict
  obtain ⟨mode, answered⟩ : ∃ mode, (q.unbook rules now caller id force strict).1 = .ok mode := by
    rcases removed with self | forced
    · exact ⟨_, self⟩
    · exact ⟨_, forced⟩
  obtain ⟨c, decided, rfl, registry⟩ := settled.of_ok answered
  rw [answered] at removed
  rw [registry]
  exact Registry.drops_of_unbook filed decided removed

/-! ## What is gone stays gone -/

/-- A step brings no reservation with an id that has been given out. -/
theorem History.lacks_step (h : History rules p steps q)
    (h' : History rules p (steps ++ [s]) q') (given : rules.Given q.drawn id)
    (lacks : q.registry.Lacks id) : q'.registry.Lacks id := by
  intro roster mem there
  obtain ⟨slot, found⟩ := Registry.mem_rosterList_iff.1 mem
  have turn := h.turn h' slot
  have absent (before : Roster) (found : q.registry.roster? slot = some before) :=
    lacks.not_mem found
  rw [found] at turn
  generalize q.registry.roster? slot = old at turn absent
  cases turn with
  | thinned thinned => exact absent _ rfl ((thinned.reservations.map _).subset there)
  | created record supervisors => exact List.not_mem_nil there
  | updated asked answered takes => exact absent _ rfl there
  | booked asked answered seat =>
    obtain ⟨y, hy, same⟩ := List.mem_map.1 there
    rcases Reservation.mem_insert.1 hy with rfl | old
    · -- The id has just been drawn.
      have fresh := h'.fresh
      rw [Step.drawsAll_append, ← h.stands.2.1, asked] at fresh
      obtain rfl : rules.ids q.drawn = id := same
      exact fresh.not_given (Nat.lt_succ_self q.drawn) given
    · exact absent _ rfl (List.mem_map.2 ⟨y, old, same⟩)

/-- **What was there and is gone does not come back**, whatever is asked for, and whenever the
journal is compacted or the planner is restarted. -/
theorem History.lacks_run (h : History rules p steps q) (given : rules.Given q.drawn id)
    (lacks : q.registry.Lacks id) (h' : History rules p (steps ++ more) q') :
    rules.Given q'.drawn id ∧ q'.registry.Lacks id := by
  induction more using List.reverseRecOn generalizing q' with
  | nil =>
    rw [List.append_nil] at h'
    cases h.ran.symm.trans h'.ran
    exact ⟨given, lacks⟩
  | append_singleton more s ih =>
    rw [← List.append_assoc] at h'
    obtain ⟨q'', h'', stepped⟩ := h'.init
    obtain ⟨given, lacks⟩ := ih h''
    refine ⟨?_, h''.lacks_step h' given lacks⟩
    rw [drawn_of_step stepped]
    exact given.mono (Nat.le_add_right _ _)

/-- So it is with what a step takes out of the index. -/
theorem History.lacks_after (h : History rules p steps q) {q₁ : Planner}
    (stepped : q.step rules s = .ok q₁) (given : rules.Given q.drawn id)
    (gone : q₁.registry.slotOf? id = none) (h' : History rules p (steps ++ s :: more) q') :
    q'.registry.Lacks id := by
  rw [List.append_cons] at h'
  have h₁ : History rules p (steps ++ [s]) q₁ :=
    h'.front (run_snoc_eq_ok_iff.2 ⟨q, h.ran, stepped⟩)
  have given₁ : rules.Given q₁.drawn id := by
    rw [drawn_of_step stepped]
    exact given.mono (Nat.le_add_right _ _)
  exact (h₁.lacks_run given₁ (h₁.indexed.lacks gone) h').2

/-- **Giving up a reservation**, at any moment of a run on a disk that works at which the slots fit
the bell schedule and the index has exactly what is stored, as in every history. Whoever asks for a
reservation to be given up, hears that it is not found just if no slot has it, and otherwise gets
the reply that is due to its student, to a supervisor of its slot, or to somebody else, in the phase
of its session. If it is removed, it goes from its slot and from the index and nothing else is
changed, and with any other reply nothing is changed at all. And once it has been removed in a
history, whoever asks at any later moment, behind whatever requests, compactions and restarts, hears
that it is not found. -/
theorem unbook_of_run {disk : Journal.Disk} {hub : Hub} {counters : Counters} {drawn : Nat}
    (started : start disk hub counters drawn = .ok p) (ran : p.run rules steps = .ok q)
    (well : q.registry.Fits rules.bells ∧ q.registry.Indexed ∨ History rules p steps q)
    (works : q.log.disk.Works) (now : Int) (caller : UserId) (id : Ident) (force strict : Bool) :
    ∃ reply after, q.unbook rules now caller id force strict = (reply, after) ∧
      (reply = .error (.notFound id) ↔
        ∀ roster ∈ q.registry.rosterList, id ∉ roster.reservations.map (·.id)) ∧
      (∀ slot roster x, q.registry.roster? slot = some roster → x ∈ roster.reservations →
        x.id = id → ∃ phase, roster.slot.phaseOn rules.bells now x.date = .ok phase ∧
          ∀ due, reply = due ↔ UnbookReply id (x.userId = caller)
            (roster.isSupervisedBy (rules.directory.profile caller) = true) phase force strict
            due) ∧
      (¬ Removed reply → after.registry = q.registry ∧ after.log = q.log) ∧
      (Removed reply →
        (∃ slot roster x, q.registry.roster? slot = some roster ∧ x.id = id ∧
          q.registry.Drops slot roster x after.registry) ∧
        ∀ more q', History rules p (steps ++
            .request ⟨now, caller, .unbookReservation id (!force) strict⟩ :: more) q' →
          ∀ now' caller' force' strict',
            (q'.unbook rules now' caller' id force' strict').1 = .error (.notFound id)) := by
  obtain ⟨fits, indexed⟩ : q.registry.Fits rules.bells ∧ q.registry.Indexed :=
    well.elim (fun both => both) fun h => ⟨h.fits, h.indexed⟩
  have decided := unbook_of_works works rules now caller id force strict
  refine ⟨(q.unbook rules now caller id force strict).1,
    (q.unbook rules now caller id force strict).2, rfl, unbook_eq_notFound_iff indexed fits, ?_, ?_,
    ?_⟩
  · rintro slot roster x found mem rfl
    obtain ⟨phase, in_phase, reply⟩ := indexed.unbook_of_mem fits found mem
    refine ⟨phase, in_phase, fun due => ?_⟩
    rw [decided, reply, Registry.unbookMode_eq_iff]
  · intro kept
    rw [decided] at kept
    obtain ⟨_, counters, rfl, unbooked⟩ := q.unbook_eq_settle rules now caller id force strict
    rw [unbooked]
    exact settle_of_eventsOf_eq_nil now (Registry.eventsOf_unbook_of_not_removed kept)
  · intro removed
    have drops := drops_of_unbook (filed_of_start started ran) removed
    refine ⟨drops, ?_⟩
    obtain ⟨slot, roster, x, found, rfl, drops⟩ := drops
    intro more q' h' now' caller' force' strict'
    have h := h'.front ran
    obtain ⟨front, back, split, -⟩ := drops.roster
    have mem : x ∈ roster.reservations := split ▸ List.mem_append_right _ List.mem_cons_self
    have leads : q.registry.slotOf? x.id = some slot :=
      (indexed.index _ _).2 ⟨roster, found, List.mem_append_right _ (List.mem_map_of_mem mem)⟩
    have given := h.stands.1.within.entities x.id slot leads
    have gone := (drops.index x.id).trans (if_pos rfl)
    have stepped : q.step rules (.request ⟨now, caller, .unbookReservation x.id (!force) strict⟩) =
        .ok (q.unbook rules now caller x.id (!!force) strict).2 := rfl
    rw [Bool.not_not] at stepped
    exact (unbook_eq_notFound_iff h'.indexed h'.fits).2 (h.lacks_after stepped given gone h')

/-- The student gives up the only reservation. -/
def givingUp : List Step :=
  (Demand.displacing.take 6).map .request ++
    .request ⟨0, 7, .unbookReservation (.ofNat 6) true false⟩ :: [.compact, .restart]

set_option maxRecDepth 2000 in
/-- Behind a compaction and a restart a supervisor asks for it in vain. -/
theorem unbook_of_run_givingUp : ∃ q after q',
    History .oneStudent opened ((Demand.displacing.take 6).map .request) q ∧
      q.log.disk.Works ∧ q.unbook .oneStudent 0 7 (.ofNat 6) false false = (.ok .self, after) ∧
      History .oneStudent opened givingUp q' ∧
      (q'.unbook .oneStudent 0 1 (.ofNat 6) true false).1 = .error (.notFound (.ofNat 6)) := by
  obtain ⟨q, h⟩ := History.of_works ((Demand.displacing.take 6).map .request) (d := .empty)
    (fun _ _ => rfl) (.inl rfl) (by decide) start_opened (Rules.freshBelow_oneStudent (by decide))
  obtain ⟨q', h'⟩ := History.of_works givingUp (d := .empty) (fun _ _ => rfl) (.inl rfl) (by decide)
    start_opened (Rules.freshBelow_oneStudent (by decide))
  obtain ⟨roster, works, found, mem, in_phase⟩ : ∃ roster, q.log.disk.Works ∧
      q.registry.roster? (.ofNat 0) = some roster ∧ attended ∈ roster.reservations ∧
      roster.slot.phaseOn .standard 0 .epoch = .ok .future := by
    obtain ⟨q₁, roster, ran, rest⟩ : ∃ q₁ roster,
        opened.run .oneStudent ((Demand.displacing.take 6).map .request) = .ok q₁ ∧
          q₁.log.disk.Works ∧ q₁.registry.roster? (.ofNat 0) = some roster ∧
          attended ∈ roster.reservations ∧ roster.slot.phaseOn .standard 0 .epoch = .ok .future :=
      ⟨_, _, rfl, fun _ _ => rfl, rfl, by decide +kernel, rfl⟩
    cases ran.symm.trans h.ran
    exact ⟨roster, rest⟩
  obtain ⟨reply, after, unbooked, -, due_iff, -, removed⟩ :=
    unbook_of_run start_opened h.ran (.inr h) works 0 7 (.ofNat 6) false false
  obtain ⟨phase, in_phase', due_iff⟩ := due_iff _ roster attended found mem rfl
  cases in_phase.symm.trans in_phase'
  obtain rfl := (due_iff (.ok .self)).2 (.ownRemoved rfl rfl)
  obtain ⟨-, gone⟩ := removed (.inl rfl)
  exact ⟨q, after, q', h, works, unbooked, h', gone _ q' h' 0 1 true false⟩

end Planner

end Timetable
