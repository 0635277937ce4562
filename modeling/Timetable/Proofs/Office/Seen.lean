import Timetable.Proofs.Office.Jobs

/-!
# What a booking has seen

Who books for somebody else holds the slots that are on the weekday of the target, as far as they were
there when it looked. A slot that is not held was not on that weekday at some moment since the
booking had come.
-/

set_option autoImplicit false

namespace Timetable

/-- The weekday of a slot that is there. -/
def Registry.weekday? (r : Registry) (slot : Ident) : Option Weekday :=
  (r.roster? slot).map (·.slot.weekday)

/-- The target was seen on the weekday, and every slot that is not among these was seen to be
elsewhere or nowhere. The moments at which that was so are among those of `past`. -/
structure Seen (past : Registry → Prop) (target : Ident) (weekday : Weekday) (slots : List Ident) :
    Prop where
  target : ∃ u, past u ∧ u.weekday? target = some weekday
  others : ∀ slot, slot ∈ slots ∨ ∃ u, past u ∧ u.weekday? slot ≠ some weekday

/-- What a booking for somebody else has seen. -/
inductive Stage.Sees (past : Registry → Prop) (target : Ident) : Stage → Prop where
  | new : Sees past target .new
  | looking : Sees past target (.looking target)
  | scanning {weekday : Weekday} {slot : Ident} {left chosen : List Ident}
      (seen : Seen past target weekday (slot :: left ++ chosen)) :
      Sees past target (.scanning weekday slot left chosen)
  | taking {weekday : Weekday} {slot : Ident} {left held : List Ident}
      (seen : Seen past target weekday (slot :: left ++ held)) :
      Sees past target (.taking slot left held)
  | writing {weekday : Weekday} {held : List Ident} {change : Change Reply}
      (seen : Seen past target weekday held) : Sees past target (.writing held change)
  | written {weekday : Weekday} {held : List Ident} {change : Change Reply}
      {outcome : Journal.Outcome} (seen : Seen past target weekday held) :
      Sees past target (.written held change outcome)
  | done {result : Except Refusal (Change Reply)} : Sees past target (.done result)

variable {past past' : Registry → Prop} {target : Ident} {weekday : Weekday} {slots slots' : List Ident}
  {stage : Stage} {r : Registry}

theorem Seen.mono (seen : Seen past target weekday slots) (more : ∀ u, past u → past' u) :
    Seen past' target weekday slots where
  target := seen.target.imp fun u => And.imp_left (more u)
  others slot := (seen.others slot).imp_right fun elsewhere =>
    elsewhere.imp fun u => And.imp_left (more u)

/-- A slot need not be held that is elsewhere now. -/
theorem Seen.pass (seen : Seen past target weekday slots) (now : past r)
    (rest : ∀ slot ∈ slots, slot ∈ slots' ∨ r.weekday? slot ≠ some weekday) :
    Seen past target weekday slots' where
  target := seen.target
  others slot := by
    rcases seen.others slot with mem | elsewhere
    · exact (rest slot mem).imp_right fun elsewhere => ⟨r, now, elsewhere⟩
    · exact .inr elsewhere

theorem Registry.weekday?_ne (gone : r.roster? target = none) : r.weekday? target ≠ some weekday := by
  rw [weekday?, gone]
  exact nofun

/-- When the target is looked up, every slot that is there is still to be looked at. -/
theorem Seen.of_found {roster : Roster} (now : past r) (there : r.roster? target = some roster) :
    Seen past target roster.slot.weekday
      ((r.rosters.toList.map (·.1)).filter (· ≠ target) ++ [target]) where
  target := ⟨r, now, by rw [Registry.weekday?, there]; rfl⟩
  others slot := by
    cases found : r.roster? slot with
    | none => exact .inr ⟨r, now, r.weekday?_ne found⟩
    | some other =>
      left
      by_cases here : slot = target
      · exact List.mem_append_right _ (List.mem_singleton.2 here)
      · refine List.mem_append_left _ (List.mem_filter.2 ⟨?_, decide_eq_true here⟩)
        exact List.mem_map.2 ⟨(slot, other), Registry.mem_toList_iff.2 found, rfl⟩

/-- The slot that is looked at is chosen if it is on the weekday. -/
theorem Seen.look {slot : Ident} {left chosen : List Ident}
    (seen : Seen past target weekday (slot :: left ++ chosen)) (now : past r) :
    Seen past target weekday (left ++
      if (r.roster? slot).any (·.slot.weekday = weekday) then slot.insert chosen else chosen) := by
  refine seen.pass now fun s mem => ?_
  rcases List.mem_append.1 mem with mem | mem
  · rcases List.mem_cons.1 mem with rfl | mem
    · split
      · exact .inl (List.mem_append_right _ (Ident.mem_insert.2 (.inl rfl)))
      · rename_i elsewhere
        right
        intro on_weekday
        obtain ⟨roster, there, same⟩ := Option.map_eq_some_iff.1 on_weekday
        exact elsewhere (by rw [there, Option.any_some, decide_eq_true same])
    · exact .inl (List.mem_append_left _ mem)
  · refine .inl (List.mem_append_right _ ?_)
    split
    · exact Ident.mem_insert.2 (.inr mem)
    · exact mem

/-- A slot that is held is no longer waited for. -/
theorem Seen.hold {slot : Ident} {left held : List Ident}
    (seen : Seen past target weekday (slot :: left ++ held)) (now : past r) :
    Seen past target weekday (left ++ (held ++ [slot])) := by
  refine seen.pass now fun s mem => .inl ?_
  simp only [List.cons_append, List.mem_cons, List.mem_append, List.not_mem_nil,
    or_false] at mem ⊢
  tauto

namespace Stage.Sees

theorem mono (sees : stage.Sees past target) (more : ∀ u, past u → past' u) :
    stage.Sees past' target := by
  cases sees with
  | new => exact .new
  | looking => exact .looking
  | scanning seen => exact .scanning (seen.mono more)
  | taking seen => exact .taking (seen.mono more)
  | writing seen => exact .writing (seen.mono more)
  | written seen => exact .written (seen.mono more)
  | done => exact .done

theorem answered (sees : stage.Sees past target) (outcome : Journal.Outcome) :
    (stage.answered outcome).Sees past target := by
  cases sees with
  | writing seen => exact .written seen
  | new => exact .new
  | looking => exact .looking
  | scanning seen => exact .scanning seen
  | taking seen => exact .taking seen
  | written seen => exact .written seen
  | done => exact .done

variable {job : Job} {rules : Rules} {now : Int} {held left chosen : List Ident}
  {b : Registry.Booking}

theorem of_decided (seen : Seen past target weekday held) :
    (job.decided r rules now held).Sees past target := by
  rcases job.decided_cases r rules now held with ⟨result, stage⟩ | ⟨change, -, stage⟩
  · exact stage ▸ .done
  · exact stage ▸ .writing seen

/-- Without its slot a booking is refused. -/
theorem of_gone (booking : job.booking? = some b) (gone : r.roster? b.slot = none) :
    (job.decided r rules now held).Sees past target := by
  rcases job.decided_cases r rules now held with ⟨result, stage⟩ | ⟨change, decision, -⟩
  · exact stage ▸ .done
  · exfalso
    obtain ⟨caller, action, came, first, slot, stage⟩ := job
    cases action <;> cases booking
    obtain ⟨c, granted, -⟩ := Change.of_map_eq_ok decision
    obtain ⟨student, -, booked⟩ := bind_eq_ok_iff.1 granted
    obtain ⟨roster, there, -⟩ := Registry.bookHeld_eq_ok_iff.1 booked
    cases gone.symm.trans there

/-- A target that is not there is not looked at, and the booking is refused. -/
theorem of_start (booking : job.booking? = some b) (about : job.slot = some b.slot)
    (on_behalf : b.isOnBehalf = true) : (job.start r rules now).Sees past b.slot := by
  unfold Job.start
  rw [booking]
  dsimp only
  split
  · exact .done
  · split
    · exact .done
    · split
      · exact .looking
      · rename_i missing
        have gone : r.roster? b.slot = none := by
          simpa only [on_behalf, true_and, Option.not_isSome_iff_eq_none] using missing
        rw [Job.take, gone, Option.isSome_none, if_neg Bool.false_ne_true, if_pos about]
        exact of_gone booking gone

variable (booking : job.booking? = some b) (about : job.slot = some b.slot) (now_past : past r)
include booking about now_past

theorem of_take (seen : Seen past target weekday (left ++ held)) :
    (job.take r rules now held left).Sees past target := by
  have taken := job.taken r rules now held left
  generalize job.take r rules now held left = stage at taken
  cases taken with
  | waits split gone =>
    refine .taking (seen.pass now_past fun s mem => ?_)
    rw [split, List.append_assoc] at mem
    exact (List.mem_append.1 mem).symm.imp_right fun mem => r.weekday?_ne (gone s mem).1
  | through gone =>
    refine of_decided (seen.pass now_past fun s mem => ?_)
    exact (List.mem_append.1 mem).symm.imp_right fun mem => r.weekday?_ne (gone s mem).1
  | refused about' gone =>
    rw [Option.some.inj (about'.symm.trans about)] at gone
    exact of_gone booking gone

theorem of_scan {pick : Nat} (seen : Seen past target weekday (left ++ chosen)) :
    (job.scan r rules now pick weekday left chosen).Sees past target := by
  have same (s : Ident) : s ∈ left.drop pick ++ left.take pick ↔ s ∈ left := by
    rw [List.mem_append, or_comm, ← List.mem_append, List.take_append_drop]
  unfold Job.scan
  split
  · rename_i nothing
    have seen' : Seen past target weekday (chosen ++ []) := by
      rw [List.append_nil]
      refine seen.pass now_past fun s mem => .inl ((List.mem_append.1 mem).elim (fun mem => ?_) id)
      rw [← same, nothing] at mem
      cases mem
    exact of_take booking about now_past seen'
  · rename_i slot rest picked
    refine .scanning (seen.pass now_past fun s mem => .inl ?_)
    rcases List.mem_append.1 mem with mem | mem
    · rw [← same, picked] at mem
      exact List.mem_append_left _ mem
    · exact List.mem_append_right _ mem

/-- What a booking for somebody else has seen when it goes on. -/
theorem next (on_behalf : b.isOnBehalf = true) (sees : job.stage.Sees past b.slot) (pick : Nat) :
    (job.next r rules now pick).Sees past b.slot := by
  unfold Job.next
  split
  · exact of_start booking about on_behalf
  · rename_i slot stage
    rw [stage] at sees
    cases sees with
    | looking =>
      split
      · rename_i roster there
        exact of_scan booking about now_past (.of_found now_past there)
      · rename_i gone
        exact of_gone booking gone
  · rename_i weekday slot left chosen stage
    rw [stage] at sees
    cases sees with
    | scanning seen => exact of_scan booking about now_past (seen.look now_past)
  · rename_i slot left held stage
    rw [stage] at sees
    cases sees with
    | taking seen =>
      split
      · exact of_take booking about now_past (seen.hold now_past)
      · exact of_take booking about now_past seen
  · exact .done
  · exact .done
  · exact sees

end Stage.Sees

end Timetable
