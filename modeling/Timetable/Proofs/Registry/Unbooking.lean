import Timetable.Change.Unbooking

/-!
# Who may give up a reservation

A reservation is given up by its student until the session starts, even if the student supervises the
slot, or by order of a supervisor until the session ends. A supervisor who does not insist asks the
student instead. Nobody else has a say.
-/

set_option autoImplicit false

namespace Timetable

/-- What is answered to who wants a reservation given up: it is the user's own or not, the user
supervises the slot or not, and the session is in some phase. -/
inductive UnbookReply (id : Ident) (own supervises : Prop) (phase : Phase) (force strict : Bool) :
    Except Refusal UnbookMode → Prop where
  | ownEnded (mine : own) (past : phase = .past) :
      UnbookReply id own supervises phase force strict (.error (.alreadyEnded id))
  | ownStarted (mine : own) (active : phase = .active) :
      UnbookReply id own supervises phase force strict (.error (.alreadyStarted id))
  | ownRemoved (mine : own) (future : phase = .future) :
      UnbookReply id own supervises phase force strict (.ok .self)
  | ended (other : ¬ own) (supervised : supervises) (past : phase = .past) :
      UnbookReply id own supervises phase force strict (.error (.alreadyEnded id))
  | removed (other : ¬ own) (supervised : supervises) (live : phase ≠ .past)
      (forced : force = true) : UnbookReply id own supervises phase force strict (.ok .forced)
  | forceRequired (other : ¬ own) (supervised : supervises) (active : phase = .active)
      (nice : force = false) (strictly : strict = true) :
      UnbookReply id own supervises phase force strict (.error (.forceRequired id))
  | requested (other : ¬ own) (supervised : supervises) (live : phase ≠ .past)
      (nice : force = false) (may_ask : strict = false ∨ phase = .future) :
      UnbookReply id own supervises phase force strict (.ok .requested)
  | forbidden (other : ¬ own) (unsupervised : ¬ supervises) :
      UnbookReply id own supervises phase force strict
        (.error (.forbidden "only the owner or a supervisor may unbook"))

namespace Registry

variable {rules : Rules} {roster : Roster} {x : Reservation} {phase : Phase} {user : UserId}
  {force strict : Bool} {reply : Except Refusal UnbookMode}

/-- It is decided as the reply is to be, so there is just one reply in every case. -/
theorem unbookMode_eq_iff : unbookMode rules roster x phase user force strict = reply ↔
    UnbookReply x.id (x.userId = user)
      (roster.isSupervisedBy (rules.directory.profile user) = true) phase force strict reply := by
  constructor
  · rintro rfl
    unfold unbookMode
    split
    · rename_i mine
      cases phase with
      | past => exact .ownEnded mine rfl
      | active => exact .ownStarted mine rfl
      | future => exact .ownRemoved mine rfl
    · rename_i other
      split
      · rename_i supervised
        split
        · rename_i past
          exact .ended other supervised past
        · rename_i live
          split
          · rename_i forced
            exact .removed other supervised live forced
          · rename_i nice
            have nice : force = false := Bool.not_eq_true _ ▸ nice
            split
            · rename_i insist
              exact .forceRequired other supervised insist.2 nice insist.1
            · rename_i may_ask
              refine .requested other supervised live nice ?_
              cases phase with
              | past => exact absurd rfl live
              | active => exact .inl (Bool.eq_false_iff.2 fun strictly => may_ask ⟨strictly, rfl⟩)
              | future => exact .inr rfl
      · rename_i unsupervised
        exact .forbidden other unsupervised
  · intro told
    unfold unbookMode
    cases told with
    | ownEnded mine at_phase | ownStarted mine at_phase | ownRemoved mine at_phase =>
      rw [if_pos mine, at_phase]
    | ended other supervised past =>
      rw [if_neg other, if_pos supervised, if_pos past]
    | removed other supervised live forced =>
      rw [if_neg other, if_pos supervised, if_neg live, if_pos forced]
    | forceRequired other supervised active nice strictly =>
      subst active nice strictly
      rw [if_neg other, if_pos supervised]
      rfl
    | requested other supervised live nice may_ask =>
      have not_insist : ¬ (strict = true ∧ phase = .active) := by
        rintro ⟨rfl, rfl⟩
        rcases may_ask with nice | future <;> contradiction
      subst nice
      rw [if_neg other, if_pos supervised, if_neg live, if_neg Bool.false_ne_true,
        if_neg not_insist]
    | forbidden other unsupervised => rw [if_neg other, if_neg unsupervised]

/-- Nobody is told that the reservation does not exist. -/
theorem unbookMode_ne_notFound (rules : Rules) (roster : Roster) (x : Reservation) (phase : Phase)
    (user : UserId) (force strict : Bool) (id : Ident) :
    unbookMode rules roster x phase user force strict ≠ .error (.notFound id) := by
  intro h
  cases unbookMode_eq_iff.1 h

/-- How a reservation may be given up: never when its session is over; by its student, by order
of a supervisor, or on a supervisor's request, which takes nothing. -/
theorem unbookMode_eq_ok {mode : UnbookMode}
    (h : unbookMode rules roster x phase user force strict = .ok mode) : phase ≠ .past ∧
      (mode = .self ∧ x.userId = user ∨ mode = .forced ∧ x.userId ≠ user ∧ force = true ∨
        mode = .requested ∧ x.userId ≠ user) := by
  cases unbookMode_eq_iff.1 h with
  | ownRemoved mine future => exact ⟨future ▸ nofun, .inl ⟨rfl, mine⟩⟩
  | removed other supervised live forced => exact ⟨live, .inr (.inl ⟨rfl, other, forced⟩)⟩
  | requested other supervised live nice may_ask => exact ⟨live, .inr (.inr ⟨rfl, other⟩)⟩

end Registry

end Timetable
