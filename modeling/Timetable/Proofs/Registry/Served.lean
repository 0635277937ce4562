import Mathlib.Data.Finset.Card
import Timetable.Proofs.Registry.Seats
import Timetable.Refusal

/-!
# Who gets a seat

Users ask one after the other for the seats that are left on a date. Each who is new gets one as
long as there are seats. How many seats are given away depends on who asks but not on the order.
-/

set_option autoImplicit false

namespace Timetable

namespace Roster

variable {roster : Roster} {date : Date} {user : UserId}

/-- The users who are booked on a date. -/
def usersOn (roster : Roster) (date : Date) : List UserId :=
  (roster.reservationsOn date).map (·.userId)

/-- The seats that are free on a date. -/
def seatsLeft (roster : Roster) (date : Date) : Nat :=
  roster.slot.capacity.toNat - roster.countOn date

theorem isSome_bookedBy? : (roster.bookedBy? date user).isSome ↔ user ∈ roster.usersOn date := by
  simp [bookedBy?, usersOn]

theorem mem_usersOn_addReservation (sorted : Reservation.Sorted roster.reservations)
    {s : Reservation} (on_date : s.date = date) :
    user ∈ (roster.addReservation s).usersOn date ↔
      user = s.userId ∨ user ∈ roster.usersOn date := by
  have sorted' : Reservation.Sorted (roster.addReservation s).reservations := sorted.insert s
  have filtered : ((s.insert roster.reservations).filter (·.date = date)).Perm
      (s :: roster.reservations.filter (·.date = date)) := by
    have perm := (Reservation.perm_insert s roster.reservations).filter (·.date = date)
    rwa [List.filter_cons, if_pos (decide_eq_true on_date)] at perm
  rw [usersOn, usersOn, reservationsOn, reservationsOn, sorted.onDate_eq_filter,
    sorted'.onDate_eq_filter, addReservation, (filtered.map _).mem_iff, List.map_cons, List.mem_cons]

/-- What a user is answered who asks for a seat. -/
def respond (roster : Roster) (slot : Ident) (date : Date) (user : UserId) :
    Except Refusal Unit :=
  if user ∈ roster.usersOn date then .error (.alreadyBooked slot date)
  else if roster.slot.capacity.toNat ≤ roster.countOn date then
    .error (.slotFull slot date roster.slot.capacity)
  else .ok ()

end Roster

/-! ## Who is served -/

/-- The users who are not among those present, each once. -/
def newcomers (present users : List UserId) : Finset UserId := users.toFinset \ present.toFinset

theorem mem_newcomers {present users : List UserId} {user : UserId} :
    user ∈ newcomers present users ↔ user ∈ users ∧ user ∉ present := by
  rw [newcomers, Finset.mem_sdiff, List.mem_toFinset, List.mem_toFinset]

theorem newcomers_of_perm {present users users' : List UserId} (perm : users.Perm users') :
    newcomers present users = newcomers present users' := by
  ext user
  rw [mem_newcomers, mem_newcomers, perm.mem_iff]

/-- Another user is a newcomer, or has been there before. -/
theorem card_newcomers_snoc (present users : List UserId) (user : UserId) :
    (newcomers present (users ++ [user])).card = (newcomers present users).card +
      if user ∈ present ∨ user ∈ users then 0 else 1 := by
  split
  · rename_i known
    rw [Nat.add_zero]
    refine congrArg Finset.card (Finset.ext fun other => ?_)
    rw [mem_newcomers, mem_newcomers, List.mem_append, List.mem_singleton]
    constructor
    · rintro ⟨there | rfl, new⟩
      · exact ⟨there, new⟩
      · exact ⟨known.resolve_left new, new⟩
    · rintro ⟨there, new⟩
      exact ⟨.inl there, new⟩
  · rename_i new
    rw [not_or] at new
    have fresh : user ∉ newcomers present users := fun there => new.2 (mem_newcomers.1 there).1
    rw [← Finset.card_insert_of_notMem fresh]
    refine congrArg Finset.card (Finset.ext fun other => ?_)
    rw [mem_newcomers, Finset.mem_insert, mem_newcomers, List.mem_append, List.mem_singleton]
    constructor
    · rintro ⟨there | rfl, away⟩
      · exact .inr ⟨there, away⟩
      · exact .inl rfl
    · rintro (rfl | ⟨there, away⟩)
      · exact ⟨.inr rfl, new.1⟩
      · exact ⟨.inl there, away⟩

namespace Roster

variable {roster : Roster} {date : Date} {users users' : List UserId}

/-- How many seats of a roster are given away when these users ask. -/
def given (roster : Roster) (date : Date) (users : List UserId) : Nat :=
  min (roster.seatsLeft date) (newcomers (roster.usersOn date) users).card

/-- A user who asks behind others is new, and there were more seats than newcomers among the
others. -/
def InTime (roster : Roster) (date : Date) (others : List UserId) (user : UserId) : Prop :=
  user ∉ roster.usersOn date ∧ user ∉ others ∧
    (newcomers (roster.usersOn date) others).card < roster.seatsLeft date

theorem given_of_perm (perm : users.Perm users') :
    roster.given date users = roster.given date users' := by
  rw [given, given, newcomers_of_perm perm]

/-- The more users ask, the more seats are given away. -/
theorem given_mono (sub : users ⊆ users') : roster.given date users ≤ roster.given date users' := by
  have more : newcomers (roster.usersOn date) users ⊆ newcomers (roster.usersOn date) users' := by
    intro user there
    rw [mem_newcomers] at there ⊢
    exact there.imp_left fun h => sub h
  have card := Finset.card_le_card more
  rw [given, given]
  omega

/-- What has become of a roster when these users have asked for a seat. As long as there are seats
for all newcomers, each of them has one. -/
structure Served (date : Date) (users : List UserId) (before after : Roster) : Prop where
  slot : after.slot = before.slot
  filters : after.filters = before.filters
  sorted : Reservation.Sorted after.reservations
  count : after.countOn date = before.countOn date + before.given date users
  length : after.reservations.length = before.reservations.length + before.given date users
  asked : ∀ user ∈ after.usersOn date, user ∈ before.usersOn date ∨ user ∈ users
  seated : (newcomers (before.usersOn date) users).card ≤ before.seatsLeft date →
    ∀ user, user ∈ before.usersOn date ∨ user ∈ users → user ∈ after.usersOn date

variable {user : UserId} {before after : Roster}

theorem served_nil (sorted : Reservation.Sorted before.reservations) :
    Served date [] before before where
  slot := rfl
  filters := rfl
  sorted := sorted
  count := by simp [given, newcomers]
  length := by simp [given, newcomers]
  asked _ h := .inl h
  seated _ _ h := h.resolve_right List.not_mem_nil

/-- A user gets a seat exactly if the request is in time. -/
theorem Served.respond_eq_ok_iff (served : Served date users before after) (slot : Ident)
    (user : UserId) : after.respond slot date user = .ok () ↔ before.InTime date users user := by
  have free_iff : ¬ after.slot.capacity.toNat ≤ after.countOn date ↔
      (newcomers (before.usersOn date) users).card < before.seatsLeft date := by
    have count := served.count
    rw [given, seatsLeft] at *
    rw [served.slot]
    omega
  rw [respond, InTime]
  split
  · rename_i there
    simp only [reduceCtorEq, false_iff]
    rintro ⟨away, new, -⟩
    exact (served.asked user there).elim away new
  · rename_i away
    split
    · rename_i full
      simp only [reduceCtorEq, false_iff]
      rintro ⟨-, -, few⟩
      exact free_iff.2 few full
    · rename_i free
      have few := free_iff.1 free
      have not_asked (h : user ∈ before.usersOn date ∨ user ∈ users) : False :=
        away (served.seated (Nat.le_of_lt few) user h)
      exact ⟨fun _ => ⟨fun h => not_asked (.inl h), fun h => not_asked (.inr h), few⟩, fun _ => rfl⟩

/-- One more seat is given away to a user who is answered well, and none to another one. -/
theorem Served.given_snoc (served : Served date users before after) (slot : Ident)
    (user : UserId) :
    before.given date (users ++ [user]) =
      before.given date users + if after.respond slot date user = .ok () then 1 else 0 := by
  have card := card_newcomers_snoc (before.usersOn date) users user
  have gets := served.respond_eq_ok_iff slot user
  rw [InTime, ← and_assoc, ← not_or] at gets
  rw [given, given, card]
  by_cases known : user ∈ before.usersOn date ∨ user ∈ users
  · rw [if_pos known, if_neg fun ok => (gets.1 ok).1 known]
    rfl
  · simp only [known, not_false_eq_true, true_and] at gets
    rw [if_neg known]
    split
    · rename_i ok
      have few := gets.1 ok
      omega
    · rename_i refused
      have full := mt gets.2 refused
      omega

/-- One more user is given a seat. -/
theorem Served.seat (served : Served date users before after) {slot : Ident} {s : Reservation}
    (on_date : s.date = date) (by_user : s.userId = user)
    (ok : after.respond slot date user = .ok ()) :
    Served date (users ++ [user]) before (after.addReservation s) := by
  have given := served.given_snoc slot user
  rw [if_pos ok] at given
  have mem (other : UserId) : other ∈ (after.addReservation s).usersOn date ↔
      other = user ∨ other ∈ after.usersOn date := by
    rw [mem_usersOn_addReservation served.sorted on_date, by_user]
  refine ⟨served.slot, served.filters, served.sorted.insert s, ?_, ?_, ?_, ?_⟩
  · rw [countOn_addReservation served.sorted, if_pos on_date, served.count, given, Nat.add_assoc]
  · have added := (Reservation.perm_insert s after.reservations).length_eq
    rw [given, ← Nat.add_assoc, ← served.length]
    exact added
  · intro other there
    rw [List.mem_append, List.mem_singleton]
    rcases (mem other).1 there with rfl | there
    · exact .inr (.inr rfl)
    · exact (served.asked other there).imp_right .inl
  · intro _ other there
    rw [List.mem_append, List.mem_singleton, ← or_assoc] at there
    have room := Nat.le_of_lt ((served.respond_eq_ok_iff slot user).1 ok).2.2
    exact (mem other).2 (there.symm.imp_right (served.seated room other))

/-- One more user has asked and is not given a seat. -/
theorem Served.pass (served : Served date users before after) {slot : Ident}
    (refused : after.respond slot date user ≠ .ok ()) :
    Served date (users ++ [user]) before after := by
  have given := served.given_snoc slot user
  rw [if_neg refused, Nat.add_zero] at given
  refine ⟨served.slot, served.filters, served.sorted, ?_, ?_, ?_, ?_⟩
  · rw [given, served.count]
  · rw [given, served.length]
  · intro other there
    exact (served.asked other there).imp_right (List.mem_append_left _)
  · intro few other there
    have card := card_newcomers_snoc (before.usersOn date) users user
    -- A newcomer who is refused comes too late for the seats that there were.
    have known : user ∈ before.usersOn date ∨ user ∈ users := by
      by_contra unknown
      rw [if_neg unknown] at card
      rw [not_or] at unknown
      exact refused ((served.respond_eq_ok_iff slot user).2 ⟨unknown.1, unknown.2, by omega⟩)
    rw [if_pos known] at card
    rw [List.mem_append, List.mem_singleton, ← or_assoc] at there
    rcases there with there | rfl
    · exact served.seated (by omega) other there
    · exact served.seated (by omega) other known

/-- One more user asks. -/
theorem Served.snoc (served : Served date users before after) (slot : Ident) {s : Reservation}
    (on_date : s.date = date) (by_user : s.userId = user) :
    Served date (users ++ [user]) before
      (if after.respond slot date user = .ok () then after.addReservation s else after) := by
  split
  · rename_i ok
    exact served.seat on_date by_user ok
  · rename_i refused
    exact served.pass refused

end Roster

end Timetable
