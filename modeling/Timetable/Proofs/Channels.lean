import Mathlib.Data.List.Perm.Basic
import Timetable.Notice

/-!
# Who hangs on which channel

The hub serves receivers if each hangs on the channel that its user has now, and if every channel
knows how many hang on it and has at least one. Then there is a channel for exactly those users to
whom somebody listens. Whoever comes, goes or sends, the hub goes on serving those who stay.
-/

set_option autoImplicit false

namespace Timetable.Hub

theorem getElem?_insert_user {α : Type} (t : Std.ExtTreeMap UserId α) (k a : UserId) (v : α) :
    (t.insert k v)[a]? = if k = a then some v else t[a]? := by
  rw [Std.ExtTreeMap.getElem?_insert]
  simp only [Std.LawfulEqCmp.compare_eq_iff_eq]

theorem getElem?_erase_user {α : Type} (t : Std.ExtTreeMap UserId α) (k a : UserId) :
    (t.erase k)[a]? = if k = a then none else t[a]? := by
  rw [Std.ExtTreeMap.getElem?_erase]
  simp only [Std.LawfulEqCmp.compare_eq_iff_eq]

variable {h h' : Hub} {r r' : Receiver} {rs rs' : List Receiver} {user : UserId}

/-! ## What becomes of the channels -/

theorem channel?_of_serial {c : Channel} (found : h.channels[r.userId]? = some c)
    (same : c.serial = r.serial) : h.channel? r = some c := by
  rw [channel?, found, Option.filter_some, same, BEq.rfl]
  rfl

theorem getElem?_subscribe (h : Hub) (user v : UserId) :
    (h.subscribe user).2.channels[v]? =
      if user = v then
        some ((h.channels[user]?).elim ⟨h.opened, 0, [], 1⟩ fun c =>
          { c with receivers := c.receivers + 1 })
      else h.channels[v]? := by
  rw [subscribe]
  cases h.channels[user]? with
  | none => exact getElem?_insert_user ..
  | some c => exact getElem?_insert_user ..

theorem userId_subscribe (h : Hub) (user : UserId) : (h.subscribe user).1.userId = user := by
  rw [subscribe]
  split <;> rfl

/-- Who comes hangs on the channel that the user has then. -/
theorem serial_subscribe (h : Hub) (user : UserId) :
    ∃ c, (h.subscribe user).2.channels[user]? = some c ∧
      c.serial = (h.subscribe user).1.serial := by
  rw [subscribe]
  split <;> exact ⟨_, (getElem?_insert_user ..).trans (if_pos rfl), rfl⟩

theorem getElem?_release (h : Hub) (user v : UserId) :
    (h.release user).channels[v]? =
      if user = v then (h.channels[v]?).filter (·.receivers ≠ 0) else h.channels[v]? := by
  rw [release]
  by_cases same : user = v
  · subst same
    rw [if_pos rfl]
    cases found : h.channels[user]? with
    | none => exact found
    | some c =>
      by_cases nobody : c.receivers = 0
      · simp [nobody, Option.filter_some]
      · simp [nobody, found, Option.filter_some]
  · rw [if_neg same]
    split
    · split
      · rw [getElem?_erase_user, if_neg same]
      · rfl
    · rfl

theorem getElem?_send (h : Hub) (n : Notice) (v : UserId) :
    (h.send n).channels[v]? =
      if n.userId = v then
        (h.channels[v]?).map fun c => if c.receivers = 0 then c else c.send n
      else h.channels[v]? := by
  rw [send]
  by_cases same : n.userId = v
  · subst same
    rw [if_pos rfl]
    cases found : h.channels[n.userId]? with
    | none => exact found
    | some c =>
      by_cases nobody : c.receivers = 0
      · simp [nobody, found]
      · simp [nobody]
  · rw [if_neg same]
    split
    · split
      · rfl
      · rw [getElem?_insert_user, if_neg same]
    · rfl

/-- What becomes of the channels when a receiver that hangs on one goes away. -/
theorem getElem?_leave {c : Channel} (found : h.channels[r.userId]? = some c)
    (same : c.serial = r.serial) (v : UserId) :
    (h.leave r).channels[v]? =
      if r.userId = v then some { c with receivers := c.receivers - 1 } else h.channels[v]? := by
  rw [leave, channel?_of_serial found same]
  exact getElem?_insert_user ..

/-! ## Who is served -/

/-- How many listen to a user. -/
def listeners (rs : List Receiver) (user : UserId) : Nat := rs.countP (·.userId = user)

/-- The hub serves these receivers and no others. -/
structure Serves (h : Hub) (rs : List Receiver) : Prop where
  hangs : ∀ r ∈ rs, ∃ c, h.channels[r.userId]? = some c ∧ c.serial = r.serial
  counts : ∀ (user : UserId) c, h.channels[user]? = some c →
    c.receivers = listeners rs user ∧ 0 < c.receivers

theorem listeners_cons (r : Receiver) (rs : List Receiver) (user : UserId) :
    listeners (r :: rs) user = listeners rs user + if r.userId = user then 1 else 0 := by
  rw [listeners, listeners, List.countP_cons]
  simp only [decide_eq_true_eq]

theorem listeners_pos_iff : 0 < listeners rs user ↔ ∃ r ∈ rs, r.userId = user := by
  rw [listeners, List.countP_pos_iff]
  simp only [decide_eq_true_eq]

namespace Serves

theorem empty : Hub.empty.Serves [] := by
  refine ⟨List.forall_mem_nil _, ?_⟩
  intro user c found
  cases (Std.ExtTreeMap.getElem?_empty (a := user)).symm.trans found

theorem perm (serves : h.Serves rs) (same : rs'.Perm rs) : h.Serves rs' where
  hangs := fun r mem => serves.hangs r (same.mem_iff.1 mem)
  counts := by
    intro user c found
    rw [listeners, same.countP_eq]
    exact serves.counts user c found

/-- There is a channel for exactly those users to whom somebody listens. -/
theorem isSome_channel_iff (serves : h.Serves rs) :
    (h.channels[user]?).isSome ↔ ∃ r ∈ rs, r.userId = user := by
  rw [Option.isSome_iff_exists]
  constructor
  · rintro ⟨c, found⟩
    obtain ⟨count, some_left⟩ := serves.counts user c found
    exact listeners_pos_iff.1 (count ▸ some_left)
  · rintro ⟨r, mem, rfl⟩
    obtain ⟨c, found, -⟩ := serves.hangs r mem
    exact ⟨c, found⟩

/-- Every receiver hangs on the channel of its user. -/
theorem isSome_channel? (serves : h.Serves rs) (mem : r ∈ rs) : (h.channel? r).isSome := by
  obtain ⟨c, found, same⟩ := serves.hangs r mem
  rw [channel?_of_serial found same]
  rfl

/-! ## Who goes on being served -/

/-- A receiver goes on to later notices. -/
theorem advance (serves : h.Serves (r :: rs)) (user : r'.userId = r.userId)
    (serial : r'.serial = r.serial) : h.Serves (r' :: rs) where
  hangs := by
    obtain ⟨first, rest⟩ := List.forall_mem_cons.1 serves.hangs
    refine List.forall_mem_cons.2 ⟨?_, rest⟩
    rwa [user, serial]
  counts := by
    intro other c found
    rw [listeners_cons, user, ← listeners_cons]
    exact serves.counts other c found

/-- Whatever happens to the channel of one user, the others are served as before. -/
theorem update (serves : h.Serves rs) (user : UserId)
    (others : ∀ v, v ≠ user → h'.channels[v]? = h.channels[v]? ∧ listeners rs' v = listeners rs v)
    (stay : ∀ r ∈ rs', r.userId ≠ user → r ∈ rs)
    (hangs : ∀ r ∈ rs', r.userId = user →
      ∃ c, h'.channels[user]? = some c ∧ c.serial = r.serial)
    (counts : ∀ c, h'.channels[user]? = some c →
      c.receivers = listeners rs' user ∧ 0 < c.receivers) : h'.Serves rs' where
  hangs := by
    intro r mem
    by_cases of_user : r.userId = user
    · rw [of_user]
      exact hangs r mem of_user
    · rw [(others r.userId of_user).1]
      exact serves.hangs r (stay r mem of_user)
  counts := by
    intro v c found
    by_cases of_user : v = user
    · subst of_user
      exact counts c found
    · rw [(others v of_user).1] at found
      rw [(others v of_user).2]
      exact serves.counts v c found

theorem send (serves : h.Serves rs) (n : Notice) : (h.send n).Serves rs := by
  refine serves.update n.userId (fun v other => ⟨?_, rfl⟩) (fun r mem _ => mem) ?_ ?_
  · rw [getElem?_send, if_neg (Ne.symm other)]
  · intro r mem of_user
    obtain ⟨c, found, same⟩ := serves.hangs r mem
    rw [of_user] at found
    rw [getElem?_send, if_pos rfl, found]
    refine ⟨_, rfl, ?_⟩
    dsimp only
    split <;> exact same
  · intro c' found'
    rw [getElem?_send, if_pos rfl] at found'
    obtain ⟨c, found, rfl⟩ := Option.map_eq_some_iff.1 found'
    have counted := serves.counts n.userId c found
    split <;> exact counted

theorem sendAll (serves : h.Serves rs) (ns : List Notice) : (h.sendAll ns).Serves rs := by
  induction ns generalizing h with
  | nil => exact serves
  | cons n ns ih => exact ih (serves.send n)

/-- Somebody comes to listen. -/
theorem subscribe (serves : h.Serves rs) (user : UserId) :
    (h.subscribe user).2.Serves ((h.subscribe user).1 :: rs) := by
  have of_user := h.userId_subscribe user
  obtain ⟨c, there, serial⟩ := h.serial_subscribe user
  have now := h.getElem?_subscribe user user
  rw [there, if_pos rfl] at now
  refine serves.update user (fun v other => ⟨?_, ?_⟩) ?_ ?_ ?_
  · rw [getElem?_subscribe, if_neg (Ne.symm other)]
  · rw [listeners_cons, of_user, if_neg (Ne.symm other), Nat.add_zero]
  · intro r mem other
    exact (List.mem_cons.1 mem).resolve_left fun same => other (same ▸ of_user)
  · intro r mem r_of_user
    refine ⟨c, there, ?_⟩
    rcases List.mem_cons.1 mem with rfl | mem
    · exact serial
    · obtain ⟨c', found, same⟩ := serves.hangs r mem
      rw [r_of_user] at found
      rw [found] at now
      cases now
      exact same
  · intro c' found'
    cases there.symm.trans found'
    rw [listeners_cons, if_pos of_user]
    cases found : h.channels[user]? with
    | some c =>
      rw [found] at now
      cases now
      exact ⟨congrArg (· + 1) (serves.counts user c found).1, Nat.succ_pos _⟩
    | none =>
      have nobody : listeners rs user = 0 := by
        refine Nat.eq_zero_of_not_pos fun listens => ?_
        have open_for := serves.isSome_channel_iff.2 (listeners_pos_iff.1 listens)
        rw [found] at open_for
        cases open_for
      rw [found] at now
      cases now
      rw [nobody]
      exact ⟨rfl, Nat.one_pos⟩

/-- What becomes of the channels when somebody stops listening. -/
theorem channels_stop {c : Channel} (found : h.channels[r.userId]? = some c)
    (same : c.serial = r.serial) (v : UserId) :
    ((h.leave r).release r.userId).channels[v]? =
      if r.userId = v then
        if c.receivers - 1 = 0 then none else some { c with receivers := c.receivers - 1 }
      else h.channels[v]? := by
  rw [getElem?_release, getElem?_leave found same]
  by_cases here : r.userId = v
  · by_cases last : c.receivers - 1 = 0 <;> simp [here, last, Option.filter_some]
  · rw [if_neg here, if_neg here, if_neg here]

/-- Somebody who listens goes, and the others of the same user stay on their channel. -/
theorem stop (serves : h.Serves (r :: rs)) : ((h.leave r).release r.userId).Serves rs := by
  obtain ⟨⟨c, found, same⟩, stays⟩ := List.forall_mem_cons.1 serves.hangs
  obtain ⟨count, -⟩ := serves.counts r.userId c found
  rw [listeners_cons, if_pos rfl] at count
  have channels := channels_stop found same
  refine serves.update r.userId (fun v other => ⟨?_, ?_⟩)
    (fun r' mem _ => List.mem_cons_of_mem r mem) ?_ ?_
  · rw [channels, if_neg (Ne.symm other)]
  · rw [listeners_cons, if_neg (Ne.symm other), Nat.add_zero]
  · intro r' mem of_user
    have listens : 0 < listeners rs r.userId := listeners_pos_iff.2 ⟨r', mem, of_user⟩
    obtain ⟨c', found', same'⟩ := stays r' mem
    rw [of_user] at found'
    cases found.symm.trans found'
    rw [channels, if_pos rfl, if_neg (by omega)]
    exact ⟨_, rfl, same'⟩
  · intro c' found'
    rw [channels, if_pos rfl] at found'
    split at found'
    · cases found'
    · cases found'
      dsimp only
      omega

end Serves

/-- What is received changes neither the user of a receiver nor its channel. -/
theorem receive_spec (h : Hub) (r : Receiver) :
    (h.receive r).2.userId = r.userId ∧ (h.receive r).2.serial = r.serial := by
  rw [receive]
  split
  · exact ⟨rfl, rfl⟩
  · split
    · exact ⟨rfl, rfl⟩
    · split <;> exact ⟨rfl, rfl⟩

/-- Who hangs on a channel is not told that it is gone. -/
theorem receive_ne_closed (hangs : (h.channel? r).isSome) : (h.receive r).1 ≠ .closed := by
  obtain ⟨c, found⟩ := Option.isSome_iff_exists.1 hangs
  rw [receive, found]
  dsimp only
  split
  · exact nofun
  · split <;> exact nofun

theorem receiveMany_spec (h : Hub) (most : Nat) (r : Receiver) :
    (h.receiveMany most r).2.userId = r.userId ∧ (h.receiveMany most r).2.serial = r.serial := by
  induction most generalizing r with
  | zero => exact ⟨rfl, rfl⟩
  | succ most ih =>
    have first := h.receive_spec r
    rw [receiveMany]
    generalize h.receive r = received at first
    obtain ⟨received, r'⟩ := received
    obtain ⟨user, serial⟩ := ih r'
    cases received with
    | nothing | closed => exact first
    | notice | lagged => exact ⟨user.trans first.1, serial.trans first.2⟩

theorem closed_not_mem_receiveMany (most : Nat) (hangs : (h.channel? r).isSome) :
    .closed ∉ (h.receiveMany most r).1 := by
  induction most generalizing r with
  | zero => exact List.not_mem_nil
  | succ most ih =>
    obtain ⟨user, serial⟩ := h.receive_spec r
    have first := receive_ne_closed hangs
    have hangs_on : (h.channel? (h.receive r).2).isSome := by
      rwa [channel?, user, serial]
    rw [receiveMany]
    generalize h.receive r = received at first hangs_on
    obtain ⟨received, r'⟩ := received
    cases received with
    | nothing => exact List.not_mem_nil
    | closed => exact absurd rfl first
    | notice | lagged => exact List.not_mem_cons_of_ne_of_not_mem nofun (ih hangs_on)

end Timetable.Hub
