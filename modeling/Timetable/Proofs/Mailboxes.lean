import Mathlib.Data.List.Forall2
import Timetable.Proofs.Channels

/-!
# A mailbox for everybody who listens

Whoever listens gets from the hub what a mailbox of their own would hold for them: all that is sent
to the user from then on, in this order. A mailbox forgets nothing; but whoever is more than 256
notices behind is told how many these are too many and goes on with the latest 256. The hub keeps
far less than that, one channel for all who listen to a user, which may be closed and opened again.
That makes no difference, in whatever order people come, go and listen and however often somebody
wishes a channel to be closed.
-/

set_option autoImplicit false

namespace Timetable

/-- A mailbox keeps all that has been sent, and how far it has been read. -/
structure Mailbox where
  userId : UserId
  sent : List Notice
  /-- How many of them have been received or missed. -/
  passed : Nat
  /-- All that has been received. -/
  got : List Received
  gone : Bool

namespace Mailbox

def new (user : UserId) : Mailbox := ⟨user, [], 0, [], false⟩

def waiting (m : Mailbox) : List Notice := m.sent.drop m.passed

/-- A notice goes into the open mailboxes of its user. -/
def deliver (n : Notice) (m : Mailbox) : Mailbox :=
  if m.gone = false ∧ m.userId = n.userId then { m with sent := m.sent ++ [n] } else m

/-- Takes out what comes next, if the mailbox is open. -/
def read (m : Mailbox) : Mailbox :=
  if m.gone then m
  else if channelCapacity < m.waiting.length then
    let missed := m.waiting.length - channelCapacity
    { m with passed := m.passed + missed, got := m.got ++ [.lagged missed] }
  else
    match m.waiting.head? with
    | some n => { m with passed := m.passed + 1, got := m.got ++ [.notice n] }
    | none => { m with got := m.got ++ [.nothing] }

def close (m : Mailbox) : Mailbox := { m with gone := true }

end Mailbox

/-- Somebody who listens: the receiver, unless it is gone, and all that has been received. -/
structure Listener where
  receiver : Option Receiver
  got : List Received

namespace Listener

def receive (h : Hub) (l : Listener) : Listener :=
  match l.receiver with
  | some r =>
    let (received, r) := h.receive r
    ⟨some r, l.got ++ [received]⟩
  | none => l

def close (l : Listener) : Listener := { l with receiver := none }

def listensTo (user : UserId) (l : Listener) : Bool := l.receiver.any (·.userId = user)

end Listener

/-- What may be done with a hub. Who listens is known by how many have come before. -/
inductive Use where
  | subscribe (user : UserId)
  | leave (listener : Nat)
  | release (user : UserId)
  | send (n : Notice)
  | receive (listener : Nat)

/-- A hub and all who have come to listen, in the order in which they came. -/
structure Audience where
  hub : Hub
  listeners : List Listener

namespace Audience

def use (a : Audience) : Use → Audience
  | .subscribe user =>
    let (r, hub) := a.hub.subscribe user
    ⟨hub, a.listeners ++ [⟨some r, []⟩]⟩
  | .leave i =>
    ⟨((a.listeners[i]?).bind (·.receiver)).elim a.hub a.hub.leave, a.listeners.modify i .close⟩
  | .release user => { a with hub := a.hub.release user }
  | .send n => { a with hub := a.hub.send n }
  | .receive i => { a with listeners := a.listeners.modify i (.receive a.hub) }

def useAll (uses : List Use) : Audience := uses.foldl use ⟨.empty, []⟩

end Audience

/-- What becomes of the mailboxes. That a channel is to be closed does not concern them. -/
def Use.onMailboxes (ms : List Mailbox) : Use → List Mailbox
  | subscribe user => ms ++ [.new user]
  | leave i => ms.modify i .close
  | release _ => ms
  | send n => ms.map (.deliver n)
  | receive i => ms.modify i .read

def mailboxes (uses : List Use) : List Mailbox := uses.foldl Use.onMailboxes []

/-- What is received in this order accounts for these notices: each of them has been received, or is
one of as many as have been told to be missed at this point. -/
inductive Accounts : List Received → List Notice → Prop where
  | start : Accounts [] []
  | nothing {got : List Received} {passed : List Notice} (before : Accounts got passed) :
      Accounts (got ++ [.nothing]) passed
  | notice {got : List Received} {passed : List Notice} (before : Accounts got passed) (n : Notice) :
      Accounts (got ++ [.notice n]) (passed ++ [n])
  | lagged {got : List Received} {passed : List Notice} (before : Accounts got passed)
      (missed : List Notice) : Accounts (got ++ [.lagged missed.length]) (passed ++ missed)

theorem Accounts.closed_not_mem {got : List Received} {passed : List Notice}
    (accounts : Accounts got passed) : .closed ∉ got := by
  induction accounts with
  | start => exact List.not_mem_nil
  | nothing before ih | notice before n ih | lagged before missed ih =>
    rw [List.mem_append, List.mem_singleton, not_or]
    exact ⟨ih, nofun⟩

namespace Mailbox

/-- What has been received accounts for all that does not wait, and the mailbox holds nothing that was
sent to others. -/
structure Sound (m : Mailbox) : Prop where
  within : m.passed ≤ m.sent.length
  accounts : Accounts m.got (m.sent.take m.passed)
  own : ∀ n ∈ m.sent, n.userId = m.userId

variable {m : Mailbox}

theorem Sound.new (user : UserId) : (new user).Sound := ⟨Nat.le_refl _, .start, nofun⟩

theorem Sound.close (sound : m.Sound) : m.close.Sound := ⟨sound.within, sound.accounts, sound.own⟩

theorem Sound.deliver (sound : m.Sound) (n : Notice) : (m.deliver n).Sound := by
  rw [Mailbox.deliver]
  split
  · rename_i here
    refine ⟨?_, ?_, ?_⟩
    · exact Nat.le_trans sound.within (List.length_append ▸ Nat.le_add_right ..)
    · rw [List.take_append_of_le_length sound.within]
      exact sound.accounts
    · exact List.forall_mem_append.2 ⟨sound.own, List.forall_mem_singleton.2 here.2.symm⟩
  · exact sound

theorem Sound.read (sound : m.Sound) : m.read.Sound := by
  have split_at (k : Nat) : m.sent.take (m.passed + k) = m.sent.take m.passed ++ m.waiting.take k :=
    List.take_add
  have left : m.waiting.length = m.sent.length - m.passed := List.length_drop
  have within := sound.within
  rw [Mailbox.read]
  split
  · exact sound
  · split
    · rename_i long
      have missed := sound.accounts.lagged (m.waiting.take (m.waiting.length - channelCapacity))
      rw [← split_at, List.length_take_of_le (Nat.sub_le ..)] at missed
      refine ⟨?_, missed, sound.own⟩
      dsimp only
      omega
    · split
      · rename_i n next
        obtain ⟨rest, waits⟩ := List.head?_eq_some_iff.1 next
        have received := sound.accounts.notice n
        have one : m.waiting.take 1 = [n] := by rw [waits]; rfl
        rw [← one, ← split_at] at received
        refine ⟨?_, received, sound.own⟩
        rw [waits, List.length_cons] at left
        dsimp only
        omega
      · exact ⟨within, sound.accounts.nothing, sound.own⟩

end Mailbox

/-! ## What a channel keeps -/

/-- The channel has been sent these notices, and keeps the latest of them. -/
structure Channel.Keeps (c : Channel) (all : List Notice) : Prop where
  sent : c.sent = all.length
  recent : c.recent = all.drop (all.length - channelCapacity)

namespace Channel.Keeps

variable {c : Channel} {all : List Notice}

theorem send (keeps : c.Keeps all) (n : Notice) : (c.send n).Keeps (all ++ [n]) where
  sent := by
    rw [List.length_append, List.length_singleton, ← keeps.sent]
    rfl
  recent := by
    have longer : c.recent ++ [n] = (all ++ [n]).drop (all.length - channelCapacity) := by
      rw [keeps.recent, List.drop_append_of_le_length (Nat.sub_le ..)]
    have offset : all.length - channelCapacity +
        (all.length + 1 - (all.length - channelCapacity) - channelCapacity) =
          all.length + 1 - channelCapacity := by omega
    simp only [Channel.send, longer, List.drop_drop, List.length_drop, List.length_append,
      List.length_singleton, offset]

theorem oldest_eq (keeps : c.Keeps all) : c.oldest = all.length - channelCapacity := by
  rw [oldest, keeps.sent, keeps.recent, List.length_drop]
  omega

end Channel.Keeps

namespace Hub

variable {h : Hub} {r : Receiver} {user : UserId} {waiting : List Notice}

/-- These notices wait for the receiver on the channel of its user. -/
def Awaits (h : Hub) (r : Receiver) (waiting : List Notice) : Prop :=
  ∃ c all, h.channels[r.userId]? = some c ∧ c.serial = r.serial ∧ c.Keeps all ∧
    r.next ≤ all.length ∧ all.drop r.next = waiting

/-! ## Receiving -/

/-- Who is too far behind is told how far, and goes on with the latest. -/
theorem Awaits.receive_lagged (awaits : h.Awaits r waiting)
    (long : channelCapacity < waiting.length) :
    ∃ r', h.receive r = (.lagged (waiting.length - channelCapacity), r') ∧ r'.userId = r.userId ∧
      h.Awaits r' (waiting.drop (waiting.length - channelCapacity)) := by
  obtain ⟨c, all, found, same, keeps, within, rfl⟩ := awaits
  rw [List.length_drop] at long ⊢
  have behind : r.next < c.oldest := by
    rw [keeps.oldest_eq]
    omega
  have missed : c.oldest - r.next = all.length - r.next - channelCapacity := by
    rw [keeps.oldest_eq]
    omega
  refine ⟨{ r with next := c.oldest }, ?_, rfl, c, all, found, same, keeps, ?_, ?_⟩
  · simp only [receive, channel?_of_serial found same, if_pos behind, missed]
  · rw [keeps.oldest_eq]
    exact Nat.sub_le ..
  · have oldest : r.next + (c.oldest - r.next) = c.oldest := Nat.add_sub_cancel' (Nat.le_of_lt behind)
    rw [List.drop_drop, ← missed, oldest]

/-- What waits for a receiver that is not too far behind is found on the channel. -/
theorem Awaits.receive_eq (awaits : h.Awaits r waiting)
    (short : waiting.length ≤ channelCapacity) :
    h.receive r = match waiting.head? with
      | some n => (.notice n, { r with next := r.next + 1 })
      | none => (.nothing, r) := by
  obtain ⟨c, all, found, same, keeps, within, rfl⟩ := awaits
  rw [List.length_drop] at short
  have near : ¬ r.next < c.oldest := by
    rw [keeps.oldest_eq]
    omega
  have there : c.recent[r.next - c.oldest]? = (all.drop r.next).head? := by
    have position : c.oldest + (r.next - c.oldest) = r.next :=
      Nat.add_sub_cancel' (Nat.not_lt.1 near)
    rw [keeps.recent, ← keeps.oldest_eq, List.getElem?_drop, List.head?_drop, position]
  cases head : (all.drop r.next).head? <;>
    simp only [receive, channel?_of_serial found same, if_neg near, there, head]

theorem Awaits.next {n : Notice} (awaits : h.Awaits r (n :: waiting)) :
    h.Awaits { r with next := r.next + 1 } waiting := by
  obtain ⟨c, all, found, same, keeps, within, waits⟩ := awaits
  have some_left := congrArg List.length waits
  rw [List.length_drop, List.length_cons] at some_left
  refine ⟨c, all, found, same, keeps, ?_, ?_⟩
  · dsimp only
    omega
  · rw [← List.drop_drop, waits, List.drop_one, List.tail_cons]

/-- Receiving as often as there are notices. -/
theorem Awaits.receiveMany_eq {most : Nat} (awaits : h.Awaits r waiting)
    (short : waiting.length ≤ channelCapacity) (enough : waiting.length ≤ most) :
    (h.receiveMany most r).1 = waiting.map .notice := by
  induction waiting generalizing r most with
  | nil =>
    cases most with
    | zero => rfl
    | succ most => rw [receiveMany, awaits.receive_eq short]; rfl
  | cons n waiting ih =>
    obtain ⟨most, rfl⟩ : ∃ k, most = k + 1 := Nat.exists_eq_succ_of_ne_zero (by
      rw [List.length_cons] at enough
      omega)
    rw [List.length_cons] at short enough
    have rest := ih awaits.next (by omega) (Nat.le_of_succ_le_succ enough)
    rw [receiveMany, awaits.receive_eq short]
    exact congrArg (.notice n :: ·) rest

/-- All that waits is received, or else how much of it is missed and the latest 256. -/
theorem Awaits.receiveAll_eq (awaits : h.Awaits r waiting) :
    (h.receiveAll r).1 =
      if channelCapacity < waiting.length then
        .lagged (waiting.length - channelCapacity) ::
          (waiting.drop (waiting.length - channelCapacity)).map .notice
      else waiting.map .notice := by
  rw [receiveAll]
  split
  · rename_i long
    obtain ⟨r', received, -, awaits'⟩ := awaits.receive_lagged long
    have latest : (waiting.drop (waiting.length - channelCapacity)).length = channelCapacity := by
      rw [List.length_drop]
      omega
    rw [receiveMany, received]
    dsimp only
    rw [awaits'.receiveMany_eq (Nat.le_of_eq latest) (Nat.le_of_eq latest)]
  · rename_i short
    exact awaits.receiveMany_eq (Nat.not_lt.1 short) (Nat.le_succ_of_le (Nat.not_lt.1 short))

/-! ## How many receivers a channel has -/

/-- How many receivers the channel of a user has, if there is one. -/
def receivers (h : Hub) (user : UserId) : Nat := (h.channels[user]?).elim 0 (·.receivers)

theorem receivers_subscribe (h : Hub) (user v : UserId) :
    (h.subscribe user).2.receivers v = h.receivers v + if user = v then 1 else 0 := by
  rw [receivers, receivers, getElem?_subscribe]
  split
  · rename_i same
    rw [same]
    cases h.channels[v]? <;> rfl
  · rfl

theorem receivers_release (h : Hub) (user v : UserId) :
    (h.release user).receivers v = h.receivers v := by
  rw [receivers, receivers, getElem?_release]
  split
  · cases h.channels[v]? with
    | none => rfl
    | some c =>
      rw [Option.filter_some]
      split
      · rfl
      · rename_i nobody
        have empty : c.receivers = 0 := by simpa using nobody
        exact empty.symm
  · rfl

theorem receivers_send (h : Hub) (n : Notice) (v : UserId) :
    (h.send n).receivers v = h.receivers v := by
  rw [receivers, receivers, getElem?_send]
  split
  · cases h.channels[v]? with
    | none => rfl
    | some c =>
      rw [Option.map_some]
      split <;> rfl
  · rfl

/-- Every channel keeps the latest of what it has been sent. -/
def Keeps (h : Hub) : Prop := ∀ (user : UserId) c, h.channels[user]? = some c → ∃ all, c.Keeps all

theorem Keeps.subscribe (keeps : h.Keeps) (user : UserId) : (h.subscribe user).2.Keeps := by
  intro v c found
  rw [getElem?_subscribe] at found
  split at found
  · cases found
    cases before : h.channels[user]? with
    | none => exact ⟨[], rfl, rfl⟩
    | some c =>
      obtain ⟨all, sent, recent⟩ := keeps user c before
      exact ⟨all, sent, recent⟩
  · exact keeps v c found

theorem Keeps.release (keeps : h.Keeps) (user : UserId) : (h.release user).Keeps := by
  intro v c found
  rw [getElem?_release] at found
  split at found
  · exact keeps v c (Option.filter_eq_some_iff.1 found).1
  · exact keeps v c found

theorem Keeps.send (keeps : h.Keeps) (n : Notice) : (h.send n).Keeps := by
  intro v c found
  rw [getElem?_send] at found
  split at found
  · obtain ⟨before, there, rfl⟩ := Option.map_eq_some_iff.1 found
    obtain ⟨all, kept⟩ := keeps v before there
    split
    · exact ⟨all, kept⟩
    · exact ⟨all ++ [n], kept.send n⟩
  · exact keeps v c found

theorem Keeps.leave (keeps : h.Keeps) (awaits : h.Awaits r waiting) : (h.leave r).Keeps := by
  obtain ⟨c, -, there, same, -⟩ := awaits
  intro v c' found
  rw [getElem?_leave there same] at found
  split at found
  · cases found
    obtain ⟨all, sent, recent⟩ := keeps r.userId c there
    exact ⟨all, sent, recent⟩
  · exact keeps v c' found

theorem receivers_leave (awaits : h.Awaits r waiting) (v : UserId) :
    (h.leave r).receivers v = h.receivers v - if r.userId = v then 1 else 0 := by
  obtain ⟨c, -, found, same, -⟩ := awaits
  rw [receivers, receivers, getElem?_leave found same]
  split
  · rename_i of_user
    rw [← of_user, found]
    rfl
  · rfl

/-- What waits for a receiver stays there while others come and go. -/
theorem Awaits.of_channel {h' : Hub} (awaits : h.Awaits r waiting)
    (stays : ∀ c, h.channels[r.userId]? = some c →
      ∃ receivers, h'.channels[r.userId]? = some { c with receivers }) : h'.Awaits r waiting := by
  obtain ⟨c, all, found, same, keeps, within, waits⟩ := awaits
  obtain ⟨receivers, found'⟩ := stays c found
  exact ⟨_, all, found', same, ⟨keeps.sent, keeps.recent⟩, within, waits⟩

theorem Awaits.subscribe (awaits : h.Awaits r waiting) (user : UserId) :
    (h.subscribe user).2.Awaits r waiting := by
  refine awaits.of_channel fun c found => ?_
  rw [getElem?_subscribe]
  split
  · rename_i same
    rw [same, found]
    exact ⟨_, rfl⟩
  · exact ⟨c.receivers, found⟩

theorem Awaits.leave {r' : Receiver} {others : List Notice} (awaits : h.Awaits r waiting)
    (leaving : h.Awaits r' others) : (h.leave r').Awaits r waiting := by
  obtain ⟨c', -, found', same, -⟩ := leaving
  refine awaits.of_channel fun c found => ?_
  rw [getElem?_leave found' same]
  split
  · rename_i of_user
    rw [← of_user, found'] at found
    cases found
    exact ⟨_, rfl⟩
  · exact ⟨c.receivers, found⟩

/-- No channel is closed on which somebody hangs. -/
theorem Awaits.release (awaits : h.Awaits r waiting)
    (counted : h.receivers r.userId ≠ 0) (user : UserId) :
    (h.release user).Awaits r waiting := by
  refine awaits.of_channel fun c found => ⟨c.receivers, ?_⟩
  rw [receivers, found, Option.elim_some] at counted
  rw [getElem?_release, found]
  split
  · rw [Option.filter_some, if_pos (by simpa using counted)]
  · rfl

/-- What is sent reaches those who listen to the user, and nobody else. -/
theorem Awaits.send (awaits : h.Awaits r waiting)
    (counted : h.receivers r.userId ≠ 0) (n : Notice) :
    (h.send n).Awaits r (if r.userId = n.userId then waiting ++ [n] else waiting) := by
  split
  · rename_i of_user
    obtain ⟨c, all, found, same, keeps, within, rfl⟩ := awaits
    rw [receivers, found, Option.elim_some] at counted
    refine ⟨c.send n, all ++ [n], ?_, same, keeps.send n, ?_, List.drop_append_of_le_length within⟩
    · rw [getElem?_send, if_pos of_user.symm, found, Option.map_some, if_neg counted]
    · rw [List.length_append]
      exact Nat.le_add_right_of_le within
  · rename_i other
    refine awaits.of_channel fun c found => ⟨c.receivers, ?_⟩
    rw [getElem?_send, if_neg (Ne.symm other)]
    exact found

/-- Nothing waits yet for somebody who has just come. -/
theorem Keeps.awaits_subscribe (keeps : h.Keeps) (user : UserId) :
    (h.subscribe user).2.Awaits (h.subscribe user).1 [] := by
  rw [Hub.subscribe]
  cases found : h.channels[user]? with
  | none =>
    refine ⟨⟨h.opened, 0, [], 1⟩, [], ?_, rfl, ⟨rfl, rfl⟩, Nat.le_refl _, rfl⟩
    exact (getElem?_insert_user ..).trans (if_pos rfl)
  | some c =>
    obtain ⟨all, sent, recent⟩ := keeps user c found
    refine ⟨{ c with receivers := c.receivers + 1 }, all, ?_, rfl, ⟨sent, recent⟩, ?_, ?_⟩
    · exact (getElem?_insert_user ..).trans (if_pos rfl)
    · exact Nat.le_of_eq sent
    · exact List.drop_of_length_le (Nat.le_of_eq sent.symm)

end Hub

/-! ## Everybody and their mailboxes -/

section Modify

variable {α β : Type} {as : List α} {bs : List β} {R S : α → β → Prop}

/-- One pair is changed, and the others stay related. -/
theorem forall₂_modify {f : α → α} {g : β → β} (related : List.Forall₂ R as bs) (i : Nat)
    (others : ∀ a b, R a b → S a b) (here : ∀ a b, as[i]? = some a → R a b → S (f a) (g b)) :
    List.Forall₂ S (as.modify i f) (bs.modify i g) := by
  induction related generalizing i with
  | nil =>
    rw [List.modify_nil, List.modify_nil]
    exact .nil
  | cons first rest ih =>
    cases i with
    | zero => exact .cons (here _ _ rfl first) (rest.imp others)
    | succ i => exact .cons (others _ _ first) (ih i here)

theorem forall₂_getElem? {a : α} {i : Nat} (related : List.Forall₂ R as bs)
    (found : as[i]? = some a) : ∃ b, bs[i]? = some b ∧ R a b := by
  induction related generalizing i with
  | nil => cases found
  | cons first rest ih =>
    cases i with
    | zero =>
      cases found
      exact ⟨_, rfl, first⟩
    | succ i => exact ih found

theorem countP_modify {p : α → Bool} {f : α → α} {a : α} {i : Nat} (found : as[i]? = some a) :
    (as.modify i f).countP p + (if p a then 1 else 0) =
      as.countP p + if p (f a) then 1 else 0 := by
  induction as generalizing i with
  | nil => cases found
  | cons b as ih =>
    cases i with
    | zero =>
      cases found
      rw [List.modify_zero_cons, List.countP_cons, List.countP_cons]
      omega
    | succ i =>
      have rest := ih found
      rw [List.modify_succ_cons, List.countP_cons, List.countP_cons]
      omega

end Modify

theorem Hub.listensTo_receive (h : Hub) (l : Listener) (user : UserId) :
    (l.receive h).listensTo user = l.listensTo user := by
  obtain ⟨receiver, got⟩ := l
  cases receiver with
  | none => rfl
  | some r =>
    simp only [Listener.receive, Listener.listensTo, Option.any_some, (h.receive_spec r).1]

/-- Who listens has received what has been taken out of the mailbox, and is gone when that is closed.
Until then what waits in the mailbox waits on the channel. -/
structure Follows (h : Hub) (l : Listener) (m : Mailbox) : Prop where
  sound : m.Sound
  got : l.got = m.got
  gone : m.gone = l.receiver.isNone
  waits : ∀ r, l.receiver = some r → r.userId = m.userId ∧ h.Awaits r m.waiting

namespace Follows

variable {h h' : Hub} {l : Listener} {m : Mailbox}

theorem mono (follows : Follows h l m)
    (awaits : ∀ r waiting, l.receiver = some r → h.Awaits r waiting → h'.Awaits r waiting) :
    Follows h' l m where
  sound := follows.sound
  got := follows.got
  gone := follows.gone
  waits := by
    intro r here
    obtain ⟨user, waits⟩ := follows.waits r here
    exact ⟨user, awaits r _ here waits⟩

theorem new (keeps : h.Keeps) (user : UserId) :
    Follows (h.subscribe user).2 ⟨some (h.subscribe user).1, []⟩ (.new user) where
  sound := .new user
  got := rfl
  gone := rfl
  waits := by
    rintro r ⟨⟩
    exact ⟨Hub.userId_subscribe h user, keeps.awaits_subscribe user⟩

theorem close (follows : Follows h l m) : Follows h l.close m.close where
  sound := follows.sound.close
  got := follows.got
  gone := rfl
  waits := nofun

/-- What is sent to a user goes into the mailbox of everybody who listens to that user. -/
theorem send (follows : Follows h l m)
    (counted : ∀ r, l.receiver = some r → h.receivers r.userId ≠ 0) (n : Notice) :
    Follows (h.send n) l (m.deliver n) := by
  have sound := follows.sound.deliver n
  rw [Mailbox.deliver] at sound ⊢
  split at sound
  · rename_i here
    rw [if_pos here]
    refine ⟨sound, follows.got, follows.gone, fun r there => ?_⟩
    obtain ⟨user, waits⟩ := follows.waits r there
    have sent := waits.send (counted r there) n
    rw [if_pos (user.trans here.2), Mailbox.waiting,
      ← List.drop_append_of_le_length follows.sound.within] at sent
    exact ⟨user, sent⟩
  · rename_i elsewhere
    rw [if_neg elsewhere]
    refine follows.mono fun r waiting there waits => ?_
    have still_open : m.gone = false := by rw [follows.gone, there]; rfl
    have other : r.userId ≠ n.userId := fun same =>
      elsewhere ⟨still_open, (follows.waits r there).1.symm.trans same⟩
    have sent := waits.send (counted r there) n
    rwa [if_neg other] at sent

/-- One receive takes out of the mailbox what comes next. -/
theorem receive (follows : Follows h l m) : Follows h (l.receive h) m.read := by
  obtain ⟨receiver, got⟩ := l
  have sound := follows.sound.read
  obtain ⟨-, rfl, gone, waits⟩ := follows
  cases receiver with
  | none =>
    have read : m.read = m := by rw [Mailbox.read, gone]; rfl
    rw [read] at sound ⊢
    exact ⟨sound, rfl, gone, nofun⟩
  | some r =>
    obtain ⟨user, awaits⟩ := waits r rfl
    have still_open : ¬ m.gone = true := by rw [gone]; exact nofun
    rw [Mailbox.read, if_neg still_open] at sound ⊢
    split at sound
    · rename_i long
      obtain ⟨r', received, same, awaits'⟩ := awaits.receive_lagged long
      rw [if_pos long]
      simp only [Listener.receive, received]
      refine ⟨sound, rfl, gone, ?_⟩
      rintro _ ⟨⟩
      rw [Mailbox.waiting, List.drop_drop] at awaits'
      exact ⟨same.trans user, awaits'⟩
    · rename_i short
      have received := awaits.receive_eq (Nat.not_lt.1 short)
      rw [if_neg short]
      split at sound
      · rename_i n next
        obtain ⟨rest, waiting⟩ := List.head?_eq_some_iff.1 next
        rw [next] at received
        simp only [Listener.receive, received]
        refine ⟨sound, rfl, gone, ?_⟩
        rintro _ ⟨⟩
        rw [waiting] at awaits
        have left : m.sent.drop (m.passed + 1) = rest := by
          rw [← List.drop_drop, ← Mailbox.waiting, waiting]
          rfl
        refine ⟨user, ?_⟩
        rw [Mailbox.waiting, left]
        exact awaits.next
      · rename_i next
        rw [next] at received
        simp only [Listener.receive, received]
        exact ⟨sound, rfl, gone, waits⟩

end Follows

namespace Audience

/-- Everybody follows a mailbox, and the hub knows how many listen to whom. -/
structure Matches (a : Audience) (ms : List Mailbox) : Prop where
  counts : ∀ user, a.hub.receivers user = a.listeners.countP (Listener.listensTo user)
  keeps : a.hub.Keeps
  follows : List.Forall₂ (Follows a.hub) a.listeners ms

variable {a : Audience} {ms : List Mailbox}

theorem Matches.new : Matches ⟨.empty, []⟩ [] where
  counts := by
    intro user
    rw [Hub.receivers, Hub.empty, Std.ExtTreeMap.getElem?_empty]
    rfl
  keeps := by
    intro user c found
    cases (Std.ExtTreeMap.getElem?_empty (a := user)).symm.trans found
  follows := .nil

/-- A channel on which somebody hangs has receivers. -/
theorem Matches.counted (matching : a.Matches ms) : List.Forall₂ (fun l m =>
    (∀ r, l.receiver = some r → a.hub.receivers r.userId ≠ 0) ∧ Follows a.hub l m)
    a.listeners ms := by
  refine (List.forall₂_and_left _ _).2 ⟨?_, matching.follows⟩
  intro l mem r here
  rw [matching.counts, ← Nat.pos_iff_ne_zero, List.countP_pos_iff]
  refine ⟨l, mem, ?_⟩
  rw [Listener.listensTo, here]
  exact decide_eq_true rfl

/-- Who is told to go listens no more. -/
theorem Matches.leave (matching : a.Matches ms) (i : Nat) :
    (a.use (.leave i)).Matches (ms.modify i .close) := by
  obtain ⟨counts, keeps, follows⟩ := matching
  have unchanged (same : ((a.listeners[i]?).bind (·.receiver)) = none)
      (closed : ∀ user, (a.listeners.modify i .close).countP (Listener.listensTo user) =
        a.listeners.countP (Listener.listensTo user)) :
      (a.use (.leave i)).Matches (ms.modify i .close) := by
    rw [use, same]
    exact ⟨fun user => (counts user).trans (closed user).symm, keeps,
      forall₂_modify follows i (fun _ _ f => f) fun _ _ _ f => f.close⟩
  cases found : a.listeners[i]? with
  | none =>
    refine unchanged (by rw [found]; rfl) fun user => ?_
    rw [List.modify_eq_self (List.getElem?_eq_none_iff.1 found)]
  | some l =>
    cases here : l.receiver with
    | none =>
      refine unchanged (by rw [found]; exact here) fun user => ?_
      have count := countP_modify (p := Listener.listensTo user) (f := Listener.close) found
      have silent : l.listensTo user = false := by rw [Listener.listensTo, here]; rfl
      have closed : l.close.listensTo user = false := rfl
      rwa [silent, closed] at count
    | some r =>
      obtain ⟨m, -, f⟩ := forall₂_getElem? follows found
      obtain ⟨-, awaits⟩ := f.waits r here
      have leaving : (a.listeners[i]?).bind (·.receiver) = some r := by rw [found]; exact here
      rw [use, leaving]
      refine ⟨fun user => ?_, keeps.leave awaits, ?_⟩
      · have count := countP_modify (p := Listener.listensTo user) (f := Listener.close) found
        have listened : l.listensTo user = decide (r.userId = user) := by
          rw [Listener.listensTo, here]
          rfl
        have closed : l.close.listensTo user = false := rfl
        simp only [listened, closed, decide_eq_true_eq, Bool.false_eq_true, if_false,
          Nat.add_zero] at count
        refine (Hub.receivers_leave awaits user).trans ?_
        rw [counts user]
        exact Nat.sub_eq_of_eq_add count.symm
      · refine forall₂_modify follows i ?_ ?_
        · exact fun _ _ f => f.mono fun _ _ _ waits => waits.leave awaits
        · exact fun _ _ _ f => (f.mono fun _ _ _ waits => waits.leave awaits).close

/-- What one use of the hub keeps. -/
theorem Matches.use (matching : a.Matches ms) (u : Use) : (a.use u).Matches (u.onMailboxes ms) := by
  have counted := matching.counted
  have ⟨counts, keeps, follows⟩ := matching
  cases u with
  | subscribe user =>
    refine ⟨fun v => ?_, keeps.subscribe user, ?_⟩
    · have new : (Listener.mk (some (a.hub.subscribe user).1) []).listensTo v =
          decide (user = v) := by
        rw [Listener.listensTo, Option.any_some, Hub.userId_subscribe]
      refine (a.hub.receivers_subscribe user v).trans ?_
      rw [counts v]
      simp only [Audience.use, List.countP_append, List.countP_singleton, new, decide_eq_true_eq]
    · exact List.rel_append
        (follows.imp fun _ _ f => f.mono fun _ _ _ awaits => awaits.subscribe user)
        (.cons (.new keeps user) .nil)
  | leave i => exact matching.leave i
  | release user =>
    refine ⟨fun v => (a.hub.receivers_release user v).trans (counts v), keeps.release user, ?_⟩
    exact counted.imp fun _ _ ⟨counted, f⟩ =>
      f.mono fun r _ here awaits => awaits.release (counted r here) user
  | send n =>
    refine ⟨fun v => (a.hub.receivers_send n v).trans (counts v), keeps.send n, ?_⟩
    exact List.forall₂_map_right_iff.2 (counted.imp fun _ _ ⟨counted, f⟩ => f.send counted n)
  | receive i =>
    refine ⟨fun v => ?_, keeps, forall₂_modify follows i (fun _ _ f => f) fun _ _ _ f => f.receive⟩
    refine (counts v).trans ?_
    cases found : a.listeners[i]? with
    | none =>
      rw [Audience.use, List.modify_eq_self (List.getElem?_eq_none_iff.1 found)]
    | some l =>
      have count := countP_modify (p := Listener.listensTo v) (f := .receive a.hub) found
      rw [a.hub.listensTo_receive] at count
      exact (Nat.add_right_cancel count).symm

/-- **What any number of uses keeps.** -/
theorem matches_useAll (uses : List Use) : (useAll uses).Matches (mailboxes uses) := by
  have run (a : Audience) (ms : List Mailbox) (matching : a.Matches ms) :
      (uses.foldl use a).Matches (uses.foldl Use.onMailboxes ms) := by
    induction uses generalizing a ms with
    | nil => exact matching
    | cons u uses ih => exact ih _ _ (matching.use u)
  exact run _ _ .new

/-- **Everybody gets what a mailbox of their own would hold.** However people come, go, listen and
send, and however often channels are to be closed: all have received just what has been taken out of
their mailboxes. That accounts for all that was sent to the user since the mailbox was opened and does
not wait any more, in this order, what was missed being told by its exact number; the channel is
never found closed, and nothing comes that was sent to others. Whoever still listens is going to
receive next what waits in the mailbox, or if that is more than 256 notices, how many of these are
missed and then the latest 256. -/
theorem received_as_from_mailboxes (uses : List Use) :
    (useAll uses).listeners.map (·.got) = (mailboxes uses).map (·.got) ∧
    (∀ m ∈ mailboxes uses, Accounts m.got (m.sent.take m.passed) ∧ m.passed ≤ m.sent.length ∧
      (∀ n ∈ m.sent, n.userId = m.userId) ∧ .closed ∉ m.got) ∧
    ∀ (i : Nat) l r, (useAll uses).listeners[i]? = some l → l.receiver = some r →
      ∃ m, (mailboxes uses)[i]? = some m ∧ m.gone = false ∧ m.userId = r.userId ∧
        ((useAll uses).hub.receiveAll r).1 =
          if channelCapacity < m.waiting.length then
            .lagged (m.waiting.length - channelCapacity) ::
              (m.waiting.drop (m.waiting.length - channelCapacity)).map .notice
          else m.waiting.map .notice := by
  obtain ⟨-, -, follows⟩ := matches_useAll uses
  refine ⟨?_, ?_, ?_⟩
  · have same : List.Forall₂ (· = ·) ((useAll uses).listeners.map (·.got))
        ((mailboxes uses).map (·.got)) :=
      List.forall₂_map_left_iff.2 (List.forall₂_map_right_iff.2 (follows.imp fun _ _ f => f.got))
    rwa [List.forall₂_eq_eq_eq] at same
  · intro m mem
    obtain ⟨i, found⟩ := List.getElem?_of_mem mem
    obtain ⟨l, -, f⟩ := forall₂_getElem? follows.flip found
    exact ⟨f.sound.accounts, f.sound.within, f.sound.own, f.sound.accounts.closed_not_mem⟩
  · intro i l r there here
    obtain ⟨m, found, f⟩ := forall₂_getElem? follows there
    obtain ⟨user, awaits⟩ := f.waits r here
    exact ⟨m, found, by rw [f.gone, here]; rfl, user.symm, awaits.receiveAll_eq⟩

/-- A listener goes and another one comes, who is then sent one notice more than the channel keeps. -/
def crowded : List Use :=
  [.subscribe 7, .leave 0, .release 7, .subscribe 7, .release 7] ++
    List.replicate 257 (.send ⟨7, .ofNat 0, .bookForced, 0⟩) ++
    [.send ⟨8, .ofNat 1, .bookForced, 0⟩, .release 7]

set_option maxRecDepth 4000 in
theorem received_as_from_mailboxes_crowded : ∃ l r,
    (useAll crowded).listeners[1]? = some l ∧ l.receiver = some r ∧
      ((useAll crowded).hub.receiveAll r).1 =
        .lagged 1 :: List.replicate 256 (.notice ⟨7, .ofNat 0, .bookForced, 0⟩) := by
  obtain ⟨r, there⟩ : ∃ r, (useAll crowded).listeners[1]? = some ⟨some r, []⟩ := ⟨_, rfl⟩
  obtain ⟨-, -, waits⟩ := received_as_from_mailboxes crowded
  obtain ⟨m, found, -, -, received⟩ := waits 1 _ r there rfl
  have waiting : ((mailboxes crowded)[1]?).map (·.waiting) =
      some (List.replicate 257 ⟨7, .ofNat 0, .bookForced, 0⟩) := by decide +kernel
  rw [found, Option.map_some, Option.some_inj] at waiting
  rw [waiting, List.length_replicate, if_pos (by decide), List.drop_replicate,
    List.map_replicate] at received
  exact ⟨_, r, there, rfl, received⟩

end Audience

end Timetable
