import Timetable.Proofs.Planner.Durable

/-!
# What a cut leaves

A journal that is cut off at any byte leaves some transactions whole and perhaps the first events of
one more. A transaction of one event is there or not. One that cancels reservations to make room
for a booking can be left half applied: the cancellations without the booking.
-/

set_option autoImplicit false

namespace Timetable

/-! ## Half of a transaction -/

namespace Registry

variable {bells : BellSchedule} {r : Registry} {cancellations : List Event}

theorem Cancels.isCancellation {e : Event} (h : r.Cancels e) :
    ∃ id slot, e = .reservationCancelled id slot := by
  obtain ⟨slot, roster, id, -, -, rfl⟩ := h
  exact ⟨id, slot, rfl⟩

/-- Cancellations bring nothing into the index. -/
theorem slotOf?_applyAll_cancelled {x : Ident}
    (shape : ∀ c ∈ cancellations, ∃ id slot, c = .reservationCancelled id slot)
    (missing : r.slotOf? x = none) : (r.applyAll cancellations).slotOf? x = none := by
  induction cancellations generalizing r with
  | nil => exact missing
  | cons c cs ih =>
    refine ih (fun c hc => shape c (List.mem_cons_of_mem _ hc)) ?_
    obtain ⟨id, slot, rfl⟩ := shape c List.mem_cons_self
    apply Option.eq_none_iff_forall_ne_some.2
    intro k found
    rcases slotOf?_of_apply found with added | before
    · cases added
    · cases missing.symm.trans before

/-- Cancellations delete no slot. -/
theorem roster?_applyAll_cancelled {slot : Ident}
    (shape : ∀ c ∈ cancellations, ∃ id slot, c = .reservationCancelled id slot)
    (there : (r.roster? slot).isSome) : ((r.applyAll cancellations).roster? slot).isSome := by
  induction cancellations generalizing r with
  | nil => exact there
  | cons c cs ih =>
    refine ih (fun c hc => shape c (List.mem_cons_of_mem _ hc)) ?_
    obtain ⟨id, other, rfl⟩ := shape c List.mem_cons_self
    rw [roster?_apply]
    split
    · rw [Event.act_eq_map rfl, Option.isSome_map]
      exact there
    · exact there

theorem slotOf?_apply_reservationBooked {s : Reservation} (there : (r.roster? s.slotId).isSome) :
    (r.apply (.reservationBooked s)).slotOf? s.id = some s.slotId := by
  obtain ⟨roster, found⟩ := Option.isSome_iff_exists.1 there
  rw [slotOf?_apply rfl found, getElem?_reindexed]
  exact if_pos rfl

theorem slotOf?_apply_reservationCancelled (id : Ident) {slot : Ident}
    (there : (r.roster? slot).isSome) :
    (r.apply (.reservationCancelled id slot)).slotOf? id = none := by
  obtain ⟨roster, found⟩ := Option.isSome_iff_exists.1 there
  rw [slotOf?_apply rfl found, getElem?_reindexed, if_neg nofun]
  exact if_pos rfl

/-- Cancellations of what is there change the registry. -/
theorem applyAll_cancelled_ne (wf : r.WellFormed bells) (ne_nil : cancellations ≠ [])
    (cancels : ∀ c ∈ cancellations, r.Cancels c) : r.applyAll cancellations ≠ r := by
  intro same
  obtain ⟨c, cs, rfl⟩ := List.exists_cons_of_ne_nil ne_nil
  obtain ⟨slot, roster, id, found, mem, rfl⟩ := cancels c List.mem_cons_self
  have before : r.slotOf? id = some slot :=
    (wf.index id slot).2 ⟨roster, found, List.mem_append_right _ mem⟩
  have gone : (r.apply (.reservationCancelled id slot)).slotOf? id = none :=
    slotOf?_apply_reservationCancelled id (Option.isSome_iff_exists.2 ⟨roster, found⟩)
  have after := slotOf?_applyAll_cancelled
    (fun c hc => (cancels c (List.mem_cons_of_mem _ hc)).isCancellation) gone
  rw [← applyAll_cons, same, before] at after
  cases after

/-- Once a booking has been applied its reservation is there. -/
theorem slotOf?_applyAll_displacing {s : Reservation}
    (shape : ∀ c ∈ cancellations, ∃ id slot, c = .reservationCancelled id slot)
    (there : (r.roster? s.slotId).isSome) :
    (r.applyAll (cancellations ++ [.reservationBooked s])).slotOf? s.id = some s.slotId := by
  have last : r.applyAll (cancellations ++ [.reservationBooked s]) =
      (r.applyAll cancellations).apply (.reservationBooked s) := applyAll_append ..
  rw [last]
  exact slotOf?_apply_reservationBooked (roster?_applyAll_cancelled shape there)

/-- A part of a transaction is neither none nor all of it: a reservation that was there is gone
already, and the booking that it made room for is not there yet. -/
theorem applyAll_take_ne {t : List Event} (wf : r.WellFormed bells)
    (shape : t.length ≤ 1 ∨ r.Displacing t) {m : Nat} (pos : 0 < m) (lt : m < t.length) :
    r.applyAll (t.take m) ≠ r ∧ r.applyAll (t.take m) ≠ r.applyAll t := by
  rcases shape with short | ⟨cancellations, s, rfl, cancels, there, new⟩
  · omega
  · rw [List.length_append, List.length_singleton] at lt
    rw [List.take_append_of_le_length (by omega)]
    have taken : ∀ c ∈ cancellations.take m, r.Cancels c :=
      fun c hc => cancels c (List.mem_of_mem_take hc)
    constructor
    · apply applyAll_cancelled_ne wf _ taken
      apply List.ne_nil_of_length_pos
      rw [List.length_take]
      omega
    · intro same
      have absent := slotOf?_applyAll_cancelled (fun c hc => (taken c hc).isCancellation) new
      have booked := slotOf?_applyAll_displacing (fun c hc => (cancels c hc).isCancellation) there
      rw [same, booked] at absent
      cases absent

end Registry

/-! ## Runs of demands -/

/-- How many ids are drawn for demands. -/
def Demand.drawsAll : List Demand → Nat
  | [] => 0
  | d :: rest => d.action.draws + drawsAll rest

namespace Planner

/-- The planner after demands, one after the other. -/
def performAll (p : Planner) (rules : Rules) : List Demand → Planner
  | [] => p
  | d :: rest => (p.perform rules d.now d.caller d.action).2.performAll rules rest

/-- The transactions of demands; that of a demand that is refused is empty. -/
def transactions (p : Planner) (rules : Rules) : List Demand → List (List Event)
  | [] => []
  | d :: rest =>
    p.transaction rules d.now d.caller d.action ::
      (p.perform rules d.now d.caller d.action).2.transactions rules rest

variable {rules : Rules} {p : Planner} {es : List Event}

/-- What a demand leaves to those after it. -/
theorem Keeps.demand (keeps : p.Keeps rules es) {d : Demand} {rest : List Demand}
    (fresh : rules.FreshBelow (p.drawn + Demand.drawsAll (d :: rest))) :
    (p.perform rules d.now d.caller d.action).2.Keeps rules
        (es ++ p.transaction rules d.now d.caller d.action) ∧
      rules.FreshBelow
        ((p.perform rules d.now d.caller d.action).2.drawn + Demand.drawsAll rest) := by
  rw [Demand.drawsAll, ← Nat.add_assoc] at fresh
  have drawn := (perform_spec keeps.ready rules d.now d.caller d.action).2.2
  rw [drawn]
  exact ⟨keeps.request (fresh.mono (Nat.le_add_right ..)), fresh⟩

/-- The journal of a run without compaction holds one transaction behind the other. -/
theorem Keeps.performAll (keeps : p.Keeps rules es) (demands : List Demand)
    (fresh : rules.FreshBelow (p.drawn + Demand.drawsAll demands)) :
    (p.performAll rules demands).Keeps rules
      (es ++ (p.transactions rules demands).flatten) := by
  induction demands generalizing p es with
  | nil =>
    rw [transactions, List.flatten_nil, List.append_nil]
    exact keeps
  | cons d rest ih =>
    obtain ⟨keeps', fresh'⟩ := keeps.demand fresh
    rw [transactions, List.flatten_cons, ← List.append_assoc]
    exact ih keeps' fresh'

/-- Every transaction of a run is sound where it was decided on. -/
theorem Keeps.sound (keeps : p.Keeps rules es) {demands : List Demand}
    (fresh : rules.FreshBelow (p.drawn + Demand.drawsAll demands))
    {before : List (List Event)} {t : List Event}
    (next : before ++ [t] <+: p.transactions rules demands) :
    (Registry.ofEvents (es ++ before.flatten)).WellFormed rules.bells ∧
      ∃ given, (Registry.ofEvents (es ++ before.flatten)).Sound rules.bells given t := by
  induction demands generalizing p es before with
  | nil =>
    rw [transactions, List.prefix_nil] at next
    exact absurd next (by simp)
  | cons d rest ih =>
    obtain ⟨keeps', fresh'⟩ := keeps.demand fresh
    cases before with
    | nil =>
      obtain ⟨rfl, -⟩ := List.cons_prefix_cons.1 next
      rw [List.flatten_nil, List.append_nil, keeps.built]
      rw [Demand.drawsAll] at fresh
      have enough : p.drawn + d.action.draws ≤
          p.drawn + (d.action.draws + Demand.drawsAll rest) := by omega
      exact ⟨keeps.wellFormed, _,
        sound_transaction keeps.wellFormed keeps.within (fresh.mono enough) d.now d.caller⟩
    | cons b before =>
      obtain ⟨rfl, later⟩ := List.cons_prefix_cons.1 next
      rw [List.flatten_cons, ← List.append_assoc]
      exact ih keeps' fresh' later

/-! ## Cuts -/

/-- Whole in the first `k` bytes are the records of `before` and `m` records of the transaction after
them, which is `t`. Behind the last transaction `t` is empty. -/
structure Cut (ts : List (List Event)) (k : Nat) (before : List (List Event)) (t : List Event)
    (m : Nat) : Prop where
  next : before ++ [t] <+: ts ∨ before = ts ∧ t = []
  le : m ≤ t.length
  whole : Journal.wholeRecords ts.flatten k = before.flatten.length + m

variable {ts before : List (List Event)} {t : List Event} {k m : Nat}

theorem Cut.take_eq (cut : Cut ts k before t m) :
    ts.flatten.take (before.flatten.length + m) = before.flatten ++ t.take m := by
  rcases cut.next with ⟨after, rfl⟩ | ⟨rfl, rfl⟩
  · rw [List.append_assoc, List.flatten_append, List.take_length_add_append, List.flatten_append,
      List.flatten_singleton, List.take_append_of_le_length cut.le]
  · rw [List.take_of_length_le (Nat.le_add_right ..), List.take_nil, List.append_nil]

/-- The first events of transactions are some of them and the first events of the next one. -/
theorem exists_split (ts : List (List Event)) {n : Nat} (le : n ≤ ts.flatten.length) :
    ∃ before t m, (before ++ [t] <+: ts ∨ before = ts ∧ t = []) ∧ m ≤ t.length ∧
      n = before.flatten.length + m := by
  induction ts generalizing n with
  | nil => exact ⟨[], [], 0, .inr ⟨rfl, rfl⟩, Nat.le_refl 0, Nat.le_zero.1 le⟩
  | cons t ts ih =>
    by_cases inside : n ≤ t.length
    · exact ⟨[], t, n, .inl ⟨ts, rfl⟩, inside, (Nat.zero_add n).symm⟩
    · rw [List.flatten_cons, List.length_append] at le
      have le : n - t.length ≤ ts.flatten.length := by omega
      obtain ⟨before, t', m, next, le', same⟩ := ih le
      refine ⟨t :: before, t', m, ?_, le', ?_⟩
      · rcases next with next | ⟨rfl, last⟩
        · exact .inl (List.cons_prefix_cons.2 ⟨rfl, next⟩)
        · exact .inr ⟨rfl, last⟩
      · rw [List.flatten_cons, List.length_append]
        omega

theorem exists_cut (ts : List (List Event)) (k : Nat) : ∃ before t m, Cut ts k before t m := by
  obtain ⟨before, t, m, next, le, whole⟩ :=
    exists_split ts (Journal.wholeRecords_le ts.flatten k)
  exact ⟨before, t, m, next, le, whole⟩

/-- The registry after transactions from the start. -/
def after (ts : List (List Event)) : Registry := Registry.ofEvents ts.flatten

theorem after_append (before : List (List Event)) (t : List Event) :
    after (before ++ [t]) = (after before).applyAll t := by
  rw [after, List.flatten_append, List.flatten_singleton]
  exact Registry.applyAll_append ..

/-- What is rebuilt from a cut journal. -/
theorem Cut.rebuilt (cut : Cut ts k before t m) (fit : ∀ e ∈ ts.flatten, Journal.Fits e) :
    Registry.ofEvents (Journal.replay ((Journal.records ts.flatten).take k)) =
      (after before).applyAll (t.take m) := by
  rw [Journal.replay_take_records fit, cut.whole, cut.take_eq]
  exact Registry.applyAll_append ..

/-- All or none of a transaction: what is rebuilt is the registry before or after the
transaction that was hit if and only if none or all of its records are whole. -/
theorem Cut.before_or_after_iff {bells : BellSchedule} (cut : Cut ts k before t m)
    (wf : (after before).WellFormed bells)
    (shape : t.length ≤ 1 ∨ (after before).Displacing t) :
    ((after before).applyAll (t.take m) = after before ∨
        (after before).applyAll (t.take m) = after (before ++ [t])) ↔ m = 0 ∨ m = t.length := by
  rw [after_append]
  constructor
  · intro same
    by_cases pos : 0 < m
    · by_cases lt : m < t.length
      · obtain ⟨not_before, not_after⟩ := Registry.applyAll_take_ne wf shape pos lt
        rcases same with same | same
        · exact absurd same not_before
        · exact absurd same not_after
      · exact .inr (by have := cut.le; omega)
    · exact .inl (by omega)
  · rintro (rfl | rfl)
    · exact .inl rfl
    · rw [List.take_length]
      exact .inr rfl

/-- The registry before or after the transaction that was hit is one of the run. -/
theorem Cut.of_run (cut : Cut ts k before t m) {r : Registry}
    (same : r = after before ∨ r = after (before ++ [t])) :
    ∃ whole, whole <+: ts ∧ r = after whole := by
  rcases cut.next with next | ⟨rfl, rfl⟩
  · rcases same with same | same
    · exact ⟨before, (List.prefix_append before [t]).trans next, same⟩
    · exact ⟨before ++ [t], next, same⟩
  · rw [after_append] at same
    exact ⟨before, List.prefix_rfl, same.elim id id⟩

/-- Where the transaction that was hit is neither there nor missing, only the registry of another
time of the run can be the one that is rebuilt. -/
theorem Cut.exists_whole_iff (cut : Cut ts k before t m) {r : Registry}
    (all_or_none : (r = after before ∨ r = after (before ++ [t])) ↔ m = 0 ∨ m = t.length) :
    (∃ whole, whole <+: ts ∧ r = after whole) ↔
      m = 0 ∨ m = t.length ∨
        ∃ whole, whole <+: ts ∧ whole ≠ before ∧ whole ≠ before ++ [t] ∧ r = after whole := by
  constructor
  · rintro ⟨whole, part, same⟩
    by_cases is_before : whole = before
    · rw [is_before] at same
      exact (all_or_none.1 (.inl same)).imp_right .inl
    · by_cases is_after : whole = before ++ [t]
      · rw [is_after] at same
        exact (all_or_none.1 (.inr same)).imp_right .inl
      · exact .inr (.inr ⟨whole, part, is_before, is_after, same⟩)
  · rintro (none_left | all_left | ⟨whole, part, -, -, same⟩)
    · exact cut.of_run (all_or_none.2 (.inl none_left))
    · exact cut.of_run (all_or_none.2 (.inr all_left))
    · exact ⟨whole, part, same⟩

theorem Keeps.before_or_after_iff (keeps : p.Keeps rules []) {demands : List Demand}
    (fresh : rules.FreshBelow (p.drawn + Demand.drawsAll demands))
    (cut : Cut (p.transactions rules demands) k before t m) :
    ((after before).applyAll (t.take m) = after before ∨
        (after before).applyAll (t.take m) = after (before ++ [t])) ↔ m = 0 ∨ m = t.length := by
  rcases cut.next with next | ⟨-, rfl⟩
  · obtain ⟨wf, given, sound⟩ := keeps.sound fresh next
    exact cut.before_or_after_iff wf sound.shape
  · have none_left : m = 0 := Nat.le_zero.1 cut.le
    constructor
    · intro _
      exact .inl none_left
    · intro _
      rw [List.take_nil]
      exact .inl rfl

/-- **What a crash can leave of a run.** The journal of a run holds one transaction behind the other.
Cut off after any `k` bytes it leaves some transactions and `m` events of the next one, and that is
what a planner is started with. It is the registry before or after that transaction only if
none or all of its events are left; otherwise it is the registry after some whole transactions only
by accident, if the run has come by it at another time. -/
theorem restarted_from_cut_iff (rules : Rules) {d : Journal.Disk} (works : d.Works)
    (empty : d.log = .absent ∨ d.log = .file []) (temp : d.temp ≠ .directory) (hub : Hub)
    (counters : Counters) (demands : List Demand)
    (fresh : rules.FreshBelow (Demand.drawsAll demands)) :
    ∃ p ts, start d hub counters 0 = .ok p ∧ ts = p.transactions rules demands ∧
      (p.performAll rules demands).registry = after ts ∧
      (p.performAll rules demands).log.disk.log = .file (Journal.records ts.flatten) ∧
      ∀ k, (∃ before t m, Cut ts k before t m) ∧
        ∀ before t m, Cut ts k before t m →
          ∀ d' : Journal.Disk, d'.Works → d'.log = .file ((Journal.records ts.flatten).take k) →
            ∀ hub counters drawn, ∃ q, start d' hub counters drawn = .ok q ∧
              q.registry = (after before).applyAll (t.take m) ∧
              ((q.registry = after before ∨ q.registry = after (before ++ [t])) ↔
                m = 0 ∨ m = t.length) ∧
              ((∃ whole, whole <+: ts ∧ q.registry = after whole) ↔
                m = 0 ∨ m = t.length ∨ ∃ whole, whole <+: ts ∧ whole ≠ before ∧
                  whole ≠ before ++ [t] ∧ q.registry = after whole) := by
  obtain ⟨p, started, keeps, drawn⟩ := keeps_of_empty rules works empty temp hub counters
  rw [← Nat.zero_add (Demand.drawsAll demands), ← drawn] at fresh
  have kept := keeps.performAll demands fresh
  rw [List.nil_append] at kept
  refine ⟨p, _, started, rfl, kept.built.symm, kept.ready.log_eq, fun k => ⟨exists_cut _ k, ?_⟩⟩
  intro before t m cut d' works' log hub counters drawn'
  obtain ⟨q, restarted, registry, -⟩ := start_of_file works' log hub counters drawn'
  rw [cut.rebuilt kept.fits] at registry
  have all_or_none := keeps.before_or_after_iff fresh cut
  rw [← registry] at all_or_none
  exact ⟨q, restarted, registry, all_or_none, cut.exists_whole_iff all_or_none⟩

/-! A cut between a cancellation and its booking -/

/-- A planner on a new journal. -/
def opened : Planner where
  registry := .empty
  log := ⟨⟨.file [], .absent, fun _ _ => none, 1⟩, .new .log, 0⟩
  hub := .empty
  counters := []
  drawn := 0

/-- The transactions of a run at whose end a booking displaces another one. -/
def displacing : List (List Event) := opened.transactions .oneStudent Demand.displacing

/-- The journal of that run without its last byte. -/
def cutDisk : Journal.Disk where
  log := .file ((Journal.records displacing.flatten).take
    ((Journal.records displacing.flatten).length - 1))
  temp := .absent
  fate := fun _ _ => none
  calls := 0

theorem start_opened : start .empty .empty [] 0 = .ok opened := rfl

set_option maxRecDepth 2000 in
theorem cut_displacing : Cut displacing ((Journal.records displacing.flatten).length - 1)
    (displacing.take 6) (displacing.getD 6 []) 1 where
  next := .inl (by decide +kernel)
  le := by decide +kernel
  whole := by decide +kernel

theorem restarted_from_cut_displacing : ∃ q, start cutDisk .empty [] 0 = .ok q ∧
    ¬ (q.registry = after (displacing.take 6) ∨
      q.registry = after (displacing.take 6 ++ [displacing.getD 6 []])) := by
  obtain ⟨p, ts, started, rfl, -, -, cuts⟩ := restarted_from_cut_iff .oneStudent (d := .empty)
    (fun _ _ => rfl) (.inl rfl) (by decide) .empty [] Demand.displacing
    (Rules.freshBelow_oneStudent (by decide))
  cases start_opened.symm.trans started
  obtain ⟨q, restarted, -, before_or_after, -⟩ := (cuts _).2 _ _ _ cut_displacing cutDisk
    (fun _ _ => rfl) rfl .empty [] 0
  refine ⟨q, restarted, ?_⟩
  intro same
  have several : (displacing.getD 6 []).length = 2 := by decide +kernel
  have none_or_all := before_or_after.1 same
  omega

/-- What the index says of the three bookings of the run. -/
def booked (r : Registry) : List (Option Ident) := [6, 7, 8].map fun n => r.slotOf? (.ofNat n)

/-- Half applied, the last transaction leaves the booking for next week alone, which the run has never
come by. -/
theorem booked_displacing :
    booked ((after (displacing.take 6)).applyAll ((displacing.getD 6 []).take 1)) =
        [none, some (.ofNat 0), none] ∧
      ∀ n ∈ List.range 8, booked (after (displacing.take n)) ≠ [none, some (.ofNat 0), none] := by
  decide +kernel

/-- Without its last byte the journal of the run rebuilds a registry that the run has never come by,
though every demand of it was carried out. -/
theorem half_applied_displacing :
    start .empty .empty [] 0 = .ok opened ∧
      (∀ t ∈ opened.transactions .oneStudent Demand.displacing, t ≠ []) ∧
      (opened.performAll .oneStudent Demand.displacing).log.disk.log =
        .file (Journal.records (opened.transactions .oneStudent Demand.displacing).flatten) ∧
      ∃ q, start cutDisk .empty [] 0 = .ok q ∧
        ¬ ∃ whole, whole <+: opened.transactions .oneStudent Demand.displacing ∧
          q.registry = after whole := by
  obtain ⟨p, started, keeps, drawn⟩ := keeps_of_empty .oneStudent (d := .empty) (fun _ _ => rfl)
    (.inl rfl) (by decide) .empty []
  cases start_opened.symm.trans started
  have kept := keeps.performAll Demand.displacing (Rules.freshBelow_oneStudent (by decide))
  rw [List.nil_append] at kept
  obtain ⟨q, restarted, registry, -⟩ := start_of_file (d := cutDisk) (fun _ _ => rfl) rfl
    .empty [] 0
  refine ⟨start_opened, by decide +kernel, kept.ready.log_eq, q, restarted, ?_⟩
  rintro ⟨whole, part, same⟩
  rw [registry, cut_displacing.rebuilt kept.fits] at same
  obtain ⟨half, others⟩ := booked_displacing
  have taken : whole = displacing.take whole.length := List.prefix_iff_eq_take.1 part
  have few : whole.length ≤ 7 := part.length_le
  refine others whole.length (List.mem_range.2 (by omega)) ?_
  rw [← taken, ← same]
  exact half

end Planner

end Timetable
