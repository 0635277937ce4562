import Timetable.Proofs.Arguments
import Timetable.Proofs.Planner.GivingUp

/-!
# What the counters tell

Lines are handled one after the other, whoever sends them and whoever listens meanwhile. What the
counters come to can be told from the lines, the replies to them and the registries that they found:
a request counts once, under the name of its action and as done or not, and so does a wrong token;
a booking counts as made or by the reason why not, and a cancellation by how it came about.
-/

set_option autoImplicit false

namespace Timetable

/-! ## Counting -/

namespace Counters

theorem count_foldl_bump (cs : Counters) (bumps : List Counter) (c : Counter) :
    (bumps.foldl bump cs).count c = cs.count c + bumps.count c := by
  induction bumps generalizing cs with
  | nil => rfl
  | cons d bumps ih =>
    rw [List.foldl_cons, ih, count_bump, List.count_cons]
    simp only [beq_iff_eq]
    omega

/-- What the counters of a family have come to together. -/
def total (cs : Counters) (family : String) : Nat :=
  match cs with
  | [] => 0
  | (c, n) :: rest => (if c.family = family then n else 0) + total rest family

theorem total_bump (cs : Counters) (c : Counter) (family : String) :
    (cs.bump c).total family = cs.total family + if c.family = family then 1 else 0 := by
  induction cs with
  | nil => exact Nat.add_comm ..
  | cons entry rest ih =>
    obtain ⟨other, n⟩ := entry
    rw [bump]
    split
    · rename_i same
      subst same
      rw [total, total]
      split <;> omega
    · rw [total, total, ih]
      omega

theorem total_foldl_bump (cs : Counters) (bumps : List Counter) (family : String) :
    (bumps.foldl bump cs).total family = cs.total family + bumps.countP (·.family == family) := by
  induction bumps generalizing cs with
  | nil => rfl
  | cons d bumps ih =>
    rw [List.foldl_cons, ih, total_bump, List.countP_cons]
    simp only [beq_iff_eq]
    omega

end Counters

/-! ## What is due for a line -/

/-- The member of that name. -/
def Json.member? (j : Json) (name : String) : Option Json :=
  match j with
  | obj members => members.lookup name
  | _ => none

namespace Registry

/-- Some slot has a reservation of that id, and it is the user's. -/
def owns (r : Registry) (user : UserId) (id : Ident) : Bool :=
  r.rosterList.any fun roster => roster.reservations.any fun x => x.id == id && x.userId == user

/-- How a reservation was given up, told from the answer that the user got and from whose it was. -/
def unbookModeOf (r : Registry) (user : UserId) (id : Ident) (answer : Json) : UnbookMode :=
  if answer.str? = some "requested" then .requested
  else if r.owns user id then .self
  else .forced

end Registry

/-- A line that has been handled, with the registry that it found and the reply to it. -/
structure Handled where
  before : Registry
  text : String
  reply : Json

namespace Handled

variable (token : String) (h : Handled)

/-- The request that the line is, if it is one. -/
def request? : Option Request := (Request.ofText h.text token).toOption

/-- The name of an action that the line has in its envelope, whether it is a request or not. -/
def function? : Option String := (Envelope.ofText? h.text).map (·.function)

def isOk : Bool := (h.reply.member? "ok").isSome

/-- The code of the error that is replied. -/
def errorCode? : Option String := ((h.reply.member? "error").bind (·.member? "code")).bind Json.str?

/-- Whether a counter is to count the line. -/
def counts : Counter → Bool
  | .requests function ok =>
    (h.request? token).isSome && h.function? == some function && h.isOk == ok
  | .authFailures => (Envelope.ofText? h.text).any (·.token != token)
  | .bookings =>
    match h.request? token with
    | some ⟨_, _, .bookReservation _ _ _⟩ => h.isOk
    | _ => false
  | .rejections reason =>
    match h.request? token with
    | some ⟨_, _, .bookReservation _ _ _⟩ => h.errorCode? == some reason
    | _ => false
  | .unbookings mode =>
    match h.request? token with
    | some ⟨_, caller, .unbookReservation id _ _⟩ =>
      (h.reply.member? "ok").any fun answer => h.before.unbookModeOf caller id answer == mode
    | _ => false

end Handled

/-! ## How an action is counted -/

namespace Registry

variable {r : Registry} {rules : Rules} {now : Int} {user : UserId} {id : Ident}
  {force strict : Bool}

/-- There is but one reservation of that id, so it is the user's or it is not. -/
theorem WellFormed.owns_iff {bells : BellSchedule} (wf : r.WellFormed bells) {roster : Roster}
    {x : Reservation} (holding : r.rosterHolding id = .ok roster)
    (has : roster.reservation? id = some x) (user : UserId) :
    r.owns user id = true ↔ x.userId = user := by
  have there := (wf.indexed.rosterHolding_eq_ok_iff.1 holding).1
  obtain ⟨mem, same⟩ := Roster.of_reservation?_eq_some has
  simp only [owns, List.any_eq_true, Bool.and_eq_true, beq_iff_eq]
  constructor
  · rintro ⟨roster', there', y, mem', rfl, mine⟩
    have entity : y.id ∈ roster'.entities :=
      List.mem_append_right _ (List.mem_map_of_mem mem')
    cases holding.symm.trans (wf.indexed.rosterHolding_eq_ok_iff.2 ⟨there', entity⟩)
    obtain ⟨slot, found⟩ := mem_rosterList_iff.1 there
    have nodup := wf.indexed.nodup_reservations found
    cases has.symm.trans (Roster.reservation?_of_mem nodup mem')
    exact mine
  · intro mine
    exact ⟨roster, there, x, mem, same, mine⟩

/-- The answer and the owner tell how a reservation was given up. -/
theorem WellFormed.unbookModeOf_eq (wf : r.WellFormed rules.bells) {c : Change UnbookMode}
    (decided : r.unbook rules now id user force strict = .ok c) :
    r.unbookModeOf user id c.answer.json = c.answer := by
  obtain ⟨roster, holding, x, has, phase, -, mode, allowed, rfl⟩ := unbook_eq_ok_iff.1 decided
  have owns := wf.owns_iff holding has user
  obtain ⟨-, ⟨rfl, mine⟩ | ⟨rfl, other, -⟩ | ⟨rfl, -⟩⟩ := unbookMode_eq_ok allowed
  · have owned := owns.2 mine
    simp [unbookModeOf, UnbookMode.json, Json.str?, owned]
  · have not_owned : r.owns user id = false := Bool.eq_false_iff.2 fun owned => other (owns.1 owned)
    simp [unbookModeOf, UnbookMode.json, Json.str?, not_owned]
  · rfl

end Registry

namespace Planner

variable {p : Planner} {rules : Rules}

/-- How an action is counted besides being asked for, by its result. -/
def outcome? (r : Registry) (caller : UserId) : Action → Except Refusal Json → Option Counter
  | .bookReservation _ _ _, .ok _ => some .bookings
  | .bookReservation _ _ _, .error refusal => some (.rejections refusal.code)
  | .unbookReservation id _ _, .ok answer => some (.unbookings (r.unbookModeOf caller id answer))
  | _, _ => none

/-- None of these is a request. -/
theorem family_of_outcome? (r : Registry) (caller : UserId) (action : Action)
    (result : Except Refusal Json) (c : Counter) (h : outcome? r caller action result = some c) :
    c.family ≠ "slotbook_requests_total" := by
  unfold outcome? at h
  split at h <;> cases h <;> simp [Counter.family]

/-- One planner comes out of another, and is sound if that was and only new ids have been drawn. -/
structure GoesOn (rules : Rules) (p q : Planner) : Prop where
  drawn_le : p.drawn ≤ q.drawn
  stands : p.Stands rules → rules.FreshBelow q.drawn → q.Stands rules

theorem GoesOn.of_same {q : Planner} (registry : q.registry = p.registry)
    (drawn : q.drawn = p.drawn) : p.GoesOn rules q where
  drawn_le := Nat.le_of_eq drawn.symm
  stands stands _ := ⟨registry ▸ stands.wellFormed, registry ▸ drawn ▸ stands.within⟩

theorem GoesOn.trans {q r : Planner} (first : p.GoesOn rules q) (second : q.GoesOn rules r) :
    p.GoesOn rules r where
  drawn_le := Nat.le_trans first.drawn_le second.drawn_le
  stands stands fresh := second.stands (first.stands stands (fresh.mono second.drawn_le)) fresh

theorem goesOn_perform (p : Planner) (rules : Rules) (d : Demand) :
    p.GoesOn rules (p.perform rules d.now d.caller d.action).2 := by
  have drawn := (perform_cases p rules d).2
  exact ⟨drawn ▸ Nat.le_add_right .., fun stands fresh => stands.request (drawn ▸ fresh)⟩

theorem counters_perform (wf : p.registry.WellFormed rules.bells) (d : Demand) :
    (p.perform rules d.now d.caller d.action).2.counters =
      (outcome? p.registry d.caller d.action
        (p.perform rules d.now d.caller d.action).1).toList.foldl .bump p.counters := by
  have counted : (p.perform rules d.now d.caller d.action).2.counters =
      p.counted rules d (p.perform rules d.now d.caller d.action).1 := by
    have performed : p.perform rules d.now d.caller d.action = _ :=
      p.perform_eq_recount rules d p.log p.hub
    rw [performed]
    rfl
  have decided (answer : Json) := (perform_settled p rules d).1.of_ok (a := answer)
  rw [counted]
  obtain ⟨now, caller, action⟩ := d
  generalize (p.perform rules now caller action).1 = result at decided
  cases action with
  | bookReservation slot date student => cases result <;> rfl
  | unbookReservation id nice strict =>
    cases result with
    | error refusal => rfl
    | ok answer =>
      obtain ⟨c, decision, rfl, -⟩ := decided answer rfl
      obtain ⟨c', unbooked, rfl⟩ := Change.of_map_eq_ok decision
      have mode := wf.unbookModeOf_eq unbooked
      simp only [Planner.counted, unbooked, outcome?, Change.map, mode, Option.toList_some,
        List.foldl_cons, List.foldl_nil]
  | _ => rfl

end Planner

/-! ## How a line is counted -/

namespace Handled

variable {token text : String} {r : Registry} {reply : Json} {id : Json} {error : RequestError}
  {request : Request} {result : Except Refusal Json}

/-- Every counter has counted the lines that it was to count and no others. Of the requests,
whatever they were for and however they ended, each is counted once. -/
structure Counted (token : String) (handled : List Handled) (before after : Counters) : Prop where
  each (c : Counter) : after.count c = before.count c + handled.countP (·.counts token c)
  requests : after.total "slotbook_requests_total" =
    before.total "slotbook_requests_total" + handled.countP fun h => (h.request? token).isSome

theorem Counted.cons {h : Handled} {handled : List Handled} {before between after : Counters}
    (first : Counted token [h] before between) (rest : Counted token handled between after) :
    Counted token (h :: handled) before after where
  each c := by rw [rest.each, first.each, Nat.add_assoc, ← List.countP_append]; rfl
  requests := by rw [rest.requests, first.requests, Nat.add_assoc, ← List.countP_append]; rfl

theorem Counted.of_bumps {h : Handled} (before : Counters) {bumps : List Counter}
    (once : bumps.Nodup) (due : ∀ c, c ∈ bumps ↔ h.counts token c = true)
    (requests : bumps.countP (·.family == "slotbook_requests_total") =
      if (h.request? token).isSome then 1 else 0) :
    Counted token [h] before (bumps.foldl .bump before) where
  each c := by
    rw [Counters.count_foldl_bump, once.count, List.countP_singleton]
    simp only [due]
  requests := by rw [Counters.total_foldl_bump, requests, List.countP_singleton]

theorem request?_of_ok (read : Request.ofText text token = .ok request) :
    request? token ⟨r, text, reply⟩ = some request := by
  rw [request?, read]
  rfl

theorem request?_of_error (refused : Request.ofText text token = .error (id, error)) :
    request? token ⟨r, text, reply⟩ = none := by
  rw [request?, refused]
  rfl

/-- A line that is no request counts as a wrong token or not at all. -/
theorem counts_of_error (refused : Request.ofText text token = .error (id, error)) (c : Counter) :
    counts token ⟨r, text, reply⟩ c =
      (c == .authFailures && (Envelope.ofText? text).any (·.token != token)) := by
  cases c <;> simp [counts, request?_of_error refused]

theorem isOk_reply (id : Json) (result : Except Refusal Json) :
    isOk ⟨r, text, Planner.reply id result⟩ = result.isOk := by
  cases result <;> rfl

theorem errorCode?_reply (id : Json) (result : Except Refusal Json) :
    errorCode? ⟨r, text, Planner.reply id result⟩ = match result with
      | .ok _ => none
      | .error refusal => some refusal.code := by
  cases result <;> rfl

theorem ok_reply (id : Json) (result : Except Refusal Json) :
    (Planner.reply id result).member? "ok" = result.toOption := by
  cases result <;> rfl

/-- A request counts by its name and its outcome. -/
theorem counts_of_ok (read : Request.ofText text token = .ok request) (c : Counter) :
    counts token ⟨r, text, Planner.reply request.id result⟩ c = true ↔
      Planner.outcome? r request.caller request.action result = some c ∨
        Counter.requests request.action.name result.isOk = c := by
  obtain ⟨e, decodes, right, -, -, name⟩ := Envelope.exists_of_ofText_eq_ok read
  have asked (reply : Json) : request? token ⟨r, text, reply⟩ = some request := request?_of_ok read
  have function (reply : Json) : function? ⟨r, text, reply⟩ = some request.action.name := by
    rw [function?, decodes, name]
    rfl
  have not_wrong : (Envelope.ofText? text).any (·.token != token) = false := by
    simp [decodes, right]
  obtain ⟨id, caller, action⟩ := request
  cases action with
  | bookReservation | unbookReservation =>
    cases result <;> cases c <;>
      simp [counts, asked, function, not_wrong, isOk_reply, errorCode?_reply, ok_reply,
        Planner.outcome?, Except.isOk, Except.toBool, Except.toOption]
  | _ =>
    -- It counts as a request only.
    cases c <;>
      simp [counts, asked, function, not_wrong, isOk_reply, Planner.outcome?]

theorem counted_of_error (refused : Request.ofText text token = .error (id, error))
    (not_wrong : (Envelope.ofText? text).any (·.token != token) = false) (before : Counters) :
    Counted token [⟨r, text, reply⟩] before before := by
  refine .of_bumps before List.nodup_nil (fun c => ?_) ?_
  · rw [counts_of_error refused, not_wrong, Bool.and_false]
    exact iff_of_false List.not_mem_nil Bool.false_ne_true
  · rw [request?_of_error refused]
    rfl

theorem counted_of_wrong_token {e : Envelope} (decodes : Envelope.ofText? text = some e)
    (wrong : e.token ≠ token) (before : Counters) :
    Counted token [⟨r, text, reply⟩] before (before.bump .authFailures) := by
  have refused := Envelope.ofText_of_ne decodes wrong
  refine .of_bumps before (List.nodup_singleton .authFailures) (fun c => ?_) ?_
  · rw [counts_of_error refused, decodes, List.mem_singleton]
    simp [wrong]
  · rw [request?_of_error refused]
    rfl

theorem counted_of_ok (read : Request.ofText text token = .ok request)
    (result : Except Refusal Json) (before : Counters) :
    Counted token [⟨r, text, Planner.reply request.id result⟩] before
      (((Planner.outcome? r request.caller request.action result).toList.foldl .bump before).bump
        (.requests request.action.name result.isOk)) := by
  have due : ∀ c, counts token ⟨r, text, Planner.reply request.id result⟩ c = true ↔
      Planner.outcome? r request.caller request.action result = some c ∨
        Counter.requests request.action.name result.isOk = c := counts_of_ok read
  have other := Planner.family_of_outcome? r request.caller request.action result
  generalize Planner.outcome? r request.caller request.action result = outcome at due other ⊢
  rw [← List.foldl_concat Counters.bump]
  refine .of_bumps before ?_ (fun c => ?_) ?_
  · cases outcome with
    | none => exact List.nodup_singleton _
    | some d =>
      refine List.nodup_cons.2 ⟨?_, List.nodup_singleton _⟩
      intro same
      rw [List.mem_singleton.1 same] at other
      exact other _ rfl rfl
  · rw [due, List.mem_append, Option.mem_toList, List.mem_singleton, eq_comm (b := c)]
  · rw [request?_of_ok read]
    cases outcome with
    | none => rfl
    | some d =>
      have not_request : (d.family == "slotbook_requests_total") = false := by
        simpa using other d rfl
      rw [Option.toList_some, List.singleton_append, List.countP_cons, not_request]
      rfl

end Handled

namespace Session

variable {p : Planner} {rules : Rules} {token : String}

theorem stopListening_eq (p : Planner) (listening : Option Receiver) :
    ∃ hub, stopListening p listening = { p with hub } := by
  cases listening <;> exact ⟨_, rfl⟩

/-- A request is carried out and counted. -/
theorem carryOut_spec (p : Planner) (listening : Option Receiver) (rules : Rules) (now : Int)
    (request : Request) : ∃ (result : Except Refusal Json) (q : Planner) (next : Option Receiver),
      carryOut p listening rules now request = (Planner.reply request.id result,
        q.count (.requests request.action.name result.isOk), next) ∧
      p.GoesOn rules q ∧ (p.Stands rules → q.counters =
        (Planner.outcome? p.registry request.caller request.action result).toList.foldl .bump
          p.counters) := by
  obtain ⟨id, caller, action⟩ := request
  obtain ⟨hub, stopped⟩ := stopListening_eq p listening
  have goesOn := p.goesOn_perform rules ⟨now, caller, action⟩
  have counted (stands : p.Stands rules) :=
    Planner.counters_perform stands.wellFormed ⟨now, caller, action⟩
  cases action with
  | listen =>
    refine ⟨.ok .null, (startListening p listening caller).1, _, rfl, ?_⟩
    rw [startListening, stopped]
    exact ⟨.of_same rfl rfl, fun _ => rfl⟩
  | unlisten =>
    refine ⟨.ok .null, stopListening p listening, _, rfl, ?_⟩
    rw [stopped]
    exact ⟨.of_same rfl rfl, fun _ => rfl⟩
  | _ => exact ⟨_, _, listening, rfl, goesOn, counted⟩

/-- A line is counted. -/
theorem handleLine_counted (p : Planner) (listening : Option Receiver) (rules : Rules) (now : Int)
    (token text : String) : ∃ reply q next,
      handleLine p listening rules now token text = (reply, q, next) ∧ p.GoesOn rules q ∧
      (p.Stands rules → Handled.Counted token [⟨p.registry, text, reply⟩] p.counters q.counters) := by
  rw [handleLine, Planner.readLine]
  cases decodes : Envelope.ofText? text with
  | none =>
    have refused : Request.ofText text token = .error (.null, .malformed) := by
      rw [Request.ofText, decodes]
    rw [refused]
    exact ⟨_, p, listening, rfl, .of_same rfl rfl, fun _ =>
      Handled.counted_of_error refused (by rw [decodes]; rfl) _⟩
  | some e =>
    by_cases right : e.token = token
    · cases acts : e.action with
      | error why =>
        have refused : Request.ofText text token = .error (e.id, .params why) := by
          rw [Envelope.ofText_of_eq decodes right, acts]
        rw [refused]
        exact ⟨_, p, listening, rfl, .of_same rfl rfl, fun _ =>
          Handled.counted_of_error refused (by simp [decodes, right]) _⟩
      | ok action =>
        have read : Request.ofText text token = .ok ⟨e.id, e.caller, action⟩ := by
          rw [Envelope.ofText_of_eq decodes right, acts]
        obtain ⟨result, q, next, carried, goesOn, counters⟩ :=
          carryOut_spec p listening rules now ⟨e.id, e.caller, action⟩
        rw [read]
        refine ⟨_, _, _, carried, goesOn.trans (.of_same rfl rfl), fun stands => ?_⟩
        have counted := Handled.counted_of_ok (r := p.registry) read result p.counters
        rw [← counters stands] at counted
        exact counted
    · have refused := Envelope.ofText_of_ne decodes right
      rw [refused]
      exact ⟨_, p.count .authFailures, listening, rfl, .of_same rfl rfl, fun _ =>
        Handled.counted_of_wrong_token decodes right _⟩

/-! ## Many lines -/

/-- A line that comes in at some time, and to whom its client listens then. -/
structure Arrival where
  listening : Option Receiver
  now : Int
  text : String

/-- Handles lines one after the other. -/
def handleLines (rules : Rules) (token : String) (p : Planner) :
    List Arrival → List Handled × Planner
  | [] => ([], p)
  | a :: rest =>
    let (reply, q, _) := handleLine p a.listening rules a.now token a.text
    let (handled, last) := handleLines rules token q rest
    (⟨p.registry, a.text, reply⟩ :: handled, last)

theorem goesOn_handleLines (rules : Rules) (token : String) (p : Planner)
    (arrivals : List Arrival) : p.GoesOn rules (handleLines rules token p arrivals).2 := by
  induction arrivals generalizing p with
  | nil => exact .of_same rfl rfl
  | cons a rest ih =>
    obtain ⟨reply, q, next, handled, goesOn, -⟩ :=
      handleLine_counted p a.listening rules a.now token a.text
    rw [handleLines, handled]
    exact goesOn.trans (ih q)

/-- Lines are counted one by one. -/
theorem handleLines_counted (stands : p.Stands rules) (token : String) (arrivals : List Arrival)
    (fresh : rules.FreshBelow (handleLines rules token p arrivals).2.drawn) :
    Handled.Counted token (handleLines rules token p arrivals).1 p.counters
      (handleLines rules token p arrivals).2.counters := by
  induction arrivals generalizing p with
  | nil => exact ⟨fun _ => rfl, rfl⟩
  | cons a rest ih =>
    obtain ⟨reply, q, next, handled, goesOn, counted⟩ :=
      handleLine_counted p a.listening rules a.now token a.text
    simp only [handleLines, handled] at fresh ⊢
    have fresh_before := fresh.mono (goesOn_handleLines rules token q rest).drawn_le
    exact (counted stands).cons (ih (goesOn.stands stands fresh_before) fresh)

/-- **Every counter tells how many of the lines it was to count**, since any moment of a history,
so from the start as well. Of the requests, whatever they were for and however they ended, there are
as many as lines that were requests. -/
theorem counters_after_lines {p₀ q : Planner} {steps : List Step} {handled : List Handled}
    {arrivals : List Arrival} (h : Planner.History rules p₀ steps p)
    (ran : handleLines rules token p arrivals = (handled, q)) (fresh : rules.FreshBelow q.drawn) :
    (∀ c, q.counters.count c = p.counters.count c + handled.countP (·.counts token c)) ∧
    q.counters.total "slotbook_requests_total" = p.counters.total "slotbook_requests_total" +
      handled.countP fun h => (h.request? token).isSome := by
  have counted := handleLines_counted h.stands.1 token arrivals (by rw [ran]; exact fresh)
  rw [ran] at counted
  exact ⟨counted.each, counted.requests⟩

/-- Asks for something for a caller. -/
def asking (caller token function args : String) : String :=
  "\x7b\"caller\":" ++ caller ++ ",\"token\":\"" ++ token ++ "\",\"function\":\"" ++ function ++
    "\",\"args\":\x7b" ++ args ++ "\x7d\x7d"

/-- Somebody mistakes the token and somebody sends no request. User 1 makes a slot, which user 7
books twice. Asked to give up the reservation, the user does. -/
def morning : List Arrival := [
  ⟨none, 0, asking "7" "u" "listen" ""⟩,
  ⟨none, 0, "listen"⟩,
  ⟨none, 0, asking "7" "t" "listen" ""⟩,
  ⟨none, 0, asking "1" "t" "create_slot"
    "\"startunit\":1,\"duration\":1,\"weekday\":4,\"room\":\"101\",\"size\":5"⟩,
  ⟨none, 0, asking "1" "t" "add_slot_filter"
    "\"slotid\":\"00000000000000000000000000\",\"vintage\":\"1a\""⟩,
  ⟨none, 0, asking "7" "t" "book_reservation"
    "\"slotid\":\"00000000000000000000000000\",\"date\":\"1970-01-01\""⟩,
  ⟨none, 0, asking "7" "t" "book_reservation"
    "\"slotid\":\"00000000000000000000000000\",\"date\":\"1970-01-01\""⟩,
  ⟨none, 0, asking "1" "t" "unbook_reservation"
    "\"reservationid\":\"00000000000000000000000003\""⟩,
  ⟨none, 0, asking "7" "t" "unbook_reservation"
    "\"reservationid\":\"00000000000000000000000003\""⟩]

def morningCounters : Counters := [
  (.authFailures, 1), (.requests "listen" true, 1), (.requests "create_slot" true, 1),
  (.requests "add_slot_filter" true, 1), (.bookings, 1), (.requests "book_reservation" true, 1),
  (.rejections "already_booked", 1), (.requests "book_reservation" false, 1),
  (.unbookings .requested, 1), (.requests "unbook_reservation" true, 2), (.unbookings .self, 1)]

theorem counters_after_lines_morning :
    ∃ handled q, handleLines .oneStudent "t" .opened morning = (handled, q) ∧
      q.counters = morningCounters ∧ ∀ c, morningCounters.count c =
        handled.countP (·.counts "t" c) := by
  have last : ((handleLines .oneStudent "t" .opened morning).2.counters,
      (handleLines .oneStudent "t" .opened morning).2.drawn) = (morningCounters, 5) := by
    decide +kernel
  obtain ⟨q, h⟩ := Planner.History.of_works [] (d := .empty) (fun _ _ => rfl) (.inl rfl) (by decide)
    Planner.start_opened (Rules.freshBelow_oneStudent (by decide))
  cases h.ran
  rcases ran : handleLines .oneStudent "t" .opened morning with ⟨handled, q⟩
  rw [ran] at last
  obtain ⟨counters, drawn⟩ := Prod.mk.inj last
  have fresh : Rules.oneStudent.FreshBelow q.drawn :=
    Rules.freshBelow_oneStudent (by rw [drawn]; decide)
  obtain ⟨each, -⟩ := counters_after_lines h ran fresh
  exact ⟨handled, q, rfl, counters, fun c => counters ▸ (each c).trans (Nat.zero_add _)⟩

end Session

end Timetable
