import Timetable.Proofs.Planner.Decisions
import Timetable.Session

/-!
# What arguments can do

Who asks, which action is asked for and whether the token is right is said in the envelope of a
request, beside its arguments. An action looks up its own arguments by name and looks at nothing
else, so whatever stands beside them, under whatever name, has no effect. A request with a wrong
token is answered alike whatever it asks for.
-/

set_option autoImplicit false

namespace Timetable

namespace Action

/-- The names of the arguments that tell what a slot is like. -/
def slotArgNames : List String := ["startunit", "duration", "weekday", "room", "size"]

/-- The names of the arguments that an action has. -/
def argNames : String → List String
  | "create_slot" => slotArgNames
  | "update_slot" => "slotid" :: slotArgNames
  | "get_student_slots" => ["userid"]
  | "add_slot_filter" => ["slotid", "courseid", "vintage"]
  | "delete_slot_filter" => ["filterid"]
  | "delete_slot" | "get_slot_filters" | "get_slot_reservations" => ["slotid"]
  | "add_slot_supervisor" | "remove_slot_supervisor" => ["slotid", "userid"]
  | "book_reservation" => ["slotid", "date", "userid"]
  | "unbook_reservation" => ["reservationid", "nice", "strict"]
  | _ => []

/-! ## The action that is read -/

/-- What is read, if anything is, is an action of this name. -/
def ReadsOnly (name : String) (read : Except ParamError Action) : Prop :=
  ∀ action, read = .ok action → action.name = name

theorem ReadsOnly.bind {α : Type} {name : String} {x : Except ParamError α}
    {f : α → Except ParamError Action} (each : ∀ a, ReadsOnly name (f a)) :
    ReadsOnly name (x >>= f) := by
  intro action h
  obtain ⟨a, -, h⟩ := bind_eq_ok_iff.1 h
  exact each a action h

theorem ReadsOnly.pure (action : Action) : ReadsOnly action.name (pure action) := by
  intro action' h
  rw [pure_eq_ok_iff.1 h]

/-- Only the name tells which action it is. -/
theorem name_of_ofArgs {name : String} {args : Args} {action : Action}
    (read : ofArgs name args = .ok action) : action.name = name := by
  suffices only : ReadsOnly name (ofArgs name args) from only action read
  unfold ofArgs createSlotOf
  split
  -- The arguments are read first, then the action is put together.
  all_goals repeat with_reducible refine .bind fun _ => ?_
  case h_19 =>
    intro action unread
    cases unread
  all_goals exact .pure _

/-! ## The arguments that are looked at -/

/-- Two objects have the same arguments of these names, whatever else they have. -/
def AgreeOn (names : List String) (args args' : Args) : Prop :=
  ∀ name ∈ names, args'.lookup name = args.lookup name

namespace AgreeOn

variable {names : List String} {args args' : Args} {α : Type}

theorem mono (agree : AgreeOn names args args') {fewer : List String} (sub : fewer ⊆ names) :
    AgreeOn fewer args args' := fun name mem => agree name (sub mem)

theorem given (agree : AgreeOn names args args') (name : String) (mem : name ∈ names)
    (read : Json → Except ParamError α) :
    Action.given args' name read = Action.given args name read := by
  rw [Action.given, agree name mem, Action.given]

theorem arg (agree : AgreeOn names args args') (name : String) (mem : name ∈ names)
    (read : Json → Option α) : Action.arg args' name read = Action.arg args name read := by
  rw [Action.arg, agree.given name mem, Action.arg]

theorem option (agree : AgreeOn names args args') (name : String) (mem : name ∈ names)
    (read : Json → Except ParamError α) :
    Action.option args' name read = Action.option args name read := by
  rw [Action.option, agree.given name mem, Action.option]

theorem patch (agree : AgreeOn slotArgNames args args') :
    Action.patch args' = Action.patch args := by
  rw [Action.patch, agree.option "duration" (by decide), agree.option "room" (by decide),
    agree.option "size" (by decide), agree.option "startunit" (by decide),
    agree.option "weekday" (by decide), Action.patch]

theorem createSlotOf (agree : AgreeOn slotArgNames args args') :
    Action.createSlotOf args' = Action.createSlotOf args := by
  rw [Action.createSlotOf, agree.given "duration" (by decide), agree.given "room" (by decide),
    agree.given "size" (by decide), agree.given "startunit" (by decide),
    agree.given "weekday" (by decide), Action.createSlotOf]

/-- An action is read from its own arguments. -/
theorem ofArgs {name : String} (agree : AgreeOn (argNames name) args args') :
    Action.ofArgs name args' = Action.ofArgs name args := by
  unfold Action.ofArgs
  split
  -- The cases are those of `Action.ofArgs`, in its order.
  case h_1 => exact agree.createSlotOf
  case h_2 => rw [agree.arg "slotid" (by decide), (agree.mono (by decide)).patch]
  case h_3 | h_10 | h_15 => rw [agree.arg "slotid" (by decide)]
  case h_6 => rw [agree.arg "userid" (by decide)]
  case h_8 =>
    rw [agree.arg "slotid" (by decide), agree.option "courseid" (by decide),
      agree.option "vintage" (by decide)]
  case h_9 => rw [agree.arg "filterid" (by decide)]
  case h_11 | h_12 => rw [agree.arg "slotid" (by decide), agree.arg "userid" (by decide)]
  case h_13 =>
    rw [agree.arg "slotid" (by decide), agree.arg "date" (by decide),
      agree.option "userid" (by decide)]
  case h_14 =>
    rw [agree.arg "reservationid" (by decide), agree.given "nice" (by decide),
      agree.given "strict" (by decide)]
  -- The others have no arguments.
  all_goals rfl

end AgreeOn

end Action

/-! ## Envelopes -/

namespace Envelope

variable {e e' : Envelope} {line line' token : String}

/-- The arguments in an envelope. Null stands for no arguments; all else but an object is no
arguments at all. -/
def arguments? (e : Envelope) : Option Action.Args :=
  match e.args with
  | .obj args => some args
  | .null => some []
  | _ => none

theorem action_eq (e : Envelope) : e.action = match e.arguments? with
    | some args => Action.ofArgs e.function args
    | none => .error .notAnObject := by
  rw [action, arguments?]
  cases e.args <;> rfl

/-- The same is asked for by the same user, with the same arguments of that action. -/
structure Alike (e e' : Envelope) : Prop where
  id : e'.id = e.id
  caller : e'.caller = e.caller
  token : e'.token = e.token
  function : e'.function = e.function
  arguments : Option.Rel (Action.AgreeOn (Action.argNames e.function)) e.arguments? e'.arguments?

theorem Alike.action (alike : e.Alike e') : e'.action = e.action := by
  have given := alike.arguments
  rw [action_eq e', action_eq e, alike.function]
  generalize e.arguments? = args at given ⊢
  generalize e'.arguments? = args' at given ⊢
  cases given with
  | some agree => exact agree.ofArgs
  | none => rfl

theorem Alike.request (alike : e.Alike e') (token : String) :
    e'.request token = e.request token := by
  rw [Envelope.request, alike.token, alike.action, alike.id, alike.caller, Envelope.request]

theorem ofText_eq (decodes : ofText? line = some e) (token : String) :
    Request.ofText line token = (e.request token).mapError (e.id, ·) := by
  rw [Request.ofText, decodes]

/-- A request with another token than that of the service is refused. -/
theorem ofText_of_ne (decodes : ofText? line = some e) (wrong : e.token ≠ token) :
    Request.ofText line token = .error (e.id, .unauthenticated) := by
  rw [ofText_eq decodes, request, if_pos wrong]
  rfl

/-- A request with the token of the service is what its action is. -/
theorem ofText_of_eq (decodes : ofText? line = some e) (right : e.token = token) :
    Request.ofText line token = match e.action with
      | .ok action => .ok ⟨e.id, e.caller, action⟩
      | .error error => .error (e.id, .params error) := by
  rw [ofText_eq decodes, request, if_neg (not_not_intro right)]
  cases e.action <;> rfl

theorem name_of_action {a : Action} (h : e.action = .ok a) : a.name = e.function := by
  rw [action_eq] at h
  cases given : e.arguments? with
  | some args =>
    rw [given] at h
    exact Action.name_of_ofArgs h
  | none =>
    rw [given] at h
    cases h

/-- A request that is read is that of its envelope. -/
theorem exists_of_ofText_eq_ok {request : Request} (read : Request.ofText line token = .ok request) :
    ∃ e, ofText? line = some e ∧ e.token = token ∧ request.id = e.id ∧ request.caller = e.caller ∧
      request.action.name = e.function := by
  cases decodes : ofText? line with
  | none =>
    rw [Request.ofText, decodes] at read
    cases read
  | some e =>
    refine ⟨e, rfl, ?_⟩
    by_cases right : e.token = token
    · rw [ofText_of_eq decodes right] at read
      cases acts : e.action with
      | ok action =>
        rw [acts] at read
        cases read
        exact ⟨right, rfl, rfl, name_of_action acts⟩
      | error why =>
        rw [acts] at read
        cases read
    · rw [ofText_of_ne decodes right] at read
      cases read

/-- What becomes of a line hangs on what is read from it alone. -/
theorem handleLine_congr (same : Request.ofText line' token = Request.ofText line token)
    (p : Planner) (listening : Option Receiver) (rules : Rules) (now : Int) :
    Session.handleLine p listening rules now token line' =
      Session.handleLine p listening rules now token line := by
  rw [Session.handleLine, Planner.readLine, same, Session.handleLine, Planner.readLine]

/-- **Arguments have no say in who asks for what.** A line with a wrong token is refused with its id,
whatever it asks for, and nothing comes of it but that the wrong token is counted. With the right
token it is the caller of the envelope who asks, under the id of the envelope, for the action that
the envelope names, if its arguments can be read. Any line that is like this one but for arguments
that the action does not have is read as the same and leads to the same; a function, a caller and a
token are among those that no action has. -/
theorem arguments_confined (decodes : ofText? line = some e) (token : String) :
    (e.token ≠ token →
      Request.ofText line token = .error (e.id, .unauthenticated) ∧
      ∀ p listening rules now, Session.handleLine p listening rules now token line =
        (errorReply e.id .unauthenticated,
          { p with counters := p.counters.bump .authFailures }, listening)) ∧
    (e.token = token →
      (∀ request, Request.ofText line token = .ok request →
        request.id = e.id ∧ request.caller = e.caller ∧ request.action.name = e.function) ∧
      (∀ id error, Request.ofText line token = .error (id, error) →
        id = e.id ∧ ∃ why, error = .params why) ∧
      ∀ line' e', ofText? line' = some e' → e.Alike e' →
        Request.ofText line' token = Request.ofText line token ∧
        ∀ p listening rules now, Session.handleLine p listening rules now token line' =
          Session.handleLine p listening rules now token line) ∧
    ∀ name, ∀ key ∈ ["function", "caller", "token"], key ∉ Action.argNames name := by
  refine ⟨fun wrong => ?_, fun right => ⟨fun request read => ?_, fun id error read => ?_,
    fun line' e' decodes' alike => ?_⟩, fun name key mem => ?_⟩
  · have refused := ofText_of_ne decodes wrong
    refine ⟨refused, fun p listening rules now => ?_⟩
    rw [Session.handleLine, Planner.readLine, refused]
    rfl
  · obtain ⟨e', decodes', -, told⟩ := exists_of_ofText_eq_ok read
    cases decodes.symm.trans decodes'
    exact told
  · rw [ofText_of_eq decodes right] at read
    cases acts : e.action with
    | ok action =>
      rw [acts] at read
      cases read
    | error why =>
      rw [acts] at read
      cases read
      exact ⟨rfl, why, rfl⟩
  · have same : Request.ofText line' token = Request.ofText line token := by
      rw [ofText_eq decodes', ofText_eq decodes, alike.request, alike.id]
    exact ⟨same, handleLine_congr same⟩
  · unfold Action.argNames
    split
    all_goals
      revert key
      decide

/-- User 7 asks to be booked. -/
def askingToBook : String :=
  "\x7b\"caller\":7,\"token\":\"t\",\"function\":\"book_reservation\",\"args\":" ++
    "\x7b\"date\":\"2024-01-01\",\"slotid\":\"00000000000000000000000001\"\x7d\x7d"

/-- The same, with another caller and another action among the arguments. -/
def askingForMore : String :=
  "\x7b\"caller\":7,\"token\":\"t\",\"function\":\"book_reservation\",\"args\":" ++
    "\x7b\"caller\":8,\"date\":\"2024-01-01\",\"function\":\"listen\"," ++
    "\"slotid\":\"00000000000000000000000001\"\x7d\x7d"

/-- What stands in these lines, with the arguments of one of them. -/
def booking (args : Action.Args) : Envelope := ⟨.null, 7, "t", "book_reservation", .obj args⟩

def slotAndDate : Action.Args :=
  [("date", .str "2024-01-01"), ("slotid", .str "00000000000000000000000001")]

def slotAndDateAndMore : Action.Args :=
  [("caller", .int 8), ("date", .str "2024-01-01"), ("function", .str "listen"),
    ("slotid", .str "00000000000000000000000001")]

set_option maxRecDepth 40000 in
theorem decodes_askingToBook : ofText? askingToBook = some (booking slotAndDate) := by rfl

set_option maxRecDepth 40000 in
theorem decodes_askingForMore : ofText? askingForMore = some (booking slotAndDateAndMore) := by rfl

set_option maxRecDepth 40000 in
theorem arguments_confined_askingForMore :
    Request.ofText askingToBook "t" =
        .ok ⟨.null, 7, .bookReservation (.ofNat 1) ⟨19723, by decide, by decide⟩ none⟩ ∧
      Request.ofText askingForMore "t" = Request.ofText askingToBook "t" ∧
      Request.ofText askingForMore "u" = .error (.null, .unauthenticated) := by
  have acts : (booking slotAndDate).action =
      .ok (.bookReservation (.ofNat 1) ⟨19723, by decide, by decide⟩ none) := by rfl
  have token : (booking slotAndDate).token = "t" := rfl
  have agree : Action.AgreeOn (Action.argNames "book_reservation") slotAndDate
      slotAndDateAndMore := by
    intro name mem
    have mem : name ∈ ["slotid", "date", "userid"] := mem
    simp only [List.mem_cons, List.not_mem_nil, or_false] at mem
    obtain rfl | rfl | rfl := mem <;> rfl
  obtain ⟨-, right, -⟩ := arguments_confined decodes_askingToBook "t"
  obtain ⟨wrong, -, -⟩ := arguments_confined decodes_askingForMore "u"
  refine ⟨?_, ?_, (wrong (by decide)).1⟩
  · rw [ofText_of_eq decodes_askingToBook token, acts]
    rfl
  · exact ((right token).2.2 _ _ decodes_askingForMore ⟨rfl, rfl, rfl, rfl, .some agree⟩).1

end Envelope

end Timetable
