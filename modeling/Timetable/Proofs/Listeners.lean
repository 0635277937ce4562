import Mathlib.Data.List.Perm.Basic
import Timetable.Proofs.Channels
import Timetable.Proofs.Planner.Notices
import Timetable.Session

/-!
# Who listens

Any number of clients come, send lines, get notices and go, in any order, while others make use of
the planner too. To whom a client listens is told by its own lines: the last one that was a request
to listen counts, unless it has asked not to listen any more or is gone. The channels of the hub are
at every moment those of the users to whom some client listens.
-/

set_option autoImplicit false

namespace Timetable

/-! ## Clients and what becomes of them -/

/-- Something that becomes of one client. -/
inductive Deed where
  /-- Bytes have come in, or a line has been cut off, or the client takes nothing more. -/
  | reads (reader : LineReader) (gone : Bool)
  /-- A line is answered. -/
  | line (text : String) (now : Int)
  /-- The client gets what it is told. -/
  | notices
  | close (ending : Ending)

/-- What is known of a client from its lines. -/
inductive Standing where
  | silent
  | listening (user : UserId)
  | closed
  deriving DecidableEq

namespace Standing

/-- The standing of a client that is not gone. -/
def of : Option Receiver → Standing
  | some r => .listening r.userId
  | none => .silent

/-- A client says to whom it listens, or that it does not, or something else. -/
def hear (s : Standing) (token text : String) : Standing :=
  match Request.ofText text token with
  | .ok ⟨_, caller, .listen⟩ => .listening caller
  | .ok ⟨_, _, .unlisten⟩ => .silent
  | _ => s

def act (token : String) : Standing → Deed → Standing
  | .closed, _ => .closed
  | _, .close _ => .closed
  | s, .line text _ => s.hear token text
  | s, _ => s

end Standing

namespace Session

def standing (s : Session) : Standing :=
  if s.ending.isSome then .closed else .of s.listening

theorem standing_of_open (s : Session) (here : s.ending = none) :
    s.standing = .of s.listening := by
  rw [standing, here]
  rfl

theorem standing_with {s : Session} (here : s.ending = none) (listening : Option Receiver) :
    standing { s with listening } = .of listening := standing_of_open { s with listening } here

/-- What is done for a client; nothing is done for one that is gone. -/
def act (rules : Rules) (token : String) (state : State) (d : Deed) : State :=
  let (p, s) := state
  if s.ending.isSome then (p, s)
  else
    match d with
    | .reads reader gone => (p, { s with reader, gone })
    | .line text now =>
      let (_, p, listening) := handleLine p s.listening rules now token text
      (p, { s with listening })
    | .notices => (p, { s with listening := (notices p s.listening).2 })
    | .close ending => finish p s ending

/-! ## What is done for one client -/

variable {p : Planner} {s : Session} {rules : Rules} {now : Int} {token text : String}
  {listening : Option Receiver} {others : List Receiver}

theorem serves_stopListening (serves : p.hub.Serves (listening.toList ++ others)) :
    (stopListening p listening).hub.Serves others := by
  cases listening with
  | none => exact serves
  | some r => exact serves.stop

/-- A line that is read counts at most a wrong token. -/
theorem hub_readLine (p : Planner) (line token : String) :
    (p.readLine line token).1 = Request.ofText line token ∧
      (p.readLine line token).2.hub = p.hub := by
  unfold Planner.readLine
  dsimp only
  split <;> exact ⟨rfl, rfl⟩

/-- What is carried out for the caller tells some users something. -/
theorem hub_invoke (p : Planner) (rules : Rules) (now : Int) (caller : UserId) (action : Action) :
    ∃ told, (p.invoke rules now caller action).2.hub = p.hub.sendAll told :=
  ⟨_, (p.hub_perform rules ⟨now, caller, action⟩ p.hub).2⟩

/-- What a line does to the listeners: it may be a wish to listen or not to listen any more.
What is carried out for any other one tells some users something, and nobody comes or goes. -/
theorem handleLine_spec (serves : p.hub.Serves (listening.toList ++ others)) (rules : Rules)
    (now : Int) (token text : String) :
    (handleLine p listening rules now token text).2.1.hub.Serves
        ((handleLine p listening rules now token text).2.2.toList ++ others) ∧
      Standing.of (handleLine p listening rules now token text).2.2 =
        (Standing.of listening).hear token text := by
  obtain ⟨read, hub⟩ := hub_readLine p text token
  rw [handleLine, Standing.hear, ← read]
  generalize p.readLine text token = result at hub
  obtain ⟨outcome, q⟩ := result
  have serves : q.hub.Serves (listening.toList ++ others) := hub ▸ serves
  cases outcome with
  | error refused => exact ⟨serves, rfl⟩
  | ok request =>
    obtain ⟨id, caller, action⟩ := request
    have carried :
        (q.invoke rules now caller action).2.hub.Serves (listening.toList ++ others) := by
      obtain ⟨told, sent⟩ := hub_invoke q rules now caller action
      rw [sent]
      exact serves.sendAll told
    cases action with
    | listen =>
      refine ⟨(serves_stopListening serves).subscribe caller, ?_⟩
      exact congrArg Standing.listening (Hub.userId_subscribe _ caller)
    | unlisten => exact ⟨serves_stopListening serves, rfl⟩
    | _ => exact ⟨carried, rfl⟩

theorem serves_notices (serves : p.hub.Serves (listening.toList ++ others)) :
    p.hub.Serves ((notices p listening).2.toList ++ others) ∧
      Standing.of (notices p listening).2 = Standing.of listening := by
  cases listening with
  | none => exact ⟨serves, rfl⟩
  | some r =>
    obtain ⟨user, serial⟩ := p.hub.receiveMany_spec (channelCapacity + 1) r
    have goes_on : (notices p (some r)).2 = some (p.hub.receiveAll r).2 := by
      have hangs := serves.isSome_channel? List.mem_cons_self
      exact if_neg (Hub.closed_not_mem_receiveMany (channelCapacity + 1) hangs)
    rw [goes_on]
    exact ⟨serves.advance user serial, congrArg Standing.listening user⟩

/-- A deed for a client that is not gone. -/
theorem act_of_open (p : Planner) (here : s.ending = none) (rules : Rules) (token : String)
    (d : Deed) : act rules token (p, s) d = match d with
      | .reads reader gone => (p, { s with reader, gone })
      | .line text now =>
        ((handleLine p s.listening rules now token text).2.1,
          { s with listening := (handleLine p s.listening rules now token text).2.2 })
      | .notices => (p, { s with listening := (notices p s.listening).2 })
      | .close ending => finish p s ending := by
  simp only [act, here]
  rfl

theorem act_of_closed (p : Planner) (gone : s.ending.isSome) (rules : Rules) (token : String)
    (d : Deed) : act rules token (p, s) d = (p, s) := by
  simp only [act, gone, ↓reduceIte]

/-- Who is gone listens no more. -/
def Quiet (s : Session) : Prop := s.ending.isSome → s.listening = none

theorem quiet_act (quiet : s.Quiet) (p : Planner) (rules : Rules) (token : String) (d : Deed) :
    (act rules token (p, s) d).2.Quiet := by
  cases here : s.ending with
  | some ending =>
    rw [act_of_closed p (Option.isSome_of_eq_some here)]
    exact quiet
  | none =>
    rw [act_of_open p here]
    cases d with
    | close ending => exact fun _ => rfl
    | _ => exact fun gone => absurd gone (by rw [here]; exact nofun)

/-- What is done for a client: the others are served as before, and so is the client as its
standing is now. -/
theorem act_spec (serves : p.hub.Serves (s.listening.toList ++ others)) (rules : Rules)
    (token : String) (d : Deed) :
    (act rules token (p, s) d).1.hub.Serves
        ((act rules token (p, s) d).2.listening.toList ++ others) ∧
      (act rules token (p, s) d).2.standing = s.standing.act token d := by
  cases here : s.ending with
  | some ending =>
    have gone := Option.isSome_of_eq_some here
    rw [act_of_closed p gone, standing, if_pos gone]
    exact ⟨serves, rfl⟩
  | none =>
    have act_eq : (Standing.of s.listening).act token d = match d with
        | .line text _ => (Standing.of s.listening).hear token text
        | .close _ => .closed
        | _ => Standing.of s.listening := by
      cases s.listening <;> cases d <;> rfl
    rw [act_of_open p here, standing_of_open s here, act_eq]
    cases d with
    | reads reader gone => exact ⟨serves, standing_of_open { s with reader, gone } here⟩
    | line text now =>
      obtain ⟨serves, hears⟩ := handleLine_spec serves rules now token text
      exact ⟨serves, (standing_with here _).trans hears⟩
    | notices =>
      obtain ⟨serves, same⟩ := serves_notices serves
      exact ⟨serves, (standing_with here _).trans same⟩
    | close ending => exact ⟨serves_stopListening serves, rfl⟩

/-! ## What bringing a client up to date consists of -/

/-- The client comes from one state into another by what is done for it. -/
def Leads (rules : Rules) (token : String) (state state' : State) : Prop :=
  ∃ deeds : List Deed, deeds.foldl (act rules token) state = state'

theorem Leads.refl (state : State) : Leads rules token state state := ⟨[], rfl⟩

theorem Leads.head {state state' : State} (d : Deed)
    (rest : Leads rules token (act rules token state d) state') :
    Leads rules token state state' := by
  obtain ⟨deeds, led⟩ := rest
  exact ⟨d :: deeds, led⟩

theorem Leads.snoc {state state' : State} (led : Leads rules token state state') (d : Deed) :
    Leads rules token state (act rules token state' d) := by
  obtain ⟨deeds, rfl⟩ := led
  exact ⟨deeds ++ [d], by rw [List.foldl_append]; rfl⟩

theorem Leads.quiet {state state' : State} (led : Leads rules token state state')
    (quiet : state.2.Quiet) : state'.2.Quiet := by
  obtain ⟨deeds, rfl⟩ := led
  induction deeds generalizing state with
  | nil => exact quiet
  | cons d deeds ih => exact ih (quiet_act quiet state.1 rules token d)

/-- A line is cut off, and then what comes of it follows. -/
theorem leads_of_read {reader : LineReader} {state : State} (here : s.ending = none)
    (rest : Leads rules token (p, { s with reader }) state) : Leads rules token (p, s) state := by
  refine .head (.reads reader s.gone) ?_
  rw [act_of_open p here]
  exact rest

theorem leads_of_line {q : Planner} {reply : Json} {state : State} (s : Session)
    (here : s.ending = none)
    (handled : handleLine p s.listening rules now token text = (reply, q, listening))
    (rest : Leads rules token (q, { s with listening }) state) :
    Leads rules token (p, s) state := by
  refine .head (.line text now) ?_
  simp only [act_of_open p here, handled]
  exact rest

theorem leads_to_finish (p : Planner) (s : Session) (here : s.ending = none) (ending : Ending) :
    Leads rules token (p, s) (finish p s ending) := by
  refine .head (.close ending) ?_
  rw [act_of_open p here]
  exact .refl _

/-- The lines that have come in are handled one after the other, and the end comes last. -/
theorem leads_to_serve (p : Planner) (here : s.ending = none) (rules : Rules) (now : Int)
    (token : String) : Leads rules token (p, s) (serve p s rules now token).2 := by
  fun_induction serve p s rules now token with
  | case1 p s reader => exact leads_of_read here (.refl _)
  | case2 p s reader =>
    exact leads_of_read here (leads_to_finish p { s with reader } here .finished)
  | case3 p s reader =>
    exact leads_of_read here (leads_to_finish p { s with reader } here .invalidData)
  | case4 p s reader =>
    exact leads_of_read here (leads_to_finish p { s with reader } here .brokenPipe)
  | case5 p s reader polled present replies state served ih =>
    rw [served] at ih
    exact leads_of_read here (ih here)
  | case6 p s text reader polled blank ih => exact leads_of_read here (ih here)
  | case7 p s text reader polled full reply q listening handled =>
    refine leads_of_read here (leads_of_line { s with reader } here handled ?_)
    exact leads_to_finish q { s with reader, listening } here .brokenPipe
  | case8 p s text reader polled full reply q listening handled present replies state served ih =>
    rw [served] at ih
    exact leads_of_read here (leads_of_line { s with reader } here handled (ih here))

/-- Bringing a client up to date consists of answers to its lines, of notices and of its end. -/
theorem leads_to_run (p : Planner) (s : Session) (rules : Rules) (now : Int) (token : String) :
    Leads rules token (p, s) (run p s rules now token).2 := by
  rw [run]
  split
  · exact .refl _
  rename_i still_open
  have here := Option.not_isSome_iff_eq_none.1 still_open
  have served := leads_to_serve p here rules now token
  have quiet := served.quiet fun gone => absurd gone still_open
  generalize serve p s rules now token = result at served quiet
  obtain ⟨replies, q, s'⟩ := result
  dsimp only at served quiet ⊢
  by_cases gone : s'.ending.isSome
  · have silent : { s' with listening := (notices q s'.listening).2 } = s' := by
      rw [quiet gone]
      exact congrArg (Session.mk s'.reader s'.gone · s'.ending) (quiet gone).symm
    rw [silent]
    exact served
  · have noticed := served.snoc .notices
    rw [act_of_open q (Option.not_isSome_iff_eq_none.1 gone)] at noticed
    exact noticed

end Session

/-! ## Many clients -/

/-- A planner and the clients that have come so far, in the order in which they came. -/
structure Server where
  planner : Planner
  clients : List Session

inductive Incident where
  | connect
  /-- Something becomes of the client of this number. -/
  | deed (client : Nat) (d : Deed)
  /-- Others have made use of the planner and left it like this, with notices that were sent. -/
  | others (planner : Planner) (told : List Notice)

/-- What comes to be known of the clients by an incident. -/
def Incident.tell (token : String) (known : List Standing) : Incident → List Standing
  | connect => known ++ [.silent]
  | deed client d => known.modify client (·.act token d)
  | others _ _ => known

/-- What is known of the clients from their lines. -/
def standings (token : String) (incidents : List Incident) : List Standing :=
  incidents.foldl (Incident.tell token) []

namespace Server

variable {v : Server} {rules : Rules} {token : String} {known : List Standing}

/-- Nobody has come yet. -/
def new (p : Planner) : Server := ⟨{ p with hub := .empty }, []⟩

def step (rules : Rules) (token : String) (v : Server) : Incident → Server
  | .connect => { v with clients := v.clients ++ [.new] }
  | .deed client d =>
    match v.clients[client]? with
    | some s =>
      let (planner, s) := Session.act rules token (v.planner, s) d
      ⟨planner, v.clients.set client s⟩
    | none => v
  | .others planner told =>
    { v with planner := { planner with hub := v.planner.hub.sendAll told } }

def run (v : Server) (rules : Rules) (token : String) (incidents : List Incident) : Server :=
  incidents.foldl (step rules token) v

/-- The hub serves those who listen, who are just those of whom it is known. -/
structure Sound (v : Server) (known : List Standing) : Prop where
  serves : v.planner.hub.Serves (v.clients.filterMap (·.listening))
  known : v.clients.map (·.standing) = known
  quiet : ∀ s ∈ v.clients, s.Quiet

theorem Sound.new (p : Planner) : (new p).Sound [] := ⟨.empty, rfl, List.forall_mem_nil _⟩

/-- The receivers of clients, one of them in front. -/
theorem perm_receivers {clients : List Session} {i : Nat} {s : Session}
    (there : clients[i]? = some s) (s' : Session) :
    ((clients.set i s').filterMap (·.listening)).Perm
      (s'.listening.toList ++ (clients.eraseIdx i).filterMap (·.listening)) := by
  obtain ⟨in_range, -⟩ := List.getElem?_eq_some_iff.1 there
  refine ((List.set_perm_cons_eraseIdx in_range s').filterMap _).trans (.of_eq ?_)
  cases listening : s'.listening with
  | none => exact List.filterMap_cons_none listening
  | some r => exact List.filterMap_cons_some listening

/-- What one incident keeps. -/
theorem Sound.step (sound : v.Sound known) (rules : Rules) (e : Incident) :
    (v.step rules token e).Sound (e.tell token known) := by
  obtain ⟨serves, rfl, quiet⟩ := sound
  cases e with
  | connect =>
    have new_quiet : Session.new.Quiet := fun _ => rfl
    refine ⟨?_, List.map_append,
      List.forall_mem_append.2 ⟨quiet, List.forall_mem_singleton.2 new_quiet⟩⟩
    have receivers : (v.clients ++ [Session.new]).filterMap (·.listening) =
        v.clients.filterMap (·.listening) :=
      List.filterMap_append.trans (List.append_nil _)
    exact receivers ▸ serves
  | deed client d =>
    rw [Server.step, Incident.tell]
    cases there : v.clients[client]? with
    | none =>
      have beyond := List.getElem?_eq_none_iff.1 there
      rw [List.modify_eq_self (by rw [List.length_map]; exact beyond)]
      exact ⟨serves, rfl, quiet⟩
    | some s =>
      obtain ⟨in_range, rfl⟩ := List.getElem?_eq_some_iff.1 there
      have before := perm_receivers there v.clients[client]
      rw [List.set_getElem_self] at before
      obtain ⟨served, standing⟩ := Session.act_spec (serves.perm before.symm) rules token d
      have still_quiet := Session.quiet_act (quiet _ (List.getElem_mem in_range)) v.planner rules
        token d
      refine ⟨served.perm (perm_receivers there _), ?_, ?_⟩
      · rw [List.map_set, standing, List.modify_eq_set_getElem?]
        simp [there]
      · intro s mem
        rcases List.mem_or_eq_of_mem_set mem with mem | rfl
        · exact quiet s mem
        · exact still_quiet
  | others planner told => exact ⟨serves.sendAll told, rfl, quiet⟩

/-- **What a whole run keeps.** -/
theorem Sound.run (sound : v.Sound known) (rules : Rules) (incidents : List Incident) :
    (v.run rules token incidents).Sound (incidents.foldl (Incident.tell token) known) := by
  induction incidents generalizing v known with
  | nil => exact sound
  | cons e rest ih => exact ih (sound.step rules e)

/-- As many receivers listen to a user as clients of whom that is known. -/
theorem listeners_eq_count {clients : List Session} (quiet : ∀ s ∈ clients, s.Quiet)
    (user : UserId) : Hub.listeners (clients.filterMap (·.listening)) user =
      (clients.map (·.standing)).count (.listening user) := by
  induction clients with
  | nil => rfl
  | cons s rest ih =>
    obtain ⟨first, quiet⟩ := List.forall_mem_cons.1 quiet
    rw [List.map_cons, List.count_cons, ← ih quiet]
    by_cases gone : s.ending.isSome
    · have closed : s.standing = .closed := if_pos gone
      rw [List.filterMap_cons_none (first gone), closed]
      rfl
    · rw [s.standing_of_open (Option.not_isSome_iff_eq_none.1 gone)]
      cases listening : s.listening with
      | none =>
        rw [List.filterMap_cons_none listening]
        rfl
      | some r =>
        rw [List.filterMap_cons_some listening, Hub.listeners_cons]
        simp [Standing.of]

/-- Several deeds for one client. -/
theorem run_deeds (rules : Rules) (token : String) {i : Nat} {s : Session}
    (there : v.clients[i]? = some s) (deeds : List Deed) :
    v.run rules token (deeds.map (.deed i)) =
      ⟨(deeds.foldl (Session.act rules token) (v.planner, s)).1,
        v.clients.set i (deeds.foldl (Session.act rules token) (v.planner, s)).2⟩ := by
  induction deeds generalizing v s with
  | nil =>
    obtain ⟨in_range, rfl⟩ := List.getElem?_eq_some_iff.1 there
    rw [List.foldl_nil, List.set_getElem_self]
    rfl
  | cons d deeds ih =>
    obtain ⟨in_range, -⟩ := List.getElem?_eq_some_iff.1 there
    have stepped : v.step rules token (.deed i d) =
        ⟨(Session.act rules token (v.planner, s) d).1,
          v.clients.set i (Session.act rules token (v.planner, s) d).2⟩ := by
      simp only [Server.step, there]
    have next : (v.step rules token (.deed i d)).clients[i]? =
        some (Session.act rules token (v.planner, s) d).2 := by
      rw [stepped]
      exact List.getElem?_set_self in_range
    refine (ih next).trans ?_
    rw [stepped, List.set_set]
    rfl

/-- **The channels of the hub are those of the users to whom some client listens**, however many
clients come, whatever lines they send and whatever else happens, in any order. A channel knows how
many listen to its user, and who listens hangs on the channel that the user has now, whoever else
has stopped listening to the user or is gone. Bringing a client up to date consists of such
incidents. -/
theorem channels_of_run (p : Planner) (rules : Rules) (token : String)
    (incidents : List Incident) :
    let v := (new p).run rules token incidents
    let known := standings token incidents
    v.clients.map (·.standing) = known ∧
      (∀ user : UserId, (v.planner.hub.channels[user]?).isSome ↔ .listening user ∈ known) ∧
      (∀ (user : UserId) c, v.planner.hub.channels[user]? = some c →
        c.receivers = known.count (.listening user)) ∧
      (∀ s ∈ v.clients, ∀ r ∈ s.listening, (v.planner.hub.channel? r).isSome) ∧
      ∀ i s now, v.clients[i]? = some s → ∃ deeds, v.run rules token (List.map (.deed i) deeds) =
        ⟨(Session.run v.planner s rules now token).2.1,
          v.clients.set i (Session.run v.planner s rules now token).2.2⟩ := by
  intro v known
  have sound : v.Sound known := (Sound.new p).run rules incidents
  have listeners (user : UserId) : Hub.listeners (v.clients.filterMap (·.listening)) user =
      known.count (.listening user) := by
    rw [listeners_eq_count sound.quiet, sound.known]
  refine ⟨sound.known, fun user => ?_, fun user c found => ?_, fun s mem r listening => ?_,
    fun i s now there => ?_⟩
  · rw [sound.serves.isSome_channel_iff, ← Hub.listeners_pos_iff, listeners, List.count_pos_iff]
  · rw [(sound.serves.counts user c found).1, listeners]
  · exact sound.serves.isSome_channel? (List.mem_filterMap.2 ⟨s, mem, listening⟩)
  · obtain ⟨deeds, led⟩ := Session.leads_to_run v.planner s rules now token
    exact ⟨deeds, by rw [run_deeds rules token there, led]⟩

end Server

/-- User 7 wishes to listen. -/
def wishToListen : String :=
  "\x7b\"caller\":7,\"token\":\"t\",\"function\":\"listen\"\x7d"

/-- Of two who listen to one user one goes. -/
example : standings "t" [.connect, .connect, .deed 0 (.line wishToListen 0),
    .deed 1 (.line wishToListen 0), .deed 0 (.close .finished)] = [.closed, .listening 7] := by
  decide +kernel

end Timetable
