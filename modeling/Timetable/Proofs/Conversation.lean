import Mathlib.Tactic.Conv
import Timetable.Proofs.Lines
import Timetable.Proofs.Planner.Cut
import Timetable.Session

/-!
# Answers to lines

A client sends lines, in pieces of any size, and then closes. Every line that is not blank is answered
once, in the order of the lines, up to the first that is too long. That one is answered too, but then
the reader says that it is at its end, and the session takes it at its word: no line that stands
behind is answered.
-/

set_option autoImplicit false

namespace Timetable

open Journal (utf8)

/-- The planner as others have left it when a session goes on, and the time. -/
structure Moment where
  planner : Planner
  now : Int

namespace Session

/-! ## What should be answered -/

/-- The answer to a line: one reply, or none if the line is blank. -/
def answerLine (p : Planner) (listening : Option Receiver) (rules : Rules) (now : Int)
    (token line : String) : List Json × Planner × Option Receiver :=
  if TooLong line then ([errorReply .null .tooLong], p, listening)
  else if isBlankLine (chomp line) then ([], p, listening)
  else
    let (reply, p, listening) := handleLine p listening rules now token (chomp line)
    ([reply], p, listening)

def answerLines (p : Planner) (listening : Option Receiver) (rules : Rules) (now : Int)
    (token : String) : List String → List Json × Planner × Option Receiver
  | [] => ([], p, listening)
  | line :: rest =>
    let (reply, p, listening) := answerLine p listening rules now token line
    let (replies, p, listening) := answerLines p listening rules now token rest
    (reply ++ replies, p, listening)

/-- The answers to lines that are heard at several moments. -/
def answerAll (listening : Option Receiver) (rules : Rules) (token : String) :
    List (Moment × List String) → List Json
  | [] => []
  | (m, lines) :: rest =>
    let (replies, p, listening) := answerLines m.planner listening rules m.now token lines
    replies ++ answerAll (notices p listening).2 rules token rest

/-- The lines up to the first that is too long, and with it. -/
def heard : List String → List String
  | [] => []
  | line :: rest => if TooLong line then [line] else line :: heard rest

/-- The lines behind the first that is too long. -/
def unheard : List String → List String
  | [] => []
  | line :: rest => if TooLong line then rest else unheard rest

theorem heard_append_unheard (lines : List String) : heard lines ++ unheard lines = lines := by
  induction lines with
  | nil => rfl
  | cons line lines ih =>
    rw [heard, unheard]
    split
    · rfl
    · rw [List.cons_append, ih]

theorem heard_append {front : List String} (short : ∀ line ∈ front, ¬ TooLong line)
    (rest : List String) : heard (front ++ rest) = front ++ heard rest := by
  induction front with
  | nil => rfl
  | cons line front ih =>
    obtain ⟨first, short⟩ := List.forall_mem_cons.1 short
    rw [List.cons_append, heard, if_neg first, ih short, List.cons_append]

/-! ## What is answered -/

/-- All that a client is sent who sends bytes at several moments and closes at the last one. -/
def converse (s : Session) (rules : Rules) (token : String) :
    List (Moment × List UInt8) → Moment → List Json
  | [], closing => (run closing.planner s.closeInput rules closing.now token).1
  | (m, bytes) :: rest, closing =>
    let (sent, _, s) := run m.planner (s.send bytes) rules m.now token
    sent ++ converse s rules token rest closing

def isNotice : Json → Bool
  | .obj [("notification", _)] => true
  | _ => false

/-- What is sent in reply to lines. -/
def replies (sent : List Json) : List Json := sent.filter (!isNotice ·)

/-- A session before it polls its reader. -/
def waiting (bytes : List UInt8) (closed : Bool) (listening : Option Receiver) : Session :=
  ⟨⟨bytes, closed, false, false⟩, false, listening, none⟩

@[simp] theorem send_waiting (bytes new : List UInt8) (closed : Bool)
    (listening : Option Receiver) :
    (waiting bytes closed listening).send new = waiting (bytes ++ new) closed listening := rfl

@[simp] theorem closeInput_waiting (bytes : List UInt8) (closed : Bool)
    (listening : Option Receiver) :
    (waiting bytes closed listening).closeInput = waiting bytes true listening := rfl

section Serve

variable {rules : Rules} {now : Int} {token line : String} {p : Planner} {s : Session}
  {listening : Option Receiver} {reader : LineReader} {bytes : List UInt8}

/-! ## One poll -/

theorem serve_of_pending (polled : s.reader.poll = (.pending, reader)) :
    serve p s rules now token = ([], p, { s with reader }) := by
  rw [serve]
  split <;> rename_i other <;> cases other.symm.trans polled
  rfl

theorem serve_of_ended (polled : s.reader.poll = (.ended, reader)) :
    serve p s rules now token = ([], finish p { s with reader } .finished) := by
  rw [serve]
  split <;> rename_i other <;> cases other.symm.trans polled
  rfl

theorem serve_of_tooLong (polled : s.reader.poll = (.tooLong, reader)) (here : s.gone = false) :
    serve p s rules now token =
      let (replies, state) := serve p { s with reader } rules now token
      (errorReply .null .tooLong :: replies, state) := by
  rw [serve]
  split <;> rename_i other <;> cases other.symm.trans polled
  rw [here]
  rfl

theorem serve_of_line {text : String} (polled : s.reader.poll = (.line text, reader))
    (here : s.gone = false) :
    serve p s rules now token =
      if isBlankLine text then serve p { s with reader } rules now token
      else
        let (reply, p, listening) := handleLine p s.listening rules now token text
        let (replies, state) := serve p { s with reader, listening } rules now token
        (reply :: replies, state) := by
  conv_lhs => rw [serve]
  split <;> rename_i other <;> cases other.symm.trans polled
  rw [here]
  rfl

/-! ## One line -/

theorem answerLines_tooLong (long : TooLong line) :
    answerLines p listening rules now token [line] =
      ([errorReply .null .tooLong], p, listening) := by
  rw [answerLines, answerLine, if_pos long]
  rfl

/-- A line that is given is answered before the next. -/
theorem serve_line {rest : List UInt8} {closed : Bool} (short : ¬ TooLong line)
    (polled : LineReader.poll ⟨bytes, closed, false, false⟩ =
      (.line (chomp line), ⟨rest, closed, false, false⟩)) :
    serve p (waiting bytes closed listening) rules now token =
      let (reply, p, listening) := answerLine p listening rules now token line
      let (replies, state) := serve p (waiting rest closed listening) rules now token
      (reply ++ replies, state) := by
  rw [serve_of_line polled rfl, answerLine, if_neg short]
  split <;> rfl

/-- The session is over, and nobody listens any more. -/
structure IsOver (s : Session) : Prop where
  ended : s.ending.isSome = true
  deaf : s.listening = none

/-- The session is over once these answers are given. -/
def EndsWith (p : Planner) (s : Session) (rules : Rules) (now : Int) (token : String)
    (answers : List Json) : Prop :=
  ∃ p' s', serve p s rules now token = (answers, p', s') ∧ IsOver s'

theorem endsWith_of_ended (polled : s.reader.poll = (.ended, reader)) :
    EndsWith p s rules now token [] :=
  ⟨_, _, serve_of_ended polled, rfl, rfl⟩

theorem EndsWith.after_line {rest : List UInt8} {closed : Bool} {answers : List Json}
    (short : ¬ TooLong line)
    (polled : LineReader.poll ⟨bytes, closed, false, false⟩ =
      (.line (chomp line), ⟨rest, closed, false, false⟩))
    (ends : EndsWith (answerLine p listening rules now token line).2.1
      (waiting rest closed (answerLine p listening rules now token line).2.2) rules now token
      answers) :
    EndsWith p (waiting bytes closed listening) rules now token
      ((answerLine p listening rules now token line).1 ++ answers) := by
  obtain ⟨p', s', served, is_over⟩ := ends
  refine ⟨p', s', ?_, is_over⟩
  rw [serve_line short polled]
  dsimp only
  rw [served]

/-- A line that is too long ends the session once it is answered. -/
theorem endsWith_tooLong (long : maxLineLength < bytes.length)
    (none_found : 10 ∉ bytes.take (maxLineLength + 1)) (closed : Bool) :
    EndsWith p (waiting bytes closed listening) rules now token [errorReply .null .tooLong] := by
  have again : LineReader.poll ⟨bytes, closed, true, true⟩ =
      (.ended, ⟨bytes, closed, true, false⟩) := rfl
  rw [EndsWith, serve_of_tooLong (LineReader.poll_tooLong long none_found closed) rfl,
    serve_of_ended again]
  exact ⟨_, _, rfl, rfl, rfl⟩

theorem EndsWith.of_tooLong (long : TooLong line) (one : '\n' ∉ line.toList) (rest : List UInt8)
    (closed : Bool) :
    EndsWith p (waiting (utf8 line ++ rest) closed listening) rules now token
      (answerLines p listening rules now token [line]).1 := by
  rw [answerLines_tooLong long]
  refine endsWith_tooLong (Nat.lt_of_lt_of_le long ?_) ?_ closed
  · rw [List.length_append]
    exact Nat.le_add_right _ _
  · rw [List.take_append_of_le_length (Nat.succ_le_of_lt long)]
    exact fun mem => not_mem_utf8 one (List.mem_of_mem_take mem)

variable (p listening rules now token) in
/-- A part of a line is waited for, or the line is too long. -/
theorem serve_part {more : List UInt8} (part : bytes ++ more = utf8 line)
    (one : '\n' ∉ line.toList) :
    serve p (waiting bytes false listening) rules now token =
        ([], p, waiting bytes false listening) ∨
      TooLong line ∧ EndsWith p (waiting bytes false listening) rules now token
        (answerLines p listening rules now token [line]).1 := by
  have none_found : 10 ∉ bytes := by
    have none_found := not_mem_utf8 one
    rw [← part, List.mem_append, not_or] at none_found
    exact none_found.1
  by_cases short : bytes.length ≤ maxLineLength
  · exact .inl (serve_of_pending (LineReader.poll_pending short none_found))
  · have too_many := Nat.not_le.1 short
    have long : TooLong line := by
      rw [TooLong, ← part, List.length_append]
      exact Nat.lt_add_right _ too_many
    rw [answerLines_tooLong long]
    exact .inr ⟨long,
      endsWith_tooLong too_many (fun mem => none_found (List.mem_of_mem_take mem)) false⟩

/-! ## Bytes that come in -/

/-- What has come in ends within the first line or goes on behind it. -/
theorem part_or_whole {future more : List UInt8}
    (sent : bytes ++ future = utf8 line ++ 10 :: more) :
    (∃ missing, bytes ++ missing = utf8 line) ∨
      ∃ next, bytes = utf8 line ++ 10 :: next ∧ next ++ future = more := by
  obtain ⟨missing, part, -⟩ | ⟨next, whole, split⟩ := List.append_eq_append_iff.1 sent
  · exact .inl ⟨missing, part.symm⟩
  · cases next with
    | nil => exact .inl ⟨[], by rw [whole, List.append_nil, List.append_nil]⟩
    | cons feed next =>
      obtain ⟨rfl, same⟩ := List.cons.inj split
      exact .inr ⟨next, whole, same.symm⟩

variable (p listening rules now token) in
/-- Whatever bytes come in, the lines that they complete are answered, and the rest is waited for;
or a line was too long, and those up to it are answered. -/
theorem serve_round {lines : List String} {last : String} {future : List UInt8}
    (sent : bytes ++ future = wire lines ++ utf8 last)
    (one : ∀ line ∈ lines ++ [last], '\n' ∉ line.toList) :
    (∃ front rest unread, lines = front ++ rest ∧ (∀ line ∈ front, ¬ TooLong line) ∧
      unread ++ future = wire rest ++ utf8 last ∧
      serve p (waiting bytes false listening) rules now token =
        let (replies, p, listening) := answerLines p listening rules now token front
        (replies, p, waiting unread false listening)) ∨
    ∃ front line rest, lines ++ [last] = front ++ line :: rest ∧
      (∀ line ∈ front, ¬ TooLong line) ∧ TooLong line ∧
      EndsWith p (waiting bytes false listening) rules now token
        (answerLines p listening rules now token (front ++ [line])).1 := by
  induction lines generalizing p listening bytes with
  | nil =>
    obtain pending | ⟨long, ends⟩ :=
      serve_part rules now token p listening sent (one last List.mem_cons_self)
    · exact .inl ⟨[], [], bytes, rfl, List.forall_mem_nil _, sent, pending⟩
    · exact .inr ⟨[], last, [], rfl, List.forall_mem_nil _, long, ends⟩
  | cons line lines ih =>
    obtain ⟨first, one⟩ := List.forall_mem_cons.1 one
    rw [wire_cons] at sent
    obtain ⟨missing, part⟩ | ⟨next, rfl, rest_sent⟩ := part_or_whole sent
    · obtain pending | ⟨long, ends⟩ := serve_part rules now token p listening part first
      · refine .inl ⟨[], line :: lines, bytes, rfl, List.forall_mem_nil _, ?_, pending⟩
        rw [wire_cons, sent]
      · exact .inr ⟨[], line, lines ++ [last], rfl, List.forall_mem_nil _, long, ends⟩
    · by_cases long : TooLong line
      · exact .inr ⟨[], line, lines ++ [last], rfl, List.forall_mem_nil _, long,
          .of_tooLong long first (10 :: next) false⟩
      · have polled := LineReader.poll_line long first false next
        obtain ⟨front, rest, unread, rfl, short, still, served⟩ |
          ⟨front, line', rest, split, short, long', ends⟩ :=
          ih (answerLine p listening rules now token line).2.1
            (answerLine p listening rules now token line).2.2 rest_sent one
        · refine .inl ⟨line :: front, rest, unread, rfl, List.forall_mem_cons.2 ⟨long, short⟩, still,
            ?_⟩
          rw [serve_line long polled, answerLines]
          dsimp only
          rw [served]
        · exact .inr ⟨line :: front, line', rest, congrArg (line :: ·) split,
            List.forall_mem_cons.2 ⟨long, short⟩, long', ends.after_line long polled⟩

/-- A line that is no more than a carriage return is blank. -/
theorem isBlankLine_chomp (none_left : utf8 line = [] ∨ utf8 line = [13]) :
    isBlankLine (chomp line) = true := by
  have empty : utf8 (chomp line) = utf8 "" := by
    rw [← withoutReturn_utf8]
    rcases none_left with none_left | none_left <;> rw [none_left] <;> rfl
  have same := congrArg Journal.ofUtf8? empty
  rw [Journal.ofUtf8?_utf8, Journal.ofUtf8?_utf8] at same
  rw [Option.some.inj same]
  rfl

variable (p listening rules now token) in
/-- When the client closes, the lines that are left are answered up to the first that is too
long. -/
theorem endsWith_closed {lines : List String} {last : String}
    (one : ∀ line ∈ lines ++ [last], '\n' ∉ line.toList) :
    EndsWith p (waiting (wire lines ++ utf8 last) true listening) rules now token
      (answerLines p listening rules now token (heard (lines ++ [last]))).1 := by
  induction lines generalizing p listening with
  | nil =>
    have first := one last List.mem_cons_self
    rw [List.nil_append, heard]
    change EndsWith p (waiting (utf8 last) true listening) rules now token _
    by_cases long : TooLong last
    · rw [if_pos long, ← List.append_nil (utf8 last)]
      exact .of_tooLong long first [] true
    · have polled := LineReader.poll_last long first
      rw [if_neg long, heard]
      by_cases none_left : utf8 last = [] ∨ utf8 last = [13]
      · rw [if_pos none_left] at polled
        rw [answerLines, answerLine, if_neg long, if_pos (isBlankLine_chomp none_left)]
        exact endsWith_of_ended polled
      · rw [if_neg none_left] at polled
        have at_end : LineReader.poll ⟨[], true, false, false⟩ =
            (.ended, ⟨[], true, false, false⟩) := rfl
        exact .after_line long polled (endsWith_of_ended at_end)
  | cons line lines ih =>
    obtain ⟨first, one⟩ := List.forall_mem_cons.1 one
    rw [wire_cons, List.cons_append, heard]
    by_cases long : TooLong line
    · rw [if_pos long]
      exact .of_tooLong long first (10 :: (wire lines ++ utf8 last)) true
    · rw [if_neg long]
      exact (ih _ _ one).after_line long (LineReader.poll_line long first _ _)

/-! ## Replies and notices -/

theorem isNotice_reply {id : Json} {result : Except Refusal Json} :
    isNotice (Planner.reply id result) = false := by
  cases result <;> rfl

theorem isNotice_handleLine :
    isNotice (handleLine p listening rules now token line).1 = false := by
  rw [handleLine]
  split
  · rfl
  · rw [carryOut]
    split
    · rfl
    · rfl
    · exact isNotice_reply

theorem isNotice_of_mem_answerLine :
    ∀ reply ∈ (answerLine p listening rules now token line).1, isNotice reply = false := by
  rw [answerLine]
  split
  · exact List.forall_mem_singleton.2 rfl
  · split
    · exact List.forall_mem_nil _
    · exact List.forall_mem_singleton.2 isNotice_handleLine

theorem isNotice_of_mem_answerLines (lines : List String) :
    ∀ reply ∈ (answerLines p listening rules now token lines).1, isNotice reply = false := by
  induction lines generalizing p listening with
  | nil => exact List.forall_mem_nil _
  | cons line lines ih =>
    rw [answerLines]
    exact List.forall_mem_append.2 ⟨isNotice_of_mem_answerLine, ih⟩

theorem isNotice_of_mem_notices : ∀ sent ∈ (notices p listening).1, isNotice sent = true := by
  cases listening with
  | none => exact List.forall_mem_nil _
  | some r =>
    intro sent mem
    obtain ⟨received, -, told⟩ := List.mem_filterMap.1 mem
    cases received with
    | notice n =>
      cases told
      rfl
    | lagged | nothing | closed => cases told

theorem replies_answerLines (lines : List String) :
    replies (answerLines p listening rules now token lines).1 =
      (answerLines p listening rules now token lines).1 := by
  refine List.filter_eq_self.2 fun reply mem => ?_
  rw [isNotice_of_mem_answerLines lines reply mem]
  rfl

theorem replies_notices : replies (notices p listening).1 = [] := by
  refine List.filter_eq_nil_iff.2 fun sent mem => ?_
  rw [isNotice_of_mem_notices sent mem]
  exact Bool.false_ne_true

theorem replies_append (sent more : List Json) :
    replies (sent ++ more) = replies sent ++ replies more :=
  List.filter_append sent more

/-! ## The whole conversation -/

/-- A session that goes on is told what its user is to be told. -/
theorem run_of_waiting {rest : List UInt8} {closed : Bool} {answers : List Json} {p' : Planner}
    {listening' : Option Receiver}
    (served : serve p (waiting bytes closed listening) rules now token =
      (answers, p', waiting rest closed listening')) :
    run p (waiting bytes closed listening) rules now token =
      (answers ++ (notices p' listening').1, p', waiting rest closed (notices p' listening').2) := by
  rw [run, if_neg (by exact Bool.false_ne_true), served]
  rfl

/-- A session that is over gets no notices. -/
theorem EndsWith.run_eq {closed : Bool} {answers : List Json}
    (ends : EndsWith p (waiting bytes closed listening) rules now token answers) :
    ∃ p' s', run p (waiting bytes closed listening) rules now token = (answers, p', s') ∧
      IsOver s' := by
  obtain ⟨p', ⟨reader, gone, listening', ending⟩, served, is_over⟩ := ends
  have deaf : listening' = none := is_over.deaf
  subst deaf
  refine ⟨p', _, ?_, is_over⟩
  rw [run, if_neg (by exact Bool.false_ne_true), served]
  exact congrArg (·, p', _) (List.append_nil answers)

theorem IsOver.run_eq (is_over : IsOver s) : run p s rules now token = ([], p, s) := by
  rw [run, if_pos is_over.ended]

theorem IsOver.send (is_over : IsOver s) (new : List UInt8) : IsOver (s.send new) :=
  ⟨is_over.ended, is_over.deaf⟩

theorem IsOver.closeInput (is_over : IsOver s) : IsOver s.closeInput :=
  ⟨is_over.ended, is_over.deaf⟩

/-- Where the session is over the client is sent nothing. -/
theorem IsOver.converse_eq (is_over : IsOver s) (rounds : List (Moment × List UInt8))
    (closing : Moment) : converse s rules token rounds closing = [] := by
  induction rounds generalizing s with
  | nil => rw [converse, is_over.closeInput.run_eq]
  | cons round rounds ih =>
    obtain ⟨m, new⟩ := round
    rw [converse, (is_over.send new).run_eq]
    exact ih (is_over.send new)

theorem answerAll_silent (moments : List Moment) :
    answerAll listening rules token (moments.map fun m => (m, [])) = [] := by
  induction moments generalizing listening with
  | nil => rfl
  | cons m moments ih =>
    rw [List.map_cons, answerAll]
    exact ih

/-- The lines up to the first that is too long are answered as if they were heard as lines, some
at each moment. -/
theorem replies_converse {lines : List String} {last : String} (rounds : List (Moment × List UInt8))
    (closing : Moment) (sent : bytes ++ rounds.flatMap (·.2) = wire lines ++ utf8 last)
    (one : ∀ line ∈ lines ++ [last], '\n' ∉ line.toList) :
    ∃ groups : List (Moment × List String), groups.map (·.1) = rounds.map (·.1) ++ [closing] ∧
      groups.flatMap (·.2) = heard (lines ++ [last]) ∧
      replies (converse (waiting bytes false listening) rules token rounds closing) =
        answerAll listening rules token groups := by
  induction rounds generalizing bytes listening lines with
  | nil =>
    rw [List.flatMap_nil, List.append_nil] at sent
    subst sent
    obtain ⟨p', s', ran, is_over⟩ :=
      (endsWith_closed rules closing.now token closing.planner listening one).run_eq
    refine ⟨[(closing, heard (lines ++ [last]))], rfl, List.flatMap_singleton .., ?_⟩
    rw [converse, closeInput_waiting, ran, replies_answerLines, answerAll]
    exact (List.append_nil _).symm
  | cons round rounds ih =>
    obtain ⟨m, new⟩ := round
    rw [List.flatMap_cons, ← List.append_assoc] at sent
    obtain ⟨front, rest, unread, rfl, short, still, served⟩ |
      ⟨front, line, rest, split, short, long, ends⟩ :=
      serve_round rules m.now token m.planner listening sent one
    · rw [List.append_assoc] at one ⊢
      obtain ⟨groups, moments, all, said⟩ := ih still (List.forall_mem_append.1 one).2
      refine ⟨(m, front) :: groups, congrArg (m :: ·) moments, ?_, ?_⟩
      · rw [List.flatMap_cons, all, heard_append short]
      · rw [converse, send_waiting, run_of_waiting served]
        dsimp only
        rw [replies_append, replies_append, replies_answerLines, replies_notices, List.append_nil,
          said]
        rfl
    · obtain ⟨p', s', ran, is_over⟩ := ends.run_eq
      refine ⟨(m, front ++ [line]) :: (rounds.map (·.1) ++ [closing]).map (·, []), ?_, ?_, ?_⟩
      · simp
      · rw [split, heard_append short, heard, if_pos long]
        simp
      · rw [converse, send_waiting, ran]
        dsimp only
        rw [is_over.converse_eq, List.append_nil, replies_answerLines, answerAll]
        dsimp only
        rw [answerAll_silent, List.append_nil]

end Serve

/-! ## Lines that get a reply -/

/-- The line gets a reply. -/
def IsDue (line : String) : Prop := TooLong line ∨ isBlankLine (chomp line) = false

instance (line : String) : Decidable (IsDue line) := inferInstanceAs (Decidable (_ ∨ _))

/-- A client that opens a session, sends `rounds` and closes gets for `lines`, which it has sent, one
reply each that is due, in their order and to what they say. -/
def AnswersEach (rules : Rules) (token : String) (rounds : List (Moment × List UInt8))
    (closing : Moment) (lines : List String) : Prop :=
  ∃ groups : List (Moment × List String), groups.map (·.1) = rounds.map (·.1) ++ [closing] ∧
    groups.flatMap (·.2) = lines ∧
    replies (converse .new rules token rounds closing) = answerAll none rules token groups

section Due

variable {rules : Rules} {now : Int} {token line : String} {p : Planner}
  {listening : Option Receiver} {rounds : List (Moment × List UInt8)} {closing : Moment}

theorem answerLine_of_not_due (undue : ¬ IsDue line) :
    answerLine p listening rules now token line = ([], p, listening) := by
  obtain ⟨short, blank⟩ := not_or.1 undue
  rw [answerLine, if_neg short, if_pos (Bool.not_eq_false _ ▸ blank)]

theorem length_answerLine :
    (answerLine p listening rules now token line).1.length = if IsDue line then 1 else 0 := by
  by_cases due : IsDue line
  · rw [if_pos due, answerLine]
    split
    · rfl
    · rename_i short
      rw [if_neg (Bool.eq_false_iff.1 (due.resolve_left short))]
      rfl
  · rw [if_neg due, answerLine_of_not_due due]
    rfl

theorem length_answerLines (lines : List String) :
    (answerLines p listening rules now token lines).1.length = lines.countP (IsDue ·) := by
  induction lines generalizing p listening with
  | nil => rfl
  | cons line lines ih =>
    rw [answerLines]
    dsimp only
    rw [List.length_append, length_answerLine, ih, List.countP_cons, Nat.add_comm]
    simp only [decide_eq_true_eq]

variable (rules token listening) in
/-- There are as many replies as lines that are due. -/
theorem length_answerAll (groups : List (Moment × List String)) :
    (answerAll listening rules token groups).length =
      (groups.flatMap (·.2)).countP (IsDue ·) := by
  induction groups generalizing listening with
  | nil => rfl
  | cons group groups ih =>
    obtain ⟨m, lines⟩ := group
    rw [answerAll]
    dsimp only
    rw [List.length_append, length_answerLines, ih, List.flatMap_cons, List.countP_append]

/-- Blank lines at the end change nothing. -/
theorem answerLines_append_undue {undue : List String} (none_due : ∀ line ∈ undue, ¬ IsDue line)
    (lines : List String) :
    answerLines p listening rules now token (lines ++ undue) =
      answerLines p listening rules now token lines := by
  induction lines generalizing p listening with
  | nil =>
    induction undue with
    | nil => rfl
    | cons line undue ih =>
      obtain ⟨first, none_due⟩ := List.forall_mem_cons.1 none_due
      simp only [List.nil_append, answerLines, answerLine_of_not_due first]
      exact ih none_due
  | cons line lines ih =>
    simp only [List.cons_append, answerLines, ih]

theorem answerAll_append_undue {undue : List String} (none_due : ∀ line ∈ undue, ¬ IsDue line)
    (groups : List (Moment × List String)) (m : Moment) (lines : List String) :
    answerAll listening rules token (groups ++ [(m, lines ++ undue)]) =
      answerAll listening rules token (groups ++ [(m, lines)]) := by
  induction groups generalizing listening with
  | nil => simp only [List.nil_append, answerAll, answerLines_append_undue none_due]
  | cons group groups ih =>
    obtain ⟨m', lines'⟩ := group
    simp only [List.cons_append, answerAll, ih]

/-- Blank lines at the end need no reply. -/
theorem AnswersEach.append_undue {lines undue : List String}
    (answers : AnswersEach rules token rounds closing lines)
    (none_due : ∀ line ∈ undue, ¬ IsDue line) :
    AnswersEach rules token rounds closing (lines ++ undue) := by
  obtain ⟨groups, moments, rfl, said⟩ := answers
  obtain ⟨front, last, rfl, front_moments, last_moment⟩ := List.map_eq_append_iff.1 moments
  obtain ⟨⟨m, lines⟩, rfl, rfl⟩ := List.map_eq_singleton_iff.1 last_moment
  refine ⟨front ++ [(m, lines ++ undue)], ?_, ?_, ?_⟩
  · rw [List.map_append, front_moments]
    rfl
  · simp
  · rw [said, answerAll_append_undue none_due]

/-- The replies do not go further than to the lines that they are replies to. -/
theorem AnswersEach.not_due {lines more : List String}
    (answers : AnswersEach rules token rounds closing lines)
    (all : AnswersEach rules token rounds closing (lines ++ more)) :
    ∀ line ∈ more, ¬ IsDue line := by
  obtain ⟨groups, -, flat, said⟩ := answers
  obtain ⟨groups', -, flat', said'⟩ := all
  have same : (lines ++ more).countP (IsDue ·) = lines.countP (IsDue ·) := by
    rw [← flat', ← flat, ← length_answerAll rules token none groups',
      ← length_answerAll rules token none groups, ← said, ← said']
  rw [List.countP_append, Nat.add_eq_left, List.countP_eq_zero] at same
  simpa only [decide_eq_true_eq] using same

variable (rules token rounds closing) in
theorem answersEach_heard {lines : List String} {last : String}
    (sent : rounds.flatMap (·.2) = wire lines ++ utf8 last)
    (one : ∀ line ∈ lines ++ [last], '\n' ∉ line.toList) :
    AnswersEach rules token rounds closing (heard (lines ++ [last])) := by
  have sent : [] ++ rounds.flatMap (·.2) = wire lines ++ utf8 last := sent
  exact replies_converse rounds closing sent one

variable (rules token rounds closing) in
/-- **Every line that is not blank gets one reply**, in the order of the lines, up to the first that is
too long and with it, whatever pieces the bytes come in. All lines get theirs just if only blank ones
stand behind that. -/
theorem answersEach_iff (lines : List String) (last : String)
    (sent : rounds.flatMap (·.2) = wire lines ++ utf8 last)
    (one : ∀ line ∈ lines ++ [last], '\n' ∉ line.toList) :
    AnswersEach rules token rounds closing (heard (lines ++ [last])) ∧
      (AnswersEach rules token rounds closing (lines ++ [last]) ↔
        ∀ line ∈ unheard (lines ++ [last]), ¬ IsDue line) := by
  have answers := answersEach_heard rules token rounds closing sent one
  refine ⟨answers, fun all => answers.not_due ?_, fun none_due => ?_⟩
  · rwa [heard_append_unheard]
  · rw [← heard_append_unheard (lines ++ [last])]
    exact answers.append_undue none_due

/-- A blank line and one that is no request, in two pieces. -/
theorem answersEach_in_pieces :
    AnswersEach .oneStudent "t" [(⟨.opened, 0⟩, [10, 120]), (⟨.opened, 1⟩, [10])] ⟨.opened, 2⟩
      ["", "x", ""] :=
  (answersEach_iff .oneStudent "t" [(⟨.opened, 0⟩, [10, 120]), (⟨.opened, 1⟩, [10])] ⟨.opened, 2⟩
    ["", "x"] "" rfl (by decide)).2.2 (by decide)

/-- One space too many. -/
def spaces : String := String.ofList (List.replicate (maxLineLength + 1) ' ')

theorem tooLong_spaces : TooLong spaces := by
  have space : String.utf8EncodeChar ' ' = [32] := rfl
  rw [TooLong, spaces, utf8_ofList, List.flatMap_replicate, space, List.flatten_replicate_singleton,
    List.length_replicate]
  exact Nat.lt_succ_self _

/-- Behind a line that is too long nothing is answered. -/
theorem not_answersEach_tooLong : ¬ AnswersEach .oneStudent "t"
    [(⟨.opened, 0⟩, wire [spaces, "x"])] ⟨.opened, 1⟩ [spaces, "x", ""] := by
  intro all
  have one : ∀ line ∈ [spaces, "x"] ++ [""], '\n' ∉ line.toList := by
    refine List.forall_mem_cons.2 ⟨?_, by decide⟩
    rw [spaces, String.toList_ofList]
    exact fun mem => absurd (List.eq_of_mem_replicate mem) (by decide)
  have nothing : utf8 "" = [] := rfl
  have answers := answersEach_heard .oneStudent "t" [(⟨.opened, 0⟩, wire [spaces, "x"])] ⟨.opened, 1⟩
    (by rw [List.flatMap_singleton, nothing, List.append_nil]) one
  rw [List.cons_append, heard, if_pos tooLong_spaces] at answers
  exact answers.not_due all "x" List.mem_cons_self (by decide)

end Due

end Session

end Timetable
