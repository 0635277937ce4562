import Mathlib.Data.List.TakeWhile
import Timetable.Proofs.Overlap
import Timetable.Proofs.RoundTrip.Date

/-!
# Bell schedules as they are written

A text with commas is cut into pieces. The blanks around an item do not belong to it, and a piece of
blanks alone has no item. All items have to be times, and the times have to increase. What is wrong
first is told: an item that is no time before any disorder, and of either the first one. So a bell
schedule is read back from the times of its units, however much empty space is put between them.
-/

set_option autoImplicit false

namespace Timetable

/-! ## Blanks around an item -/

namespace Text

/-- The characters are blank. -/
def Blanks (s : List Char) : Prop := ∀ c ∈ s, isBlank c = true

/-- Something that neither starts nor ends with a blank. -/
structure Trimmed (s : List Char) : Prop where
  ne_nil : s ≠ []
  first : ∀ c ∈ s.head?, isBlank c = false
  last : ∀ c ∈ s.getLast?, isBlank c = false

variable {s front item back rest : List Char}

theorem trimStart_append_of_blanks (blanks : Blanks front) (s : List Char) :
    trimStart (front ++ s) = trimStart s := List.dropWhile_append_of_pos blanks

theorem trimStart_of_head? (first : ∀ c ∈ s.head?, isBlank c = false) : trimStart s = s := by
  cases s with
  | nil => rfl
  | cons c s =>
    have shown : isBlank c = false := first c rfl
    rw [trimStart, List.dropWhile_cons_of_neg (by simp [shown])]

theorem exists_blanks_trimStart (s : List Char) :
    ∃ front, Blanks front ∧ s = front ++ trimStart s ∧
      ∀ c ∈ (trimStart s).head?, isBlank c = false := by
  refine ⟨s.takeWhile isBlank, fun c mem => ?_, List.takeWhile_append_dropWhile.symm, ?_⟩
  · exact List.mem_takeWhile_imp mem
  · intro c first
    have stops := List.head?_dropWhile_not isBlank s
    rw [trimStart, Option.mem_def] at first
    rw [first] at stops
    exact stops

/-- The blanks around an item are trimmed off, and nothing else. -/
theorem trim_append (before : Blanks front) (trimmed : Trimmed item) (behind : Blanks back) :
    trim (front ++ item ++ back) = item := by
  have shown : ∀ c ∈ (item ++ back).head?, isBlank c = false := by
    rw [List.head?_append_of_ne_nil _ trimmed.ne_nil]
    exact trimmed.first
  have reversed : ∀ c ∈ item.reverse.head?, isBlank c = false := by
    rw [List.head?_reverse]
    exact trimmed.last
  have blanks : Blanks back.reverse := fun c mem => behind c (List.mem_reverse.1 mem)
  rw [trim, List.append_assoc, trimStart_append_of_blanks before, trimStart_of_head? shown,
    List.reverse_append, trimStart_append_of_blanks blanks, trimStart_of_head? reversed,
    List.reverse_reverse]

theorem trim_of_blanks (blanks : Blanks s) : trim s = [] := by
  have none_left : trimStart s = [] := List.dropWhile_eq_nil_iff.2 blanks
  rw [trim, none_left]
  rfl

/-- A text is blank, or it has an item with blanks around it. -/
theorem blanks_or_trimmed (s : List Char) : Blanks s ∨
    ∃ front back, Blanks front ∧ Blanks back ∧ Trimmed (trim s) ∧ s = front ++ trim s ++ back := by
  obtain ⟨front, before, split, first⟩ := exists_blanks_trimStart s
  obtain ⟨back, behind, split', last⟩ := exists_blanks_trimStart (trimStart s).reverse
  have whole : trimStart s = trim s ++ back.reverse := by
    rw [trim, ← List.reverse_append, ← split', List.reverse_reverse]
  by_cases empty : trim s = []
  · left
    rw [whole, empty, List.nil_append] at split
    intro c mem
    rw [split, List.mem_append, List.mem_reverse] at mem
    exact mem.elim (before c) (behind c)
  · right
    rw [whole, ← List.append_assoc] at split
    refine ⟨front, back.reverse, before, fun c mem => behind c (List.mem_reverse.1 mem), ?_, split⟩
    refine ⟨empty, ?_, ?_⟩
    · rwa [whole, List.head?_append_of_ne_nil _ empty] at first
    · rw [trim, List.getLast?_reverse]
      exact last

/-! ## Numbers in front -/

/-- A number as it is written: one or two digits, with blanks before them. -/
def Numeral (n : Nat) (s : List Char) : Prop :=
  ∃ front digits, Blanks front ∧ (∀ c ∈ digits, c.isDigit = true) ∧
    (digits.length = 1 ∨ digits.length = 2) ∧ value digits = n ∧ s = front ++ digits

/-- The front of a text is a number just if it is written so, whatever follows that is no digit. -/
theorem number?_append {n : Nat} (written : Numeral n s)
    (stop : ∀ c ∈ rest.head?, c.isDigit = false) : number? 2 (s ++ rest) = some (n, rest) := by
  obtain ⟨front, digits, before, run, length, rfl, rfl⟩ := written
  have ne_nil : digits ≠ [] := by
    rintro rfl
    simp at length
  have ends : (rest.take (2 - digits.length)).takeWhile Char.isDigit = [] := by
    cases rest with
    | nil => simp
    | cons c rest =>
      have shown : c.isDigit = false := stop c rfl
      rcases length with one | two
      · simp [one, shown]
      · simp [two]
  have room : digits.length ≤ 2 := by omega
  rw [number?, List.append_assoc, trimStart_append_of_blanks before, trimStart_append run ne_nil,
    digits?_append run ne_nil room ends, Option.map_some]

theorem exists_numeral_of_number? {n : Nat} (h : number? 2 s = some (n, rest)) :
    ∃ numeral, Numeral n numeral ∧ s = numeral ++ rest := by
  obtain ⟨⟨digits, rest'⟩, read, same⟩ := Option.map_eq_some_iff.1 h
  cases same
  obtain ⟨front, before, split, -⟩ := exists_blanks_trimStart s
  unfold digits? at read
  split at read
  · cases read
  · rename_i some_digit
    cases read
    have in_front : ((trimStart s).take 2).takeWhile Char.isDigit <+: trimStart s :=
      (List.takeWhile_prefix _).trans (List.take_prefix 2 _)
    have length : (((trimStart s).take 2).takeWhile Char.isDigit).length ≤ 2 :=
      (List.takeWhile_prefix _).length_le.trans (List.length_take_le 2 _)
    have run : ∀ c ∈ ((trimStart s).take 2).takeWhile Char.isDigit, c.isDigit = true :=
      fun c mem => List.mem_takeWhile_imp mem
    generalize ((trimStart s).take 2).takeWhile Char.isDigit = digits at *
    have pos := List.length_pos_iff.2 some_digit
    obtain ⟨rest, whole⟩ := in_front
    refine ⟨front ++ digits, ⟨front, digits, before, run, by omega, rfl, rfl⟩, ?_⟩
    rw [← whole, List.drop_left, List.append_assoc, whole]
    exact split

end Text

/-! ## Times -/

namespace TimeOfDay

open Text

variable {s : List Char} {t : TimeOfDay}

/-- A time as it is written: the number of the hour, a colon, and the number of the minute. -/
def IsWritten (t : TimeOfDay) (s : List Char) : Prop :=
  ∃ hour minute, Numeral t.hour hour ∧ Numeral t.minute minute ∧ s = hour ++ ':' :: minute

/-- Hour and minute, two digits each. -/
def short (t : TimeOfDay) : List Char := padded 2 t.hour ++ ':' :: padded 2 t.minute

theorem ofHourMinute?_eq_some_iff {hour minute : Nat} :
    ofHourMinute? hour minute = some t ↔ t.hour = hour ∧ t.minute = minute := by
  constructor
  · intro h
    unfold ofHourMinute? at h
    split at h
    · cases h
      simp only [TimeOfDay.hour, TimeOfDay.minute]
      omega
    · cases h
  · rintro ⟨rfl, rfl⟩
    exact ofHourMinute?_hour_minute t

/-- A time is read just where one is written. -/
theorem ofChars?_eq_some_iff : ofChars? s = some t ↔ t.IsWritten s := by
  constructor
  · intro h
    simp only [ofChars?, bind, Option.bind_eq_some_iff, Prod.exists] at h
    obtain ⟨hour, after, hour_read, h⟩ := h
    obtain ⟨front, hour_written, rfl⟩ := exists_numeral_of_number? hour_read
    split at h
    · rename_i behind
      simp only [Option.bind_eq_some_iff, Prod.exists] at h
      obtain ⟨minute, rest, minute_read, h⟩ := h
      obtain ⟨back, minute_written, rfl⟩ := exists_numeral_of_number? minute_read
      split at h
      · rename_i nothing_left
        subst nothing_left
        obtain ⟨rfl, rfl⟩ := ofHourMinute?_eq_some_iff.1 h
        exact ⟨front, back, hour_written, minute_written, by rw [List.append_nil]⟩
      · cases h
    · cases h
  · rintro ⟨hour, minute, hour_written, minute_written, rfl⟩
    have hour_read : number? 2 (hour ++ ':' :: minute) = some (t.hour, ':' :: minute) := by
      refine number?_append hour_written ?_
      rintro c ⟨⟩
      rfl
    have minute_read : number? 2 (minute ++ []) = some (t.minute, []) :=
      number?_append minute_written nofun
    rw [List.append_nil] at minute_read
    simp only [ofChars?, bind, hour_read, Option.bind_some, minute_read, ↓reduceIte]
    exact ofHourMinute?_hour_minute t

theorem numeral_padded {n : Nat} (small : n < 100) : Numeral n (padded 2 n) := by
  have length := length_padded_of_lt (by decide : 0 < 2) small
  exact ⟨[], padded 2 n, nofun, fun _ => isDigit_of_mem_padded, .inr length, value_padded 2 n, rfl⟩

theorem isWritten_short (t : TimeOfDay) : t.IsWritten t.short := by
  have last := t.minutes.isLt
  have hour : t.hour < 100 := by
    rw [TimeOfDay.hour]
    omega
  have minute : t.minute < 100 := by
    rw [TimeOfDay.minute]
    omega
  exact ⟨_, _, numeral_padded hour, numeral_padded minute, rfl⟩

theorem trimmed_short (t : TimeOfDay) : Trimmed t.short := by
  have digits (n : Nat) : ∀ c ∈ padded 2 n, isBlank c = false :=
    fun c mem => not_isBlank_of_isDigit (isDigit_of_mem_padded mem)
  refine ⟨List.append_ne_nil_of_right_ne_nil _ (List.cons_ne_nil _ _), ?_, ?_⟩
  · intro c first
    rw [short, List.head?_append_of_ne_nil _ (padded_ne_nil 2 t.hour)] at first
    exact digits t.hour c (List.mem_of_mem_head? first)
  · intro c last
    rw [short, List.getLast?_append_of_ne_nil _ (List.cons_ne_nil _ _),
      List.getLast?_cons_of_ne_nil (padded_ne_nil 2 t.minute)] at last
    exact digits t.minute c (List.mem_of_mem_getLast? last)

theorem comma_not_mem_short (t : TimeOfDay) : ',' ∉ t.short := by
  have digits (n : Nat) : ',' ∉ padded 2 n := fun mem => absurd (isDigit_of_mem_padded mem) (by decide)
  simp [short, digits]

end TimeOfDay

/-! ## Items -/

/-- The items of pieces, in their order. -/
inductive Gathers : (pieces items : List (List Char)) → Prop where
  | nil : Gathers [] []
  | blank {piece : List Char} {pieces items : List (List Char)} (blanks : Text.Blanks piece)
      (rest : Gathers pieces items) : Gathers (piece :: pieces) items
  | item {front item back : List Char} {pieces items : List (List Char)}
      (before : Text.Blanks front) (trimmed : Text.Trimmed item) (behind : Text.Blanks back)
      (rest : Gathers pieces items) : Gathers ((front ++ item ++ back) :: pieces) (item :: items)

theorem gathers_iff {pieces items : List (List Char)} :
    Gathers pieces items ↔ (pieces.map Text.trim).filter (· ≠ []) = items := by
  constructor
  · intro h
    induction h with
    | nil => rfl
    | blank blanks rest ih =>
      rw [List.map_cons, Text.trim_of_blanks blanks, List.filter_cons_of_neg (by simp), ih]
    | item before trimmed behind rest ih =>
      rw [List.map_cons, Text.trim_append before trimmed behind,
        List.filter_cons_of_pos (by simpa using trimmed.ne_nil), ih]
  · rintro rfl
    induction pieces with
    | nil => exact .nil
    | cons piece pieces ih =>
      rw [List.map_cons]
      obtain blanks | ⟨front, back, before, behind, trimmed, split⟩ := Text.blanks_or_trimmed piece
      · rw [Text.trim_of_blanks blanks, List.filter_cons_of_neg (by simp)]
        exact .blank blanks ih
      · rw [List.filter_cons_of_pos (by simpa using trimmed.ne_nil)]
        have whole := Gathers.item before trimmed behind ih
        rwa [← split] at whole

/-- Pieces in which times are written as `HH:MM`, with blanks around them and blank pieces in
between. -/
inductive Spaced : (pieces : List (List Char)) → (times : List TimeOfDay) → Prop where
  | nil : Spaced [] []
  | blank {piece : List Char} {pieces : List (List Char)} {times : List TimeOfDay}
      (blanks : Text.Blanks piece) (rest : Spaced pieces times) : Spaced (piece :: pieces) times
  | time {front back : List Char} {t : TimeOfDay} {pieces : List (List Char)}
      {times : List TimeOfDay} (before : Text.Blanks front) (behind : Text.Blanks back)
      (rest : Spaced pieces times) : Spaced ((front ++ t.short ++ back) :: pieces) (t :: times)

theorem Spaced.gathers {pieces : List (List Char)} {times : List TimeOfDay}
    (spaced : Spaced pieces times) : Gathers pieces (times.map TimeOfDay.short) := by
  induction spaced with
  | nil => exact .nil
  | blank blanks rest ih => exact .blank blanks ih
  | @time front back t pieces times before behind rest ih =>
    exact .item before t.trimmed_short behind ih

/-- The text is made of pieces, with a comma between each two. -/
def CutInto (text : String) (pieces : List (List Char)) : Prop :=
  pieces ≠ [] ∧ (∀ piece ∈ pieces, ',' ∉ piece) ∧ text.toList = [','].intercalate pieces

/-- Pieces that are cut at commas have none. -/
theorem comma_not_mem_of_mem_splitOn {text piece : List Char} (mem : piece ∈ text.splitOn ',') :
    ',' ∉ piece := by
  induction text generalizing piece with
  | nil =>
    rw [List.splitOn_nil, List.mem_singleton] at mem
    rw [mem]
    exact List.not_mem_nil
  | cons c text ih =>
    rw [List.splitOn_cons_eq_if_modifyHead] at mem
    obtain ⟨first, others, split⟩ := List.exists_cons_of_ne_nil (List.splitOn_ne_nil ',' text)
    rw [split] at mem ih
    split at mem
    · rcases List.mem_cons.1 mem with rfl | mem
      · exact List.not_mem_nil
      · exact ih mem
    · rename_i other
      rw [List.modifyHead_cons] at mem
      rcases List.mem_cons.1 mem with rfl | mem
      · refine fun comma => (List.mem_cons.1 comma).elim (fun same => other ?_) (ih List.mem_cons_self)
        rw [same, beq_self_eq_true]
      · exact ih (List.mem_cons_of_mem _ mem)

/-- Blanks do not make a comma. -/
theorem Gathers.comma_not_mem {pieces items : List (List Char)} (gathers : Gathers pieces items)
    (no_comma : ∀ item ∈ items, ',' ∉ item) : ∀ piece ∈ pieces, ',' ∉ piece := by
  have of_blanks {s : List Char} (blanks : Text.Blanks s) : ',' ∉ s :=
    fun comma => absurd (blanks ',' comma) (by decide)
  induction gathers with
  | nil => exact nofun
  | blank blanks rest ih => exact List.forall_mem_cons.2 ⟨of_blanks blanks, ih no_comma⟩
  | item before trimmed behind rest ih =>
    obtain ⟨none_in_item, none_later⟩ := List.forall_mem_cons.1 no_comma
    refine List.forall_mem_cons.2 ⟨?_, ih none_later⟩
    simp only [List.mem_append, of_blanks before, none_in_item, of_blanks behind, or_self,
      not_false_eq_true]

namespace BellSchedule

open TimeOfDay (IsWritten)

variable {times : List TimeOfDay} {items : List (List Char)} {bells : BellSchedule}

theorem items_eq_iff {text : String} :
    BellSchedule.items text.toList = items ↔ ∃ pieces, CutInto text pieces ∧ Gathers pieces items := by
  constructor
  · intro h
    refine ⟨text.toList.splitOn ',', ⟨?_, ?_, (List.intercalate_splitOn ',').symm⟩, gathers_iff.2 h⟩
    · exact List.splitOn_ne_nil _ _
    · intro piece mem comma
      exact comma_not_mem_of_mem_splitOn mem comma
  · rintro ⟨pieces, ⟨ne_nil, no_comma, joined⟩, gathers⟩
    rw [BellSchedule.items, joined, List.splitOn_intercalate ',' no_comma ne_nil]
    exact gathers_iff.1 gathers

/-! ## What is wrong first -/

/-- Unit `k` does not start later than the unit before it, where the times are those of the units
from `unit` on. -/
def Late (unit : Nat) (times : List TimeOfDay) (k : Nat) : Prop :=
  ∃ n before time, k = unit + n + 1 ∧ times[n]? = some before ∧ times[n + 1]? = some time ∧
    ¬ before < time

/-- Unit `k` is the first such. -/
def FirstLate (unit : Nat) (times : List TimeOfDay) (k : Nat) : Prop :=
  Late unit times k ∧ ∀ j < k, ¬ Late unit times j

theorem late_cons {unit k : Nat} {previous time : TimeOfDay} {rest : List TimeOfDay} :
    Late unit (previous :: time :: rest) k ↔
      k = unit + 1 ∧ ¬ previous < time ∨ Late (unit + 1) (time :: rest) k := by
  constructor
  · rintro ⟨_ | n, before, after, rfl, found, found', late⟩
    · cases found
      cases found'
      exact .inl ⟨rfl, late⟩
    · exact .inr ⟨n, before, after, by omega, found, found', late⟩
  · rintro (⟨rfl, late⟩ | ⟨n, before, after, rfl, found, found', late⟩)
    · exact ⟨0, previous, time, rfl, rfl, rfl, late⟩
    · exact ⟨n + 1, before, after, by omega, found, found', late⟩

theorem lt_of_late {unit k : Nat} (late : Late unit times k) : unit < k := by
  obtain ⟨n, -, -, rfl, -⟩ := late
  omega

theorem not_late_of_pairwise {unit k : Nat} (increasing : times.Pairwise (· < ·)) :
    ¬ Late unit times k := by
  rintro ⟨n, before, time, -, found, found', late⟩
  obtain ⟨below, rfl⟩ := List.getElem?_eq_some_iff.1 found
  obtain ⟨below', rfl⟩ := List.getElem?_eq_some_iff.1 found'
  exact late (List.pairwise_iff_getElem.1 increasing n (n + 1) below below' (Nat.lt_succ_self n))

theorem firstLate_of_disorder? {unit k : Nat} {previous : TimeOfDay} {rest : List TimeOfDay}
    (h : disorder? unit previous rest = some k) : FirstLate unit (previous :: rest) k := by
  induction rest generalizing unit previous with
  | nil => cases h
  | cons time rest ih =>
    rw [disorder?] at h
    split at h
    · rename_i in_order
      obtain ⟨late, first⟩ := ih h
      refine ⟨late_cons.2 (.inr late), fun j lt late => ?_⟩
      rcases late_cons.1 late with ⟨-, late⟩ | late
      · exact late in_order
      · exact first j lt late
    · rename_i late
      cases h
      refine ⟨late_cons.2 (.inl ⟨rfl, late⟩), fun j lt late => ?_⟩
      have after := lt_of_late late
      omega

theorem FirstLate.unique {unit k j : Nat} (late : FirstLate unit times k)
    (late' : FirstLate unit times j) : k = j := by
  rcases Nat.lt_trichotomy k j with lt | eq | lt
  · exact absurd late.1 (late'.2 k lt)
  · exact eq
  · exact absurd late'.1 (late.2 j lt)

theorem ofStarts_starts (bells : BellSchedule) : ofStarts bells.starts = .ok bells := by
  obtain ⟨_ | ⟨first, rest⟩, ne_nil, increasing⟩ := bells
  · exact absurd rfl ne_nil
  · simp only [ofStarts]
    split
    · rename_i disorder
      exact absurd (firstLate_of_disorder? disorder).1 (not_late_of_pairwise increasing)
    · rfl

theorem ofStarts_of_firstLate {k : Nat} (late : FirstLate 1 times k) :
    ofStarts times = .error (.notIncreasing k) := by
  cases times with
  | nil =>
    obtain ⟨n, before, time, -, found, -⟩ := late.1
    cases found
  | cons first rest =>
    simp only [ofStarts]
    split
    · rename_i disorder
      rw [(firstLate_of_disorder? disorder).unique late]
    · rename_i in_order
      exact absurd late.1 (not_late_of_pairwise (pairwise_of_disorder? in_order))

/-- Some time comes too late, there is none, or they are the starts of a bell schedule. -/
theorem firstLate_or_starts (times : List TimeOfDay) :
    (∃ k, FirstLate 1 times k) ∨ times = [] ∨ ∃ bells : BellSchedule, bells.starts = times := by
  cases times with
  | nil => exact .inr (.inl rfl)
  | cons first rest =>
    cases disorder : disorder? 1 first rest with
    | some k => exact .inl ⟨k, firstLate_of_disorder? disorder⟩
    | none => exact .inr (.inr ⟨⟨_, List.cons_ne_nil _ _, pairwise_of_disorder? disorder⟩, rfl⟩)

/-! ## From the items to the schedule -/

theorem time_eq_ok {t : TimeOfDay} {item : List Char} (written : t.IsWritten item) :
    time item = .ok t := by
  rw [time, TimeOfDay.ofChars?_eq_some_iff.2 written]

theorem time_eq_error {item : List Char} (bad : ∀ t : TimeOfDay, ¬ t.IsWritten item) :
    time item = .error (.badTime (String.ofList item)) := by
  have none_read : TimeOfDay.ofChars? item = none :=
    Option.eq_none_iff_forall_ne_some.2 fun t read => bad t (TimeOfDay.ofChars?_eq_some_iff.1 read)
  rw [time, none_read]

theorem mapM_time_eq_ok (written : List.Forall₂ IsWritten times items) :
    items.mapM time = .ok times := by
  induction written with
  | nil => rfl
  | cons first rest ih =>
    rw [List.mapM_cons, time_eq_ok first, ih]
    rfl

theorem mapM_time_eq_error {front back : List (List Char)} {item : List Char}
    (good : List.Forall₂ IsWritten times front) (bad : ∀ t : TimeOfDay, ¬ t.IsWritten item) :
    (front ++ item :: back).mapM time = .error (.badTime (String.ofList item)) := by
  rw [List.mapM_append, mapM_time_eq_ok good, List.mapM_cons, time_eq_error bad]
  rfl

/-- All items are times, or there is a first one that is not. -/
theorem times_or_bad (items : List (List Char)) : (∃ times, List.Forall₂ IsWritten times items) ∨
    ∃ front item back times, items = front ++ item :: back ∧
      List.Forall₂ IsWritten times front ∧ ∀ t : TimeOfDay, ¬ t.IsWritten item := by
  induction items with
  | nil => exact .inl ⟨[], .nil⟩
  | cons first rest ih =>
    by_cases good : ∃ t : TimeOfDay, t.IsWritten first
    · obtain ⟨t, good⟩ := good
      rcases ih with ⟨times, written⟩ | ⟨front, item, back, times, rfl, written, bad⟩
      · exact .inl ⟨t :: times, .cons good written⟩
      · exact .inr ⟨first :: front, item, back, t :: times, rfl, .cons good written, bad⟩
    · exact .inr ⟨[], first, rest, [], rfl, .nil, fun t written => good ⟨t, written⟩⟩

/-- The schedule has a unit for each item, and each unit starts at the time of its item. -/
structure IsReadFrom (bells : BellSchedule) (items : List (List Char)) : Prop where
  maxUnit_eq : bells.maxUnit = items.length
  /-- There is a start for just the units from 1 to the last one. -/
  start_iff : ∀ unit, (∃ time, bells.start unit = .ok time) ↔
    1 ≤ unit.toNat ∧ unit.toNat ≤ bells.maxUnit
  error_eq : ∀ unit error, bells.start unit = .error error → error = .outOfRange unit bells.maxUnit
  increasing : ∀ unit unit' time time', bells.start unit = .ok time → bells.start unit' = .ok time' →
    (time < time' ↔ unit < unit')
  written : ∀ unit time, bells.start unit = .ok time →
    ∃ item, items[unit.toNat - 1]? = some item ∧ time.IsWritten item

theorem start_eq_ok_of_getElem? {unit : UInt32} {n : Nat} {time : TimeOfDay}
    (place : unit.toNat = n + 1) (found : bells.starts[n]? = some time) :
    bells.start unit = .ok time := by
  simp only [start, place, found]

theorem isReadFrom_iff : bells.IsReadFrom items ↔ List.Forall₂ IsWritten bells.starts items := by
  rw [List.forall₂_iff_get]
  constructor
  · rintro ⟨same_length, -, -, -, written⟩
    refine ⟨same_length, fun n below below' => ?_⟩
    have few := bells.maxUnit_le
    have small : n + 1 < UInt32.size := by
      have room : (1440 : Nat) < UInt32.size := by decide
      rw [maxUnit] at few
      omega
    have place : (UInt32.ofNatLT (n + 1) small).toNat = n + 1 := UInt32.toNat_ofNatLT
    have starts : bells.start (UInt32.ofNatLT (n + 1) small) = .ok bells.starts[n] :=
      start_eq_ok_of_getElem? place (List.getElem?_eq_getElem below)
    obtain ⟨item, found, written⟩ := written _ _ starts
    rw [place, Nat.add_sub_cancel, List.getElem?_eq_getElem below'] at found
    cases found
    exact written
  · rintro ⟨same_length, written⟩
    refine ⟨same_length, fun unit => ⟨?_, ?_⟩, ?_, ?_, ?_⟩
    · rintro ⟨time, starts⟩
      obtain ⟨n, place, found⟩ := getElem?_of_start_eq_ok starts
      obtain ⟨below, -⟩ := List.getElem?_eq_some_iff.1 found
      rw [maxUnit]
      omega
    · rintro ⟨first, last⟩
      exact start_eq_ok first last
    · intro unit error fails
      unfold start at fails
      split at fails
      · cases fails
        rfl
      · split at fails
        · cases fails
        · cases fails
          rfl
    · exact fun unit unit' time time' => lt_iff_of_start_eq_ok
    · intro unit time starts
      obtain ⟨n, place, found⟩ := getElem?_of_start_eq_ok starts
      obtain ⟨below, rfl⟩ := List.getElem?_eq_some_iff.1 found
      have below' : n < items.length := same_length ▸ below
      refine ⟨items[n], ?_, written n below below'⟩
      rw [place, Nat.add_sub_cancel, List.getElem?_eq_getElem below']

/-- What becomes of items. The first one that is no time is told, whatever the order of the others;
then that there is no item, or the first unit that starts too early. -/
inductive Reading : (items : List (List Char)) → Except BellError BellSchedule → Prop where
  | badTime {front back : List (List Char)} {item : List Char}
      (good : ∀ other ∈ front, ∃ t : TimeOfDay, t.IsWritten other)
      (bad : ∀ t : TimeOfDay, ¬ t.IsWritten item) :
      Reading (front ++ item :: back) (.error (.badTime (String.ofList item)))
  | empty : Reading [] (.error .empty)
  | notIncreasing {times : List TimeOfDay} {items : List (List Char)} {k : Nat}
      (written : List.Forall₂ IsWritten times items) (late : FirstLate 1 times k) :
      Reading items (.error (.notIncreasing k))
  | accepted {bells : BellSchedule} {items : List (List Char)} (read : bells.IsReadFrom items) :
      Reading items (.ok bells)

theorem exists_times {front : List (List Char)}
    (good : ∀ item ∈ front, ∃ t : TimeOfDay, t.IsWritten item) :
    ∃ times, List.Forall₂ IsWritten times front := by
  rcases times_or_bad front with written | ⟨before, item, after, -, rfl, -, bad⟩
  · exact written
  · obtain ⟨t, written⟩ := good item (by simp)
    exact absurd written (bad t)

theorem Reading.eq {result : Except BellError BellSchedule} (reading : Reading items result) :
    (items.mapM time >>= ofStarts) = result := by
  cases reading with
  | badTime good bad =>
    obtain ⟨times, good⟩ := exists_times good
    rw [mapM_time_eq_error good bad]
    rfl
  | empty => rfl
  | notIncreasing written late =>
    rw [mapM_time_eq_ok written]
    exact ofStarts_of_firstLate late
  | accepted read =>
    rw [mapM_time_eq_ok (isReadFrom_iff.1 read)]
    exact ofStarts_starts _

theorem exists_reading (items : List (List Char)) : ∃ result, Reading items result := by
  rcases times_or_bad items with ⟨times, written⟩ | ⟨front, item, back, times, rfl, good, bad⟩
  · rcases firstLate_or_starts times with ⟨k, late⟩ | rfl | ⟨bells, rfl⟩
    · exact ⟨_, .notIncreasing written late⟩
    · cases written
      exact ⟨_, .empty⟩
    · exact ⟨_, .accepted (isReadFrom_iff.2 written)⟩
  · refine ⟨_, .badTime (fun other mem => ?_) bad⟩
    obtain ⟨n, below, rfl⟩ := List.mem_iff_getElem.1 mem
    exact ⟨_, good.get (good.length_eq ▸ below) below⟩

/-- **A bell schedule is read as it is written.** For every text, what is wrong first is told, and
where nothing is, the schedule has the times of the items for its units. Read from the times of a
schedule, with any blanks around them and any empty pieces in between, it is that schedule. -/
theorem ofText_eq_iff_and_ofText_short :
    (∀ (text : String) (result : Except BellError BellSchedule), ofText text = result ↔
      ∃ pieces items, CutInto text pieces ∧ Gathers pieces items ∧ Reading items result) ∧
    ∀ (bells : BellSchedule) (pieces : List (List Char)),
      Spaced pieces bells.starts →
        ofText (String.ofList ([','].intercalate pieces)) = .ok bells := by
  have read {text : String} {pieces items : List (List Char)}
      {result : Except BellError BellSchedule} (cut : CutInto text pieces)
      (gathers : Gathers pieces items) (reading : Reading items result) : ofText text = result := by
    rw [ofText, items_eq_iff.2 ⟨pieces, cut, gathers⟩]
    exact reading.eq
  refine ⟨fun text result => ⟨?_, ?_⟩, fun bells pieces spaced => ?_⟩
  · rintro rfl
    obtain ⟨pieces, cut, gathers⟩ := items_eq_iff.1 (rfl : BellSchedule.items text.toList = _)
    obtain ⟨result, reading⟩ := exists_reading (BellSchedule.items text.toList)
    refine ⟨pieces, _, cut, gathers, ?_⟩
    rwa [read cut gathers reading]
  · rintro ⟨pieces, items, cut, gathers, reading⟩
    exact read cut gathers reading
  · have gathers := spaced.gathers
    have cut : CutInto (String.ofList ([','].intercalate pieces)) pieces := by
      refine ⟨?_, gathers.comma_not_mem ?_, String.toList_ofList⟩
      · rintro rfl
        exact bells.ne_nil (List.map_eq_nil_iff.1 (gathers_iff.1 gathers).symm)
      · intro item mem
        obtain ⟨t, -, rfl⟩ := List.mem_map.1 mem
        exact t.comma_not_mem_short
    refine read cut gathers (.accepted (isReadFrom_iff.2 ?_))
    rw [List.forall₂_map_right_iff, List.forall₂_same]
    exact fun t _ => t.isWritten_short

/-- Three items with blanks and empty pieces around them, of which the second one is too early; and
a schedule that is read back. -/
theorem ofText_eq_iff_and_ofText_short_spaced :
    ofText ", 7:30 ,\t07:5,,9:00" = .error (.notIncreasing 2) ∧
      ∃ bells, ofText "07:30, ,9:00" = .ok bells ∧ ofText " 07:30\n,,09:00," = .ok bells := by
  have good (t : TimeOfDay) {item : List Char} (read : TimeOfDay.ofChars? item = some t) :
      t.IsWritten item := TimeOfDay.ofChars?_eq_some_iff.1 read
  obtain ⟨reads, read_back⟩ := ofText_eq_iff_and_ofText_short
  constructor
  · have gathers : Gathers [[], " 7:30 ".toList, "\t07:5".toList, [], "9:00".toList]
        ["7:30".toList, "07:5".toList, "9:00".toList] := gathers_iff.2 (by decide)
    have written : List.Forall₂ IsWritten [⟨450⟩, ⟨425⟩, ⟨540⟩]
        ["7:30".toList, "07:5".toList, "9:00".toList] :=
      .cons (good _ rfl) (.cons (good _ rfl) (.cons (good _ rfl) .nil))
    have late : FirstLate 1 [⟨450⟩, ⟨425⟩, ⟨540⟩] 2 := by
      refine ⟨⟨0, _, _, rfl, rfl, rfl, by decide⟩, fun j lt late => ?_⟩
      have after := lt_of_late late
      omega
    exact (reads _ _).2
      ⟨_, _, ⟨List.cons_ne_nil _ _, by decide, by decide⟩, gathers, .notIncreasing written late⟩
  · let bells : BellSchedule := ⟨[⟨450⟩, ⟨540⟩], List.cons_ne_nil _ _, by decide⟩
    have space : Text.Blanks [' '] := List.forall_mem_singleton.2 rfl
    have line : Text.Blanks ['\n'] := List.forall_mem_singleton.2 rfl
    have spaced : Spaced [[' '] ++ TimeOfDay.short ⟨450⟩ ++ ['\n'], [],
        [] ++ TimeOfDay.short ⟨540⟩ ++ [], []] bells.starts :=
      .time space line (.blank nofun (.time nofun nofun (.blank nofun .nil)))
    have written : String.ofList ([','].intercalate [[' '] ++ TimeOfDay.short ⟨450⟩ ++ ['\n'], [],
        [] ++ TimeOfDay.short ⟨540⟩ ++ [], []]) = " 07:30\n,,09:00," := by decide +kernel
    refine ⟨bells, rfl, ?_⟩
    rw [← written]
    exact read_back bells _ spaced

end BellSchedule

end Timetable
