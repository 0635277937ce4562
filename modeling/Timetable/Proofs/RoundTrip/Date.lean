import Timetable.Date.Text

/-!
# Dates and their text

The text of a date is read back as that date. What a day is called in years, months and days is a
day of the calendar, and that day again.
-/

set_option autoImplicit false

namespace Timetable.Text

theorem isDigit_of_mem_padded {width n : Nat} {c : Char} (h : c ∈ padded width n) :
    c.isDigit = true := by
  rw [padded, List.mem_append] at h
  rcases h with zero | digit
  · rw [(List.mem_replicate.1 zero).2]
    rfl
  · exact Nat.isDigit_of_mem_toDigits (by decide) (by decide) digit

theorem padded_ne_nil (width n : Nat) : padded width n ≠ [] := by
  simp [padded]

@[simp] theorem value_padded (width n : Nat) : value (padded width n) = n := by
  rw [value, padded, Nat.ofDigitChars_append, Nat.ofDigitChars_replicate_zero, Nat.mul_zero,
    Nat.ofDigitChars_ten_toDigits]

theorem length_padded_of_lt {width n : Nat} (pos : 0 < width) (h : n < Nat.pow 10 width) :
    (padded width n).length = width := by
  rw [length_padded]
  exact Nat.max_eq_left ((Nat.length_toDigits_le_iff (by decide) pos).2 h)

/-- A run of digits is read up to its end, whatever the bound that it keeps. -/
theorem digits?_append {most : Nat} {digits rest : List Char} (run : ∀ c ∈ digits, c.isDigit = true)
    (ne_nil : digits ≠ []) (room : digits.length ≤ most)
    (stop : (rest.take (most - digits.length)).takeWhile Char.isDigit = []) :
    digits? most (digits ++ rest) = some (digits, rest) := by
  have read : ((digits ++ rest).take most).takeWhile Char.isDigit = digits := by
    rw [List.take_append, List.take_of_length_le room, List.takeWhile_append_of_pos run, stop,
      List.append_nil]
  obtain ⟨c, cs, rfl⟩ := List.exists_cons_of_ne_nil ne_nil
  rw [digits?, read]
  simp

theorem not_isBlank_of_isDigit {c : Char} (h : c.isDigit = true) : isBlank c = false := by
  simp only [Char.isDigit, Bool.and_eq_true, decide_eq_true_eq] at h
  have lower : 48 ≤ c.toNat := h.1
  have upper : c.toNat ≤ 57 := h.2
  simp only [isBlank, Bool.or_eq_false_iff, Bool.and_eq_false_iff, decide_eq_false_iff_not,
    beq_eq_false_iff_ne]
  omega

theorem trimStart_append {digits rest : List Char} (run : ∀ c ∈ digits, c.isDigit = true)
    (ne_nil : digits ≠ []) : trimStart (digits ++ rest) = digits ++ rest := by
  obtain ⟨c, cs, rfl⟩ := List.exists_cons_of_ne_nil ne_nil
  simp [trimStart, not_isBlank_of_isDigit (run c List.mem_cons_self)]

/-- A month or a day of a month is read back, whatever follows it. -/
theorem number?_padded {n : Nat} (h : n < 100) (rest : List Char) :
    number? 2 (padded 2 n ++ rest) = some (n, rest) := by
  have length := length_padded_of_lt (by decide : 0 < 2) h
  rw [number?, trimStart_append (fun _ => isDigit_of_mem_padded) (padded_ne_nil 2 n),
    digits?_append (fun _ => isDigit_of_mem_padded) (padded_ne_nil 2 n) (Nat.le_of_eq length)
      (by simp [length]), Option.map_some]
  exact congrArg (fun n => some (n, rest)) (value_padded 2 n)

end Timetable.Text

namespace Timetable.Civil

/-- The days of a year that begins in March run up to the first day of the next one. -/
theorem lt_daysBefore_marchYear (n : Int) : n < daysBefore (marchYear n + 1) := by
  obtain ⟨q, c, g, y, r, years, days, c_lt, g_lt, y_lt, r_le, last⟩ := exists_position n
  have four : (marchYear n + 1) / 4 = q * 100 + c * 25 + g + (y + 1) / 4 := by omega
  have hundred : (marchYear n + 1) / 100 = q * 4 + c + (g * 4 + y + 1) / 100 := by omega
  have most : (marchYear n + 1) / 400 = q + (c * 100 + g * 4 + y + 1) / 400 := by omega
  rw [daysBefore, four, hundred, most]
  -- Only the last year of a group may be long, and of the last groups only that of the last century.
  by_cases year : y = 3
  · by_cases group : g = 24
    · by_cases century : c = 3 <;> omega
    · omega
  · omega

theorem isLeap_iff {year : Int} :
    isLeap year = true ↔ year % 4 = 0 ∧ (year % 100 ≠ 0 ∨ year % 400 = 0) := by
  simp [isLeap]

/-- A year that begins in March has 366 days only if the February at its end has 29. -/
theorem isLeap_of_long {year : Int} (h : daysBefore year + 365 < daysBefore (year + 1)) :
    isLeap (year + 1) = true := by
  rw [isLeap_iff]
  unfold daysBefore at h
  omega

theorem valid_ofMarch {year dayOfYear : Int} (lower : 0 ≤ dayOfYear) (upper : dayOfYear ≤ 365)
    (long : dayOfYear = 365 → isLeap (year + 1) = true) : (ofMarch year dayOfYear).Valid := by
  have short : isLeap (year + 1) = false → dayOfYear ≤ 364 := by
    intro leap
    have : dayOfYear ≠ 365 := fun last => by simp [long last] at leap
    omega
  generalize h : (5 * dayOfYear + 2) / 153 = month
  obtain rfl | rfl | rfl | rfl | rfl | rfl | rfl | rfl | rfl | rfl | rfl | rfl :
      month = 0 ∨ month = 1 ∨ month = 2 ∨ month = 3 ∨ month = 4 ∨ month = 5 ∨ month = 6 ∨
        month = 7 ∨ month = 8 ∨ month = 9 ∨ month = 10 ∨ month = 11 := by omega
  all_goals
    cases leap : isLeap (year + 1)
    all_goals simp [ofMarch, h, daysBeforeMonth, Valid, monthLength, leap] at short ⊢
    all_goals omega

theorem valid_ofDayNumber (n : Int) : (ofDayNumber n).Valid := by
  have bounds := daysBefore_marchYear (n + 719468)
  have next := lt_daysBefore_marchYear (n + 719468)
  refine valid_ofMarch bounds.1 bounds.2 fun last => isLeap_of_long ?_
  omega

end Timetable.Civil

namespace Timetable.Date

open Text

theorem year?_yearText (year : Int) (rest : List Char) :
    year? (yearText year ++ '-' :: rest) = some (year, '-' :: rest) := by
  have run : ∀ n, ∀ c ∈ padded 4 n, c.isDigit = true := fun _ _ => isDigit_of_mem_padded
  have read (n : Nat) : digits? (padded 4 n ++ '-' :: rest).length (padded 4 n ++ '-' :: rest) =
      some (padded 4 n, '-' :: rest) := by
    refine digits?_append (run n) (padded_ne_nil 4 n) (by simp) ?_
    rw [List.length_append, Nat.add_sub_cancel_left, List.length_cons, List.take_succ_cons]
    rfl
  unfold yearText
  split
  · rename_i plain
    have four : year.toNat < 10000 := by omega
    have length : (padded 4 year.toNat).length = 4 := length_padded_of_lt (by decide) four
    have unsigned : ∀ sign s, sign.isDigit = false →
        padded 4 year.toNat ++ '-' :: rest ≠ sign :: s := by
      intro sign s other same
      obtain ⟨c, cs, hc⟩ := List.exists_cons_of_ne_nil (padded_ne_nil 4 year.toNat)
      rw [hc, List.cons_append, List.cons.injEq] at same
      have digit := run year.toNat c (by simp [hc])
      rw [same.1, other] at digit
      exact Bool.false_ne_true digit
    rw [year?, trimStart_append (run _) (padded_ne_nil _ _)]
    split
    · rename_i same
      exact absurd same (unsigned '-' _ rfl)
    · rename_i same
      exact absurd same (unsigned '+' _ rfl)
    · rw [digits?_append (run _) (padded_ne_nil _ _) (Nat.le_of_eq length) (by simp [length]),
        Option.map_some]
      simp only [value_padded]
      rw [Int.toNat_of_nonneg plain.1]
  · rename_i signed
    split
    · rename_i negative
      have start : trimStart ('-' :: padded 4 year.natAbs ++ '-' :: rest) =
          '-' :: (padded 4 year.natAbs ++ '-' :: rest) := rfl
      rw [year?, start]
      simp only [read, Option.map_some, value_padded]
      rw [Int.ofNat_natAbs_of_nonpos (by omega), Int.neg_neg]
    · rename_i positive
      have start : trimStart ('+' :: padded 4 year.natAbs ++ '-' :: rest) =
          '+' :: (padded 4 year.natAbs ++ '-' :: rest) := rfl
      rw [year?, start]
      simp only [read, Option.map_some, value_padded]
      rw [Int.natAbs_of_nonneg (by omega)]

@[simp] theorem ofCivil?_civil (d : Date) : ofCivil? d.civil = some d := by
  rw [ofCivil?, civil, if_pos (Civil.valid_ofDayNumber d.day), Civil.dayNumber_ofDayNumber,
    ofDay?_day]

@[simp] theorem ofChars?_chars (d : Date) : ofChars? d.chars = some d := by
  obtain ⟨_, month, _, day⟩ := Civil.valid_ofDayNumber d.day
  have length : Civil.monthLength d.civil.year d.civil.month ≤ 31 := by
    unfold Civil.monthLength
    split <;> (try split) <;> omega
  have dash (s : List Char) : afterDash? ('-' :: s) = some s := rfl
  have last := number?_padded (n := d.civil.day) (Nat.lt_of_le_of_lt (Nat.le_trans day length)
    (by decide)) []
  rw [List.append_nil] at last
  rw [ofChars?, chars, List.append_assoc, List.cons_append, year?_yearText]
  simp only [bind, Option.bind, dash, number?_padded (Nat.lt_of_le_of_lt month (by decide) :
    d.civil.month < 100), last]
  exact ofCivil?_civil d

@[simp] theorem ofText?_text (d : Date) : ofText? d.text = some d := by
  rw [ofText?, text, String.toList_ofList, ofChars?_chars]

end Timetable.Date
