import Timetable.Date
import Timetable.Text.Decimal

/-!
# The text of a date

Year, month and day with dashes between them. The years 0 to 9999 have four digits; others have a
sign and at least four. Reading is freer than writing: blanks may stand before each number, before
each dash and at the end, month and day may have one digit, and a year without a sign may have
fewer than four.
-/

set_option autoImplicit false

namespace Timetable.Date

open Text

def yearText (year : Int) : List Char :=
  if 0 ≤ year ∧ year ≤ 9999 then padded 4 year.toNat
  else (if year < 0 then '-' else '+') :: padded 4 year.natAbs

def chars (d : Date) : List Char :=
  let c := d.civil
  yearText c.year ++ '-' :: padded 2 c.month ++ '-' :: padded 2 c.day

/-- The date as messages and records show it. -/
def text (d : Date) : String := String.ofList d.chars

/-- Reads a year: at most four digits, or any number of them after a sign. -/
def year? (s : List Char) : Option (Int × List Char) :=
  match trimStart s with
  | '-' :: rest =>
    (digits? rest.length rest).map fun (digits, rest) => (-(value digits : Int), rest)
  | '+' :: rest => (digits? rest.length rest).map fun (digits, rest) => (value digits, rest)
  | s => (digits? 4 s).map fun (digits, rest) => (value digits, rest)

/-- What follows a dash, which may have blanks in front. -/
def afterDash? (s : List Char) : Option (List Char) :=
  match trimStart s with
  | '-' :: rest => some rest
  | _ => none

def ofChars? (s : List Char) : Option Date := do
  let (year, s) ← year? s
  let s ← afterDash? s
  let (month, s) ← number? 2 s
  let s ← afterDash? s
  let (day, s) ← number? 2 s
  if trimStart s = [] then ofCivil? ⟨year, month, day⟩ else none

def ofText? (s : String) : Option Date := ofChars? s.toList

end Timetable.Date
