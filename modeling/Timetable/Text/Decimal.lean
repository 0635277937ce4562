import Timetable.Text.Blank

/-!
# Decimal numerals

Writing a number with a least count of digits, and reading the run of ASCII digits at the
front of a text, at most a given count of them.
-/

set_option autoImplicit false

namespace Timetable.Text

/-- The digits of `n`, filled with zeros on the left up to `width`. -/
def padded (width n : Nat) : List Char :=
  let digits := Nat.toDigits 10 n
  List.replicate (width - digits.length) '0' ++ digits

/-- The number that a run of digits stands for. -/
def value (digits : List Char) : Nat := Nat.ofDigitChars 10 digits 0

/-- The run of digits in front, at least one and at most `most` of them, and what follows it. -/
def digits? (most : Nat) (s : List Char) : Option (List Char × List Char) :=
  match (s.take most).takeWhile Char.isDigit with
  | [] => none
  | digits => some (digits, s.drop digits.length)

/-- Reads the number in front, of at most `most` digits. Blanks before it do not count. -/
def number? (most : Nat) (s : List Char) : Option (Nat × List Char) :=
  (digits? most (trimStart s)).map fun (digits, rest) => (value digits, rest)

/-- Reads a whole text as an unsigned number below `bound`. A plus sign in front is allowed,
nothing else besides digits. -/
def unsigned? (bound : Nat) (s : List Char) : Option Nat :=
  let digits := match s with
    | '+' :: rest => rest
    | _ => s
  if digits ≠ [] ∧ digits.all Char.isDigit ∧ value digits < bound then some (value digits)
  else none

theorem length_padded (width n : Nat) :
    (padded width n).length = max width (Nat.toDigits 10 n).length := by
  simp only [padded, List.length_append, List.length_replicate]
  omega

end Timetable.Text
