import Timetable.Json.Value
import Timetable.Text.Decimal

/-!
# JSON numerals

The grammar of a numeral and the number it stands for. A numeral without fraction and exponent is an
integer if 64 bits hold it. Any other is a double: as many leading digits as fit into 64 bits are
kept, and what they stand for is scaled by a power of ten, each step rounded to nearest.
-/

set_option autoImplicit false

namespace Timetable.Json

open Text

/-- The parts of a numeral. -/
structure Numeral where
  negative : Bool
  whole : List Char
  fraction : Option (List Char)
  /-- Whether the exponent has a minus sign, and its digits. -/
  exponent : Option (Bool × List Char)
  deriving DecidableEq

namespace Numeral

/-- Digits from the front of a text, at least one. -/
def someDigits? (s : List Char) : Option (List Char × List Char) := digits? s.length s

def whole? (s : List Char) : Option (List Char × List Char) :=
  match s with
  | '0' :: rest => some (['0'], rest)
  | _ => someDigits? s

def fraction? (s : List Char) : Option (Option (List Char) × List Char) :=
  match s with
  | '.' :: rest => (someDigits? rest).map fun (digits, rest) => (some digits, rest)
  | _ => some (none, s)

def exponent? (s : List Char) : Option (Option (Bool × List Char) × List Char) :=
  match s with
  | [] => some (none, [])
  | e :: rest =>
    if e = 'e' ∨ e = 'E' then
      let (negative, rest) := match rest with
        | '-' :: rest => (true, rest)
        | '+' :: rest => (false, rest)
        | _ => (false, rest)
      (someDigits? rest).map fun (digits, rest) => (some (negative, digits), rest)
    else none

def ofChars? (s : List Char) : Option Numeral := do
  let (negative, s) := match s with
    | '-' :: rest => (true, rest)
    | _ => (false, s)
  let (whole, s) ← whole? s
  let (fraction, s) ← fraction? s
  let (exponent, s) ← exponent? s
  if s = [] then some ⟨negative, whole, fraction, exponent⟩ else none

/-- Appends digits to a number as long as it stays below 2^64; the second part is the count of
digits left over. -/
def absorb (n : Nat) : List Char → Nat × Nat
  | [] => (n, 0)
  | d :: rest =>
    let next := n * 10 + (d.toNat - '0'.toNat)
    if next < UInt64.size then absorb next rest else (n, rest.length + 1)

def powerOfTen (e : Nat) : Float := Float.ofScientific 1 false e

/-- `n` times ten to the power of `e`, if that is not too large for a double. -/
def scaled? (n : Nat) (e : Int) : Option Float :=
  let x := n.toUInt64.toFloat
  let size := e.natAbs
  if 0 ≤ e then
    if size ≤ 308 then
      let y := x * powerOfTen size
      if y.isInf then none else some y
    else if n = 0 then some x else none
  else if size ≤ 308 then some (x / powerOfTen size)
  else if size ≤ 616 then some (x / powerOfTen 308 / powerOfTen (size - 308))
  else some 0

/-- The double for a numeral with a fraction, an exponent or too many digits. -/
def double? (m : Numeral) : Option Float := do
  let (n, dropped) := absorb 0 m.whole
  let digits := m.fraction.getD []
  let (n, ignored) := absorb n digits
  let scale : Int := dropped - (digits.length - ignored : Nat)
  let x ← match m.exponent with
    | none => scaled? n scale
    | some (true, digits) => scaled? n (scale - value digits)
    | some (false, digits) => scaled? n (scale + value digits)
  return if m.negative then -x else x

def json? (m : Numeral) : Option Json :=
  let n := value m.whole
  if m.fraction.isSome ∨ m.exponent.isSome then m.double?.map fun x => .double x.toBits
  else if m.negative then
    if 0 < n ∧ 2 * n ≤ UInt64.size then some (.int (-(n : Int)))
    else m.double?.map fun x => .double x.toBits
  else if n < UInt64.size then some (.int n)
  else m.double?.map fun x => .double x.toBits

end Numeral

end Timetable.Json
