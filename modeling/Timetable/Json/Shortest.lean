/-!
# The fewest digits

A finite double is a whole number times a power of ten, and so are the two ends of the range of
numbers that round to it. The numeral with the fewest digits inside that range is sought among the
neighbours of the double on each decimal grid, coarse grids first.
-/

set_option autoImplicit false

namespace Timetable.Json.Shortest

/-- A double without its sign and the ends of the range that rounds to it, all three counted in
units of ten to the power of `scale`. The ends belong to the range if `closed` holds. -/
structure Range where
  low : Nat
  mid : Nat
  high : Nat
  scale : Int
  closed : Bool

/-- How many fractions there are between two neighbouring powers of two. -/
def fractions : Nat := 1 <<< 52

/-- A double is `m` times two to the power of `q`. The gap below a power of two is half the gap
above it. -/
def Range.ofBits (bits : UInt64) : Range :=
  let e := bits.toNat / fractions % 2048
  let f := bits.toNat % fractions
  let m := if e = 0 then f else f + fractions
  let q : Int := (max e 1 : Nat) - 1077
  let unit := if 0 ≤ q then Nat.pow 2 q.toNat else Nat.pow 5 (-q).toNat
  { low := (if f = 0 ∧ 1 < e then 4 * m - 1 else 4 * m - 2) * unit
    mid := 4 * m * unit
    high := (4 * m + 2) * unit
    scale := min q 0
    closed := m % 2 == 0 }

def Range.contains (r : Range) (n : Nat) : Bool :=
  if r.closed then r.low ≤ n && n ≤ r.high else r.low < n && n < r.high

/-- Of the neighbours of the double on the grid of multiples of `unit`, the nearer one that the
range contains, as a multiple of `unit`. An exact tie goes to the even one. -/
def Range.nearest? (r : Range) (unit : Nat) : Option Nat :=
  let below := r.mid / unit
  let rest := r.mid % unit
  match r.contains (below * unit), r.contains ((below + 1) * unit) with
  | true, true =>
    some (if 2 * rest < unit ∨ (2 * rest = unit ∧ below % 2 = 0) then below else below + 1)
  | true, false => some below
  | false, true => some (below + 1)
  | false, false => none

/-- The digits of the shortest numeral and the power of ten that scales them. -/
def Range.digits (r : Range) : Nat × Int :=
  let length := (Nat.toDigits 10 r.mid).length
  let found := (List.range 17).findSome? fun i =>
    let places := length - (i + 1)
    (r.nearest? (Nat.pow 10 places)).map fun n => (n, r.scale + places)
  found.getD (r.mid, r.scale)

/-- Numerals with the point within 16 digits or up to four zeros after it are written out; others
have one digit before the point and an exponent. -/
def layout (digits : List Char) (scale : Int) : List Char :=
  let point := digits.length + scale
  if 0 ≤ scale ∧ point ≤ 16 then digits ++ List.replicate scale.toNat '0' ++ ['.', '0']
  else if 0 < point ∧ point ≤ 16 then
    digits.take point.toNat ++ '.' :: digits.drop point.toNat
  else if -5 < point ∧ point ≤ 0 then
    '0' :: '.' :: List.replicate (-point).toNat '0' ++ digits
  else
    let exponent := (toString (point - 1)).toList
    match digits with
    | [] => []
    | [d] => d :: 'e' :: exponent
    | d :: rest => d :: '.' :: rest ++ 'e' :: exponent

/-- The text of a finite double. -/
def chars (bits : UInt64) : List Char :=
  let sign := if 2 * bits.toNat < UInt64.size then [] else ['-']
  let magnitude := if 2 * bits.toNat % UInt64.size = 0 then ['0', '.', '0'] else
    let (digits, scale) := (Range.ofBits bits).digits
    layout (Nat.toDigits 10 digits) scale
  sign ++ magnitude

end Timetable.Json.Shortest
