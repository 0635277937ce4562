import Std.Data.ExtTreeMap

/-!
# Identifiers

Slots, filters, supervisor links and reservations are known by numbers of 128 bits, written with 26
digits to the base 32. The digits leave out four letters that are easily misread. Two bits of the
first digit lie beyond the 128th and are dropped when a text is read.
-/

set_option autoImplicit false

namespace Timetable

structure Ident where
  bits : BitVec 128
  deriving DecidableEq

namespace Ident

def toNat (i : Ident) : Nat := i.bits.toNat

def ofNat (n : Nat) : Ident := ⟨BitVec.ofNat 128 n⟩

instance : Ord Ident := ⟨compareOn toNat⟩

theorem compare_eq (a b : Ident) : compare a b = compare a.toNat b.toNat := rfl

theorem toNat_injective {a b : Ident} (h : a.toNat = b.toNat) : a = b := by
  cases a
  cases b
  exact congrArg Ident.mk (BitVec.eq_of_toNat_eq h)

instance : Std.TransOrd Ident := inferInstanceAs (Std.TransCmp (compareOn toNat))

instance : Std.LawfulEqOrd Ident where
  eq_of_compare h := toNat_injective (Std.LawfulEqOrd.eq_of_compare h)

instance : LT Ident := ⟨fun a b => a.toNat < b.toNat⟩
instance (a b : Ident) : Decidable (a < b) := inferInstanceAs (Decidable (a.toNat < b.toNat))

def alphabet : List Char :=
  ['0', '1', '2', '3', '4', '5', '6', '7', '8', '9', 'A', 'B', 'C', 'D', 'E', 'F', 'G', 'H', 'J',
    'K', 'M', 'N', 'P', 'Q', 'R', 'S', 'T', 'V', 'W', 'X', 'Y', 'Z']

/-- The last `count` digits of `n` in front of `rest`. -/
def digits (count n : Nat) (rest : List Char) : List Char :=
  match count with
  | 0 => rest
  | count + 1 => digits count (n / 32) (alphabet.getD (n % 32) '0' :: rest)

def chars (i : Ident) : List Char := digits 26 i.toNat []

def text (i : Ident) : String := String.ofList i.chars

/-- Small letters count as large ones. -/
def digit? (c : Char) : Option Nat := alphabet.idxOf? c.toUpper

def ofChars? (s : List Char) : Option Ident :=
  if s.length = 26 then
    (s.mapM digit?).map fun digits => ofNat (digits.foldl (fun n d => n * 32 + d) 0)
  else none

def ofText? (s : String) : Option Ident := ofChars? s.toList

theorem length_digits (count n : Nat) (rest : List Char) :
    (digits count n rest).length = count + rest.length := by
  induction count generalizing n rest with
  | zero => simp [digits]
  | succ count ih => simp only [digits, ih, List.length_cons]; omega

@[simp] theorem length_chars (i : Ident) : i.chars.length = 26 := by
  simp [chars, length_digits]

end Ident

end Timetable
