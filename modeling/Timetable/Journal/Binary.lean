/-!
# Binary fields

Numbers as bytes, low byte first; texts and lists with their length in front; a byte that tells
whether an optional value is there. Each reader takes what it needs from the front of the bytes and
fails if that is not there.
-/

set_option autoImplicit false

namespace Timetable.Journal

/-- Reads a value from the front of some bytes. -/
abbrev Reader := StateT (List UInt8) Option

/-- The low `width` bytes of a number. -/
def littleEndian : (width : Nat) → (n : Nat) → List UInt8
  | 0, _ => []
  | width + 1, n => UInt8.ofNat n :: littleEndian width (n / 256)

def ofLittleEndian (bytes : List UInt8) : Nat :=
  bytes.foldr (fun byte n => byte.toNat + 256 * n) 0

/-- The first `n` bytes and the others, if there are as many. -/
def split? (n : Nat) (bytes : List UInt8) : Option (List UInt8 × List UInt8) :=
  if (bytes.take n).length = n then some (bytes.take n, bytes.drop n) else none

def takeBytes (n : Nat) : Reader (List UInt8) := fun bytes => split? n bytes

def takeNat (width : Nat) : Reader Nat := do return ofLittleEndian (← takeBytes width)

/-- A value that must be there. -/
def require {α : Type} (value : Option α) : Reader α := fun bytes => value.map (·, bytes)

def putUInt32 (n : UInt32) : List UInt8 := littleEndian 4 n.toNat

def takeUInt32 : Reader UInt32 := do return UInt32.ofNat (← takeNat 4)

def putUInt64 (n : UInt64) : List UInt8 := littleEndian 8 n.toNat

def takeUInt64 : Reader UInt64 := do return UInt64.ofNat (← takeNat 8)

/-- The bytes of a text in UTF-8. -/
def utf8 (s : String) : List UInt8 := s.toByteArray.data.toList

def ofUtf8? (bytes : List UInt8) : Option String := String.fromUTF8? ⟨bytes.toArray⟩

def putText (s : String) : List UInt8 :=
  let bytes := utf8 s
  littleEndian 8 bytes.length ++ bytes

def takeText : Reader String := do require (ofUtf8? (← takeBytes (← takeNat 8)))

def putOption {α : Type} (put : α → List UInt8) : Option α → List UInt8
  | none => [0]
  | some a => 1 :: put a

def takeOption {α : Type} (take : Reader α) : Reader (Option α) := do
  match ← takeNat 1 with
  | 0 => return none
  | 1 => return some (← take)
  | _ => failure

def putList {α : Type} (put : α → List UInt8) (as : List α) : List UInt8 :=
  littleEndian 8 as.length ++ as.flatMap put

def takeMany {α : Type} (take : Reader α) : Nat → Reader (List α)
  | 0 => return []
  | count + 1 => do return (← take) :: (← takeMany take count)

def takeList {α : Type} (take : Reader α) : Reader (List α) := do takeMany take (← takeNat 8)

@[simp] theorem length_littleEndian (width n : Nat) : (littleEndian width n).length = width := by
  induction width generalizing n with
  | zero => rfl
  | succ width ih => simp [littleEndian, ih]

theorem ofLittleEndian_littleEndian (width n : Nat) :
    ofLittleEndian (littleEndian width n) = n % Nat.pow 256 width := by
  induction width generalizing n with
  | zero => exact (Nat.mod_one n).symm
  | succ width ih =>
    have step : ofLittleEndian (littleEndian (width + 1) n) =
        n % 256 + 256 * ofLittleEndian (littleEndian width (n / 256)) := by
      simp [littleEndian, ofLittleEndian]
    rw [step, ih, Nat.pow_eq, Nat.pow_eq, Nat.pow_succ', Nat.mod_mul]

theorem split?_append {n : Nat} {front : List UInt8} (h : front.length = n) (rest : List UInt8) :
    split? n (front ++ rest) = some (front, rest) := by
  subst h
  simp [split?]

theorem length_of_split? {n : Nat} {bytes front rest : List UInt8}
    (h : split? n bytes = some (front, rest)) : bytes.length = n + rest.length := by
  unfold split? at h
  split at h
  · rename_i enough
    cases h
    rw [List.length_take] at enough
    rw [List.length_drop]
    omega
  · cases h

theorem length_fst_of_split? {n : Nat} {bytes front rest : List UInt8}
    (h : split? n bytes = some (front, rest)) : front.length = n := by
  unfold split? at h
  split at h
  · rename_i enough
    cases h
    exact enough
  · cases h

end Timetable.Journal
