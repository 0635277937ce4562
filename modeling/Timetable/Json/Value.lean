/-!
# JSON values

The members of an object are sorted by name and have different names, so that two objects with the
same members are equal. A number is an integer, or a double given by its bits where it has no
integer form.
-/

set_option autoImplicit false

namespace Timetable

inductive Json where
  | null
  | bool (b : Bool)
  /-- An integer from −2^63 to 2^64 − 1. -/
  | int (n : Int)
  /-- A finite double. -/
  | double (bits : UInt64)
  | str (s : String)
  | arr (items : List Json)
  | obj (members : List (String × Json))
  deriving Inhabited

namespace Json

/-- Puts a member among members sorted by name; one of the same name gives way. -/
def setMember (name : String) (value : Json) : List (String × Json) → List (String × Json)
  | [] => [(name, value)]
  | (other, held) :: rest =>
    if name < other then (name, value) :: (other, held) :: rest
    else if name = other then (name, value) :: rest
    else (other, held) :: setMember name value rest

/-- The members in order of name; of those with one name the last counts. -/
def sortMembers (members : List (String × Json)) : List (String × Json) :=
  members.foldl (fun sorted (name, value) => setMember name value sorted) []

/-- An object with the given members, in any order. -/
def ofMembers (members : List (String × Json)) : Json := obj (sortMembers members)

/-- A text, or null. -/
def ofText? : Option String → Json
  | some s => str s
  | none => null

def nat (n : Nat) : Json := int n

/-- A whole number below `bound`. -/
def nat? (bound : Nat) : Json → Option Nat
  | int n => if 0 ≤ n ∧ n < bound then some n.toNat else none
  | _ => none

def uint32? (j : Json) : Option UInt32 := (j.nat? UInt32.size).map UInt32.ofNat

def uint64? (j : Json) : Option UInt64 := (j.nat? UInt64.size).map UInt64.ofNat

def bool? : Json → Option Bool
  | bool b => some b
  | _ => none

def str? : Json → Option String
  | str s => some s
  | _ => none

def arr? : Json → Option (List Json)
  | arr items => some items
  | _ => none

/-- Reads null as no value and all else with `read`. -/
def optional? {α : Type} (read : Json → Option α) : Json → Option (Option α)
  | null => some none
  | j => (read j).map some

theorem lookup_setMember (name : String) (value : Json) (members : List (String × Json)) :
    (setMember name value members).lookup name = some value := by
  induction members with
  | nil => simp [setMember]
  | cons member rest ih =>
    obtain ⟨other, held⟩ := member
    rw [setMember]
    split
    · simp
    · split
      · simp
      · rename_i h
        have differ : (name == other) = false := by simpa using h
        simp [List.lookup_cons, differ, ih]

end Json

end Timetable
