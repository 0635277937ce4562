import Timetable.Text.Decimal

/-!
# Times of day

A time of day is a whole minute between midnight and midnight.
-/

set_option autoImplicit false

namespace Timetable

/-- Minutes since midnight. -/
structure TimeOfDay where
  minutes : Fin 1440
  deriving DecidableEq

namespace TimeOfDay

open Text

def hour (t : TimeOfDay) : Nat := t.minutes / 60

def minute (t : TimeOfDay) : Nat := t.minutes % 60

def ofHourMinute? (hour minute : Nat) : Option TimeOfDay :=
  if h : hour < 24 ∧ minute < 60 then some ⟨⟨hour * 60 + minute, by omega⟩⟩ else none

instance : LT TimeOfDay := ⟨fun a b => a.minutes < b.minutes⟩
instance (a b : TimeOfDay) : Decidable (a < b) :=
  inferInstanceAs (Decidable (a.minutes < b.minutes))

/-- Hour, minute and second, two digits each. -/
def text (t : TimeOfDay) : String :=
  String.ofList (padded 2 t.hour ++ ':' :: padded 2 t.minute ++ [':', '0', '0'])

/-- Reads hour and minute with a colon between them, one or two digits each. Blanks may stand
before either number and nowhere else. -/
def ofChars? (s : List Char) : Option TimeOfDay := do
  let (hour, s) ← number? 2 s
  let ':' :: s := s | none
  let (minute, s) ← number? 2 s
  if s = [] then ofHourMinute? hour minute else none

theorem ofHourMinute?_hour_minute (t : TimeOfDay) :
    ofHourMinute? t.hour t.minute = some t := by
  obtain ⟨⟨m, h⟩⟩ := t
  have split : m / 60 < 24 ∧ m % 60 < 60 := by omega
  simp only [ofHourMinute?, hour, minute, split, and_self, ↓reduceDIte, Option.some.injEq,
    TimeOfDay.mk.injEq, Fin.mk.injEq]
  omega

end TimeOfDay

end Timetable
