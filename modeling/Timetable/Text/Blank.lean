/-!
# Blanks

The characters that surround a value without belonging to it, and trimming. A blank is a
character with Unicode's property White_Space, which is more than the six ASCII ones.
-/

set_option autoImplicit false

namespace Timetable.Text

/-- The property White_Space. -/
def isBlank (c : Char) : Bool :=
  let n := c.toNat
  (9 ≤ n && n ≤ 13) || n == 0x20 || n == 0x85 || n == 0xA0 || n == 0x1680 ||
    (0x2000 ≤ n && n ≤ 0x200A) || n == 0x2028 || n == 0x2029 || n == 0x202F ||
    n == 0x205F || n == 0x3000

/-- Drops the blanks in front. -/
def trimStart (s : List Char) : List Char := s.dropWhile isBlank

/-- Drops the blanks in front and behind. -/
def trim (s : List Char) : List Char := (trimStart (trimStart s).reverse).reverse

/-- Every character that the core library calls white space is blank. -/
theorem isBlank_of_isWhitespace {c : Char} (h : c.isWhitespace = true) : isBlank c = true := by
  simp only [Char.isWhitespace, Bool.or_eq_true, decide_eq_true_eq] at h
  rcases h with ((rfl | rfl) | rfl) | rfl <;> rfl

theorem trimStart_idem (s : List Char) : trimStart (trimStart s) = trimStart s := by
  induction s with
  | nil => rfl
  | cons c s ih =>
    by_cases h : isBlank c
    · simpa [trimStart, h] using ih
    · simp [trimStart, h]

end Timetable.Text
