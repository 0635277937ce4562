import Timetable.Text.Glyphless

/-!
# Quoted text

A text between double quotes, as messages show what they were given: the quote and the backslash
are escaped, line breaks and the like have letters, and characters that would not be seen are
written by number.
-/

set_option autoImplicit false

namespace Timetable.Text

/-- The hexadecimal numeral of `n` in small letters. -/
def hex (n : Nat) : List Char := Nat.toDigits 16 n

/-- How a character is written between the quotes. -/
def quotedChar (c : Char) : List Char :=
  match c with
  | '"' => ['\\', '"']
  | '\\' => ['\\', '\\']
  | '\n' => ['\\', 'n']
  | '\r' => ['\\', 'r']
  | '\t' => ['\\', 't']
  | '\x00' => ['\\', '0']
  | c => if isGlyphless c then ['\\', 'u', '\x7b'] ++ hex c.toNat ++ ['\x7d'] else [c]

def quoted (s : List Char) : List Char := '"' :: s.flatMap quotedChar ++ ['"']

theorem quotedChar_ne_nil (c : Char) : quotedChar c ≠ [] := by
  fun_cases quotedChar c <;> simp_all

end Timetable.Text
