import Timetable.Json.Shortest
import Timetable.Json.Value
import Timetable.Text.Decimal

/-!
# Writing JSON

A value is written without blanks; quotes, backslashes and control characters of a string are
escaped and all else stands as it is.
-/

set_option autoImplicit false

namespace Timetable.Json

def escapedChar (c : Char) : List Char :=
  match c with
  | '"' => ['\\', '"']
  | '\\' => ['\\', '\\']
  | '\x08' => ['\\', 'b']
  | '\x0c' => ['\\', 'f']
  | '\n' => ['\\', 'n']
  | '\r' => ['\\', 'r']
  | '\t' => ['\\', 't']
  | c =>
    if c.toNat < 0x20 then
      let digits := Nat.toDigits 16 c.toNat
      ['\\', 'u'] ++ List.replicate (4 - digits.length) '0' ++ digits
    else [c]

def stringChars (s : String) : List Char := '"' :: s.toList.flatMap escapedChar ++ ['"']

mutual

def chars : Json → List Char
  | .null => "null".toList
  | .bool true => "true".toList
  | .bool false => "false".toList
  | .int n => (toString n).toList
  | .double bits => Shortest.chars bits
  | .str s => stringChars s
  | .arr [] => ['[', ']']
  | .arr (item :: items) => '[' :: chars item ++ itemsChars items
  | .obj [] => ['\x7b', '\x7d']
  | .obj ((name, value) :: members) =>
    '\x7b' :: stringChars name ++ ':' :: chars value ++ membersChars members

/-- The further items of a list and its end. -/
def itemsChars : List Json → List Char
  | [] => [']']
  | item :: items => ',' :: chars item ++ itemsChars items

/-- The further members of an object and its end. -/
def membersChars : List (String × Json) → List Char
  | [] => ['\x7d']
  | (name, value) :: members =>
    ',' :: stringChars name ++ ':' :: chars value ++ membersChars members

end

def text (j : Json) : String := String.ofList j.chars

end Timetable.Json
