import Timetable.Json.Number

/-!
# JSON tokens

A text is cut into tokens by a machine that looks at each character once. A string is kept as it was
escaped: halves of surrogate pairs are put together only when its value is asked for, so that one
without a partner matters only where the string is read.
-/

set_option autoImplicit false

namespace Timetable.Json

/-- One character of a string, or a code unit of 16 bits given by number. -/
inductive Unit16 where
  | char (c : Char)
  | code (n : Nat)

/-- The text of a string; none if a half of a surrogate pair stands alone. -/
def decodeUnits? : List Unit16 → Option (List Char)
  | [] => some []
  | .char c :: rest => (decodeUnits? rest).map (c :: ·)
  | .code n :: rest =>
    if 0xDC00 ≤ n ∧ n ≤ 0xDFFF then none
    else if 0xD800 ≤ n ∧ n ≤ 0xDBFF then
      match rest with
      | .code low :: rest =>
        if 0xDC00 ≤ low ∧ low ≤ 0xDFFF then
          (decodeUnits? rest).map
            (Char.ofNat (0x10000 + (n - 0xD800) * 0x400 + (low - 0xDC00)) :: ·)
        else none
      | _ => none
    else (decodeUnits? rest).map (Char.ofNat n :: ·)

inductive Token where
  | openBrace
  | closeBrace
  | openBracket
  | closeBracket
  | colon
  | comma
  | null
  | true
  | false
  | numeral (m : Numeral)
  | text (units : List Unit16)

namespace Token

/-- Where the machine stands; what it has read of a token is held back to front. -/
inductive Scan where
  | between
  | word (seen : List Char)
  | number (seen : List Char)
  | text (seen : List Unit16)
  | escape (seen : List Unit16)
  /-- Still `left + 1` hexadecimal digits to come. -/
  | code (seen : List Unit16) (left n : Nat)

def ofWord? (word : List Char) : Option Token :=
  match String.ofList word with
  | "null" => some .null
  | "true" => some .true
  | "false" => some .false
  | _ => none

def ofPunctuation? : Char → Option Token
  | '\x7b' => some .openBrace
  | '\x7d' => some .closeBrace
  | '[' => some .openBracket
  | ']' => some .closeBracket
  | ':' => some .colon
  | ',' => some .comma
  | _ => none

def isSpace (c : Char) : Bool := c == ' ' || c == '\n' || c == '\t' || c == '\r'

def isNumeralChar (c : Char) : Bool :=
  c.isDigit || c == '-' || c == '+' || c == '.' || c == 'e' || c == 'E'

def hexDigit? (c : Char) : Option Nat :=
  if c.isDigit then some (c.toNat - '0'.toNat)
  else if 'a' ≤ c ∧ c ≤ 'f' then some (c.toNat - 'a'.toNat + 10)
  else if 'A' ≤ c ∧ c ≤ 'F' then some (c.toNat - 'A'.toNat + 10)
  else none

/-- The character for the letter after a backslash. -/
def escaped? : Char → Option Char
  | '"' => some '"'
  | '\\' => some '\\'
  | '/' => some '/'
  | 'b' => some '\x08'
  | 'f' => some '\x0c'
  | 'n' => some '\n'
  | 'r' => some '\r'
  | 't' => some '\t'
  | _ => none

/-- One character outside a token: a token of its own, or the start of one. -/
def start? (done : List Token) (c : Char) : Option (List Token × Scan) :=
  if isSpace c then some (done, .between)
  else if c = '"' then some (done, .text [])
  else if c.isDigit || c == '-' then some (done, .number [c])
  else if c.isLower then some (done, .word [c])
  else (ofPunctuation? c).map fun t => (t :: done, .between)

/-- One step of the machine; `done` holds the finished tokens back to front. -/
def step? (done : List Token) (scan : Scan) (c : Char) : Option (List Token × Scan) :=
  match scan with
  | .between => start? done c
  | .word seen =>
    if c.isLower then some (done, .word (c :: seen))
    else do start? ((← ofWord? seen.reverse) :: done) c
  | .number seen =>
    if isNumeralChar c then some (done, .number (c :: seen))
    else do start? (.numeral (← Numeral.ofChars? seen.reverse) :: done) c
  | .text seen =>
    if c = '"' then some (.text seen.reverse :: done, .between)
    else if c = '\\' then some (done, .escape seen)
    else if c.toNat < 0x20 then none
    else some (done, .text (.char c :: seen))
  | .escape seen =>
    if c = 'u' then some (done, .code seen 3 0)
    else (escaped? c).map fun c => (done, .text (.char c :: seen))
  | .code seen left n => do
    let n := n * 16 + (← hexDigit? c)
    match left with
    | 0 => some (done, .text (.code n :: seen))
    | left + 1 => some (done, .code seen left n)

def scan? (done : List Token) (scan : Scan) : List Char → Option (List Token)
  | [] => match scan with
    | .between => some done.reverse
    | .word seen => do some (((← ofWord? seen.reverse) :: done).reverse)
    | .number seen => do some ((.numeral (← Numeral.ofChars? seen.reverse) :: done).reverse)
    | _ => none
  | c :: rest => do
    let (done, scan) ← step? done scan c
    scan? done scan rest

def ofChars? (s : List Char) : Option (List Token) := scan? [] .between s

end Token

end Timetable.Json
