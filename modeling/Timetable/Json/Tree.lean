import Timetable.Json.Token

/-!
# JSON trees

The structure of a JSON text, before numerals and strings are given a value. A text can be well
formed and yet hold a numeral that no double can show, a string that is no text, or lists nested
too deeply; such a part does no harm as long as nobody reads it.
-/

set_option autoImplicit false

namespace Timetable.Json

inductive Tree where
  | null
  | bool (b : Bool)
  | numeral (m : Numeral)
  | text (units : List Unit16)
  | arr (items : List Tree)
  | obj (members : List (List Unit16 × Tree))

namespace Tree

/-- An open list or object; what it holds so far is kept back to front. -/
inductive Frame where
  | arr (items : List Tree)
  | obj (members : List (List Unit16 × Tree)) (name : List Unit16)

/-- What the text may go on with. -/
inductive Expected where
  | value
  /-- A value, or the end of an empty list. -/
  | firstItem
  /-- A comma or the end of the list or object. -/
  | more
  | name (members : List (List Unit16 × Tree))
  /-- A name, or the end of an empty object. -/
  | firstName
  | colon (members : List (List Unit16 × Tree)) (name : List Unit16)
  /-- Nothing: the text is complete. -/
  | done (tree : Tree)

/-- A value is complete and goes into the innermost open list or object. -/
def close (frames : List Frame) (tree : Tree) : List Frame × Expected :=
  match frames with
  | [] => ([], .done tree)
  | .arr items :: frames => (.arr (tree :: items) :: frames, .more)
  | .obj members name :: frames => (.obj ((name, tree) :: members) name :: frames, .more)

/-- Takes the first token of a value. -/
def beginValue? (frames : List Frame) : Token → Option (List Frame × Expected)
  | .null => some (close frames .null)
  | .true => some (close frames (.bool .true))
  | .false => some (close frames (.bool .false))
  | .numeral m => some (close frames (.numeral m))
  | .text units => some (close frames (.text units))
  | .openBracket => some (.arr [] :: frames, .firstItem)
  | .openBrace => some (frames, .firstName)
  | _ => none

def step? (frames : List Frame) (expected : Expected) (token : Token) :
    Option (List Frame × Expected) :=
  match expected, token with
  | .value, token => beginValue? frames token
  | .firstItem, .closeBracket =>
    match frames with
    | .arr items :: frames => some (close frames (.arr items.reverse))
    | _ => none
  | .firstItem, token => beginValue? frames token
  | .more, .comma =>
    match frames with
    | .arr _ :: _ => some (frames, .value)
    | .obj members _ :: frames => some (frames, .name members)
    | [] => none
  | .more, .closeBracket =>
    match frames with
    | .arr items :: frames => some (close frames (.arr items.reverse))
    | _ => none
  | .more, .closeBrace =>
    match frames with
    | .obj members _ :: frames => some (close frames (.obj members.reverse))
    | _ => none
  | .firstName, .closeBrace => some (close frames (.obj []))
  | .firstName, .text name => some (frames, .colon [] name)
  | .name members, .text name => some (frames, .colon members name)
  | .colon members name, .colon => some (.obj members name :: frames, .value)
  | _, _ => none

def build? (frames : List Frame) (expected : Expected) : List Token → Option Tree
  | [] => match expected with
    | .done tree => some tree
    | _ => none
  | token :: rest => do
    let (frames, expected) ← step? frames expected token
    build? frames expected rest

def ofText? (s : String) : Option Tree := do build? [] .value (← Token.ofChars? s.toList)

/-- The value of a tree with at most `depth` lists and objects inside one another. -/
def json? : (depth : Nat) → Tree → Option Json
  | _, .null => some .null
  | _, .bool b => some (.bool b)
  | _, .numeral m => m.json?
  | _, .text units => (decodeUnits? units).map fun s => .str (String.ofList s)
  | 0, .arr _ => none
  | 0, .obj _ => none
  | depth + 1, .arr items => (items.mapM (json? depth)).map .arr
  | depth + 1, .obj members =>
    (members.mapM fun (name, value) => do
      return (String.ofList (← decodeUnits? name), ← json? depth value)).map ofMembers

end Tree

/-- How many lists and objects may stand inside one another. -/
def maxDepth : Nat := 127

/-- Reads a text as one JSON value. -/
def ofText (s : String) : Option Json := do (← Tree.ofText? s).json? maxDepth

end Timetable.Json
