import Mathlib.Data.List.TakeWhile
import Mathlib.Tactic.SplitIfs
import Timetable.LineReader
import Timetable.Proofs.RoundTrip.Payload

/-!
# Lines in bytes

What a reader gives for the bytes of lines. In UTF-8 a line feed and a carriage return each stand for
themselves and are part of no other character, so the bytes of a line are told apart like its
characters.
-/

set_option autoImplicit false

namespace Timetable

open Journal (utf8 ofUtf8? ofUtf8?_utf8)

/-! ## Text in bytes -/

theorem utf8_ofList (cs : List Char) : utf8 (String.ofList cs) = cs.flatMap String.utf8EncodeChar := by
  simp [utf8, List.utf8Encode]

theorem utf8_eq (line : String) : utf8 line = line.toList.flatMap String.utf8EncodeChar := by
  rw [← utf8_ofList, String.ofList_toList]

/-- A byte below 128 is a character by itself. -/
theorem eq_of_mem_utf8EncodeChar {c d : Char} {b : UInt8} (ascii : d.toNat < 128)
    (stands_for : b.toNat = d.toNat) (mem : b ∈ String.utf8EncodeChar c) : c = d := by
  suffices same : c.val.toNat = b.toNat from
    Char.ext (UInt32.toNat_inj.1 (same.trans stands_for))
  unfold String.utf8EncodeChar at mem
  dsimp only at mem
  split at mem
  · rw [List.mem_singleton] at mem
    rw [mem, UInt8.toNat_ofNat']
    omega
  -- All bytes of a longer encoding are at least 128.
  · exfalso
    split_ifs at mem
    all_goals
      simp only [List.mem_cons, List.not_mem_nil, or_false] at mem
      rcases mem with rfl | rfl | rfl | rfl
      all_goals
        rw [UInt8.toNat_ofNat'] at stands_for
        omega

theorem not_mem_utf8 {line : String} (one : '\n' ∉ line.toList) : 10 ∉ utf8 line := by
  rw [utf8_eq]
  intro mem
  obtain ⟨c, hc, mem⟩ := List.mem_flatMap.1 mem
  rw [eq_of_mem_utf8EncodeChar (d := '\n') (by decide) rfl mem] at hc
  exact one hc

/-- A line without the carriage return at its end. -/
def chomp (line : String) : String :=
  String.ofList (if line.toList.getLast? = some '\r' then line.toList.dropLast else line.toList)

theorem withoutReturn_flatMap (cs : List Char) :
    LineReader.withoutReturn (cs.flatMap String.utf8EncodeChar) =
      (if cs.getLast? = some '\r' then cs.dropLast else cs).flatMap String.utf8EncodeChar := by
  obtain rfl | ⟨cs, c, rfl⟩ := List.eq_nil_or_concat cs
  · rfl
  · rw [List.concat_eq_append, List.flatMap_append, List.flatMap_singleton, List.getLast?_concat,
      List.dropLast_concat, LineReader.withoutReturn, List.getLast?_append]
    have some_byte := List.getLast?_eq_some_getLast (String.utf8EncodeChar_ne_nil (c := c))
    rw [some_byte, Option.some_or]
    by_cases return_char : c = '\r'
    · subst return_char
      exact List.dropLast_concat
    · have other : ¬ some ((String.utf8EncodeChar c).getLast String.utf8EncodeChar_ne_nil) =
          some 13 := by
        intro last
        have mem := List.getLast_mem (String.utf8EncodeChar_ne_nil (c := c))
        rw [Option.some.inj last] at mem
        exact return_char (eq_of_mem_utf8EncodeChar (d := '\r') (by decide) rfl mem)
      rw [if_neg other, if_neg fun same => return_char (Option.some.inj same), List.flatMap_append,
        List.flatMap_singleton]

theorem withoutReturn_utf8 (line : String) :
    LineReader.withoutReturn (utf8 line) = utf8 (chomp line) := by
  rw [utf8_eq, withoutReturn_flatMap, chomp, utf8_ofList]

/-! ## What a reader gives -/

/-- Lines as they are sent, each with a line feed. -/
def wire (lines : List String) : List UInt8 := lines.flatMap fun line => utf8 line ++ [10]

theorem wire_cons (line : String) (lines : List String) (more : List UInt8) :
    wire (line :: lines) ++ more = utf8 line ++ 10 :: (wire lines ++ more) := by
  simp [wire]

/-- The line has more bytes than a line may have. -/
def TooLong (line : String) : Prop := maxLineLength < (utf8 line).length

instance (line : String) : Decidable (TooLong line) := inferInstanceAs (Decidable (_ < _))

namespace LineReader

variable {bytes : List UInt8} {line : String}

theorem firstLine_of_found (short : bytes.length ≤ maxLineLength) (none_found : 10 ∉ bytes)
    (rest : List UInt8) : firstLine (bytes ++ 10 :: rest) = bytes := by
  have others : ∀ b ∈ bytes, decide (b ≠ 10) = true := by
    rintro b mem
    exact decide_eq_true fun same => none_found (same ▸ mem)
  rw [firstLine, List.take_append, List.take_of_length_le (Nat.le_succ_of_le short),
    Nat.succ_sub short, List.take_succ_cons, List.takeWhile_append_of_pos others,
    List.takeWhile_cons_of_neg (by decide), List.append_nil]

theorem firstLine_of_not_found (none_found : 10 ∉ bytes.take (maxLineLength + 1)) :
    firstLine bytes = bytes.take (maxLineLength + 1) := by
  rw [firstLine, List.takeWhile_eq_self_iff]
  intro b mem
  exact decide_eq_true fun same => none_found (same ▸ mem)

/-- A line that is not too long is given without its carriage return. -/
theorem poll_line (short : ¬ TooLong line) (one : '\n' ∉ line.toList) (closed : Bool)
    (rest : List UInt8) :
    poll ⟨utf8 line ++ 10 :: rest, closed, false, false⟩ =
      (.line (chomp line), ⟨rest, closed, false, false⟩) := by
  have short : (utf8 line).length ≤ maxLineLength := Nat.not_lt.1 short
  have found := firstLine_of_found short (not_mem_utf8 one) rest
  have given : ofUtf8? (withoutReturn (utf8 line)) = some (chomp line) := by
    rw [withoutReturn_utf8, ofUtf8?_utf8]
  simp [poll, skip, cut, found, short, give, given]

/-- A line that is too long is reported as soon as so much of it has come in. -/
theorem poll_tooLong (long : maxLineLength < bytes.length)
    (none_found : 10 ∉ bytes.take (maxLineLength + 1)) (closed : Bool) :
    poll ⟨bytes, closed, false, false⟩ = (.tooLong, ⟨bytes, closed, true, true⟩) := by
  have found := firstLine_of_not_found none_found
  have not_short : ¬ ((bytes.take (maxLineLength + 1)).length ≤ maxLineLength) := by
    rw [List.length_take_of_le long]
    exact Nat.not_succ_le_self _
  simp only [poll, skip, cut, found, Bool.false_eq_true, if_false, not_short, false_and, if_pos long]

/-- A line that may go on is waited for. -/
theorem poll_pending (short : bytes.length ≤ maxLineLength) (none_found : 10 ∉ bytes) :
    poll ⟨bytes, false, false, false⟩ = (.pending, ⟨bytes, false, false, false⟩) := by
  have all := List.take_of_length_le (Nat.le_succ_of_le short)
  have found := firstLine_of_not_found (all.symm ▸ none_found)
  simp [poll, skip, cut, found, all, short]

/-- The last line needs no line feed, but it is none if there is nothing but a carriage return. -/
theorem poll_last (short : ¬ TooLong line) (one : '\n' ∉ line.toList) :
    poll ⟨utf8 line, true, false, false⟩ =
      if utf8 line = [] ∨ utf8 line = [13] then (.ended, ⟨utf8 line, true, false, false⟩)
      else (.line (chomp line), ⟨[], true, false, false⟩) := by
  have short : (utf8 line).length ≤ maxLineLength := Nat.not_lt.1 short
  have all := List.take_of_length_le (Nat.le_succ_of_le short)
  have found := firstLine_of_not_found (all.symm ▸ not_mem_utf8 one)
  have given : ofUtf8? (withoutReturn (utf8 line)) = some (chomp line) := by
    rw [withoutReturn_utf8, ofUtf8?_utf8]
  simp [poll, skip, cut, found, all, short, Nat.not_lt.2 short, give, given]

end LineReader

end Timetable
