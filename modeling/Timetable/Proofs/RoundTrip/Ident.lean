import Timetable.Ident

/-!
# Identifiers and their text

The text of an identifier is read back as that identifier. The digits are followed from the last to
the first, with what they add to a number that is being read.
-/

set_option autoImplicit false

namespace Timetable.Ident

theorem digit?_alphabet : ∀ d < 32, digit? (alphabet.getD d '0') = some d := by decide

/-- The digits of `n` are read as numbers that take any number already read on to its last `count`
digits. -/
theorem mapM_digits (count n : Nat) {rest : List Char} {read : List Nat}
    (h : rest.mapM digit? = some read) :
    ∃ ds, (digits count n rest).mapM digit? = some (ds ++ read) ∧
      ∀ m, ds.foldl (fun n d => n * 32 + d) m = m * Nat.pow 32 count + n % Nat.pow 32 count := by
  induction count generalizing n rest read with
  | zero => exact ⟨[], h, fun m => by simp [Nat.mod_one]⟩
  | succ count ih =>
    have last : (alphabet.getD (n % 32) '0' :: rest).mapM digit? = some (n % 32 :: read) := by
      rw [List.mapM_cons, digit?_alphabet _ (Nat.mod_lt n (by decide)), h]
      rfl
    obtain ⟨ds, hds, value⟩ := ih (n / 32) last
    refine ⟨ds ++ [n % 32], ?_, ?_⟩
    · rw [digits, hds, List.append_assoc, List.singleton_append]
    · intro m
      have wider : Nat.pow 32 (count + 1) = 32 * Nat.pow 32 count := Nat.pow_succ'
      rw [List.foldl_append, value, List.foldl_cons, List.foldl_nil, wider, Nat.mod_mul,
        Nat.mul_left_comm]
      omega

@[simp] theorem ofNat_toNat (i : Ident) : ofNat i.toNat = i := by
  apply toNat_injective
  simp [ofNat, toNat]

@[simp] theorem ofChars?_chars (i : Ident) : ofChars? i.chars = some i := by
  have nothing : ([] : List Char).mapM digit? = some [] := rfl
  obtain ⟨ds, hds, value⟩ := mapM_digits 26 i.toNat nothing
  have small : i.toNat < Nat.pow 32 26 := Nat.lt_trans i.bits.isLt (by decide)
  rw [ofChars?, if_pos (length_chars i), chars, hds, Option.map_some, List.append_nil, value,
    Nat.zero_mul, Nat.zero_add, Nat.mod_eq_of_lt small, ofNat_toNat]

@[simp] theorem ofText?_text (i : Ident) : ofText? i.text = some i := by
  rw [ofText?, text, String.toList_ofList, ofChars?_chars]

theorem text_injective {i j : Ident} (h : i.text = j.text) : i = j := by
  have read := congrArg ofText? h
  rw [ofText?_text, ofText?_text] at read
  exact Option.some.inj read

end Timetable.Ident
