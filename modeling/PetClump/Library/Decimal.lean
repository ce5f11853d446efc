import Mathlib.Data.Nat.Notation

/-! # Decimal numerals as text

A number is written with core's `Nat.repr`. The reader accepts nonempty runs of
ASCII digits only, so it is an exact inverse on what the writer produces.
-/

namespace Decimal

/-- The number a numeral stands for; `none` when the text is not a numeral. -/
def parse (text : String) : Option ℕ :=
  if text.toList ≠ [] ∧ text.toList.all Char.isDigit then
    some (Nat.ofDigitChars 10 text.toList 0)
  else none

@[simp] theorem parse_repr (n : ℕ) : parse (Nat.repr n) = some n := by
  have digits : (Nat.repr n).toList = Nat.toDigits 10 n := Nat.toList_repr
  have nonempty : Nat.toDigits 10 n ≠ [] := Nat.toDigits_ne_nil
  have ascii : (Nat.toDigits 10 n).all Char.isDigit = true := by
    simp only [List.all_eq_true]
    intro c member
    exact Nat.isDigit_of_mem_toDigits (by omega) (by omega) member
  simp only [parse, digits, nonempty, ne_eq, not_false_eq_true, ascii, and_self, if_true,
    Nat.ofDigitChars_ten_toDigits]

/-- What is left of a numeral that was cut short is a numeral, and not zero unless the whole was. -/
theorem take_repr (n : ℕ) {k : ℕ} (some_left : 0 < k) :
    ∃ m, String.ofList ((Nat.repr n).toList.take k) = Nat.repr m ∧ (n ≠ 0 → m ≠ 0) := by
  induction n using Nat.strongRecOn with
  | ind n ih =>
      by_cases whole : (Nat.repr n).toList.length ≤ k
      · refine ⟨n, ?_, id⟩
        rw [List.take_of_length_le whole, String.ofList_toList]
      · have large : 10 ≤ n := by
          cases Nat.lt_or_ge n 10 with
          | inr large => exact large
          | inl small =>
              rw [Nat.toList_repr, Nat.toDigits_of_lt_base small] at whole
              simp at whole
              omega
        have split : Nat.toDigits 10 n = Nat.toDigits 10 (n / 10) ++ [(n % 10).digitChar] :=
          Nat.toDigits_of_base_le (by omega) large
        obtain ⟨m, cut, nonzero⟩ := ih (n / 10) (by omega)
        refine ⟨m, ?_, fun _ => nonzero (by omega)⟩
        rw [Nat.toList_repr, split] at whole ⊢
        rw [Nat.toList_repr] at cut
        rw [List.take_append_of_le_length (by simp at whole; omega), cut]

end Decimal
