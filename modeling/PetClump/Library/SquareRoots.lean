import Mathlib.Algebra.Ring.Commute
import Mathlib.Algebra.Ring.Nat

/-! # Square roots of one

Without zero divisors, one has no square roots but itself and its negative. So the
squarings that lead to one start at one or pass through minus one.
-/

namespace SquareRoots

variable {R : Type*} [Ring R] [NoZeroDivisors R]

theorem one_or_through_neg_one {s : ℕ} {x : R} (ends : x ^ 2 ^ s = 1) :
    x = 1 ∨ ∃ r < s, x ^ 2 ^ r = -1 := by
  induction s with
  | zero => exact .inl (by simpa using ends)
  | succ s ih =>
      rw [pow_succ, pow_mul, sq_eq_one_iff] at ends
      cases ends with
      | inl one => exact (ih one).imp_right fun ⟨r, below, negative⟩ => ⟨r, by omega, negative⟩
      | inr negative => exact .inr ⟨s, by omega, negative⟩

end SquareRoots
