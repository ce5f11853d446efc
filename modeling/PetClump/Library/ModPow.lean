import Mathlib.Data.Nat.ModEq

/-! # Modular powers and the Diffie-Hellman exchange -/

/-- `base` to the power `exponent`, reduced modulo `modulus`. -/
def modPow (base exponent modulus : ℕ) : ℕ := base ^ exponent % modulus

namespace ModPow

theorem modPow_modPow (g a b p : ℕ) : modPow (modPow g a p) b p = modPow g (a * b) p := by
  simp only [modPow, pow_mul]
  exact (Nat.pow_mod (g ^ a) b p).symm

end ModPow
