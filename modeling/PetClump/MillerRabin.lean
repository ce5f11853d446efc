import Mathlib.Data.Nat.Size
import Mathlib.FieldTheory.Finite.Basic
import Mathlib.NumberTheory.Padics.PadicVal.Basic
import PetClump.Library.SquareRoots
import PetClump.PrimeUtil

/-! # What the primality test accepts

One round decides whether a base makes the number a strong probable prime. Every base
does that to a prime, unless the prime divides it, and the bases are drawn from a range
that the number itself is in.
-/

namespace PetClump.PrimeUtil

/-- A power of the base is one at the start of the squarings, or minus one at one of them. -/
def StrongProbablePrime (n s d a : ℕ) : Prop :=
  a ^ d ≡ 1 [MOD n] ∨ ∃ r < s, (a : ℤ) ^ (2 ^ r * d) ≡ -1 [ZMOD n]

theorem squarings_iff {n k x : ℕ} (reduced : x < n) :
    squarings n k x = true ↔ ∃ i ≤ k, x ^ 2 ^ i % n = n - 1 := by
  induction k generalizing x with
  | zero => simp [squarings, Nat.mod_eq_of_lt reduced]
  | succ k ih =>
      have square : ∀ i, (x * x % n) ^ 2 ^ i % n = x ^ 2 ^ (i + 1) % n := fun i => by
        rw [← Nat.pow_mod, ← pow_two, ← pow_mul, ← pow_succ']
      have smaller : x * x % n < n := Nat.mod_lt _ (by omega)
      simp only [squarings, Bool.or_eq_true, beq_iff_eq, ih smaller, square]
      constructor
      · rintro (first | ⟨i, bound, later⟩)
        · exact ⟨0, by omega, by simpa [Nat.mod_eq_of_lt reduced] using first⟩
        · exact ⟨i + 1, by omega, later⟩
      · rintro ⟨i, bound, found⟩
        cases i with
        | zero => exact .inl (by simpa [Nat.mod_eq_of_lt reduced] using found)
        | succ i => exact .inr ⟨i, by omega, found⟩

/-- `n - 1` is the residue of minus one. -/
theorem mod_eq_pred_iff {n x : ℕ} (large : 2 ≤ n) : x % n = n - 1 ↔ (x : ℤ) ≡ -1 [ZMOD n] := by
  have reduced : (n - 1) % n = n - 1 := Nat.mod_eq_of_lt (by omega)
  have negative : ((n - 1 : ℕ) : ℤ) ≡ -1 [ZMOD n] := by
    rw [Int.modEq_iff_dvd]
    exact ⟨-1, by omega⟩
  have residues : x % n = n - 1 ↔ x ≡ n - 1 [MOD n] := by rw [Nat.ModEq, reduced]
  rw [residues, ← Int.natCast_modEq_iff]
  exact ⟨fun same => same.trans negative, fun same => same.trans negative.symm⟩

/-- `getLowestSetBit` and the shift take a number apart into a power of two and an odd number. -/
theorem lowest_set_bit {s d : ℕ} (odd : Odd d) :
    padicValNat 2 (2 ^ s * d) = s ∧ (2 ^ s * d) >>> s = d := by
  have two : ¬ 2 ∣ d := odd.not_two_dvd_nat
  have : Fact (Nat.Prime 2) := ⟨Nat.prime_two⟩
  constructor
  · rw [padicValNat.mul (by positivity) odd.pos.ne', padicValNat.prime_pow,
      padicValNat.eq_zero_of_not_dvd two, Nat.add_zero]
  · rw [Nat.shiftRight_eq_div_pow, Nat.mul_div_cancel_left _ (by positivity)]

theorem millerRabinPass_eq {n s d : ℕ} (large : 2 ≤ n) (split : n - 1 = 2 ^ s * d) (oddD : Odd d) (a : ℕ) :
    millerRabinPass a n = true ↔
      a ^ d ≡ 1 [MOD n] ∨ ∃ r ≤ s - 1, (a : ℤ) ^ (2 ^ r * d) ≡ -1 [ZMOD n] := by
  obtain ⟨bit, shifted⟩ := lowest_set_bit (s := s) oddD
  have nonzero : 2 ^ s * d ≠ 0 := by omega
  have turns : ((s : ℤ) - 1).toNat = s - 1 := by omega
  have reduced : a ^ d % n < n := Nat.mod_lt _ (by omega)
  have one : 1 % n = 1 := Nat.mod_eq_of_lt (by omega)
  have powers : ∀ r, (a ^ d % n) ^ 2 ^ r % n = n - 1 ↔ (a : ℤ) ^ (2 ^ r * d) ≡ -1 [ZMOD n] := by
    intro r
    rw [← Nat.pow_mod, ← pow_mul, Nat.mul_comm, mod_eq_pred_iff large, Nat.cast_pow]
  unfold millerRabinPass
  dsimp only
  rw [split, if_neg nonzero, bit, Int.toNat_natCast, shifted, turns]
  simp only [modPow, Bool.or_eq_true, beq_iff_eq, squarings_iff reduced, powers, Nat.ModEq, one]

/-- The test before each of the squarings and the one after them meet every exponent once. -/
theorem millerRabinPass_iff (n : ℕ) (odd : Odd n) (large : 3 ≤ n) (s d : ℕ) (split : n - 1 = 2 ^ s * d)
    (oddD : Odd d) (a : ℕ) : millerRabinPass a n = true ↔ StrongProbablePrime n s d a := by
  have even : s ≠ 0 := by
    rintro rfl
    obtain ⟨k, rfl⟩ := odd
    obtain ⟨j, rfl⟩ := oddD
    omega
  rw [millerRabinPass_eq (by omega) split oddD, StrongProbablePrime]
  exact or_congr_right (exists_congr fun r => and_congr_left' (by omega))

/-- 341 is a pseudoprime to the base two, but not a strong one. -/
theorem millerRabinPass_iff_341 : millerRabinPass 2 341 = true ↔ StrongProbablePrime 341 2 85 2 :=
  millerRabinPass_iff 341 (by decide) (by decide) 2 85 rfl (by decide) 2

/-- A prime passes every round but the one whose base it divides. -/
theorem millerRabinPass_prime {n : ℕ} (prime : n.Prime) (a : ℕ) : millerRabinPass a n = true ↔ ¬ n ∣ a := by
  have : Fact n.Prime := ⟨prime⟩
  have large := prime.two_le
  obtain ⟨s, d, odd, split⟩ := Nat.exists_eq_two_pow_mul_odd (show n - 1 ≠ 0 by omega)
  rw [millerRabinPass_eq large split odd, ← ZMod.natCast_eq_natCast_iff, ← ZMod.natCast_eq_zero_iff]
  simp only [← ZMod.intCast_eq_intCast_iff]
  push_cast
  constructor
  · rintro passes zero
    rw [zero, zero_pow odd.pos.ne'] at passes
    cases passes with
    | inl one => exact zero_ne_one one
    | inr minus =>
        obtain ⟨r, -, minus⟩ := minus
        have exponent : 2 ^ r * d ≠ 0 := mul_ne_zero (by positivity) odd.pos.ne'
        rw [zero_pow exponent] at minus
        exact neg_ne_zero.mpr one_ne_zero minus.symm
  · intro unit
    have ends : ((a : ZMod n) ^ d) ^ 2 ^ s = 1 := by
      rw [← pow_mul, Nat.mul_comm, ← split, ZMod.pow_card_sub_one_eq_one unit]
    apply (SquareRoots.one_or_through_neg_one ends).imp_right
    rintro ⟨r, below, minus⟩
    exact ⟨r, by omega, by rw [Nat.mul_comm, pow_mul, minus]⟩

/-- In the range of the draws a number has no multiple but itself. -/
theorem dvd_of_drawn {n a : ℕ} (positive : 0 < a) (range : a < 2 ^ n.size) : n ∣ a ↔ a = n := by
  constructor
  · rintro ⟨k, rfl⟩
    have bit : 2 ^ (n.size - 1) ≤ n := by
      apply Nat.lt_size.mp
      have : 0 < n.size := Nat.size_pos.mpr (Nat.pos_of_mul_pos_right positive)
      omega
    have double : 2 ^ n.size ≤ 2 * 2 ^ (n.size - 1) := by
      rw [← pow_succ']
      exact Nat.pow_le_pow_right (by omega) (by omega)
    have single : k < 2 := by
      have factors : n * k < n * 2 := by omega
      exact Nat.lt_of_mul_lt_mul_left factors
    have : k ≠ 0 := by
      rintro rfl
      simp at positive
    rw [show k = 1 by omega, Nat.mul_one]
  · rintro rfl
    exact dvd_rfl

/-- The draws have as many bits as the number, so it can be drawn itself and fail its own test. -/
theorem millerRabin_prime (n : ℕ) (prime : n.Prime) (bases : List ℕ)
    (drawn : ∀ a ∈ bases, 0 < a ∧ a < 2 ^ n.size) : millerRabin bases n = true ↔ n ∉ bases := by
  rw [millerRabin, List.all_eq_true]
  constructor
  · intro passes mem
    exact (millerRabinPass_prime prime n).mp (passes n mem) dvd_rfl
  · intro absent a mem
    obtain ⟨positive, range⟩ := drawn a mem
    rw [millerRabinPass_prime prime, dvd_of_drawn positive range]
    rintro rfl
    exact absent mem

theorem millerRabin_prime_five : millerRabin [4, 7, 1] 5 = true ↔ 5 ∉ [4, 7, 1] :=
  millerRabin_prime 5 Nat.prime_five [4, 7, 1] (by decide)

/-- Five is rejected when it is the first of the twenty draws. -/
theorem millerRabin_rejects_five : ¬ ∀ n, n.Prime → ∀ bases : List ℕ, bases.length = 20 →
    (∀ a ∈ bases, 0 < a ∧ a < 2 ^ n.size) → millerRabin bases n = true := by
  intro claim
  have passes := claim 5 Nat.prime_five (5 :: List.replicate 19 1) rfl (by decide)
  rw [millerRabin, List.all_eq_true] at passes
  have five := passes 5 (by decide)
  rw [millerRabinPass_prime Nat.prime_five] at five
  exact five dvd_rfl

end PetClump.PrimeUtil
