import Mathlib.FieldTheory.Finite.Basic
import Mathlib.GroupTheory.OrderOfElement

/-! # Primitive roots by residues

A number generates modulo a prime when its powers leave every nonzero residue.
This is decided by one power for each prime divisor of `p - 1`.
-/

/-- `g` is a unit modulo `p` and its powers leave every nonzero residue. -/
def Generates (g p : ℕ) : Prop := ¬ p ∣ g ∧ ∀ r, 0 < r → r < p → ∃ k, g ^ k % p = r

namespace PrimitiveRoot

variable {p g : ℕ} [Fact p.Prime]

theorem pow_mod_eq_iff {r : ℕ} (small : r < p) (k : ℕ) :
    g ^ k % p = r ↔ (g : ZMod p) ^ k = (r : ZMod p) := by
  rw [← Nat.cast_pow, ZMod.natCast_eq_natCast_iff', Nat.mod_eq_of_lt small]

theorem pow_mod_eq_one_iff (k : ℕ) : g ^ k % p = 1 ↔ (g : ZMod p) ^ k = 1 := by
  have one_lt : 1 < p := (Fact.out : p.Prime).one_lt
  simpa using pow_mod_eq_iff (g := g) one_lt k

theorem cast_ne_zero (unit : ¬ p ∣ g) : (g : ZMod p) ≠ 0 := by
  rwa [ne_eq, ZMod.natCast_eq_zero_iff]

theorem card_nonzero : (Finset.univ.erase (0 : ZMod p)).card = p - 1 := by
  rw [Finset.card_erase_of_mem (Finset.mem_univ _), Finset.card_univ, ZMod.card]

/-- Powers below the order are distinct, so `p - 1` of them are all the nonzero residues. -/
theorem generates_of_orderOf (unit : ¬ p ∣ g) (order : orderOf (g : ZMod p) = p - 1) :
    Generates g p := by
  let powers := (Finset.range (p - 1)).image fun k => (g : ZMod p) ^ k
  have distinct : powers.card = p - 1 := by
    rw [Finset.card_image_of_injOn, Finset.card_range]
    rw [← order]
    intro i inside j inside' same
    exact pow_injOn_Iio_orderOf (Finset.mem_range.mp inside) (Finset.mem_range.mp inside') same
  have nonzero : powers ⊆ Finset.univ.erase 0 := by
    intro y mem
    obtain ⟨k, _, rfl⟩ := Finset.mem_image.mp mem
    exact Finset.mem_erase.mpr ⟨pow_ne_zero k (cast_ne_zero unit), Finset.mem_univ _⟩
  have all : powers = Finset.univ.erase 0 :=
    Finset.eq_of_subset_of_card_le nonzero (by rw [card_nonzero, distinct])
  refine ⟨unit, fun r positive small => ?_⟩
  have residue : (r : ZMod p) ∈ powers := by
    rw [all]
    exact Finset.mem_erase.mpr
      ⟨cast_ne_zero (Nat.not_dvd_of_pos_of_lt positive small), Finset.mem_univ _⟩
  obtain ⟨k, _, power⟩ := Finset.mem_image.mp residue
  exact ⟨k, (pow_mod_eq_iff small k).mpr power⟩

/-- Every power is one below the order, so the order is no less than the number of residues. -/
theorem orderOf_of_generates (h : Generates g p) : orderOf (g : ZMod p) = p - 1 := by
  have one_lt : 1 < p := (Fact.out : p.Prime).one_lt
  have fermat : (g : ZMod p) ^ (p - 1) = 1 := ZMod.pow_card_sub_one_eq_one (cast_ne_zero h.1)
  have bounded := orderOf_le_of_pow_eq_one (show 0 < p - 1 by omega) fermat
  have positive := orderOf_pos_iff.mpr (isOfFinOrder_iff_pow_eq_one.mpr ⟨p - 1, by omega, fermat⟩)
  let powers := (Finset.range (orderOf (g : ZMod p))).image fun k => (g : ZMod p) ^ k
  have covers : Finset.univ.erase 0 ⊆ powers := by
    intro y mem
    have nonzero : y ≠ 0 := (Finset.mem_erase.mp mem).1
    have value : ((ZMod.val y : ℕ) : ZMod p) = y := ZMod.natCast_zmod_val y
    have residue : 0 < ZMod.val y := Nat.pos_of_ne_zero ((ZMod.val_ne_zero y).mpr nonzero)
    obtain ⟨k, power⟩ := h.2 (ZMod.val y) residue (ZMod.val_lt y)
    rw [pow_mod_eq_iff (ZMod.val_lt y), value] at power
    refine Finset.mem_image.mpr ⟨k % orderOf (g : ZMod p), ?_, ?_⟩
    · exact Finset.mem_range.mpr (Nat.mod_lt _ positive)
    · rw [pow_mod_orderOf, power]
  have count := Finset.card_le_card covers
  have few : powers.card ≤ (Finset.range (orderOf (g : ZMod p))).card := Finset.card_image_le
  rw [card_nonzero] at count
  rw [Finset.card_range] at few
  omega

/-- The test with all prime divisors of `p - 1`. -/
theorem generates_iff (unit : ¬ p ∣ g) : Generates g p ↔
    ∀ q, q.Prime → q ∣ p - 1 → g ^ ((p - 1) / q) % p ≠ 1 := by
  have one_lt : 1 < p := (Fact.out : p.Prime).one_lt
  have nonzero := cast_ne_zero unit
  constructor
  · intro h q prime divides one
    have order := orderOf_of_generates h
    rw [pow_mod_eq_one_iff] at one
    have small := orderOf_le_of_pow_eq_one
      (Nat.div_pos (Nat.le_of_dvd (by omega) divides) prime.pos) one
    have less := Nat.div_lt_self (show 0 < p - 1 by omega) prime.one_lt
    omega
  · intro h
    refine generates_of_orderOf unit (orderOf_eq_of_pow_and_pow_div_prime (by omega)
      (ZMod.pow_card_sub_one_eq_one nonzero) fun q prime divides one => ?_)
    exact h q prime divides ((pow_mod_eq_one_iff _).mpr one)

end PrimitiveRoot
