import Mathlib.Data.FinEnum
import Mathlib.Data.Fin.VecNotation
import Mathlib.Tactic.FinCases
import Mathlib.Tactic.IntervalCases

/-! # Rijndael

The block cipher of the Advanced Encryption Standard, as the standard describes
it: bytes are multiplied as polynomials, and a state of four columns goes through
rounds of substitutions, shifts, products with a matrix and sums with round keys.
-/

namespace PetClump.Rijndael

/-- Multiplication by the indeterminate, of a polynomial with bits for coefficients. -/
def double (b : ℕ) : ℕ := (2 * b) ^^^ (0x11b * (b / 128))

def product : ℕ → ℕ → ℕ → ℕ
  | 0, _, _ => 0
  | bits + 1, a, b => (a % 2 * b) ^^^ product bits (a / 2) (double b)

def mul (a b : UInt8) : UInt8 := UInt8.ofNat (product 8 a.toNat b.toNat)

/-- The substitution, by the rows of the standard's table. -/
def sboxes : List UInt8 :=
  [0x63, 0x7c, 0x77, 0x7b, 0xf2, 0x6b, 0x6f, 0xc5, 0x30, 0x01, 0x67, 0x2b, 0xfe, 0xd7, 0xab, 0x76,
    0xca, 0x82, 0xc9, 0x7d, 0xfa, 0x59, 0x47, 0xf0, 0xad, 0xd4, 0xa2, 0xaf, 0x9c, 0xa4, 0x72, 0xc0,
    0xb7, 0xfd, 0x93, 0x26, 0x36, 0x3f, 0xf7, 0xcc, 0x34, 0xa5, 0xe5, 0xf1, 0x71, 0xd8, 0x31, 0x15,
    0x04, 0xc7, 0x23, 0xc3, 0x18, 0x96, 0x05, 0x9a, 0x07, 0x12, 0x80, 0xe2, 0xeb, 0x27, 0xb2, 0x75,
    0x09, 0x83, 0x2c, 0x1a, 0x1b, 0x6e, 0x5a, 0xa0, 0x52, 0x3b, 0xd6, 0xb3, 0x29, 0xe3, 0x2f, 0x84,
    0x53, 0xd1, 0x00, 0xed, 0x20, 0xfc, 0xb1, 0x5b, 0x6a, 0xcb, 0xbe, 0x39, 0x4a, 0x4c, 0x58, 0xcf,
    0xd0, 0xef, 0xaa, 0xfb, 0x43, 0x4d, 0x33, 0x85, 0x45, 0xf9, 0x02, 0x7f, 0x50, 0x3c, 0x9f, 0xa8,
    0x51, 0xa3, 0x40, 0x8f, 0x92, 0x9d, 0x38, 0xf5, 0xbc, 0xb6, 0xda, 0x21, 0x10, 0xff, 0xf3, 0xd2,
    0xcd, 0x0c, 0x13, 0xec, 0x5f, 0x97, 0x44, 0x17, 0xc4, 0xa7, 0x7e, 0x3d, 0x64, 0x5d, 0x19, 0x73,
    0x60, 0x81, 0x4f, 0xdc, 0x22, 0x2a, 0x90, 0x88, 0x46, 0xee, 0xb8, 0x14, 0xde, 0x5e, 0x0b, 0xdb,
    0xe0, 0x32, 0x3a, 0x0a, 0x49, 0x06, 0x24, 0x5c, 0xc2, 0xd3, 0xac, 0x62, 0x91, 0x95, 0xe4, 0x79,
    0xe7, 0xc8, 0x37, 0x6d, 0x8d, 0xd5, 0x4e, 0xa9, 0x6c, 0x56, 0xf4, 0xea, 0x65, 0x7a, 0xae, 0x08,
    0xba, 0x78, 0x25, 0x2e, 0x1c, 0xa6, 0xb4, 0xc6, 0xe8, 0xdd, 0x74, 0x1f, 0x4b, 0xbd, 0x8b, 0x8a,
    0x70, 0x3e, 0xb5, 0x66, 0x48, 0x03, 0xf6, 0x0e, 0x61, 0x35, 0x57, 0xb9, 0x86, 0xc1, 0x1d, 0x9e,
    0xe1, 0xf8, 0x98, 0x11, 0x69, 0xd9, 0x8e, 0x94, 0x9b, 0x1e, 0x87, 0xe9, 0xce, 0x55, 0x28, 0xdf,
    0x8c, 0xa1, 0x89, 0x0d, 0xbf, 0xe6, 0x42, 0x68, 0x41, 0x99, 0x2d, 0x0f, 0xb0, 0x54, 0xbb, 0x16]

def invSboxes : List UInt8 :=
  [0x52, 0x09, 0x6a, 0xd5, 0x30, 0x36, 0xa5, 0x38, 0xbf, 0x40, 0xa3, 0x9e, 0x81, 0xf3, 0xd7, 0xfb,
    0x7c, 0xe3, 0x39, 0x82, 0x9b, 0x2f, 0xff, 0x87, 0x34, 0x8e, 0x43, 0x44, 0xc4, 0xde, 0xe9, 0xcb,
    0x54, 0x7b, 0x94, 0x32, 0xa6, 0xc2, 0x23, 0x3d, 0xee, 0x4c, 0x95, 0x0b, 0x42, 0xfa, 0xc3, 0x4e,
    0x08, 0x2e, 0xa1, 0x66, 0x28, 0xd9, 0x24, 0xb2, 0x76, 0x5b, 0xa2, 0x49, 0x6d, 0x8b, 0xd1, 0x25,
    0x72, 0xf8, 0xf6, 0x64, 0x86, 0x68, 0x98, 0x16, 0xd4, 0xa4, 0x5c, 0xcc, 0x5d, 0x65, 0xb6, 0x92,
    0x6c, 0x70, 0x48, 0x50, 0xfd, 0xed, 0xb9, 0xda, 0x5e, 0x15, 0x46, 0x57, 0xa7, 0x8d, 0x9d, 0x84,
    0x90, 0xd8, 0xab, 0x00, 0x8c, 0xbc, 0xd3, 0x0a, 0xf7, 0xe4, 0x58, 0x05, 0xb8, 0xb3, 0x45, 0x06,
    0xd0, 0x2c, 0x1e, 0x8f, 0xca, 0x3f, 0x0f, 0x02, 0xc1, 0xaf, 0xbd, 0x03, 0x01, 0x13, 0x8a, 0x6b,
    0x3a, 0x91, 0x11, 0x41, 0x4f, 0x67, 0xdc, 0xea, 0x97, 0xf2, 0xcf, 0xce, 0xf0, 0xb4, 0xe6, 0x73,
    0x96, 0xac, 0x74, 0x22, 0xe7, 0xad, 0x35, 0x85, 0xe2, 0xf9, 0x37, 0xe8, 0x1c, 0x75, 0xdf, 0x6e,
    0x47, 0xf1, 0x1a, 0x71, 0x1d, 0x29, 0xc5, 0x89, 0x6f, 0xb7, 0x62, 0x0e, 0xaa, 0x18, 0xbe, 0x1b,
    0xfc, 0x56, 0x3e, 0x4b, 0xc6, 0xd2, 0x79, 0x20, 0x9a, 0xdb, 0xc0, 0xfe, 0x78, 0xcd, 0x5a, 0xf4,
    0x1f, 0xdd, 0xa8, 0x33, 0x88, 0x07, 0xc7, 0x31, 0xb1, 0x12, 0x10, 0x59, 0x27, 0x80, 0xec, 0x5f,
    0x60, 0x51, 0x7f, 0xa9, 0x19, 0xb5, 0x4a, 0x0d, 0x2d, 0xe5, 0x7a, 0x9f, 0x93, 0xc9, 0x9c, 0xef,
    0xa0, 0xe0, 0x3b, 0x4d, 0xae, 0x2a, 0xf5, 0xb0, 0xc8, 0xeb, 0xbb, 0x3c, 0x83, 0x53, 0x99, 0x61,
    0x17, 0x2b, 0x04, 0x7e, 0xba, 0x77, 0xd6, 0x26, 0xe1, 0x69, 0x14, 0x63, 0x55, 0x21, 0x0c, 0x7d]

def sbox (b : UInt8) : UInt8 := sboxes.getD b.toNat 0

def invSbox (b : UInt8) : UInt8 := invSboxes.getD b.toNat 0

/-- A row or a column may be written as a numeral. -/
scoped instance four_neZero : @NeZero ℕ Zero.ofOfNat0 4 := ⟨by decide⟩

abbrev Column := Fin 4 → UInt8

/-- Four columns, each with its four rows. -/
abbrev State := Fin 4 → Column

def Column.xor (a b : Column) : Column := fun r => a r ^^^ b r

def State.xor (s k : State) : State := fun c => (s c).xor (k c)

def subBytes (s : State) : State := fun c r => sbox (s c r)

def invSubBytes (s : State) : State := fun c r => invSbox (s c r)

/-- Every row is turned by its number. -/
def shiftRows (s : State) : State := fun c r => s (c + r) r

def invShiftRows (s : State) : State := fun c r => s (c - r) r

/-- The product with the matrix whose rows are the first one, turned. -/
def circulant (m : Fin 4 → UInt8) (a : Column) : Column := fun r =>
  mul (m 0) (a r) ^^^ mul (m 1) (a (r + 1)) ^^^ mul (m 2) (a (r + 2)) ^^^ mul (m 3) (a (r + 3))

def mixColumn : Column → Column := circulant ![2, 3, 1, 1]

def invMixColumn : Column → Column := circulant ![14, 11, 13, 9]

def mixColumns (s : State) : State := fun c => mixColumn (s c)

def invMixColumns (s : State) : State := fun c => invMixColumn (s c)

def rotWord (w : Column) : Column := fun r => w (r + 1)

def subWord (w : Column) : Column := fun r => sbox (w r)

def rcon (i : ℕ) : Column := ![UInt8.ofNat (double^[i - 1] 1), 0, 0, 0]

/-- The words of the expanded key, from a key of `nk` words. -/
def expandKey (nk : ℕ) (key : ℕ → Column) (i : ℕ) : Column :=
  if i < nk ∨ nk = 0 then key i
  else
    let temp := expandKey nk key (i - 1)
    (expandKey nk key (i - nk)).xor <|
      if i % nk = 0 then (subWord (rotWord temp)).xor (rcon (i / nk))
      else if 6 < nk ∧ i % nk = 4 then subWord temp
      else temp
termination_by i

def roundKey (w : ℕ → Column) (r : ℕ) : State := fun c => w (4 * r + c)

variable (keys : ℕ → State)

/-- The state after the first `n` rounds, all of them with `MixColumns`. -/
def rounds (s : State) : ℕ → State
  | 0 => s.xor (keys 0)
  | n + 1 => (mixColumns (shiftRows (subBytes (rounds s n)))).xor (keys (n + 1))

/-- `nr` rounds, the last without `MixColumns`. -/
def cipher (nr : ℕ) (s : State) : State :=
  (shiftRows (subBytes (rounds keys s (nr - 1)))).xor (keys nr)

/-- The last `n` rounds with `InvMixColumns`, from the state that comes before them. -/
def invRounds (s : State) : ℕ → State
  | 0 => s
  | n + 1 => invRounds (invMixColumns ((invSubBytes (invShiftRows s)).xor (keys (n + 1)))) n

def invCipher (nr : ℕ) (s : State) : State :=
  (invSubBytes (invShiftRows (invRounds keys (s.xor (keys nr)) (nr - 1)))).xor (keys 0)

section Blocks

/-- The bytes of a block go down the columns. -/
def State.ofBlock (block : List UInt8) : State := fun c r => block.getD (4 * c + r) 0

def State.toBlock (s : State) : List UInt8 :=
  (List.finRange 4).flatMap fun c => (List.finRange 4).map fun r => s c r

def keyWord (key : List UInt8) (i : ℕ) : Column := fun r => key.getD (4 * i + r) 0

def roundKeys (key : List UInt8) : ℕ → State :=
  roundKey (expandKey (key.length / 4) (keyWord key))

def encrypt (key block : List UInt8) : List UInt8 :=
  (cipher (roundKeys key) (key.length / 4 + 6) (.ofBlock block)).toBlock

def decrypt (key block : List UInt8) : List UInt8 :=
  (invCipher (roundKeys key) (key.length / 4 + 6) (.ofBlock block)).toBlock

end Blocks

theorem double_lt {b : ℕ} (byte : b < 256) : double b < 256 := by
  have all : ∀ b : Fin 256, double b < 256 := by decide +kernel
  exact all ⟨b, byte⟩

theorem double_xor {a b : ℕ} (left : a < 256) (right : b < 256) :
    double (a ^^^ b) = double a ^^^ double b := by
  have shifted : 2 * (a ^^^ b) = (2 * a) ^^^ (2 * b) := by
    have := @Nat.shiftLeft_xor_distrib 1 a b
    simpa only [Nat.shiftLeft_eq, pow_one, mul_comm _ 2] using this
  have top : (a ^^^ b) / 128 = (a / 128) ^^^ (b / 128) := by
    have := @Nat.shiftRight_xor_distrib 7 a b
    simpa only [Nat.shiftRight_eq_div_pow] using this
  have carried : 0x11b * ((a / 128) ^^^ (b / 128)) = (0x11b * (a / 128)) ^^^ (0x11b * (b / 128)) := by
    have left : a / 128 = 0 ∨ a / 128 = 1 := by omega
    have right : b / 128 = 0 ∨ b / 128 = 1 := by omega
    rcases left with left | left <;> rcases right with right | right <;> simp [left, right]
  rw [double, double, double, shifted, top, carried]
  ac_rfl

theorem product_lt (bits a : ℕ) {b : ℕ} (byte : b < 256) : product bits a b < 256 := by
  induction bits generalizing a b with
  | zero => exact Nat.two_pow_pos 8
  | succ bits ih =>
      have term : a % 2 * b < 2 ^ 8 := by
        rcases Nat.mod_two_eq_zero_or_one a with even | odd
        · simp [even]
        · simpa [odd] using byte
      exact Nat.xor_lt_two_pow term (ih (a / 2) (double_lt byte))

theorem product_xor (bits a : ℕ) {b c : ℕ} (left : b < 256) (right : c < 256) :
    product bits a (b ^^^ c) = product bits a b ^^^ product bits a c := by
  induction bits generalizing a b c with
  | zero => simp [product]
  | succ bits ih =>
      have term : a % 2 * (b ^^^ c) = (a % 2 * b) ^^^ (a % 2 * c) := by
        rcases Nat.mod_two_eq_zero_or_one a with even | odd
        · simp [even]
        · simp [odd]
      rw [product, product, product, double_xor left right,
        ih (a / 2) (double_lt left) (double_lt right), term]
      ac_rfl

theorem mul_xor (a b c : UInt8) : mul a (b ^^^ c) = mul a b ^^^ mul a c := by
  apply UInt8.toNat_inj.mp
  have bound := fun x : UInt8 => product_lt 8 a.toNat x.toNat_lt
  have whole := product_lt 8 a.toNat (b ^^^ c).toNat_lt
  simp only [mul, UInt8.toNat_xor, UInt8.toNat_ofNat', Nat.mod_eq_of_lt (bound _)]
  rw [Nat.mod_eq_of_lt (by simpa only [UInt8.toNat_xor] using whole)]
  exact product_xor 8 a.toNat b.toNat_lt c.toNat_lt

theorem circulant_xor (m : Fin 4 → UInt8) (a b : Column) :
    circulant m (a.xor b) = (circulant m a).xor (circulant m b) := by
  funext r
  simp only [circulant, Column.xor, mul_xor]
  ac_rfl

/-- A column with one byte in it. -/
def single (r : Fin 4) (x : UInt8) : Column := fun i => if i = r then x else 0

theorem xor_singles (a : Column) : a =
    (((single 0 (a 0)).xor (single 1 (a 1))).xor (single 2 (a 2))).xor (single 3 (a 3)) := by
  funext r
  fin_cases r <;> simp [Column.xor, single]

/-- A product is the sum of the products of the single bytes. -/
theorem circulant_singles (m : Fin 4 → UInt8) (a : Column) : circulant m a =
    (((circulant m (single 0 (a 0))).xor (circulant m (single 1 (a 1)))).xor
      (circulant m (single 2 (a 2)))).xor (circulant m (single 3 (a 3))) := by
  conv_lhs => rw [xor_singles a]
  simp only [circulant_xor]

@[simp] theorem mul_zero (a : UInt8) : mul a 0 = 0 := by
  have twice := mul_xor a 0 0
  rwa [UInt8.xor_self, UInt8.xor_self] at twice

theorem one_mul (a : UInt8) : mul 1 a = a := by
  revert a
  decide +kernel

theorem circulant_single (m : Fin 4 → UInt8) (r i : Fin 4) (x : UInt8) :
    circulant m (single r x) i = mul (m (r - i)) x := by
  fin_cases r <;> fin_cases i <;>
    simp only [circulant, single, Fin.zero_eta, Fin.mk_one, Fin.reduceFinMk, Fin.isValue, Fin.reduceAdd,
      Fin.reduceSub, Fin.reduceEq, if_true, if_false, mul_zero, UInt8.xor_zero, UInt8.zero_xor]

/-- The product of the two matrices, in its first row. -/
theorem matrices_product (x : UInt8) :
    mul 14 (mul 2 x) ^^^ mul 11 (mul 1 x) ^^^ mul 13 (mul 1 x) ^^^ mul 9 (mul 3 x) = x ∧
    mul 14 (mul 3 x) ^^^ mul 11 (mul 2 x) ^^^ mul 13 (mul 1 x) ^^^ mul 9 (mul 1 x) = 0 ∧
    mul 14 (mul 1 x) ^^^ mul 11 (mul 3 x) ^^^ mul 13 (mul 2 x) ^^^ mul 9 (mul 1 x) = 0 ∧
    mul 14 (mul 1 x) ^^^ mul 11 (mul 1 x) ^^^ mul 13 (mul 3 x) ^^^ mul 9 (mul 2 x) = 0 := by
  revert x
  decide +kernel

theorem invMixColumn_row (a b c d : UInt8) :
    mul 14 (mul 2 a ^^^ mul 3 b ^^^ mul 1 c ^^^ mul 1 d) ^^^
      mul 11 (mul 2 b ^^^ mul 3 c ^^^ mul 1 d ^^^ mul 1 a) ^^^
      mul 13 (mul 2 c ^^^ mul 3 d ^^^ mul 1 a ^^^ mul 1 b) ^^^
      mul 9 (mul 2 d ^^^ mul 3 a ^^^ mul 1 b ^^^ mul 1 c) = a := by
  calc
    _ = (mul 14 (mul 2 a) ^^^ mul 11 (mul 1 a) ^^^ mul 13 (mul 1 a) ^^^ mul 9 (mul 3 a)) ^^^
        (mul 14 (mul 3 b) ^^^ mul 11 (mul 2 b) ^^^ mul 13 (mul 1 b) ^^^ mul 9 (mul 1 b)) ^^^
        (mul 14 (mul 1 c) ^^^ mul 11 (mul 3 c) ^^^ mul 13 (mul 2 c) ^^^ mul 9 (mul 1 c)) ^^^
        (mul 14 (mul 1 d) ^^^ mul 11 (mul 1 d) ^^^ mul 13 (mul 3 d) ^^^ mul 9 (mul 2 d)) := by
      simp only [mul_xor]
      ac_rfl
    _ = a := by
      rw [(matrices_product a).1, (matrices_product b).2.1, (matrices_product c).2.2.1,
        (matrices_product d).2.2.2]
      simp

theorem invMixColumn_mixColumn (a : Column) : invMixColumn (mixColumn a) = a := by
  funext r
  fin_cases r
  · exact invMixColumn_row (a 0) (a 1) (a 2) (a 3)
  · exact invMixColumn_row (a 1) (a 2) (a 3) (a 0)
  · exact invMixColumn_row (a 2) (a 3) (a 0) (a 1)
  · exact invMixColumn_row (a 3) (a 0) (a 1) (a 2)

theorem length_sboxes : sboxes.length = 256 := by decide +kernel

theorem length_invSboxes : invSboxes.length = 256 := by decide +kernel

theorem invSbox_sbox (b : UInt8) : invSbox (sbox b) = b := by
  revert b
  decide +kernel

@[simp] theorem xor_xor_cancel (s k : State) : (s.xor k).xor k = s := by
  funext c r
  simp only [State.xor, Column.xor, UInt8.xor_assoc, UInt8.xor_self, UInt8.xor_zero]

@[simp] theorem invMixColumns_mixColumns (s : State) : invMixColumns (mixColumns s) = s := by
  funext c
  exact invMixColumn_mixColumn (s c)

theorem invMixColumns_xor (s k : State) :
    invMixColumns (s.xor k) = (invMixColumns s).xor (invMixColumns k) := by
  funext c
  exact circulant_xor _ (s c) (k c)

/-- The shifts and the substitutions are undone together. -/
@[simp] theorem invSubBytes_invShiftRows (s : State) :
    invSubBytes (invShiftRows (shiftRows (subBytes s))) = s := by
  funext c r
  have turned : c - r + r = c := by
    revert c r
    decide
  simp only [invSubBytes, invShiftRows, shiftRows, subBytes, invSbox_sbox, turned]

variable {keys}

theorem invRounds_rounds (s : State) (n : ℕ) :
    invRounds keys (shiftRows (subBytes (rounds keys s n))) n = shiftRows (subBytes (s.xor (keys 0))) := by
  induction n with
  | zero => rfl
  | succ n ih => simp only [invRounds, rounds, invSubBytes_invShiftRows, xor_xor_cancel,
      invMixColumns_mixColumns, ih]

/-- Every number of rounds is undone, whatever the round keys are. -/
theorem invCipher_cipher (nr : ℕ) (s : State) : invCipher keys nr (cipher keys nr s) = s := by
  simp only [invCipher, cipher, xor_xor_cancel, invRounds_rounds, invSubBytes_invShiftRows]

theorem State.length_toBlock (s : State) : s.toBlock.length = 16 := rfl

theorem State.ofBlock_toBlock (s : State) : State.ofBlock s.toBlock = s := by
  funext c r
  fin_cases c <;> fin_cases r <;> rfl

theorem State.toBlock_ofBlock {block : List UInt8} (full : block.length = 16) :
    (State.ofBlock block).toBlock = block := by
  have bytes : (State.ofBlock block).toBlock = (List.range 16).map fun i => block.getD i 0 := rfl
  rw [bytes]
  apply List.ext_getElem
  · rw [List.length_map, List.length_range, full]
  · intro i _ inside
    simp [inside]

theorem decrypt_encrypt (key : List UInt8) {block : List UInt8} (full : block.length = 16) :
    decrypt key (encrypt key block) = block := by
  rw [decrypt, encrypt, State.ofBlock_toBlock, invCipher_cipher, State.toBlock_ofBlock full]

end PetClump.Rijndael
