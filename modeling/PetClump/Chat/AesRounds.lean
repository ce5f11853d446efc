import Mathlib.Data.List.GetD
import PetClump.Chat.Aes

/-! # AES by tables is Rijndael

An entry of a table is the product of a column that has one byte. The words of a
block are the columns of its state, and a round of lookups is a round of the
standard on them. Decryption takes the rounds in the order of encryption, with
the matrix applied to the round keys.
-/

namespace PetClump.AES

open Rijndael

section Columns

/-- The bytes of a word, the lowest in the first row. -/
def column (x : UInt32) : Column :=
  ![x.toUInt8, (x >>> 8).toUInt8, (x >>> 16).toUInt8, (x >>> 24).toUInt8]

def pack (a b c d : UInt8) : UInt32 :=
  a.toUInt32 ||| (b.toUInt32 <<< 8) ||| (c.toUInt32 <<< 16) ||| (d.toUInt32 <<< 24)

@[simp] theorem column_pack (a b c d : UInt8) : column (pack a b c d) = ![a, b, c, d] := by
  funext r
  apply UInt8.eq_of_toBitVec_eq
  apply BitVec.eq_of_getLsbD_eq
  intro i small
  -- The other bytes are shifted out of the eight bits, or above them.
  fin_cases r
  · simp [column, pack]
  · simp [column, pack]
    grind
  · simp [column, pack]
    grind
  · simp [column, pack]
    grind

theorem column_xor (x y : UInt32) : column (x ^^^ y) = (column x).xor (column y) := by
  funext r
  fin_cases r <;> simp [column, Column.xor, UInt32.shiftRight_xor]

theorem low (x : UInt32) : x &&& 0xff = x.toUInt8.toUInt32 := by
  apply UInt32.toNat_inj.mp
  simpa using Nat.and_two_pow_sub_one_eq_mod x.toNat 8

theorem high (x : UInt32) : x >>> 24 = (x >>> 24).toUInt8.toUInt32 := by
  apply UInt32.toNat_inj.mp
  have bound := x.toNat_lt
  simp [Nat.shiftRight_eq_div_pow]
  omega

theorem low_toUInt8 (x : UInt32) : (x &&& 0xff).toUInt8 = x.toUInt8 := by
  rw [low, UInt8.toUInt8_toUInt32]

theorem wordBytes_eq (x : UInt32) :
    wordBytes x = [column x 0, column x 1, column x 2, column x 3] := by
  simp only [wordBytes, low_toUInt8]
  rfl

/-- The four bytes that a round looks up, each as the index it is in its table. -/
theorem B0_eq (x : UInt32) : B0 x = (column x 0).toUInt32 := low x

theorem B1_eq (x : UInt32) : B1 x = (column x 1).toUInt32 := low (x >>> 8)

theorem B2_eq (x : UInt32) : B2 x = (column x 2).toUInt32 := low (x >>> 16)

theorem B3_eq (x : UInt32) : B3 x = (column x 3).toUInt32 := low (x >>> 24)

theorem top_eq (x : UInt32) : x >>> 24 = (column x 3).toUInt32 := high x

end Columns

section Lookups

def products (a b c d s : UInt8) : UInt32 := pack (mul a s) (mul b s) (mul c s) (mul d s)

def allBytes : List UInt8 := (List.range 256).map UInt8.ofNat

theorem mixing_tables : T0 = sboxes.map (products 2 1 1 3) ∧ T1 = sboxes.map (products 3 2 1 1) ∧
    T2 = sboxes.map (products 1 3 2 1) ∧ T3 = sboxes.map (products 1 1 3 2) := by
  decide +kernel

theorem inverse_tables :
    T0Inv = invSboxes.map (products 14 9 13 11) ∧ T1Inv = invSboxes.map (products 11 14 9 13) ∧
    T2Inv = invSboxes.map (products 13 11 14 9) ∧ T3Inv = invSboxes.map (products 9 13 11 14) := by
  decide +kernel

theorem key_tables :
    U1 = allBytes.map (products 14 9 13 11) ∧ U2 = allBytes.map (products 11 14 9 13) ∧
    U3 = allBytes.map (products 13 11 14 9) ∧ U4 = allBytes.map (products 9 13 11 14) := by
  decide +kernel

/-- The two tables that a key computes for itself. -/
def standard : SBoxes := ⟨sboxes.map UInt8.toUInt32, invSboxes.map UInt8.toUInt32⟩

theorem calculateSBox_eq : calculateSBox = some standard := by decide +kernel

theorem entry_map {bytes : List UInt8} (full : bytes.length = 256) (f : UInt8 → UInt32) (b : UInt8) :
    entry (bytes.map f) b.toUInt32 = f (bytes.getD b.toNat 0) := by
  have inside : b.toNat < bytes.length := full ▸ b.toNat_lt
  simp [entry, inside]

theorem entry_sboxes (f : UInt8 → UInt32) (b : UInt8) :
    entry (sboxes.map f) b.toUInt32 = f (sbox b) := entry_map length_sboxes f b

theorem entry_invSboxes (f : UInt8 → UInt32) (b : UInt8) :
    entry (invSboxes.map f) b.toUInt32 = f (invSbox b) := entry_map length_invSboxes f b

theorem entry_allBytes (f : UInt8 → UInt32) (b : UInt8) :
    entry (allBytes.map f) b.toUInt32 = f b := by
  have inside : b.toNat < 256 := b.toNat_lt
  have found : allBytes.getD b.toNat 0 = b := by
    simp [allBytes, List.getElem?_range inside]
  rw [entry_map (by rw [allBytes, List.length_map, List.length_range]), found]

/-- Four lookups and three sums are the product with a matrix. -/
theorem circulant_products (m : Fin 4 → UInt8) (a b c d : UInt8) :
    (((column (products (m 0) (m 3) (m 2) (m 1) a)).xor
        (column (products (m 1) (m 0) (m 3) (m 2) b))).xor
      (column (products (m 2) (m 1) (m 0) (m 3) c))).xor
      (column (products (m 3) (m 2) (m 1) (m 0) d)) = circulant m ![a, b, c, d] := by
  rw [circulant_singles m ![a, b, c, d]]
  funext r
  simp only [products, column_pack, Column.xor, circulant_single]
  fin_cases r <;> rfl

theorem column_mixedWord (x0 x1 x2 x3 : UInt32) : column (mixedWord x0 x1 x2 x3) =
    mixColumn ![sbox (column x0 0), sbox (column x1 1), sbox (column x2 2), sbox (column x3 3)] := by
  have lookups : mixedWord x0 x1 x2 x3 =
      products 2 1 1 3 (sbox (column x0 0)) ^^^ products 3 2 1 1 (sbox (column x1 1)) ^^^
        products 1 3 2 1 (sbox (column x2 2)) ^^^ products 1 1 3 2 (sbox (column x3 3)) := by
    change entry T0 (B0 x0) ^^^ entry T1 (B1 x1) ^^^ entry T2 (B2 x2) ^^^ entry T3 (x3 >>> 24) = _
    obtain ⟨t0, t1, t2, t3⟩ := mixing_tables
    simp only [B0_eq, B1_eq, B2_eq, top_eq, t0, t1, t2, t3, entry_sboxes]
  rw [lookups, column_xor, column_xor, column_xor]
  exact circulant_products ![2, 3, 1, 1] _ _ _ _

theorem column_invMixedWord (x0 x1 x2 x3 : UInt32) : column (invMixedWord x0 x1 x2 x3) =
    invMixColumn ![invSbox (column x0 0), invSbox (column x1 1), invSbox (column x2 2),
      invSbox (column x3 3)] := by
  have lookups : invMixedWord x0 x1 x2 x3 =
      products 14 9 13 11 (invSbox (column x0 0)) ^^^ products 11 14 9 13 (invSbox (column x1 1)) ^^^
        products 13 11 14 9 (invSbox (column x2 2)) ^^^ products 9 13 11 14 (invSbox (column x3 3)) := by
    change entry T0Inv (B0 x0) ^^^ entry T1Inv (B1 x1) ^^^ entry T2Inv (B2 x2) ^^^
      entry T3Inv (x3 >>> 24) = _
    obtain ⟨t0, t1, t2, t3⟩ := inverse_tables
    simp only [B0_eq, B1_eq, B2_eq, top_eq, t0, t1, t2, t3, entry_invSboxes]
  rw [lookups, column_xor, column_xor, column_xor]
  exact circulant_products ![14, 11, 13, 9] _ _ _ _

theorem column_invWord (x : UInt32) : column (invWord x) = invMixColumn (column x) := by
  have lookups : invWord x =
      products 14 9 13 11 (column x 0) ^^^ products 11 14 9 13 (column x 1) ^^^
        products 13 11 14 9 (column x 2) ^^^ products 9 13 11 14 (column x 3) := by
    obtain ⟨u1, u2, u3, u4⟩ := key_tables
    simp only [invWord, B0_eq, B1_eq, B2_eq, B3_eq, u1, u2, u3, u4, entry_allBytes]
  rw [lookups, column_xor, column_xor, column_xor]
  exact circulant_products ![14, 11, 13, 9] _ _ _ _

/-- The second byte of an entry is the substituted byte alone. -/
theorem B1_products (s : UInt8) : B1 (products 2 1 1 3 s) = s.toUInt32 := by
  rw [B1_eq, products, column_pack, one_mul]
  rfl

theorem column_F1 (x0 x1 x2 x3 : UInt32) : column (F1 x0 x1 x2 x3) =
    ![sbox (column x0 0), sbox (column x1 1), sbox (column x2 2), sbox (column x3 3)] := by
  have lookups : F1 x0 x1 x2 x3 =
      pack (sbox (column x0 0)) (sbox (column x1 1)) (sbox (column x2 2)) (sbox (column x3 3)) := by
    change B1 (entry T0 (B0 x0)) ||| (B1 (entry T0 (B1 x1)) <<< 8) |||
      (B1 (entry T0 (B2 x2)) <<< 16) ||| (B1 (entry T0 (x3 >>> 24)) <<< 24) = _
    simp only [B0_eq, B1_eq x1, B2_eq, top_eq, mixing_tables.1, entry_sboxes, B1_products, pack]
  rw [lookups, column_pack]

theorem column_invSubWord (x0 x1 x2 x3 : UInt32) : column (invSubWord standard x0 x1 x2 x3) =
    ![invSbox (column x0 0), invSbox (column x1 1), invSbox (column x2 2), invSbox (column x3 3)] := by
  rw [← column_pack]
  simp only [invSubWord, standard, B0_eq, B1_eq, B2_eq, B3_eq, entry_invSboxes, pack]

end Lookups

section Rounds

def Words.state (b : Words) : State := ![column b.b0, column b.b1, column b.b2, column b.b3]

theorem state_xor (b k : Words) : (b.xor k).state = b.state.xor k.state := by
  funext c
  fin_cases c <;> exact column_xor _ _

theorem shifted (s : State) (c : Fin 4) : shiftRows (subBytes s) c =
    ![sbox (s c 0), sbox (s (c + 1) 1), sbox (s (c + 2) 2), sbox (s (c + 3) 3)] := by
  funext r
  fin_cases r <;> simp [shiftRows, subBytes]

theorem invShifted (s : State) (c : Fin 4) : invSubBytes (invShiftRows s) c =
    ![invSbox (s c 0), invSbox (s (c - 1) 1), invSbox (s (c - 2) 2), invSbox (s (c - 3) 3)] := by
  funext r
  have still : c - 0 = c := by
    revert c
    decide
  fin_cases r <;> simp [invShiftRows, invSubBytes, still]

theorem encryptRound_state (b k : Words) :
    (encryptRound b k).state = mixColumns (shiftRows (subBytes (b.state.xor k.state))) := by
  rw [← state_xor]
  funext c
  rw [mixColumns, shifted]
  fin_cases c <;> exact column_mixedWord _ _ _ _

theorem encryptLast_state (b k : Words) :
    (encryptLast b k).state = shiftRows (subBytes (b.state.xor k.state)) := by
  rw [← state_xor]
  funext c
  rw [shifted]
  fin_cases c <;> exact column_F1 _ _ _ _

theorem decryptRound_state (b k : Words) :
    (decryptRound b k).state = invMixColumns (invSubBytes (invShiftRows (b.state.xor k.state))) := by
  rw [← state_xor]
  funext c
  rw [invMixColumns, invShifted]
  fin_cases c <;> exact column_invMixedWord _ _ _ _

theorem decryptLast_state (b k : Words) :
    (decryptLast standard b k).state =
      invSubBytes (invShiftRows (b.state.xor k.state)) := by
  rw [← state_xor]
  funext c
  rw [invShifted]
  fin_cases c <;> exact column_invSubWord _ _ _ _

variable {keys : ℕ → State} {rk : ℕ → Words}

/-- The code adds a round key before its round, the standard after the round before it. -/
theorem rounds_state {n : ℕ} (same : ∀ r ≤ n, (rk r).state = keys r) (b : Words) :
    ((List.range n).foldl (fun b r => encryptRound b (rk r)) b).state.xor (keys n) =
      rounds keys b.state n := by
  induction n with
  | zero => rfl
  | succ n ih =>
      rw [List.range_succ, List.foldl_append, List.foldl_cons, List.foldl_nil, encryptRound_state,
        same n (Nat.le_succ n), ih fun r inside => same r (Nat.le_succ_of_le inside)]
      rfl

theorem encryptWords_state {nr : ℕ} (same : ∀ r ≤ nr, (rk r).state = keys r) (b : Words) :
    (encryptWords nr rk b).state = cipher keys nr b.state := by
  have before : ∀ r ≤ nr - 1, (rk r).state = keys r := fun r inside =>
    same r (inside.trans (Nat.sub_le nr 1))
  rw [encryptWords, state_xor, encryptLast_state, before _ le_rfl, same _ le_rfl,
    rounds_state before]
  rfl

/-- The keys of decryption: the matrix is applied to all but the first and the last. -/
def inverseKeys (keys : ℕ → State) (nr r : ℕ) : State :=
  if 1 ≤ r ∧ r < nr then invMixColumns (keys r) else keys r

theorem invRounds_state {nr : ℕ} (same : ∀ r ≤ nr, (rk r).state = inverseKeys keys nr r) (b : Words)
    {n : ℕ} (inside : n < nr) :
    invRounds keys (b.state.xor (inverseKeys keys nr (n + 1))) n =
      ((List.range' 2 n).reverse.foldl (fun b r => decryptRound b (rk r)) b).state.xor
        (inverseKeys keys nr 1) := by
  induction n generalizing b with
  | zero => rfl
  | succ n ih =>
      have middle : inverseKeys keys nr (n + 1) = invMixColumns (keys (n + 1)) :=
        if_pos ⟨Nat.succ_pos n, inside⟩
      have step : invMixColumns ((invSubBytes (invShiftRows
          (b.state.xor (inverseKeys keys nr (n + 2))))).xor (keys (n + 1))) =
            (decryptRound b (rk (2 + n))).state.xor (inverseKeys keys nr (n + 1)) := by
        rw [invMixColumns_xor, decryptRound_state, same (2 + n) (by omega), middle,
          Nat.add_comm 2 n]
      rw [invRounds, step, ih _ (Nat.lt_of_succ_lt inside), List.range'_1_concat,
        List.reverse_append]
      rfl

theorem decryptWords_state {nr : ℕ} (positive : 0 < nr)
    (same : ∀ r ≤ nr, (rk r).state = inverseKeys keys nr r) (b : Words) :
    (decryptWords standard nr rk b).state =
      invCipher keys nr b.state := by
  have first : inverseKeys keys nr 0 = keys 0 := if_neg (by omega)
  have last : inverseKeys keys nr nr = keys nr := if_neg (by omega)
  have middle := invRounds_state same b (Nat.sub_lt positive Nat.one_pos)
  rw [Nat.sub_add_cancel positive, last] at middle
  rw [decryptWords, state_xor, decryptLast_state, same 1 positive, same 0 (Nat.zero_le nr), first,
    ← middle]
  rfl

end Rounds

section Expansion

def Word.column (w : Word) : Column := ![w.b0, w.b1, w.b2, w.b3]

theorem toUInt32_eq (w : Word) : w.toUInt32 = pack w.b3 w.b2 w.b1 w.b0 := by
  simp only [Word.toUInt32, pack]
  generalize w.b0.toUInt32 <<< 24 = a, w.b1.toUInt32 <<< 16 = b, w.b2.toUInt32 <<< 8 = c
  ac_rfl

theorem rotateLeft32_pack (a b c d : UInt8) : rotateLeft32 (pack a b c d) 8 = pack d a b c := by
  have unmasked (x : UInt32) : x &&& 0xffffffff = x := by
    apply UInt32.toNat_inj.mp
    simpa using Nat.and_two_pow_sub_one_eq_mod x.toNat 32
  rw [rotateLeft32, unmasked]
  apply UInt32.eq_of_toBitVec_eq
  apply BitVec.eq_of_getLsbD_eq
  intro i small
  simp [pack]
  grind

theorem ofUInt32_pack (a b c d : UInt8) : Word.ofUInt32 (pack a b c d) = ⟨d, c, b, a⟩ := by
  have bytes := column_pack a b c d
  simp only [Word.ofUInt32, Word.mk.injEq]
  exact ⟨congrFun bytes 3, congrFun bytes 2, congrFun bytes 1, congrFun bytes 0⟩

theorem column_reversed (w : Word) : column w.reversed.toUInt32 = w.column := by
  rw [toUInt32_eq, column_pack]
  rfl

theorem Rcon_getD {i : ℕ} (positive : 0 < i) (inside : i ≤ 10) :
    Rcon.getD i 0 = UInt8.ofNat (double^[i - 1] 1) := by
  interval_cases i <;> decide +kernel

theorem subWord_column (w : Word) :
    (subWord standard w).column =
      Rijndael.subWord w.column := by
  have found (b : UInt8) : (standard.sBox.getD b.toNat 0).toUInt8 = sbox b := by
    have looked := entry_sboxes UInt8.toUInt32 b
    rw [entry, UInt8.toNat_toUInt32] at looked
    rw [standard, looked, UInt8.toUInt8_toUInt32]
  funext r
  fin_cases r <;> exact found _

theorem word_xor_column (v w : Word) : (v.xor w).column = v.column.xor w.column := by
  funext r
  fin_cases r <;> rfl

theorem keyWord_column (key : List UInt8) (i : ℕ) :
    (keyWord key i).column = Rijndael.keyWord key i := by
  funext r
  fin_cases r <;> rfl

theorem scheduled_column {nk i : ℕ} (tmp : Word) (positive : 0 < i / nk) (inside : i / nk ≤ 10) :
    (scheduled standard nk i tmp).column =
      if i % nk = 0 then (Rijndael.subWord (rotWord tmp.column)).xor (rcon (i / nk))
      else if 6 < nk ∧ i % nk = 4 then Rijndael.subWord tmp.column
      else tmp.column := by
  rw [scheduled]
  split
  · have turned : (Word.mk tmp.b1 tmp.b2 tmp.b3 tmp.b0).column = rotWord tmp.column := by
      funext r
      fin_cases r <;> rfl
    rw [toUInt32_eq, rotateLeft32_pack, ofUInt32_pack, ← turned, ← subWord_column, rcon,
      ← Rcon_getD positive inside]
    funext r
    fin_cases r <;> simp [Word.column, Column.xor]
  · split
    · exact subWord_column tmp
    · rfl

variable (v : Variant) (key : List UInt8)

def expansion : ℕ → Column := Rijndael.expandKey v.nk (Rijndael.keyWord key)

theorem expansion_given {i : ℕ} (inside : i < v.nk) :
    expansion v key i = Rijndael.keyWord key i := by
  rw [expansion, Rijndael.expandKey, if_pos (.inl inside)]

theorem nk_pos : 0 < v.nk := by cases v <;> decide

theorem expansion_next (m : ℕ) : expansion v key (v.nk + m) = (expansion v key m).xor
    (if (v.nk + m) % v.nk = 0 then
      (Rijndael.subWord (rotWord (expansion v key (v.nk + m - 1)))).xor (rcon ((v.nk + m) / v.nk))
    else if 6 < v.nk ∧ (v.nk + m) % v.nk = 4 then Rijndael.subWord (expansion v key (v.nk + m - 1))
    else expansion v key (v.nk + m - 1)) := by
  have positive := nk_pos v
  conv_lhs => rw [expansion, Rijndael.expandKey, if_neg (by omega), Nat.add_sub_cancel_left]
  rfl

/-- The loop, after `m` words more than the key has. -/
def grown (m : ℕ) : List Word :=
  (List.range' v.nk m).foldl
    (fun w i => w ++ [(w.getD (i - v.nk) default).xor
      (scheduled standard v.nk i (w.getD (i - 1) default))])
    ((List.range v.nk).map (keyWord key))

theorem grown_succ (m : ℕ) : grown v key (m + 1) = grown v key m ++
    [((grown v key m).getD m default).xor
      (scheduled standard v.nk (v.nk + m) ((grown v key m).getD (v.nk + m - 1) default))] := by
  rw [grown, List.range'_1_concat, List.foldl_append, List.foldl_cons, List.foldl_nil,
    Nat.add_sub_cancel_left]
  rfl

theorem length_grown (m : ℕ) : (grown v key m).length = v.nk + m := by
  induction m with
  | zero => simp [grown]
  | succ m ih => rw [grown_succ, List.length_append, ih, List.length_singleton, Nat.add_assoc]

/-- No more than ten constants are used. -/
theorem rcon_index {i : ℕ} (inside : i < nb * (v.nr + 1)) : i / v.nk ≤ 10 := by
  have few : nb * (v.nr + 1) ≤ 11 * v.nk := by cases v <;> decide
  have bound : i < 11 * v.nk := inside.trans_le few
  exact Nat.lt_succ_iff.mp ((Nat.div_lt_iff_lt_mul (nk_pos v)).mpr bound)

theorem grown_column {m : ℕ} (inside : v.nk + m ≤ nb * (v.nr + 1)) {j : ℕ} (written : j < v.nk + m) :
    ((grown v key m).getD j default).column = expansion v key j := by
  induction m generalizing j with
  | zero =>
      have given : j < v.nk := written
      rw [expansion_given v key given, ← keyWord_column]
      simp [grown, given]
  | succ m ih =>
      have ih := fun {j} => ih (j := j) (by omega)
      have length := length_grown v key m
      rw [grown_succ]
      by_cases before : j < v.nk + m
      · rw [List.getD_append _ _ _ _ (by omega)]
        exact ih before
      · obtain rfl : j = v.nk + m := by omega
        have positive := nk_pos v
        rw [List.getD_append_right _ _ _ _ (by omega), length, Nat.sub_self]
        change (Word.xor _ _).column = _
        rw [word_xor_column, scheduled_column _ (Nat.div_pos (by omega) positive)
          (rcon_index v (by omega)), ih (by omega), ih (by omega), expansion_next]

/-- The key schedule of the code is the standard's. -/
theorem expandKey_state {r : ℕ} (inside : r ≤ v.nr) :
    (expandKey standard v key r).state = roundKey (expansion v key) r := by
  have enough : v.nk ≤ nb * (v.nr + 1) := by cases v <;> decide
  have word {i : ℕ} (small : i < 4) : column ((grown v key (nb * (v.nr + 1) - v.nk)).getD (4 * r + i)
      default).reversed.toUInt32 = expansion v key (4 * r + i) := by
    rw [column_reversed]
    refine grown_column v key (by omega) ?_
    rw [nb]
    omega
  funext c
  fin_cases c
  · exact word (by decide)
  · exact word (by decide)
  · exact word (by decide)
  · exact word (by decide)

theorem expandKeyInv_state {r : ℕ} (inside : r ≤ v.nr) :
    (expandKeyInv standard v key r).state = inverseKeys (roundKey (expansion v key)) v.nr r := by
  rw [expandKeyInv, inverseKeys, ← expandKey_state v key inside]
  split
  · funext c
    fin_cases c <;> exact column_invWord _
  · rfl

end Expansion

section Blocks

theorem state_ofBlock (block : List UInt8) : (Words.ofBlock block).state = .ofBlock block := by
  have word (i : ℕ) : column (littleEndian block i) =
      ![block.getD i 0, block.getD (i + 1) 0, block.getD (i + 2) 0, block.getD (i + 3) 0] :=
    column_pack _ _ _ _
  funext c r
  fin_cases c
  · exact (congrFun (word 0) r).trans (by fin_cases r <;> rfl)
  · exact (congrFun (word 4) r).trans (by fin_cases r <;> rfl)
  · exact (congrFun (word 8) r).trans (by fin_cases r <;> rfl)
  · exact (congrFun (word 12) r).trans (by fin_cases r <;> rfl)

theorem toBlock_eq (b : Words) : b.toBlock = b.state.toBlock := by
  simp only [Words.toBlock, wordBytes_eq]
  rfl

theorem exists_variant {size : ℕ} (known : size = 16 ∨ size = 24 ∨ size = 32) :
    ∃ v, variant size = some v ∧ size / 4 = v.nk := by
  rcases known with rfl | rfl | rfl
  · exact ⟨.aes128, rfl, rfl⟩
  · exact ⟨.aes192, rfl, rfl⟩
  · exact ⟨.aes256, rfl, rfl⟩

variable {key block : List UInt8}

theorem encrypt_eq (known : key.length = 16 ∨ key.length = 24 ∨ key.length = 32)
    (full : block.length = 16) : encrypt key block = some (Rijndael.encrypt key block) := by
  obtain ⟨v, found, size⟩ := exists_variant known
  have words := encryptWords_state (fun r => expandKey_state v key (r := r)) (.ofBlock block)
  rw [encrypt, if_neg (not_not.mpr full), found, calculateSBox_eq, Option.bind_eq_bind,
    Option.bind_some, Option.bind_eq_bind, Option.bind_some, toBlock_eq, words, state_ofBlock,
    Rijndael.encrypt, roundKeys, size]
  rfl

theorem decrypt_eq (known : key.length = 16 ∨ key.length = 24 ∨ key.length = 32)
    (full : block.length = 16) : decrypt key block = some (Rijndael.decrypt key block) := by
  obtain ⟨v, found, size⟩ := exists_variant known
  have positive : 0 < v.nr := Nat.add_pos_right _ (by decide)
  have words := decryptWords_state positive (fun r => expandKeyInv_state v key (r := r))
    (.ofBlock block)
  rw [decrypt, if_neg (not_not.mpr full), found, calculateSBox_eq, Option.bind_eq_bind,
    Option.bind_some, Option.bind_eq_bind, Option.bind_some, toBlock_eq, words, state_ofBlock,
    Rijndael.decrypt, roundKeys, size]
  rfl

/-- The code computes the cipher of the standard in both directions. -/
theorem tables_compute_rijndael (known : key.length = 16 ∨ key.length = 24 ∨ key.length = 32)
    (full : block.length = 16) : encrypt key block = some (Rijndael.encrypt key block) ∧
      decrypt key block = some (Rijndael.decrypt key block) :=
  ⟨encrypt_eq known full, decrypt_eq known full⟩

theorem tables_compute_rijndael_zero :
    encrypt (List.replicate 24 0) (List.replicate 16 0) =
        some (Rijndael.encrypt (List.replicate 24 0) (List.replicate 16 0)) ∧
      decrypt (List.replicate 24 0) (List.replicate 16 0) =
        some (Rijndael.decrypt (List.replicate 24 0) (List.replicate 16 0)) :=
  tables_compute_rijndael (.inr (.inl rfl)) rfl

/-- Every block comes back, under every key of a known size. -/
theorem block_restored (known : key.length = 16 ∨ key.length = 24 ∨ key.length = 32)
    (full : block.length = 16) : ∃ secret, encrypt key block = some secret ∧
      secret.length = 16 ∧ decrypt key secret = some block := by
  have length : (Rijndael.encrypt key block).length = 16 := State.length_toBlock _
  refine ⟨Rijndael.encrypt key block, encrypt_eq known full, length, ?_⟩
  rw [decrypt_eq known length, Rijndael.decrypt_encrypt key full]

end Blocks

end PetClump.AES
