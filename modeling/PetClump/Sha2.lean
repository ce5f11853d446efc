import Mathlib.Data.List.Induction
import PetClump.KeyExchanger
import PetClump.Library.BlockStream

/-! # The digest of CryptoSwift

`SHA2` takes a message in pieces and keeps the bytes that are short of a block. Its
schedule is a table of sixty-four words that is filled before the rounds, and one instance
may be asked for several digests.
-/

namespace PetClump

/-- The words `accumulatedHash32` of the 256-bit variant -/
abbrev SHA2.Hash := Vector UInt32 8

structure SHA2 where
  accumulated : List UInt8
  processedBytesTotalCount : ℕ
  accumulatedHash32 : SHA2.Hash

namespace SHA2

open Sha256 BlockStream Chunks

def blockSize : ℕ := 64

theorem blockSize_pos : 0 < blockSize := Nat.zero_lt_succ 63

def k : List UInt64 :=
  [0x428a2f98, 0x71374491, 0xb5c0fbcf, 0xe9b5dba5, 0x3956c25b, 0x59f111f1, 0x923f82a4, 0xab1c5ed5,
   0xd807aa98, 0x12835b01, 0x243185be, 0x550c7dc3, 0x72be5d74, 0x80deb1fe, 0x9bdc06a7, 0xc19bf174,
   0xe49b69c1, 0xefbe4786, 0x0fc19dc6, 0x240ca1cc, 0x2de92c6f, 0x4a7484aa, 0x5cb0a9dc, 0x76f988da,
   0x983e5152, 0xa831c66d, 0xb00327c8, 0xbf597fc7, 0xc6e00bf3, 0xd5a79147, 0x06ca6351, 0x14292967,
   0x27b70a85, 0x2e1b2138, 0x4d2c6dfc, 0x53380d13, 0x650a7354, 0x766a0abb, 0x81c2c92e, 0x92722c85,
   0xa2bfe8a1, 0xa81a664b, 0xc24b8b70, 0xc76c51a3, 0xd192e819, 0xd6990624, 0xf40e3585, 0x106aa070,
   0x19a4c116, 0x1e376c08, 0x2748774c, 0x34b0bcb5, 0x391c0cb3, 0x4ed8aa4a, 0x5b9cca4f, 0x682e6ff3,
   0x748f82ee, 0x78a5636f, 0x84c87814, 0x8cc70208, 0x90befffa, 0xa4506ceb, 0xbef9a3f7, 0xc67178f2]

def h : Vector UInt64 8 :=
  #v[0x6a09e667, 0xbb67ae85, 0x3c6ef372, 0xa54ff53a, 0x510e527f, 0x9b05688c, 0x1f83d9ab, 0x5be0cd19]

def init : SHA2 := ⟨[], 0, h.map UInt64.toUInt32⟩

def rotateRight (value «by» : UInt32) : UInt32 := (value >>> «by») ||| (value <<< (32 - «by»))

/-- `UInt32(bytes:fromIndex:)`, which asks for the length of the whole chunk. -/
def wordAt (bytes : List UInt8) (index : ℕ) : UInt32 :=
  let count := bytes.length
  let val0 := if count > 0 then (bytes.getD index 0).toUInt32 <<< 24 else 0
  let val1 := if count > 1 then (bytes.getD (index + 1) 0).toUInt32 <<< 16 else 0
  let val2 := if count > 2 then (bytes.getD (index + 2) 0).toUInt32 <<< 8 else 0
  let val3 := if count > 3 then (bytes.getD (index + 3) 0).toUInt32 else 0
  val0 ||| val1 ||| val2 ||| val3

def extend (chunk : List UInt8) (M : List UInt32) (x : ℕ) : List UInt32 :=
  M.set x <|
    if x ≤ 15 then wordAt chunk (x * 4)
    else
      let at15 := M.getD (x - 15) 0
      let at2 := M.getD (x - 2) 0
      let s0 := rotateRight at15 7 ^^^ rotateRight at15 18 ^^^ at15 >>> 3
      let s1 := rotateRight at2 17 ^^^ rotateRight at2 19 ^^^ at2 >>> 10
      M.getD (x - 16) 0 + s0 + M.getD (x - 7) 0 + s1

/-- The allocated words `M` once the first `count` are filled -/
def schedule (chunk : List UInt8) (count : ℕ) : List UInt32 :=
  (List.range count).foldl (extend chunk) (List.replicate k.length 0)

structure Variables where
  A : UInt32
  B : UInt32
  C : UInt32
  D : UInt32
  E : UInt32
  F : UInt32
  G : UInt32
  H : UInt32

def mainLoop (M : List UInt32) (v : Variables) (j : ℕ) : Variables :=
  let s0 := rotateRight v.A 2 ^^^ rotateRight v.A 13 ^^^ rotateRight v.A 22
  let maj := (v.A &&& v.B) ^^^ (v.A &&& v.C) ^^^ (v.B &&& v.C)
  let t2 := s0 + maj
  let s1 := rotateRight v.E 6 ^^^ rotateRight v.E 11 ^^^ rotateRight v.E 25
  let ch := (v.E &&& v.F) ^^^ (~~~v.E &&& v.G)
  let t1 := v.H + s1 + ch + (k.getD j 0).toUInt32 + M.getD j 0
  ⟨t1 + t2, v.A, v.B, v.C, v.D + t1, v.E, v.F, v.G⟩

def process32 (hh : Hash) (chunk : List UInt8) : Hash :=
  let M := schedule chunk k.length
  let v := (List.range k.length).foldl (mainLoop M) ⟨hh[0], hh[1], hh[2], hh[3], hh[4], hh[5], hh[6], hh[7]⟩
  #v[hh[0] + v.A, hh[1] + v.B, hh[2] + v.C, hh[3] + v.D, hh[4] + v.E, hh[5] + v.F, hh[6] + v.G, hh[7] + v.H]

/-- `Int.bytes(totalBytes:)` -/
def arrayOfBytes (value totalBytes : ℕ) : List UInt8 :=
  (List.range (min 8 totalBytes)).foldl
    (fun bytes j => bytes.set (totalBytes - 1 - j) (UInt8.ofNat (value >>> (8 * j))))
    (List.replicate totalBytes 0)

def bitPadding (data : List UInt8) (blockSize allowance : ℕ) : List UInt8 :=
  let msgLength := data.length
  let max := blockSize - allowance
  data ++ [0x80] ++
    if msgLength % blockSize < max then List.replicate (max - 1 - msgLength % blockSize) 0
    else List.replicate (blockSize + max - 1 - msgLength % blockSize) 0

/-- The body of the loop over the chunks of `count` bytes, with the bytes processed so far -/
def processChunk (isLast : Bool) (count : ℕ) (s : Hash × ℕ) (chunk : List UInt8) : Hash × ℕ :=
  if isLast ∨ count - s.2 ≥ blockSize then (process32 s.1 chunk, s.2 + chunk.length) else s

/-- `h.bigEndian` has its highest byte in the lowest place. -/
def wordBytes (h : UInt32) : List UInt8 :=
  [(h >>> 24 &&& 0xff).toUInt8, (h >>> 16 &&& 0xff).toUInt8, (h >>> 8 &&& 0xff).toUInt8, (h &&& 0xff).toUInt8]

def output (hh : Hash) : List UInt8 := hh.toList.flatMap wordBytes

/-- The bytes that the loop runs over. An `Int` that overflows is a trap. -/
def buffered (s : SHA2) (bytes : List UInt8) (isLast : Bool) : Option (List UInt8) :=
  let accumulated := s.accumulated ++ bytes
  if isLast then
    let lengthInBits := (s.processedBytesTotalCount + accumulated.length) * 8
    if lengthInBits < 2 ^ 63 then
      some (bitPadding accumulated blockSize (blockSize / 8) ++ arrayOfBytes lengthInBits (blockSize / 8))
    else none
  else some accumulated

def update (s : SHA2) (bytes : List UInt8) (isLast : Bool) : Option (List UInt8 × SHA2) := do
  let accumulated ← s.buffered bytes isLast
  let (hash, processedBytes) :=
    (accumulated.toChunks blockSize).foldl (processChunk isLast accumulated.length) (s.accumulatedHash32, 0)
  let processedBytesTotalCount := s.processedBytesTotalCount + processedBytes
  if processedBytesTotalCount < 2 ^ 63 then
    -- the count of the processed bytes is not reset with the hash
    some (output hash, ⟨accumulated.drop processedBytes, processedBytesTotalCount,
      if isLast then init.accumulatedHash32 else hash⟩)
  else none

/-- `calculate(for:)` of a new instance, as `Digest.sha256` calls it -/
def calculate (bytes : List UInt8) : Option (List UInt8) := (init.update bytes true).map Prod.fst

section Blocks

theorem rotateRight_eq (x : UInt32) {n : UInt32} (positive : 0 < n) (small : n < 32) :
    (rotateRight x n).toBitVec = x.toBitVec.rotateRight n.toNat := by
  have above : 0 < n.toNat := positive
  have below : n.toNat < 32 := small
  have left : (n.toBitVec % 32).toNat = n.toNat := Nat.mod_eq_of_lt below
  have right : ((32 - n).toBitVec % 32).toNat = 32 - n.toNat := by
    have difference : (32 - n).toNat = 32 - n.toNat := UInt32.toNat_sub_of_le _ _ (UInt32.le_of_lt small)
    rw [BitVec.toNat_umod, UInt32.toNat_toBitVec, difference]
    have less : 32 - n.toNat < 32 := by omega
    exact Nat.mod_eq_of_lt less
  rw [BitVec.rotateRight_def, Nat.mod_eq_of_lt below]
  simp only [rotateRight, UInt32.toBitVec_or, UInt32.toBitVec_shiftRight, UInt32.toBitVec_shiftLeft,
    BitVec.ushiftRight_eq', BitVec.shiftLeft_eq', left, right]

theorem shiftRight_eq (x : UInt32) {n : UInt32} (small : n < 32) : (x >>> n).toBitVec = x.toBitVec >>> n.toNat := by
  have below : n.toNat < 32 := small
  have amount : (n.toBitVec % 32).toNat = n.toNat := Nat.mod_eq_of_lt below
  rw [UInt32.toBitVec_shiftRight, BitVec.ushiftRight_eq', amount]

theorem word_bytes (a b c d : UInt8) :
    ((a.toUInt32 <<< 24) ||| (b.toUInt32 <<< 16) ||| (c.toUInt32 <<< 8) ||| d.toUInt32).toBitVec =
      wordOfBytes [a, b, c, d] := by
  have ha := a.toNat_lt
  have hb := b.toNat_lt
  have hc := c.toNat_lt
  have hd := d.toNat_lt
  apply BitVec.eq_of_toNat_eq
  simp only [UInt32.toNat_toBitVec, UInt32.toNat_or, UInt32.toNat_shiftLeft, UInt8.toNat_toUInt32, wordOfBytes,
    List.foldl_cons, List.foldl_nil, BitVec.toNat_ofNat, Nat.or_assoc]
  have amounts : (24 : UInt32).toNat % 32 = 24 ∧ (16 : UInt32).toNat % 32 = 16 ∧ (8 : UInt32).toNat % 32 = 8 := by
    decide
  rw [amounts.1, amounts.2.1, amounts.2.2]
  simp only [Nat.shiftLeft_eq]
  -- No byte reaches into the place of another one.
  have low : c.toNat * 2 ^ 8 % 2 ^ 32 ||| d.toNat = c.toNat * 2 ^ 8 + d.toNat := by
    rw [Nat.mod_eq_of_lt (by omega), Nat.mul_comm, ← Nat.two_pow_add_eq_or_of_lt (by omega)]
  have middle : b.toNat * 2 ^ 16 % 2 ^ 32 ||| (c.toNat * 2 ^ 8 + d.toNat) =
      b.toNat * 2 ^ 16 + (c.toNat * 2 ^ 8 + d.toNat) := by
    rw [Nat.mod_eq_of_lt (by omega), Nat.mul_comm b.toNat, ← Nat.two_pow_add_eq_or_of_lt (by omega)]
  have high : a.toNat * 2 ^ 24 % 2 ^ 32 ||| (b.toNat * 2 ^ 16 + (c.toNat * 2 ^ 8 + d.toNat)) =
      a.toNat * 2 ^ 24 + (b.toNat * 2 ^ 16 + (c.toNat * 2 ^ 8 + d.toNat)) := by
    rw [Nat.mod_eq_of_lt (by omega), Nat.mul_comm a.toNat, ← Nat.two_pow_add_eq_or_of_lt (by omega)]
  rw [low, middle, high, Nat.mod_eq_of_lt (by omega)]
  omega

theorem wordAt_eq {chunk : List UInt8} (full : chunk.length = blockSize) {i : ℕ} (early : i < 16) :
    (wordAt chunk (i * 4)).toBitVec = (words chunk).getD i 0 := by
  have length : chunk.length = 64 := full
  have next : ∀ n < 64, chunk.drop n = chunk.getD n 0 :: chunk.drop (n + 1) := by
    intro n inside
    have inside : n < chunk.length := length ▸ inside
    rw [List.drop_eq_getElem_cons inside, List.getD_eq_getElem _ _ inside]
  rw [words_getD early, Nat.mul_comm 4, next (i * 4) (by omega), next (i * 4 + 1) (by omega),
    next (i * 4 + 1 + 1) (by omega), next (i * 4 + 1 + 1 + 1) (by omega)]
  simp only [List.take_succ_cons, List.take_zero, ← word_bytes]
  simp [wordAt, length, Nat.add_assoc]

def Variables.registers (v : Variables) : Registers :=
  ⟨v.A.toBitVec, v.B.toBitVec, v.C.toBitVec, v.D.toBitVec, v.E.toBitVec, v.F.toBitVec, v.G.toBitVec, v.H.toBitVec⟩

def Hash.registers (hh : Hash) : Registers :=
  ⟨hh[0].toBitVec, hh[1].toBitVec, hh[2].toBitVec, hh[3].toBitVec, hh[4].toBitVec, hh[5].toBitVec, hh[6].toBitVec,
    hh[7].toBitVec⟩

theorem k_eq : ∀ j < k.length, (k.getD j 0).toUInt32.toBitVec = roundConstants.getD j 0 := by
  decide +kernel

theorem length_schedule (chunk : List UInt8) (count : ℕ) : (schedule chunk count).length = k.length := by
  induction count with
  | zero => exact List.length_replicate
  | succ count ih => rw [schedule, List.range_succ, List.foldl_append, List.foldl_cons, List.foldl_nil, extend,
      List.length_set, ← schedule, ih]

theorem schedule_succ (chunk : List UInt8) (count : ℕ) :
    schedule chunk (count + 1) = extend chunk (schedule chunk count) count := by
  rw [schedule, List.range_succ, List.foldl_append]
  rfl

/-- The words filled so far are those of the standard's schedule. -/
theorem schedule_eq {chunk : List UInt8} (full : chunk.length = blockSize) {count : ℕ} (room : count ≤ k.length) :
    ∀ x < count, ((schedule chunk count).getD x 0).toBitVec = expanded (fun i => (words chunk).getD i 0) x := by
  induction count with
  | zero => nofun
  | succ count ih =>
      intro x less
      have ih := ih (Nat.le_of_succ_le room)
      have place : count < (schedule chunk count).length := by
        rw [length_schedule]
        exact room
      rw [schedule_succ, extend]
      by_cases last : x = count
      · subst last
        rw [List.getD_eq_getElem?_getD, List.getElem?_set_self place, Option.getD_some]
        by_cases early : x ≤ 15
        · rw [if_pos early, wordAt_eq full (by omega), expanded_first _ (by omega)]
        · rw [if_neg early, expanded, if_neg (by omega)]
          simp (disch := decide) only [UInt32.toBitVec_add, UInt32.toBitVec_xor, rotateRight_eq, shiftRight_eq,
            UInt32.reduceToNat, smallSigma0, smallSigma1, ih (x - 16) (by omega), ih (x - 7) (by omega),
            ih (x - 15) (by omega), ih (x - 2) (by omega)]
          ac_rfl
      · rw [List.getD_eq_getElem?_getD, List.getElem?_set_ne (Ne.symm last), ← List.getD_eq_getElem?_getD]
        exact ih x (by omega)

theorem mainLoop_eq {M : List UInt32} {w : ℕ → Word} {j : ℕ} (inside : j < k.length)
    (filled : (M.getD j 0).toBitVec = w j) (v : Variables) :
    (mainLoop M v j).registers = Sha256.round (roundConstants.getD j 0) (w j) v.registers := by
  simp (disch := decide) only [mainLoop, Variables.registers, Sha256.round, UInt32.toBitVec_add, UInt32.toBitVec_xor,
    rotateRight_eq, UInt32.reduceToNat, bigSigma0, bigSigma1, k_eq j inside,
    filled]
  rfl

theorem foldl_mainLoop {M : List UInt32} {w : ℕ → Word} (filled : ∀ x < k.length, (M.getD x 0).toBitVec = w x)
    (v : Variables) {count : ℕ} (room : count ≤ k.length) :
    ((List.range count).foldl (mainLoop M) v).registers =
      (List.range count).foldl (fun r i => Sha256.round (roundConstants.getD i 0) (w (0 + i)) r) v.registers := by
  induction count with
  | zero => rfl
  | succ count ih =>
      rw [List.range_succ, List.foldl_append, List.foldl_append, ← ih (Nat.le_of_succ_le room)]
      simp only [List.foldl_cons, List.foldl_nil, Nat.zero_add]
      exact mainLoop_eq room (filled count room) _

/-- A block is compressed as the standard says. -/
theorem process32_eq (hh : Hash) {chunk : List UInt8} (full : chunk.length = blockSize) :
    (process32 hh chunk).registers = compress hh.registers (words chunk) := by
  have loop := foldl_mainLoop (schedule_eq full (Nat.le_refl k.length))
    ⟨hh[0], hh[1], hh[2], hh[3], hh[4], hh[5], hh[6], hh[7]⟩ (Nat.le_refl k.length)
  have start : Variables.registers ⟨hh[0], hh[1], hh[2], hh[3], hh[4], hh[5], hh[6], hh[7]⟩ = hh.registers := rfl
  have lengths : k.length = roundConstants.length := rfl
  rw [start, lengths, ← rounds_window (scheduled_expanded _), window_expanded] at loop
  rw [compress, ← loop]
  rfl

theorem foldl_process32 {chunks : List (List UInt8)} (full : ∀ chunk ∈ chunks, chunk.length = blockSize)
    (hh : Hash) : (chunks.foldl process32 hh).registers = (chunks.map words).foldl compress hh.registers := by
  induction chunks generalizing hh with
  | nil => rfl
  | cons chunk chunks ih =>
      rw [List.foldl_cons, ih (fun other mem => full other (List.mem_cons_of_mem chunk mem)),
        process32_eq hh (full chunk List.mem_cons_self)]
      rfl

end Blocks

section Padding

theorem bitPadding_eq (data : List UInt8) : bitPadding data 64 8 =
    data ++ [0x80] ++ List.replicate ((119 - data.length % 64) % 64) 0 := by
  unfold bitPadding
  dsimp only
  by_cases short : data.length % 64 < 64 - 8
  · have zeros : 64 - 8 - 1 - data.length % 64 = (119 - data.length % 64) % 64 := by omega
    rw [if_pos short, zeros]
  · have zeros : 64 + (64 - 8) - 1 - data.length % 64 = (119 - data.length % 64) % 64 := by omega
    rw [if_neg short]
    exact congrArg (fun n => data ++ [0x80] ++ List.replicate n 0) zeros

theorem arrayOfBytes_eq (value : ℕ) : arrayOfBytes value 8 = bytesOfNat 8 value := by
  have places : List.range (min 8 8) = [0, 1, 2, 3, 4, 5, 6, 7] := rfl
  rw [arrayOfBytes, places]
  simp [bytesOfNat, Nat.shiftRight_eq_div_pow, Nat.div_div_eq_div_mul]

theorem wordBytes_eq (h : UInt32) : wordBytes h = bytesOfNat 4 h.toBitVec.toNat := by
  simp only [wordBytes, bytesOfNat, List.nil_append, List.cons_append, List.cons.injEq, and_true]
  have mask : ∀ n, n % 256 &&& 255 = n % 256 := fun n => by
    rw [Nat.and_two_pow_sub_one_eq_mod (n % 256) 8]
    exact Nat.mod_mod n 256
  refine ⟨?_, ?_, ?_, ?_⟩
  all_goals
    apply UInt8.toNat_inj.mp
    simp [Nat.shiftRight_eq_div_pow, Nat.div_div_eq_div_mul, mask]

theorem output_eq (hh : Hash) : output hh = hh.registers.bytes := by
  have words : hh.toList = [hh[0], hh[1], hh[2], hh[3], hh[4], hh[5], hh[6], hh[7]] := by
    obtain ⟨⟨list⟩, size⟩ := hh
    match list, size with
    | [_, _, _, _, _, _, _, _], _ => rfl
  simp only [output, words, Registers.bytes, Hash.registers, List.flatMap_cons, List.flatMap_nil, wordBytes_eq]

end Padding

section Stream

theorem foldl_processChunk {isLast : Bool} {count : ℕ} {chunks : List (List UInt8)}
    (full : ∀ chunk ∈ chunks, chunk.length = blockSize) (hh : Hash) {start : ℕ}
    (room : start + chunks.flatten.length ≤ count) :
    chunks.foldl (processChunk isLast count) (hh, start) =
      (chunks.foldl process32 hh, start + chunks.flatten.length) := by
  induction chunks generalizing hh start with
  | nil => rfl
  | cons chunk chunks ih =>
      have length := full chunk List.mem_cons_self
      rw [List.flatten_cons, List.length_append] at room
      have taken : processChunk isLast count (hh, start) chunk = (process32 hh chunk, start + chunk.length) := by
        refine if_pos (.inr ?_)
        change blockSize ≤ count - start
        omega
      rw [List.foldl_cons, taken, ih (fun other mem => full other (List.mem_cons_of_mem chunk mem)) _ (by omega),
        List.foldl_cons, List.flatten_cons, List.length_append, Nat.add_assoc]

/-- The loop takes the whole blocks and leaves what is short of one. -/
theorem loop_eq {isLast : Bool} {chunks : List (List UInt8)} {kept : List UInt8}
    (full : ∀ chunk ∈ chunks, chunk.length = blockSize) (less : kept.length < blockSize)
    (complete : isLast = true → kept = []) (hh : Hash) :
    ((chunks.flatten ++ kept).toChunks blockSize).foldl
        (processChunk isLast (chunks.flatten ++ kept).length) (hh, 0) =
      (chunks.foldl process32 hh, chunks.flatten.length) := by
  rw [toChunks_flatten_append blockSize_pos full, List.foldl_append, foldl_processChunk full hh (by simp),
    Nat.zero_add]
  by_cases empty : kept = []
  · rw [empty]
    rfl
  · have left : ¬ (isLast = true ∨ (chunks.flatten ++ kept).length - chunks.flatten.length ≥ blockSize) := by
      intro taken
      cases taken with
      | inl last => exact empty (complete last)
      | inr more =>
          rw [List.length_append] at more
          omega
    rw [toChunks_short empty less, List.foldl_cons, List.foldl_nil, processChunk, if_neg left]

/-- What an instance has of its message -/
def progress (s : SHA2) : Progress UInt8 Hash := ⟨s.accumulatedHash32, s.accumulated⟩

/-- The hash and the kept bytes after some more bytes of the padded message -/
def absorbed (s : SHA2) (bytes : List UInt8) : Progress UInt8 Hash :=
  absorb blockSize process32 s.progress bytes

def advance (s : SHA2) (bytes : List UInt8) (isLast : Bool) : SHA2 :=
  ⟨(s.absorbed bytes).kept,
    s.processedBytesTotalCount + (s.accumulated.length + bytes.length - (s.absorbed bytes).kept.length),
    if isLast then init.accumulatedHash32 else (s.absorbed bytes).state⟩

theorem update_eq {s : SHA2} {bytes rest : List UInt8} {isLast : Bool}
    (buffer : s.buffered bytes isLast = some (s.accumulated ++ rest))
    (complete : isLast = true → (s.accumulated.length + rest.length) % blockSize = 0) :
    s.update bytes isLast =
      if (s.advance rest isLast).processedBytesTotalCount < 2 ^ 63 then
        some (output (s.absorbed rest).state, s.advance rest isLast)
      else none := by
  obtain ⟨chunks, kept, full, less, split⟩ := exists_split blockSize_pos (s.accumulated ++ rest)
  have progress : s.absorbed rest = ⟨chunks.foldl process32 s.accumulatedHash32, kept⟩ :=
    absorb_split full less split
  have empty : isLast = true → kept = [] := by
    intro last
    have length := length_kept (f := process32) (n := blockSize) s.progress rest
    rw [← absorbed, progress, SHA2.progress, complete last] at length
    exact List.length_eq_zero_iff.mp length
  have taken : s.accumulated.length + rest.length - kept.length = chunks.flatten.length := by
    rw [← List.length_append, split, List.length_append, Nat.add_sub_cancel]
  rw [update, buffer, advance, progress]
  simp only [Option.bind_eq_bind, Option.bind_some, split, loop_eq full less empty, List.drop_left, taken]

theorem update_more (s : SHA2) (bytes : List UInt8) :
    s.update bytes false =
      if (s.advance bytes false).processedBytesTotalCount < 2 ^ 63 then
        some (output (s.absorbed bytes).state, s.advance bytes false)
      else none :=
  update_eq rfl nofun

end Stream

structure Call where
  bytes : List UInt8
  isLast : Bool

/-- An instance after some calls, none of which trapped -/
def after (s : SHA2) (calls : List Call) : Option SHA2 :=
  calls.foldlM (fun s call => (s.update call.bytes call.isLast).map Prod.snd) s

/-- How many bytes the finished messages came to with their padding, and the message since then -/
structure Fed where
  finished : ℕ
  message : List UInt8

def Fed.next (fed : Fed) (call : Call) : Fed :=
  if call.isLast then ⟨fed.finished + (pad (fed.message ++ call.bytes)).length, []⟩
  else { fed with message := fed.message ++ call.bytes }

def fed (calls : List Call) : Fed := calls.foldl Fed.next ⟨0, []⟩

/-- All bytes that the instance has counted -/
def Fed.total (fed : Fed) : ℕ := fed.finished + fed.message.length

section Answers

theorem output_padded (counted : ℕ) (message : List UInt8) :
    output (init.absorbed (padded counted message)).state = hashPadded (padded counted message) := by
  obtain ⟨chunks, kept, full, less, split⟩ := exists_split blockSize_pos (padded counted message)
  have absorbed : init.absorbed (padded counted message) = ⟨chunks.foldl process32 init.accumulatedHash32, kept⟩ :=
    absorb_split full less split
  have empty : kept = [] := by
    have length := length_kept (f := process32) (n := blockSize) init.progress (padded counted message)
    rw [← SHA2.absorbed, absorbed, padded, List.length_append, length_closing] at length
    apply List.eq_nil_of_length_eq_zero
    rw [length]
    change (0 + (message.length + (9 + (119 - message.length % 64) % 64))) % 64 = 0
    omega
  have start : init.accumulatedHash32.registers = initial := by
    simp [Hash.registers, init, h, initial]
  rw [absorbed, split, empty, List.append_nil, output_eq, hashPadded, blocks_flatten full, foldl_process32 full, start]

theorem total_next (fed : Fed) (call : Call) : fed.total ≤ (fed.next call).total := by
  unfold Fed.next
  split
  · rw [Fed.total, Fed.total, length_pad, List.length_append]
    dsimp only
    omega
  · rw [Fed.total, Fed.total, List.length_append]
    dsimp only
    omega

/-- The blocks of the message so far are processed, and all bytes are counted. -/
structure Holds (s : SHA2) (fed : Fed) : Prop where
  progress : s.progress = init.absorbed fed.message
  count : s.processedBytesTotalCount + s.accumulated.length = fed.finished + fed.message.length

theorem holds_init : Holds init ⟨0, []⟩ := ⟨rfl, rfl⟩

section Step

variable {s : SHA2} {fed : Fed} (holds : Holds s fed)
include holds

theorem Holds.length : s.accumulated.length = fed.message.length % blockSize := by
  have length := congrArg (List.length ∘ Progress.kept) holds.progress
  simpa only [Function.comp_apply, absorbed, length_kept, SHA2.progress, init, List.length_nil, Nat.zero_add]
    using length

theorem Holds.absorbed (bytes : List UInt8) : s.absorbed bytes = init.absorbed (fed.message ++ bytes) := by
  rw [SHA2.absorbed, holds.progress, SHA2.absorbed, absorb_append blockSize_pos]
  rfl

theorem Holds.advance_count (bytes : List UInt8) (isLast : Bool) :
    (s.advance bytes isLast).processedBytesTotalCount + (s.advance bytes isLast).accumulated.length =
      fed.finished + (fed.message.length + bytes.length) := by
  have count := holds.count
  have kept : (s.absorbed bytes).kept.length = (s.accumulated.length + bytes.length) % blockSize := length_kept _ _
  have less := Nat.mod_le (s.accumulated.length + bytes.length) blockSize
  change s.processedBytesTotalCount + (s.accumulated.length + bytes.length - (s.absorbed bytes).kept.length) +
    (s.absorbed bytes).kept.length = _
  omega

/-- Bytes before the last ones are taken in as they come. -/
theorem Holds.next (bytes : List UInt8) : Holds (s.advance bytes false) (fed.next ⟨bytes, false⟩) where
  progress := holds.absorbed bytes
  count := by
    rw [holds.advance_count, Fed.next, if_neg nofun, List.length_append]

/-- The bytes that a finished message is closed with -/
theorem Holds.buffered (bytes : List UInt8) (room : fed.finished + (fed.message ++ bytes).length < 2 ^ 60) :
    s.buffered bytes true = some (s.accumulated ++ (bytes ++
      closing (fed.finished + (fed.message ++ bytes).length) (fed.message ++ bytes).length)) := by
  have count := holds.count
  have place : (s.accumulated ++ bytes).length % 64 = (fed.message ++ bytes).length % 64 := by
    rw [List.length_append, List.length_append, holds.length]
    exact Nat.mod_add_mod _ _ _
  have bits : (s.processedBytesTotalCount + (s.accumulated ++ bytes).length) * 8 =
      8 * (fed.finished + (fed.message ++ bytes).length) := by
    rw [List.length_append, List.length_append]
    omega
  have fits : 8 * (fed.finished + (fed.message ++ bytes).length) < 2 ^ 63 := by omega
  rw [← closing_mod, ← place, closing_mod, ← List.append_assoc]
  simp only [SHA2.buffered, if_true, bits, fits]
  rw [show blockSize / 8 = 8 from rfl, arrayOfBytes_eq, show blockSize = 64 from rfl, bitPadding_eq, closing]
  simp only [List.append_assoc]

theorem Holds.buffered_eq_none (bytes : List UInt8)
    (full : ¬ fed.finished + (fed.message ++ bytes).length < 2 ^ 60) : s.buffered bytes true = none := by
  have count := holds.count
  have excess : ¬ (s.processedBytesTotalCount + (s.accumulated ++ bytes).length) * 8 < 2 ^ 63 := by
    rw [List.length_append] at full ⊢
    omega
  simp only [SHA2.buffered, if_true, if_neg excess]

theorem Holds.complete (bytes : List UInt8) (counted : ℕ) :
    (s.accumulated.length + (bytes ++ closing counted (fed.message ++ bytes).length).length) % blockSize = 0 := by
  have length := holds.length
  have size : blockSize = 64 := rfl
  rw [List.length_append, length_closing, List.length_append, length, size]
  omega

/-- A finished message leaves nothing but the count of its bytes. -/
theorem Holds.finish (bytes : List UInt8) (counted : ℕ) :
    Holds (s.advance (bytes ++ closing counted (fed.message ++ bytes).length) true) (fed.next ⟨bytes, true⟩) := by
  have empty : (s.absorbed (bytes ++ closing counted (fed.message ++ bytes).length)).kept = [] := by
    apply List.eq_nil_of_length_eq_zero
    rw [SHA2.absorbed, length_kept]
    exact holds.complete bytes counted
  constructor
  · rw [SHA2.progress, advance, empty]
    exact (absorb_nil blockSize_pos).symm
  · have count := holds.advance_count (bytes ++ closing counted (fed.message ++ bytes).length) true
    rw [count, Fed.next, if_pos rfl, length_pad, List.length_append, List.length_append, length_closing]
    dsimp only [List.length_nil]
    omega

/-- The answer is the hash of the padded message. -/
theorem Holds.output (bytes : List UInt8) (counted : ℕ) :
    output (s.absorbed (bytes ++ closing counted (fed.message ++ bytes).length)).state =
      hashPadded (padded counted (fed.message ++ bytes)) := by
  rw [holds.absorbed, ← List.append_assoc]
  exact output_padded counted (fed.message ++ bytes)

theorem Holds.update_last (bytes : List UInt8) :
    s.update bytes true =
      if fed.finished + (fed.message ++ bytes).length < 2 ^ 60 then
        some (hashPadded (padded (fed.finished + (fed.message ++ bytes).length) (fed.message ++ bytes)),
          s.advance (bytes ++ closing (fed.finished + (fed.message ++ bytes).length)
            (fed.message ++ bytes).length) true)
      else none := by
  by_cases room : fed.finished + (fed.message ++ bytes).length < 2 ^ 60
  · have finished := holds.finish bytes (fed.finished + (fed.message ++ bytes).length)
    have counted := finished.count
    have small : (s.advance (bytes ++ closing (fed.finished + (fed.message ++ bytes).length)
        (fed.message ++ bytes).length) true).processedBytesTotalCount < 2 ^ 63 := by
      rw [Fed.next, if_pos rfl, length_pad] at counted
      dsimp only [List.length_nil] at counted
      omega
    rw [update_eq (holds.buffered bytes room) (fun _ => holds.complete bytes _), if_pos small, holds.output,
      if_pos room]
  · rw [SHA2.update, holds.buffered_eq_none bytes room, if_neg room]
    rfl

theorem Holds.step {call : Call} {s' : SHA2} (stepped : (s.update call.bytes call.isLast).map Prod.snd = some s') :
    Holds s' (fed.next call) := by
  obtain ⟨bytes, isLast⟩ := call
  cases isLast with
  | false =>
      rw [update_more] at stepped
      split at stepped
      · cases stepped
        exact holds.next bytes
      · cases stepped
  | true =>
      rw [holds.update_last] at stepped
      split at stepped
      · cases stepped
        exact holds.finish bytes _
      · cases stepped

/-- A call traps only when too many bytes have been counted. -/
theorem Holds.exists_step {call : Call} (room : (fed.next call).total < 2 ^ 60) :
    ∃ s', (s.update call.bytes call.isLast).map Prod.snd = some s' := by
  obtain ⟨bytes, isLast⟩ := call
  cases isLast with
  | false =>
      have count := (holds.next bytes).count
      have small : (s.advance bytes false).processedBytesTotalCount < 2 ^ 63 := by
        rw [Fed.total] at room
        omega
      rw [update_more, if_pos small]
      exact ⟨_, rfl⟩
  | true =>
      have room : fed.finished + (fed.message ++ bytes).length < 2 ^ 60 := by
        rw [Fed.total, Fed.next, if_pos rfl, length_pad] at room
        dsimp only at room
        omega
      rw [holds.update_last, if_pos room]
      exact ⟨_, rfl⟩

end Step

theorem after_concat (calls : List Call) (call : Call) :
    after init (calls ++ [call]) =
      (after init calls).bind fun s => (s.update call.bytes call.isLast).map Prod.snd := by
  rw [after, List.foldlM_append]
  simp [after]

theorem fed_concat (calls : List Call) (call : Call) : fed (calls ++ [call]) = (fed calls).next call := by
  rw [fed, List.foldl_append]
  rfl

theorem after_holds {calls : List Call} : ∀ {s}, after init calls = some s → Holds s (fed calls) := by
  induction calls using List.reverseRecOn with
  | nil =>
      intro s run
      cases run
      exact holds_init
  | append_singleton calls call ih =>
      intro s run
      rw [after_concat, Option.bind_eq_some_iff] at run
      obtain ⟨s₀, ran, stepped⟩ := run
      rw [fed_concat]
      exact (ih ran).step stepped

theorem exists_after {calls : List Call} (room : (fed calls).total < 2 ^ 60) : ∃ s, after init calls = some s := by
  induction calls using List.reverseRecOn with
  | nil => exact ⟨init, rfl⟩
  | append_singleton calls call ih =>
      rw [fed_concat] at room
      obtain ⟨s, ran⟩ := ih (Nat.lt_of_le_of_lt (total_next _ _) room)
      rw [after_concat, ran]
      exact (after_holds ran).exists_step room

theorem finished_eq_zero_iff (calls : List Call) :
    (fed calls).finished = 0 ↔ ∀ call ∈ calls, call.isLast = false := by
  induction calls using List.reverseRecOn with
  | nil => exact ⟨nofun, fun _ => rfl⟩
  | append_singleton calls call ih =>
      rw [fed_concat, List.forall_mem_append, List.forall_mem_singleton, ← ih, Fed.next]
      cases call.isLast with
      | false => simp
      | true => simp [length_pad]

/-- However the messages of an instance are cut, an answer is the hash of the message since the
last answer, closed with the count of all bytes. That is the standard's digest just for the
instance's first message. -/
theorem answers_digest_iff (calls : List Call) (last : List UInt8) :
    let message := (fed calls).message ++ last
    let counted := (fed calls).finished + message.length
    ((after init calls).bind fun s => s.update last true).map Prod.fst =
        (if counted < 2 ^ 60 then some (hashPadded (padded counted message)) else none) ∧
      (counted < 2 ^ 60 → (padded counted message = pad message ↔ ∀ call ∈ calls, call.isLast = false)) := by
  intro message counted
  constructor
  · by_cases room : counted < 2 ^ 60
    · have before : (fed calls).total < 2 ^ 60 := by
        have counted : counted = (fed calls).finished + ((fed calls).message.length + last.length) :=
          congrArg _ (List.length_append ..)
        rw [Fed.total]
        omega
      obtain ⟨s, ran⟩ := exists_after before
      rw [ran, Option.bind_some, (after_holds ran).update_last, if_pos room, if_pos room]
      rfl
    · rw [if_neg room, Option.map_eq_none_iff, Option.bind_eq_none_iff]
      intro s ran
      rw [(after_holds ran).update_last, if_neg room]
  · intro room
    have part : message.length < 2 ^ 61 := by omega
    rw [pad_eq, padded_inj (by omega) part, ← finished_eq_zero_iff]
    omega

/-- A new instance computes the standard's digest in any pieces. -/
theorem calculate_eq (bytes : List UInt8) :
    calculate bytes = if bytes.length < 2 ^ 60 then some (digest bytes) else none := by
  rw [calculate, holds_init.update_last]
  simp only [List.nil_append, Nat.zero_add, digest_eq, pad_eq]
  split <;> rfl

/-- On iOS the key is cut from the digest of the shared number's text. -/
theorem getSharedKey_calculate (k : KeyExchanger) (fdPublic : ℕ)
    (short : (Nat.repr (modPow fdPublic k.mySecret k.bigPrime)).toUTF8.toList.length < 2 ^ 60) :
    (calculate (Nat.repr (modPow fdPublic k.mySecret k.bigPrime)).toUTF8.toList).map (·.take 16) =
      some (k.getSharedKey fdPublic) := by
  rw [calculate_eq, if_pos short]
  rfl

end Answers

end SHA2

end PetClump
