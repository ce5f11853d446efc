import Mathlib.Data.BitVec
import Mathlib.Data.List.GetD
import PetClump.Library.Chunks

/-! # SHA-256

The digest of a byte list, as the Secure Hash Standard defines it. The message
schedule is kept as a sliding window of sixteen words instead of a table of
sixty-four, so the whole computation is structural recursion over lists.
-/

namespace Sha256

abbrev Word := BitVec 32

def roundConstants : List Word :=
  [0x428a2f98, 0x71374491, 0xb5c0fbcf, 0xe9b5dba5, 0x3956c25b, 0x59f111f1, 0x923f82a4, 0xab1c5ed5,
   0xd807aa98, 0x12835b01, 0x243185be, 0x550c7dc3, 0x72be5d74, 0x80deb1fe, 0x9bdc06a7, 0xc19bf174,
   0xe49b69c1, 0xefbe4786, 0x0fc19dc6, 0x240ca1cc, 0x2de92c6f, 0x4a7484aa, 0x5cb0a9dc, 0x76f988da,
   0x983e5152, 0xa831c66d, 0xb00327c8, 0xbf597fc7, 0xc6e00bf3, 0xd5a79147, 0x06ca6351, 0x14292967,
   0x27b70a85, 0x2e1b2138, 0x4d2c6dfc, 0x53380d13, 0x650a7354, 0x766a0abb, 0x81c2c92e, 0x92722c85,
   0xa2bfe8a1, 0xa81a664b, 0xc24b8b70, 0xc76c51a3, 0xd192e819, 0xd6990624, 0xf40e3585, 0x106aa070,
   0x19a4c116, 0x1e376c08, 0x2748774c, 0x34b0bcb5, 0x391c0cb3, 0x4ed8aa4a, 0x5b9cca4f, 0x682e6ff3,
   0x748f82ee, 0x78a5636f, 0x84c87814, 0x8cc70208, 0x90befffa, 0xa4506ceb, 0xbef9a3f7, 0xc67178f2]

/-- The eight working variables, which are also the eight words of the digest. -/
structure Registers where
  (a b c d e f g h : Word)

def initial : Registers :=
  ⟨0x6a09e667, 0xbb67ae85, 0x3c6ef372, 0xa54ff53a, 0x510e527f, 0x9b05688c, 0x1f83d9ab, 0x5be0cd19⟩

def smallSigma0 (x : Word) : Word := x.rotateRight 7 ^^^ x.rotateRight 18 ^^^ x >>> 3

def smallSigma1 (x : Word) : Word := x.rotateRight 17 ^^^ x.rotateRight 19 ^^^ x >>> 10

def bigSigma0 (x : Word) : Word := x.rotateRight 2 ^^^ x.rotateRight 13 ^^^ x.rotateRight 22

def bigSigma1 (x : Word) : Word := x.rotateRight 6 ^^^ x.rotateRight 11 ^^^ x.rotateRight 25

def round (constant word : Word) (r : Registers) : Registers :=
  let t1 := r.h + bigSigma1 r.e + ((r.e &&& r.f) ^^^ (~~~r.e &&& r.g)) + constant + word
  let t2 := bigSigma0 r.a + ((r.a &&& r.b) ^^^ (r.a &&& r.c) ^^^ (r.b &&& r.c))
  ⟨t1 + t2, r.a, r.b, r.c, r.d + t1, r.e, r.f, r.g⟩

/-- Drop the oldest word of the schedule window and append the next one. -/
def slide (window : List Word) : List Word :=
  window.tail ++
    [smallSigma1 (window.getD 14 0) + window.getD 9 0 + smallSigma0 (window.getD 1 0) +
      window.getD 0 0]

def rounds : List Word → List Word → Registers → Registers
  | [], _, r => r
  | k :: ks, window, r => rounds ks (slide window) (round k (window.getD 0 0) r)

def Registers.add (x y : Registers) : Registers :=
  ⟨x.a + y.a, x.b + y.b, x.c + y.c, x.d + y.d, x.e + y.e, x.f + y.f, x.g + y.g, x.h + y.h⟩

def compress (r : Registers) (block : List Word) : Registers :=
  r.add (rounds roundConstants block r)

def wordOfBytes (bytes : List UInt8) : Word :=
  BitVec.ofNat 32 (bytes.foldl (fun word b => word * 256 + b.toNat) 0)

/-- The lowest `count` bytes of a number, most significant first. -/
def bytesOfNat : ℕ → ℕ → List UInt8
  | 0, _ => []
  | count + 1, n => bytesOfNat count (n / 256) ++ [UInt8.ofNat n]

def pad (message : List UInt8) : List UInt8 :=
  message ++ [0x80] ++ List.replicate ((119 - message.length % 64) % 64) 0 ++
    bytesOfNat 8 (8 * message.length)

/-- The first `count` pieces of `size` elements. -/
def pieces {α : Type*} (size : ℕ) : ℕ → List α → List (List α)
  | 0, _ => []
  | count + 1, xs => xs.take size :: pieces size count (xs.drop size)

def blocks (padded : List UInt8) : List (List Word) :=
  (pieces 64 (padded.length / 64) padded).map fun block => (pieces 4 16 block).map wordOfBytes

def digest (message : List UInt8) : List UInt8 :=
  let r := (blocks (pad message)).foldl compress initial
  [r.a, r.b, r.c, r.d, r.e, r.f, r.g, r.h].flatMap fun word => bytesOfNat 4 word.toNat

@[simp] theorem length_bytesOfNat (count n : ℕ) : (bytesOfNat count n).length = count := by
  induction count generalizing n with
  | zero => rfl
  | succ count ih => simp only [bytesOfNat, List.length_append, ih, List.length_singleton]

@[simp] theorem length_digest (message : List UInt8) : (digest message).length = 32 := by
  simp [digest]

/-- What follows a message of some length when the length `counted` is written after it -/
def closing (counted length : ℕ) : List UInt8 :=
  [0x80] ++ List.replicate ((119 - length % 64) % 64) 0 ++ bytesOfNat 8 (8 * counted)

def padded (counted : ℕ) (message : List UInt8) : List UInt8 := message ++ closing counted message.length

def Registers.bytes (r : Registers) : List UInt8 :=
  [r.a, r.b, r.c, r.d, r.e, r.f, r.g, r.h].flatMap fun word => bytesOfNat 4 word.toNat

theorem pad_eq (message : List UInt8) : pad message = padded message.length message := by
  simp only [pad, padded, closing, List.append_assoc]

/-- The hash of a message that is padded already -/
def hashPadded (padded : List UInt8) : List UInt8 := ((blocks padded).foldl compress initial).bytes

theorem digest_eq (message : List UInt8) : digest message = hashPadded (pad message) := rfl

theorem bytesOfNat_inj {count m n : ℕ} (hm : m < 256 ^ count) (hn : n < 256 ^ count) :
    bytesOfNat count m = bytesOfNat count n ↔ m = n := by
  constructor
  · intro same
    induction count generalizing m n with
    | zero =>
      rw [Nat.pow_zero, Nat.lt_one_iff] at hm hn
      rw [hm, hn]
    | succ count ih =>
      rw [Nat.pow_succ] at hm hn
      obtain ⟨high, low⟩ := List.append_inj same (by rw [length_bytesOfNat, length_bytesOfNat])
      have high := ih (by omega) (by omega) high
      have low : m % 256 = n % 256 := by
        have bytes := congrArg UInt8.toNat (List.singleton_inj.mp low)
        simpa only [UInt8.toNat_ofNat'] using bytes
      omega
  · exact congrArg _

theorem padded_inj {message : List UInt8} {m n : ℕ} (hm : m < 2 ^ 61) (hn : n < 2 ^ 61) :
    padded m message = padded n message ↔ m = n := by
  rw [padded, padded, List.append_cancel_left_eq, closing, closing, List.append_cancel_left_eq,
    bytesOfNat_inj (by omega) (by omega)]
  omega

theorem length_closing (counted length : ℕ) :
    (closing counted length).length = 9 + (119 - length % 64) % 64 := by
  simp only [closing, List.length_append, List.length_singleton, List.length_replicate, length_bytesOfNat]
  omega

theorem length_pad (message : List UInt8) :
    (pad message).length = message.length + (9 + (119 - message.length % 64) % 64) := by
  rw [pad_eq, padded, List.length_append, length_closing]

/-- The closing bytes depend on the place in the last block only. -/
theorem closing_mod (counted length : ℕ) : closing counted (length % 64) = closing counted length := by
  rw [closing, Nat.mod_mod]
  rfl

theorem pieces_eq {α : Type*} (size count : ℕ) (xs : List α) :
    pieces size count xs = (List.range count).map fun i => (xs.drop (size * i)).take size := by
  induction count generalizing xs with
  | zero => rfl
  | succ count ih =>
    simp only [pieces, ih, List.range_succ_eq_map, List.map_cons, List.map_map, Nat.mul_zero, List.drop_zero]
    congr 2
    funext i
    simp only [Function.comp_apply, List.drop_drop, Nat.mul_succ, Nat.add_comm]

theorem pieces_flatten {α : Type*} {size : ℕ} {blocks : List (List α)}
    (full : ∀ block ∈ blocks, block.length = size) : pieces size blocks.length blocks.flatten = blocks := by
  induction blocks with
  | nil => rfl
  | cons block blocks ih =>
    rw [List.length_cons, List.flatten_cons, pieces, ← full block List.mem_cons_self, List.take_left,
      List.drop_left, full block List.mem_cons_self, ih fun other mem => full other (List.mem_cons_of_mem block mem)]

/-- The sixteen words of a block of bytes -/
def words (block : List UInt8) : List Word := (pieces 4 16 block).map wordOfBytes

theorem blocks_flatten {chunks : List (List UInt8)} (full : ∀ chunk ∈ chunks, chunk.length = 64) :
    blocks chunks.flatten = chunks.map words := by
  have count : chunks.flatten.length / 64 = chunks.length := by
    rw [Chunks.length_flatten full, Nat.mul_div_cancel _ (Nat.zero_lt_succ 63)]
  rw [blocks, count, pieces_flatten full]
  rfl

theorem words_getD {block : List UInt8} {i : ℕ} (inside : i < 16) :
    (words block).getD i 0 = wordOfBytes ((block.drop (4 * i)).take 4) := by
  simp [words, pieces_eq, List.getD_eq_getElem?_getD, inside]

/-- What the first sixteen words of a schedule grow to. -/
def Scheduled (w : ℕ → Word) : Prop :=
  ∀ x, w (x + 16) = smallSigma1 (w (x + 14)) + w (x + 9) + smallSigma0 (w (x + 1)) + w x

/-- The schedule of a block, without an end -/
def expanded (first : ℕ → Word) (x : ℕ) : Word :=
  if x < 16 then first x
  else smallSigma1 (expanded first (x - 2)) + expanded first (x - 7) +
    smallSigma0 (expanded first (x - 15)) + expanded first (x - 16)

theorem expanded_first (first : ℕ → Word) {x : ℕ} (early : x < 16) : expanded first x = first x := by
  rw [expanded, if_pos early]

theorem scheduled_expanded (first : ℕ → Word) : Scheduled (expanded first) := by
  intro x
  rw [expanded, if_neg (by omega)]
  rfl

def window (w : ℕ → Word) (j : ℕ) : List Word := (List.range 16).map fun i => w (j + i)

theorem window_expanded (block : List UInt8) : window (expanded fun i => (words block).getD i 0) 0 = words block := by
  apply List.ext_getElem
  · simp [window, words, pieces_eq]
  · intro i early inside
    have early : i < 16 := by simpa [window] using early
    simp only [window, List.getElem_map, List.getElem_range, Nat.zero_add, expanded_first _ early]
    exact List.getD_eq_getElem _ _ inside

theorem slide_window {w : ℕ → Word} (scheduled : Scheduled w) (j : ℕ) :
    slide (window w j) = window w (j + 1) := by
  have next : w (j + 1 + 15) = smallSigma1 (w (j + 14)) + w (j + 9) + smallSigma0 (w (j + 1)) + w j :=
    scheduled j
  simp only [slide, window, List.range, List.range.loop, List.map_cons, List.map_nil, List.tail_cons, List.cons_append,
    List.nil_append, next]
  simp only [Nat.add_assoc, Nat.reduceAdd, Nat.add_zero]
  rfl

/-- The rounds over the sliding window are those over the whole schedule. -/
theorem rounds_window {w : ℕ → Word} (scheduled : Scheduled w) (ks : List Word) (j : ℕ) (r : Registers) :
    rounds ks (window w j) r =
      (List.range ks.length).foldl (fun r i => round (ks.getD i 0) (w (j + i)) r) r := by
  induction ks generalizing j r with
  | nil => rfl
  | cons k ks ih =>
    rw [rounds, slide_window scheduled, ih, List.length_cons, List.range_succ_eq_map, List.foldl_cons, List.foldl_map]
    simp only [List.getD_cons_zero, List.getD_cons_succ, Nat.add_zero, Nat.succ_eq_add_one, Nat.add_assoc,
      Nat.add_comm 1]
    rfl

example : digest [97, 98, 99] =
    [0xba, 0x78, 0x16, 0xbf, 0x8f, 0x01, 0xcf, 0xea, 0x41, 0x41, 0x40, 0xde, 0x5d, 0xae, 0x22, 0x23,
     0xb0, 0x03, 0x61, 0xa3, 0x96, 0x17, 0x7a, 0x9c, 0xb4, 0x10, 0xff, 0x61, 0xf2, 0x00, 0x15, 0xad] := by
  decide +kernel

end Sha256
