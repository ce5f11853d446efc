import Mathlib.Data.Nat.Notation

/-! # Base64

The text of a list of bytes, three bytes to four letters, and a reader that
ignores every character that is neither a letter of the alphabet nor padding.
-/

namespace Base64

def letters : List Char :=
  "ABCDEFGHIJKLMNOPQRSTUVWXYZabcdefghijklmnopqrstuvwxyz0123456789+/".toList

def padding : Char := '='

def letter (sextet : ℕ) : Char := letters.getD sextet padding

def value (c : Char) : Option ℕ := letters.idxOf? c

def encodeBytes : List UInt8 → List Char
  | [] => []
  | [a] => [letter (a.toNat / 4), letter (a.toNat % 4 * 16), padding, padding]
  | [a, b] =>
      [letter (a.toNat / 4), letter (a.toNat % 4 * 16 + b.toNat / 16), letter (b.toNat % 16 * 4), padding]
  | a :: b :: c :: rest =>
      letter (a.toNat / 4) :: letter (a.toNat % 4 * 16 + b.toNat / 16) ::
        letter (b.toNat % 16 * 4 + c.toNat / 64) :: letter (c.toNat % 64) :: encodeBytes rest

def encode (bytes : List UInt8) : String := String.ofList (encodeBytes bytes)

def byte (n : ℕ) : UInt8 := UInt8.ofNat n

/-- Letters by fours. Only the last four may end in padding. -/
def decodeLetters : List Char → Option (List UInt8)
  | [] => some []
  | a :: b :: c :: d :: rest =>
      if rest = [] ∧ c = padding ∧ d = padding then do
        let a ← value a
        let b ← value b
        pure [byte (a * 4 + b / 16)]
      else if rest = [] ∧ d = padding then do
        let a ← value a
        let b ← value b
        let c ← value c
        pure [byte (a * 4 + b / 16), byte (b % 16 * 16 + c / 4)]
      else do
        let a ← value a
        let b ← value b
        let c ← value c
        let d ← value d
        let rest ← decodeLetters rest
        pure (byte (a * 4 + b / 16) :: byte (b % 16 * 16 + c / 4) :: byte (c % 4 * 64 + d) :: rest)
  | _ => none

def decode (text : String) : Option (List UInt8) :=
  decodeLetters (text.toList.filter fun c => c = padding ∨ (value c).isSome)

theorem value_letter {sextet : ℕ} (small : sextet < 64) : value (letter sextet) = some sextet := by
  have all : ∀ sextet < 64, value (letter sextet) = some sextet := by decide +kernel
  exact all sextet small

theorem value_padding : value padding = none := by decide +kernel

theorem letter_ne_padding {sextet : ℕ} (small : sextet < 64) : letter sextet ≠ padding := by
  intro same
  have found := value_letter small
  rw [same, value_padding] at found
  cases found

theorem byte_of_eq {b : UInt8} {n : ℕ} (same : n = b.toNat) : byte n = b := by
  rw [same, byte, UInt8.ofNat_toNat]

theorem first_byte (a : UInt8) {more : ℕ} (small : more < 16) :
    byte (a.toNat / 4 * 4 + (a.toNat % 4 * 16 + more) / 16) = a :=
  byte_of_eq (by omega)

theorem second_byte (a b : UInt8) {more : ℕ} (small : more < 4) :
    byte ((a.toNat % 4 * 16 + b.toNat / 16) % 16 * 16 + (b.toNat % 16 * 4 + more) / 4) = b := by
  have range := b.toNat_lt
  exact byte_of_eq (by omega)

theorem third_byte (b c : UInt8) :
    byte ((b.toNat % 16 * 4 + c.toNat / 64) % 4 * 64 + c.toNat % 64) = c := by
  have range := c.toNat_lt
  exact byte_of_eq (by omega)

theorem decodeLetters_encodeBytes (bytes : List UInt8) :
    decodeLetters (encodeBytes bytes) = some bytes := by
  induction bytes using encodeBytes.induct with
  | case1 => rfl
  | case2 a =>
      have range := a.toNat_lt
      have restored := @first_byte a 0 (by omega)
      rw [encodeBytes, decodeLetters, if_pos ⟨rfl, rfl, rfl⟩, value_letter (by omega),
        value_letter (by omega)]
      simpa using restored
  | case3 a b =>
      have rangeA := a.toNat_lt
      have rangeB := b.toNat_lt
      have third := @letter_ne_padding (b.toNat % 16 * 4) (by omega)
      have restored := @second_byte a b 0 (by omega)
      rw [encodeBytes, decodeLetters, if_neg fun h => third h.2.1, if_pos ⟨rfl, rfl⟩,
        value_letter (by omega), value_letter (by omega), value_letter (by omega)]
      simpa [@first_byte a (b.toNat / 16) (by omega)] using restored
  | case4 a b c rest ih =>
      have rangeA := a.toNat_lt
      have rangeB := b.toNat_lt
      have rangeC := c.toNat_lt
      have fourth := @letter_ne_padding (c.toNat % 64) (by omega)
      rw [encodeBytes, decodeLetters, if_neg fun h => fourth h.2.2, if_neg fun h => fourth h.2,
        value_letter (by omega), value_letter (by omega), value_letter (by omega),
        value_letter (by omega), ih]
      simp only [Option.bind_eq_bind, Option.bind_some, Option.pure_def, third_byte,
        @first_byte a (b.toNat / 16) (by omega), @second_byte a b (c.toNat / 64) (by omega)]

theorem known_of_mem_encodeBytes {bytes : List UInt8} {c : Char} (mem : c ∈ encodeBytes bytes) :
    c = padding ∨ (value c).isSome := by
  have known : ∀ sextet < 64, (value (letter sextet)).isSome := by
    intro sextet small
    rw [value_letter small]
    rfl
  induction bytes using encodeBytes.induct with
  | case1 => cases mem
  | case2 a =>
      have range := a.toNat_lt
      simp only [encodeBytes, List.mem_cons, List.not_mem_nil, or_false] at mem
      rcases mem with rfl | rfl | rfl | rfl
      · exact .inr (known _ (by omega))
      · exact .inr (known _ (by omega))
      · exact .inl rfl
      · exact .inl rfl
  | case3 a b =>
      have rangeA := a.toNat_lt
      have rangeB := b.toNat_lt
      simp only [encodeBytes, List.mem_cons, List.not_mem_nil, or_false] at mem
      rcases mem with rfl | rfl | rfl | rfl
      · exact .inr (known _ (by omega))
      · exact .inr (known _ (by omega))
      · exact .inr (known _ (by omega))
      · exact .inl rfl
  | case4 a b c' rest ih =>
      have rangeA := a.toNat_lt
      have rangeB := b.toNat_lt
      have rangeC := c'.toNat_lt
      simp only [encodeBytes, List.mem_cons] at mem
      rcases mem with rfl | rfl | rfl | rfl | later
      · exact .inr (known _ (by omega))
      · exact .inr (known _ (by omega))
      · exact .inr (known _ (by omega))
      · exact .inr (known _ (by omega))
      · exact ih later

theorem decode_encode (bytes : List UInt8) : decode (encode bytes) = some bytes := by
  have known : (encodeBytes bytes).filter (fun c => c = padding ∨ (value c).isSome) =
      encodeBytes bytes :=
    List.filter_eq_self.mpr fun c mem => decide_eq_true (known_of_mem_encodeBytes mem)
  rw [decode, encode, String.toList_ofList, known, decodeLetters_encodeBytes]

end Base64
