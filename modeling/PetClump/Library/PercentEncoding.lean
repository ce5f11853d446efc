import Mathlib.Data.Nat.Notation
import Mathlib.Logic.Function.Basic

/-! # Percent encoding

A character that is not allowed is replaced by the escapes of its UTF-8 bytes. When the
percent sign is not allowed, and nothing outside ASCII is, the text can be read back.
-/

namespace PercentEncoding

/-- A digit, or a capital letter from `A` on -/
def hexDigit (n : ℕ) : Char := if n < 10 then Char.ofNat (48 + n) else Char.ofNat (55 + n)

def hexValue (c : Char) : ℕ := if c.toNat < 58 then c.toNat - 48 else c.toNat - 55

def escapeByte (b : UInt8) : List Char := ['%', hexDigit (b.toNat / 16), hexDigit (b.toNat % 16)]

section Encoding

variable (allowed : Char → Bool)

def encodeChar (c : Char) : List Char :=
  if allowed c then [c] else (String.utf8EncodeChar c).flatMap escapeByte

def encode (s : String) : String := String.ofList (s.toList.flatMap (encodeChar allowed))

/-- The bytes of the text before it was encoded -/
def decode : List Char → List UInt8
  | '%' :: high :: low :: rest => UInt8.ofNat (hexValue high * 16 + hexValue low) :: decode rest
  | c :: rest => c.val.toUInt8 :: decode rest
  | [] => []

/-- What has to be escaped is. -/
structure Reversible : Prop where
  ascii : ∀ c, allowed c → c.val ≤ 127
  percent : allowed '%' = false

end Encoding

variable {allowed : Char → Bool}

theorem hexValue_hexDigit : ∀ n < 16, hexValue (hexDigit n) = n := by decide

theorem decode_escapeByte (b : UInt8) (rest : List Char) : decode (escapeByte b ++ rest) = b :: decode rest := by
  have bound : b.toNat < 256 := b.toNat_lt
  rw [escapeByte, List.cons_append, List.cons_append, List.cons_append, List.nil_append, decode,
    hexValue_hexDigit _ (by omega), hexValue_hexDigit _ (by omega), Nat.div_add_mod', UInt8.ofNat_toNat]

theorem decode_escapes (bytes : List UInt8) (rest : List Char) :
    decode (bytes.flatMap escapeByte ++ rest) = bytes ++ decode rest := by
  induction bytes with
  | nil => rfl
  | cons b bytes ih => rw [List.flatMap_cons, List.append_assoc, decode_escapeByte, ih, List.cons_append]

theorem decode_plain {c : Char} (other : c ≠ '%') (rest : List Char) :
    decode (c :: rest) = c.val.toUInt8 :: decode rest := by
  rw [decode]
  intro _ _ _ same
  exact absurd same other

theorem decode_encodeChar (reversible : Reversible allowed) (c : Char) (rest : List Char) :
    decode (encodeChar allowed c ++ rest) = String.utf8EncodeChar c ++ decode rest := by
  unfold encodeChar
  split
  · rename_i plain
    have other : c ≠ '%' := by
      intro same
      rw [same, reversible.percent] at plain
      cases plain
    have single : c.utf8Size = 1 := Char.utf8Size_eq_one_iff.mpr (reversible.ascii c plain)
    rw [List.singleton_append, decode_plain other, String.utf8EncodeChar_eq_singleton single, List.singleton_append]
  · exact decode_escapes _ rest

theorem decode_encode (reversible : Reversible allowed) (s : String) :
    decode (encode allowed s).toList = s.toList.flatMap String.utf8EncodeChar := by
  rw [encode, String.toList_ofList]
  induction s.toList with
  | nil => rfl
  | cons c chars ih => rw [List.flatMap_cons, decode_encodeChar reversible, ih, List.flatMap_cons]

theorem encode_injective (reversible : Reversible allowed) : Function.Injective (encode allowed) := by
  intro s t same
  have bytes : s.toList.utf8Encode = t.toList.utf8Encode := by
    unfold List.utf8Encode
    rw [← decode_encode reversible, ← decode_encode reversible, same]
  have chars : some s.toList.toArray = some t.toList.toArray := by
    rw [← List.utf8Decode?_utf8Encode, ← List.utf8Decode?_utf8Encode, bytes]
  exact String.toList_inj.mp (Array.toList_inj.mpr (Option.some.inj chars))

end PercentEncoding
