import PetClump.Library.Base64
import PetClump.Library.Chunks

/-! # Base64 in lines

The same letters in lines of 76, and a reader that does not ask for the padding
at the end. Both readers leave the line breaks out.
-/

namespace Base64

def lineBreak : Char := '\n'

def encodeLines (bytes : List UInt8) : String :=
  String.ofList (((encodeBytes bytes).toChunks 76).flatMap fun line => line ++ [lineBreak])

/-- Letters by fours. What is left at the end may be two or three letters without padding. -/
def decodeOpen : List Char → Option (List UInt8)
  | [] => some []
  | [a, b] => do
      let a ← value a
      let b ← value b
      pure [byte (a * 4 + b / 16)]
  | [a, b, c] => do
      let a ← value a
      let b ← value b
      let c ← value c
      pure [byte (a * 4 + b / 16), byte (b % 16 * 16 + c / 4)]
  | a :: b :: c :: d :: rest =>
      if rest = [] ∧ c = padding ∧ d = padding then do
        let a ← value a
        let b ← value b
        pure [byte (a * 4 + b / 16)]
      else if rest = [] ∧ d = padding then do
        let a ← value a
        let b ← value b
        let c ← value c
        pure [byte (a * 4 + b / 16), byte (b % 16 * 16 + c / 4)]
      else do
        let a ← value a
        let b ← value b
        let c ← value c
        let d ← value d
        let rest ← decodeOpen rest
        pure (byte (a * 4 + b / 16) :: byte (b % 16 * 16 + c / 4) :: byte (c % 4 * 64 + d) :: rest)
  | _ => none

def decodeLenient (text : String) : Option (List UInt8) :=
  decodeOpen (text.toList.filter fun c => c = padding ∨ (value c).isSome)

/-- What the strict reader accepts is read the same way. -/
theorem decodeOpen_of_decodeLetters {letters : List Char} {bytes : List UInt8}
    (read : decodeLetters letters = some bytes) : decodeOpen letters = some bytes := by
  induction letters using decodeLetters.induct generalizing bytes with
  | case1 => exact read
  | case2 a b c d rest last => simpa [decodeLetters, decodeOpen, last] using read
  | case3 a b c d rest more last =>
      rw [decodeLetters, if_neg more, if_pos last] at read
      rw [decodeOpen, if_neg more, if_pos last, read]
  | case4 a b c d rest more most ih =>
      rw [decodeLetters, if_neg more, if_neg most] at read
      rw [decodeOpen, if_neg more, if_neg most]
      cases tail : decodeLetters rest with
      | none => simp [tail] at read
      | some others =>
          rw [ih tail]
          rwa [tail] at read
  | case5 letters short long => simp [decodeLetters] at read

theorem letters_of_encode (bytes : List UInt8) :
    (encode bytes).toList.filter (fun c => c = padding ∨ (value c).isSome) = encodeBytes bytes := by
  rw [encode, String.toList_ofList]
  exact List.filter_eq_self.mpr fun c mem => decide_eq_true (known_of_mem_encodeBytes mem)

theorem letters_of_encodeLines (bytes : List UInt8) :
    (encodeLines bytes).toList.filter (fun c => c = padding ∨ (value c).isSome) =
      encodeBytes bytes := by
  have unknown : decide (lineBreak = padding ∨ (value lineBreak).isSome) = false := by decide +kernel
  have broken (lines : List (List Char)) :
      (lines.flatMap fun line => line ++ [lineBreak]).filter
        (fun c => c = padding ∨ (value c).isSome) =
      lines.flatten.filter (fun c => c = padding ∨ (value c).isSome) := by
    induction lines with
    | nil => rfl
    | cons line lines ih =>
        rw [List.flatMap_cons, List.filter_append, List.filter_append, ih,
          List.filter_cons_of_neg (by simp [unknown]), List.filter_nil, List.append_nil,
          List.flatten_cons, List.filter_append]
  rw [encodeLines, String.toList_ofList, broken, Chunks.flatten_toChunks, ← letters_of_encode,
    encode, String.toList_ofList]
  simp

theorem decode_encodeLines (bytes : List UInt8) : decode (encodeLines bytes) = some bytes := by
  rw [decode, letters_of_encodeLines, decodeLetters_encodeBytes]

theorem decodeLenient_encode (bytes : List UInt8) : decodeLenient (encode bytes) = some bytes := by
  rw [decodeLenient, letters_of_encode]
  exact decodeOpen_of_decodeLetters (decodeLetters_encodeBytes bytes)

theorem decodeLenient_encodeLines (bytes : List UInt8) :
    decodeLenient (encodeLines bytes) = some bytes := by
  rw [decodeLenient, letters_of_encodeLines]
  exact decodeOpen_of_decodeLetters (decodeLetters_encodeBytes bytes)

end Base64
