import PetClump.Library.JavaString
import PetClump.Library.PartialMap

/-! # Decoding a message document

Both clients parse the text of the initialization vector before they decrypt.
Decryption catches its errors and shows a text for them; the parsers do not.
`none` is an exception on Android and a trap on iOS, and ends the listener.
-/

namespace PetClump.Decoding

open JavaString PartialMap

def comma : ℕ := 44

def space : ℕ := 32

/-- The fields of a message document that are decoded. -/
structure Document where
  iv : Option String
  text : Option String
  deriving DecidableEq

namespace Android

inductive Thrown where
  | badPadding
  | other

/-- `doFinal` stands for the body of the `try` block. -/
def decrypt (doFinal : List UInt8 → List UInt8 → String → Except Thrown String)
    (key iv : List UInt8) (cipherText : String) : String :=
  match doFinal key iv cipherText with
  | .ok original => original
  | .error .badPadding => "Error Padding"
  | .error .other => "Error"

def convertIV (iv : String) : Option (List UInt8) := do
  let parse ← substring (units iv) 1 ((units iv).length - 1)
  (split comma (remove space parse)).mapM fun segment => (parseInt segment).map UInt8.ofInt

def decodeString (doFinal : List UInt8 → List UInt8 → String → Except Thrown String)
    (iv text : String) (sharedKeys : List UInt8) : Option String :=
  (convertIV iv).map fun bytes => decrypt doFinal sharedKeys bytes text

/-- One document in `listenToRoom`; `toString` is called on what may be null. -/
def listened (doFinal : List UInt8 → List UInt8 → String → Except Thrown String)
    (sharedKeys : List UInt8) (d : Document) : Option String := do
  let iv ← d.iv
  let text ← d.text
  decodeString doFinal iv text sharedKeys

end Android

namespace IOS

inductive Failure where
  | thrown
  | trap

section Cipher

-- `block` stands for the inverse of AES on one block
variable (block : List UInt8 → List UInt8 → List UInt8)

/-- Padding is removed from the last block alone, and left alone when it is longer than that. -/
def removePadding (bytes : List UInt8) : List UInt8 :=
  match bytes.getLast? with
  | none => bytes
  | some padding => if padding.toNat ≤ bytes.length then bytes.take (bytes.length - padding.toNat) else bytes

def cbc (key : List UInt8) : List UInt8 → List (List UInt8) → List UInt8
  | _, [] => []
  | prev, [last] => removePadding (List.zipWith (· ^^^ ·) prev (block key last))
  | prev, chunk :: rest => List.zipWith (· ^^^ ·) prev (block key chunk) ++ cbc key chunk rest

/-- `AES.decrypt`, which asks for the variant of the key when it comes to the first block -/
def aesDecrypt (key iv bytes : List UInt8) : Except Failure (List UInt8) :=
  if bytes.length % 16 ≠ 0 then .error .thrown
  else if iv.length ≠ 16 then .error .thrown
  else if bytes = [] then .error .thrown
  else if key.length = 16 ∨ key.length = 24 ∨ key.length = 32 then
    .ok (cbc block key iv (bytes.toChunks 16))
  else .error .trap

/-- `base64` ignores characters it does not know. -/
def decrypt (base64 : String → Option (List UInt8)) (key iv : List UInt8) (cipherText : String) :
    Option String :=
  match base64 cipherText with
  | none => some "error"
  | some encrypted =>
      match aesDecrypt block key iv encrypted with
      | .ok bytes => some ((String.fromUTF8? ⟨bytes.toArray⟩).getD "error")
      | .error .thrown => some "error"
      | .error .trap => none

end Cipher

def digit (c : ℕ) : Option ℕ := if 48 ≤ c ∧ c < 58 then some (c - 48) else none

/-- `UInt8(number)!` -/
def uint8 (number : List ℕ) : Option UInt8 :=
  ((Numeral.parse digit number).filter fun v => decide (0 ≤ v ∧ v ≤ 255)).map UInt8.ofInt

/-- The text without blanks and brackets. -/
def stripped (iv : String) : List ℕ :=
  (((iv.toList.map Char.toNat).filter (· ≠ space)).filter (· ≠ 91)).filter (· ≠ 93)

/-- Splitting between characters instead of grapheme clusters makes no difference, because a
cluster with a comma in it is no numeral and traps. -/
def convertIV (iv : String) : Option (List UInt8) :=
  if iv = "place_holder" then some []
  else (((stripped iv).splitOn comma).filter (· ≠ [])).mapM uint8

/-- `Message.init` and what follows it in `decodeData` -/
def decodeData (block : List UInt8 → List UInt8 → List UInt8)
    (base64 : String → Option (List UInt8)) (key : List UInt8) (d : Document) : Option String := do
  let message := d.text.getD "Error Message"
  let iv ← convertIV (d.iv.getD "No iv")
  decrypt block base64 key iv message

end IOS

open Numeral

/-- The text that Android takes the numbers from. -/
def inner (iv : String) : List ℕ := remove space (units iv).tail.dropLast

/-- Both texts are there, and what each client takes for numbers are numerals: within the range of
`int` for Android and within a byte for iOS. -/
def Readable (d : Document) : Prop :=
  d.text.isSome ∧ ∃ iv, d.iv = some iv ∧ 2 ≤ JavaString.length iv ∧
    (∀ piece ∈ split comma (inner iv), Within digit (-2147483648) 2147483647 piece) ∧
    ∀ piece ∈ (IOS.stripped iv).splitOn comma, piece ≠ [] → Within IOS.digit 0 255 piece

theorem ascii_digit_ios : Ascii IOS.digit where
  decimal := by decide
  no_plus := by decide
  no_minus := by decide

theorem uint8_isSome {piece : List ℕ} : (IOS.uint8 piece).isSome ↔ Within IOS.digit 0 255 piece := by
  simp only [IOS.uint8, Option.isSome_map, Option.isSome_iff_exists, Option.filter_eq_some_iff,
    decide_eq_true_eq, parse_eq_some ascii_digit_ios, Within]

theorem convertIV_isSome_android {iv : String} : (Android.convertIV iv).isSome ↔
    2 ≤ JavaString.length iv ∧
      ∀ piece ∈ split comma (inner iv), Within digit (-2147483648) 2147483647 piece := by
  rw [Android.convertIV, substring_inner]
  by_cases long : 2 ≤ (units iv).length
  · have pieces := @isSome_mapM_iff _ _ (fun segment => (parseInt segment).map UInt8.ofInt)
      (split comma (inner iv))
    simp only [Option.isSome_map, parseInt_isSome] at pieces
    rw [if_pos long, JavaString.length, ← pieces]
    exact ⟨fun h => ⟨long, h⟩, fun h => h.2⟩
  · rw [if_neg long]
    constructor
    · nofun
    · rintro ⟨short, _⟩
      exact absurd short long

theorem convertIV_isSome_ios {iv : String} (other : iv ≠ "place_holder") :
    (IOS.convertIV iv).isSome ↔
      ∀ piece ∈ (IOS.stripped iv).splitOn comma, piece ≠ [] → Within IOS.digit 0 255 piece := by
  rw [IOS.convertIV, if_neg other, isSome_mapM_iff]
  simp only [List.mem_filter, decide_eq_true_eq, uint8_isSome, and_imp]

/-- The placeholder that iOS knows is none that Android can read. -/
theorem place_holder_android : Android.convertIV "place_holder" = none := by decide +kernel

/-- The text that iOS puts in the place of a missing one is none that it can read. -/
theorem no_iv_traps : IOS.convertIV "No iv" = none := by decide +kernel

theorem aesDecrypt_ne_trap (block : List UInt8 → List UInt8 → List UInt8) {key : List UInt8}
    (size : key.length = 16) (iv bytes : List UInt8) :
    IOS.aesDecrypt block key iv bytes ≠ .error .trap := by
  rw [IOS.aesDecrypt]
  split_ifs with odd short empty known
  · nofun
  · nofun
  · nofun
  · nofun
  · exact absurd (.inl size) known

/-- With a key of the right size decryption always shows something. -/
theorem decrypt_isSome_ios (block : List UInt8 → List UInt8 → List UInt8)
    (base64 : String → Option (List UInt8)) {key : List UInt8} (size : key.length = 16)
    (iv : List UInt8) (cipherText : String) :
    (IOS.decrypt block base64 key iv cipherText).isSome := by
  rw [IOS.decrypt]
  cases base64 cipherText with
  | none => rfl
  | some encrypted =>
      dsimp only
      cases result : IOS.aesDecrypt block key iv encrypted with
      | ok bytes => rfl
      | error failure =>
          cases failure with
          | thrown => rfl
          | trap => exact absurd result (aesDecrypt_ne_trap block size iv encrypted)

section Snapshot

variable (doFinal : List UInt8 → List UInt8 → String → Except Android.Thrown String)
  (block : List UInt8 → List UInt8 → List UInt8) (base64 : String → Option (List UInt8))
  (key : List UInt8) (d : Document)

theorem listened_isSome : (Android.listened doFinal key d).isSome ↔
    d.text.isSome ∧ ∃ iv, d.iv = some iv ∧ (Android.convertIV iv).isSome := by
  obtain ⟨iv, text⟩ := d
  cases iv with
  | none => simp [Android.listened]
  | some iv =>
      cases text with
      | none => simp [Android.listened]
      | some text => simp [Android.listened, Android.decodeString]

theorem decodeData_isSome (size : key.length = 16) : (IOS.decodeData block base64 key d).isSome ↔
    (IOS.convertIV (d.iv.getD "No iv")).isSome := by
  rw [IOS.decodeData]
  cases IOS.convertIV (d.iv.getD "No iv") with
  | none => simp
  | some iv => simpa using decrypt_isSome_ios block base64 size iv (d.text.getD "Error Message")

/-- Both clients show something for a message exactly when both can read its texts. -/
theorem message_survives_iff (size : key.length = 16) :
    ((Android.listened doFinal key d).isSome ∧ (IOS.decodeData block base64 key d).isSome) ↔
      Readable d := by
  rw [listened_isSome, decodeData_isSome block base64 key d size, Readable]
  constructor
  · rintro ⟨⟨text, iv, present, android⟩, ios⟩
    rw [present, Option.getD_some] at ios
    have other : iv ≠ "place_holder" := by
      rintro rfl
      rw [place_holder_android] at android
      cases android
    obtain ⟨long, pieces⟩ := convertIV_isSome_android.mp android
    exact ⟨text, iv, present, long, pieces, (convertIV_isSome_ios other).mp ios⟩
  · rintro ⟨text, iv, present, long, pieces, bytes⟩
    have android := convertIV_isSome_android.mpr ⟨long, pieces⟩
    have other : iv ≠ "place_holder" := by
      rintro rfl
      rw [place_holder_android] at android
      cases android
    rw [present, Option.getD_some]
    exact ⟨⟨text, iv, rfl, android⟩, (convertIV_isSome_ios other).mpr bytes⟩

/-- A snapshot is processed to its end exactly when all its messages are readable. -/
theorem snapshot_survives_iff (size : key.length = 16) (docs : List Document) :
    ((docs.mapM (Android.listened doFinal key)).isSome ∧
      (docs.mapM (IOS.decodeData block base64 key)).isSome) ↔ ∀ d ∈ docs, Readable d := by
  rw [isSome_mapM_iff, isSome_mapM_iff]
  constructor
  · rintro ⟨android, ios⟩ d mem
    exact (message_survives_iff doFinal block base64 key d size).mp ⟨android d mem, ios d mem⟩
  · intro readable
    constructor
    · intro d mem
      exact ((message_survives_iff doFinal block base64 key d size).mpr (readable d mem)).1
    · intro d mem
      exact ((message_survives_iff doFinal block base64 key d size).mpr (readable d mem)).2

end Snapshot

theorem short_iv_is_shown :
    (([⟨some "[1, 2]", some "x"⟩] : List Document).mapM
        (Android.listened (fun _ _ _ => .error .other) (List.replicate 16 0))).isSome ∧
      (([⟨some "[1, 2]", some "x"⟩] : List Document).mapM
        (IOS.decodeData (fun _ bytes => bytes) (fun _ => none) (List.replicate 16 0))).isSome := by
  refine (snapshot_survives_iff _ _ _ _ rfl _).mpr fun d mem => ?_
  obtain rfl := List.mem_singleton.mp mem
  have android : (Android.convertIV "[1, 2]").isSome := by decide +kernel
  have ios : (IOS.convertIV "[1, 2]").isSome := by decide +kernel
  obtain ⟨long, pieces⟩ := convertIV_isSome_android.mp android
  exact ⟨rfl, "[1, 2]", rfl, long, pieces, (convertIV_isSome_ios (by decide)).mp ios⟩

/-- A message without an initialization vector ends listening, whatever the cipher does. -/
theorem missing_iv_ends_listening :
    ¬ ∃ (doFinal : List UInt8 → List UInt8 → String → Except Android.Thrown String)
      (block : List UInt8 → List UInt8 → List UInt8) (base64 : String → Option (List UInt8))
      (key : List UInt8), key.length = 16 ∧ ∀ d, (Android.listened doFinal key d).isSome ∧
        (IOS.decodeData block base64 key d).isSome := by
  rintro ⟨doFinal, block, base64, key, size, shown⟩
  have ios := (shown ⟨none, some "x"⟩).2
  rw [decodeData_isSome block base64 key _ size, Option.getD_none, no_iv_traps] at ios
  cases ios

end PetClump.Decoding
