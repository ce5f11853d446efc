import PetClump.Chat.Decoding

/-! # The text of an initialization vector

A message document carries its initialization vector as text. iOS uploads
Swift's description of the bytes. Android builds the same text number by number
and cuts off the first blank and the last comma.
-/

namespace PetClump.Encoding

open JavaString Numeral
open Decoding (comma space)

namespace Android

/-- A byte is signed and widened to an `int` before `& 0xFF`. -/
def unsignedByte (i : UInt8) : ℤ := (i.toBitVec.signExtend 32 &&& 0xFF#32).toInt

/-- What the loop of `convertIV` leaves in `temp`. -/
def temp (iv : List UInt8) : String :=
  iv.foldl (fun temp i => temp ++ (" " ++ (unsignedByte i).repr ++ ",")) ""

/-- `none` is the exception of `substring` for an empty array. -/
def convertIV (iv : List UInt8) : Option (List ℕ) :=
  (substring (units (temp iv)) 1 (JavaString.length (temp iv) - 1)).map fun inner =>
    units "[" ++ inner ++ units "]"

end Android

/-- `"\(iv)"` in Swift -/
def IOS.description (iv : List UInt8) : String :=
  "[" ++ ", ".intercalate (iv.map fun byte => byte.toNat.repr) ++ "]"

/-- The decimal digits of a byte. -/
def piece (byte : UInt8) : List ℕ := byte.toNat.repr.toList.map Char.toNat

theorem unsignedByte_eq (i : UInt8) : Android.unsignedByte i = i.toNat := by
  have all : ∀ v : BitVec 8, (v.signExtend 32 &&& 0xFF#32).toInt = v.toNat := by decide +kernel
  exact all i.toBitVec

theorem isDigit_of_mem_repr {byte : UInt8} {c : Char} (mem : c ∈ byte.toNat.repr.toList) :
    c.isDigit = true := by
  rw [Nat.toList_repr] at mem
  exact Nat.isDigit_of_mem_toDigits (by omega) (by omega) mem

theorem digit_of_mem_piece {byte : UInt8} {c : ℕ} (mem : c ∈ piece byte) : 48 ≤ c ∧ c < 58 := by
  obtain ⟨char, printed, rfl⟩ := List.mem_map.mp (show c ∈ List.map Char.toNat _ from mem)
  have isDigit := isDigit_of_mem_repr printed
  simp only [Char.isDigit, Bool.and_eq_true, decide_eq_true_eq] at isDigit
  have lower := UInt32.le_iff_toNat_le.mp isDigit.1
  have upper := UInt32.le_iff_toNat_le.mp isDigit.2
  exact ⟨lower, Nat.lt_succ_of_le upper⟩

theorem piece_ne_nil (byte : UInt8) : piece byte ≠ [] := by
  rw [piece, Nat.toList_repr, ne_eq, List.map_eq_nil_iff]
  exact Nat.toDigits_ne_nil

theorem denotes_piece {digit : ℕ → Option ℕ} (ascii : Ascii digit) (byte : UInt8) :
    Denotes digit (piece byte) byte.toNat :=
  .unsigned (magnitude_repr ascii byte.toNat)

/-- The numbers with a comma and a blank between them, as character codes. -/
def inner (iv : List UInt8) : List ℕ := [comma, space].intercalate (iv.map piece)

theorem toList_description (iv : List UInt8) :
    (IOS.description iv).toList.map Char.toNat = 91 :: inner iv ++ [93] := by
  have between : (", ".intercalate (iv.map fun byte => byte.toNat.repr)).toList.map Char.toNat =
      inner iv := by
    rw [String.toList_intercalate, List.map_map, inner]
    induction iv with
    | nil => rfl
    | cons byte iv ih =>
        cases iv with
        | nil => simp [piece]
        | cons other iv =>
            simp only [List.map_cons, List.intercalate_cons_cons, List.map_append] at ih ⊢
            rw [ih]
            rfl
  simp only [IOS.description, String.toList_append, List.map_append, between]
  rfl

theorem mem_inner {iv : List UInt8} {c : ℕ} (mem : c ∈ inner iv) :
    c = comma ∨ c = space ∨ (48 ≤ c ∧ c < 58) := by
  cases mem_intercalate mem with
  | inl between => simpa [or_assoc] using Or.inl (List.mem_pair.mp between)
  | inr within =>
      obtain ⟨part, mem, inside⟩ := within
      obtain ⟨byte, _, rfl⟩ := List.mem_map.mp mem
      exact .inr (.inr (digit_of_mem_piece inside))

theorem units_description (iv : List UInt8) :
    units (IOS.description iv) = 91 :: inner iv ++ [93] := by
  rw [← toList_description]
  refine units_ascii fun c mem => ?_
  have code : c.toNat ∈ 91 :: inner iv ++ [93] := toList_description iv ▸ List.mem_map_of_mem mem
  simp only [List.cons_append, List.mem_cons, List.mem_append, List.not_mem_nil, or_false] at code
  rcases code with opening | between | closing
  · omega
  · have known := mem_inner between
    simp only [comma, space] at known
    omega
  · omega

theorem toList_temp (iv : List UInt8) : (Android.temp iv).toList =
    iv.flatMap fun byte => ' ' :: byte.toNat.repr.toList ++ [','] := by
  have grow : ∀ temp : String,
      (iv.foldl (fun temp i => temp ++ (" " ++ (Android.unsignedByte i).repr ++ ",")) temp).toList =
        temp.toList ++ iv.flatMap fun byte => ' ' :: byte.toNat.repr.toList ++ [','] := by
    induction iv with
    | nil => simp
    | cons byte iv ih =>
        intro temp
        rw [List.foldl_cons, ih, unsignedByte_eq]
        simp [Int.repr]
  exact grow ""

theorem units_temp (iv : List UInt8) :
    units (Android.temp iv) = iv.flatMap fun byte => space :: piece byte ++ [comma] := by
  have ascii : ∀ c ∈ (Android.temp iv).toList, c.toNat < 128 := by
    intro c mem
    rw [toList_temp, List.mem_flatMap] at mem
    obtain ⟨byte, _, mem⟩ := mem
    simp only [List.cons_append, List.mem_cons, List.mem_append, List.not_mem_nil, or_false] at mem
    rcases mem with rfl | printed | rfl
    · decide
    · exact toNat_lt_of_mem_toDigits (Nat.toList_repr ▸ printed)
    · decide
  rw [units_ascii ascii, toList_temp, List.map_flatMap]
  simp [piece, space, comma]

/-- Without the first blank and the last comma it is what stands between the brackets. -/
theorem cut_temp {iv : List UInt8} (nonempty : iv ≠ []) :
    (units (Android.temp iv)).tail.dropLast = inner iv := by
  have spaced : ∀ (byte : UInt8) (iv : List UInt8),
      (byte :: iv).flatMap (fun byte => space :: piece byte ++ [comma]) =
        space :: inner (byte :: iv) ++ [comma] := by
    intro byte iv
    induction iv generalizing byte with
    | nil => simp [inner]
    | cons next iv ih =>
        rw [List.flatMap_cons, ih next]
        simp [inner]
  obtain ⟨byte, rest, rfl⟩ := List.exists_cons_of_ne_nil nonempty
  rw [units_temp, spaced]
  simp

theorem convertIV_eq_description {iv : List UInt8} (nonempty : iv ≠ []) :
    Android.convertIV iv = some (units (IOS.description iv)) := by
  have long : 2 ≤ (units (Android.temp iv)).length := by
    obtain ⟨byte, rest, rfl⟩ := List.exists_cons_of_ne_nil nonempty
    simp [units_temp]
    omega
  rw [Android.convertIV, JavaString.length, substring_inner, if_pos long, cut_temp nonempty,
    units_description, units_ascii, units_ascii]
  · rfl
  · simp
  · simp

theorem pieces_without_comma {iv : List UInt8} : ∀ part ∈ iv.map piece, comma ∉ part := by
  intro part mem inside
  obtain ⟨byte, _, rfl⟩ := List.mem_map.mp mem
  have digit := digit_of_mem_piece inside
  simp [comma] at digit

/-- Blanks are the only thing that stands beside the numbers and the commas. -/
theorem filter_inner (keep : ℕ → Bool) (iv : List UInt8) (digits : ∀ c, 48 ≤ c → c < 58 → keep c)
    (commas : keep comma) (blanks : keep space = false) :
    (inner iv).filter keep = [comma].intercalate (iv.map piece) := by
  have kept : (iv.map piece).map (List.filter keep) = iv.map piece := by
    rw [List.map_map]
    refine List.map_congr_left fun byte _ => List.filter_eq_self.mpr fun c mem => ?_
    exact digits c (digit_of_mem_piece mem).1 (digit_of_mem_piece mem).2
  rw [inner, filter_intercalate, kept]
  simp [commas, blanks]

theorem mapM_pieces {parse : List ℕ → Option UInt8} (reads : ∀ byte, parse (piece byte) = some byte)
    (iv : List UInt8) : (iv.map piece).mapM parse = some iv := by
  induction iv with
  | nil => rfl
  | cons byte iv ih => rw [List.map_cons, List.mapM_cons, reads, ih]; rfl

theorem ofInt_toNat (byte : UInt8) : UInt8.ofInt byte.toNat = byte := by
  have small := byte.toNat_lt
  have residue : ((byte.toNat : ℤ) % 2 ^ 8).toNat = byte.toNat := by omega
  rw [UInt8.ofInt, residue, UInt8.ofNat_toNat]

theorem decoded_android {iv : List UInt8} (nonempty : iv ≠ []) :
    Decoding.Android.convertIV (IOS.description iv) = some iv := by
  have cut : (units (IOS.description iv)).tail.dropLast = inner iv := by
    rw [units_description]
    simp
  have long : 2 ≤ (units (IOS.description iv)).length := by simp [units_description]
  have pieces : iv.map piece ≠ [] := by simpa using nonempty
  have last : (iv.map piece).getLast pieces ≠ [] := by
    rw [List.getLast_map]
    exact piece_ne_nil _
  have segments : split comma (remove space (inner iv)) = iv.map piece := by
    rw [remove, filter_inner _ iv _ (by decide) (by decide),
      split_intercalate pieces pieces_without_comma last]
    intro c low high
    exact decide_eq_true (by simp only [space]; omega)
  have parsed : ∀ byte, (parseInt (piece byte)).map UInt8.ofInt = some byte := by
    intro byte
    have small := byte.toNat_lt
    rw [parseInt_eq_some.mpr ⟨denotes_piece ascii_digit byte, by omega, by omega⟩, Option.map_some,
      ofInt_toNat]
  rw [Decoding.Android.convertIV, substring_inner, if_pos long, cut]
  simp only [Option.bind_eq_bind, Option.bind_some, segments]
  exact mapM_pieces parsed iv

theorem uint8_piece (byte : UInt8) : Decoding.IOS.uint8 (piece byte) = some byte := by
  have small := byte.toNat_lt
  have value : parse Decoding.IOS.digit (piece byte) = some (byte.toNat : ℤ) :=
    (parse_eq_some Decoding.ascii_digit_ios).mpr (denotes_piece Decoding.ascii_digit_ios byte)
  rw [Decoding.IOS.uint8, value, Option.filter_some, if_pos (by simp; omega), Option.map_some,
    ofInt_toNat]

theorem stripped_description (iv : List UInt8) :
    Decoding.IOS.stripped (IOS.description iv) = [comma].intercalate (iv.map piece) := by
  rw [Decoding.IOS.stripped, toList_description, List.filter_filter, List.filter_filter]
  have brackets : ∀ keep : ℕ → Bool, keep 91 = false → keep 93 = false →
      (91 :: inner iv ++ [93]).filter keep = (inner iv).filter keep := by
    intro keep opening closing
    simp [opening, closing]
  rw [brackets _ (by decide) (by decide), filter_inner _ iv _ (by decide) (by decide)]
  intro c low high
  have others : (c ≠ 93 ∧ c ≠ 91) ∧ c ≠ space := by
    rw [space]
    omega
  simpa using others

theorem decoded_ios {iv : List UInt8} (nonempty : iv ≠ []) :
    Decoding.IOS.convertIV (IOS.description iv) = some iv := by
  have other : IOS.description iv ≠ "place_holder" := by
    intro same
    have first := congrArg (fun text => (text.toList.map Char.toNat).head?) same
    simp [toList_description] at first
  have full : (iv.map piece).filter (· ≠ []) = iv.map piece := by
    refine List.filter_eq_self.mpr fun part mem => ?_
    obtain ⟨byte, _, rfl⟩ := List.mem_map.mp mem
    exact decide_eq_true (piece_ne_nil byte)
  rw [Decoding.IOS.convertIV, if_neg other, stripped_description,
    List.splitOn_intercalate comma pieces_without_comma (by simpa using nonempty), full]
  exact mapM_pieces uint8_piece iv

/-- The text of an initialization vector is the same on both clients, and both read the bytes back. -/
theorem iv_text_round_trip {iv : List UInt8} (nonempty : iv ≠ []) :
    Android.convertIV iv = some (units (IOS.description iv)) ∧
      Decoding.Android.convertIV (IOS.description iv) = some iv ∧
      Decoding.IOS.convertIV (IOS.description iv) = some iv :=
  ⟨convertIV_eq_description nonempty, decoded_android nonempty, decoded_ios nonempty⟩

theorem iv_text_round_trip_signed :
    IOS.description [255, 0, 128] = "[255, 0, 128]" ∧
      Android.convertIV [255, 0, 128] = some (units (IOS.description [255, 0, 128])) ∧
      Decoding.Android.convertIV (IOS.description [255, 0, 128]) = some [255, 0, 128] ∧
      Decoding.IOS.convertIV (IOS.description [255, 0, 128]) = some [255, 0, 128] :=
  ⟨by decide +kernel, iv_text_round_trip (by decide)⟩

end PetClump.Encoding
