import Mathlib.Data.String.Basic
import Mathlib.Data.Sym.Sym2
import PetClump.Chat.Decoding
import PetClump.Library.SwiftString
import PetClump.Pets.Deletion

/-! # Chat-room ids

A room is named by the ids of its two pets, the greater one first and nothing between
them. Java compares by code units and Swift by scalars, and an id taken apart again
gives up its last character for the slot.
-/

namespace PetClump.RoomId

namespace Android

def getCombinedId (petId1 petId2 : String) : String :=
  if 0 < JavaString.compareTo (JavaString.units petId1) (JavaString.units petId2) then petId1 ++ petId2
  else petId2 ++ petId1

end Android

namespace IOS

def generateChatRoomId (pet otherProfile : PetId) : String :=
  let myId := pet.getId
  let friendId := otherProfile.getId
  if friendId < myId then myId ++ friendId else friendId ++ myId

/-- `Int` of a string -/
def int (text : List Char) : Option ℤ :=
  (Numeral.parse Decoding.IOS.digit (text.map Char.toNat)).filter fun v => decide (-2 ^ 63 ≤ v ∧ v < 2 ^ 63)

/-- The owner and the slot that `PetProfile(id:)` starts with; `none` is a trap. -/
def initId (id : String) : Option (String × ℤ) := do
  let characters := SwiftString.characters id.toList
  let last ← characters.getLast?
  let sequence ← int last
  some (String.ofList characters.dropLast.flatten, sequence)

end IOS

/-- An id as Firebase issues its owner's part. -/
structure Issued (length : ℕ) (pet : PetId) : Prop where
  ascii : ∀ c ∈ pet.ownerId.toList, c.toNat < 128
  length : pet.ownerId.length = length

theorem digit_ascii : ∀ i : Fin 10, (Nat.digitChar i).toNat < 128 := by decide

theorem Issued.ascii_getId {length : ℕ} {pet : PetId} (issued : Issued length pet) :
    ∀ c ∈ pet.getId.toList, c.toNat < 128 := by
  intro c mem
  rw [PetId.getId_toList, List.mem_append, List.mem_singleton] at mem
  cases mem with
  | inl owner => exact issued.ascii c owner
  | inr digit => exact digit ▸ digit_ascii pet.sequence

/-- Java's order is the order of strings as long as every character is ASCII. -/
theorem android_getCombinedId {length : ℕ} {p q : PetId} (issuedP : Issued length p)
    (issuedQ : Issued length q) :
    Android.getCombinedId p.getId q.getId = Deletion.getCombinedId p.getId q.getId := by
  rw [Android.getCombinedId, Deletion.getCombinedId]
  simp only [JavaString.compareTo_ascii issuedP.ascii_getId issuedQ.ascii_getId]

theorem ios_generateChatRoomId (p q : PetId) :
    IOS.generateChatRoomId p q = Deletion.getCombinedId p.getId q.getId := rfl

theorem getCombinedId_comm (s t : String) : Deletion.getCombinedId s t = Deletion.getCombinedId t s := by
  rw [Deletion.getCombinedId, Deletion.getCombinedId]
  rcases lt_trichotomy s t with less | rfl | greater
  · rw [if_neg less.asymm, if_pos less]
  · rfl
  · rw [if_pos greater, if_neg greater.asymm]

/-- A room id is the two ids in one order or the other. -/
theorem getCombinedId_pair (p q : PetId) : ∃ first second, s(p, q) = s(first, second) ∧
    Deletion.getCombinedId p.getId q.getId = first.getId ++ second.getId := by
  rw [Deletion.getCombinedId]
  split
  case isTrue => exact ⟨p, q, rfl, rfl⟩
  case isFalse => exact ⟨q, p, Sym2.eq_swap, rfl⟩

theorem Issued.length_getId {length : ℕ} {pet : PetId} (issued : Issued length pet) :
    pet.getId.toList.length = length + 1 := by
  rw [PetId.getId_toList, List.length_append, String.length_toList, issued.length]
  rfl

/-- Ids of one length end where the first of them does. -/
theorem getCombinedId_injective {length : ℕ} {p q p' q' : PetId} (issued : ∀ pet ∈ s(p, q), Issued length pet)
    (issued' : ∀ pet ∈ s(p', q'), Issued length pet)
    (same : Deletion.getCombinedId p.getId q.getId = Deletion.getCombinedId p'.getId q'.getId) :
    s(p, q) = s(p', q') := by
  obtain ⟨a, b, pair, room⟩ := getCombinedId_pair p q
  obtain ⟨a', b', pair', room'⟩ := getCombinedId_pair p' q'
  rw [pair] at issued
  rw [pair'] at issued'
  have lengths : a.getId.toList.length = a'.getId.toList.length := by
    rw [(issued a (Sym2.mem_mk_left a b)).length_getId, (issued' a' (Sym2.mem_mk_left a' b')).length_getId]
  have lists := congrArg String.toList (room.symm.trans (same.trans room'))
  rw [String.toList_append, String.toList_append] at lists
  obtain ⟨first, second⟩ := List.append_inj lists lengths
  rw [pair, pair', PetId.getId_injective (String.toList_inj.mp first),
    PetId.getId_injective (String.toList_inj.mp second)]

theorem int_digitChar : ∀ i : Fin 10, IOS.int [Nat.digitChar i] = some (i : ℤ) := by decide

theorem digitChar_ne_newline : ∀ i : Fin 10, Nat.digitChar i ≠ '\n' := by decide

/-- The last character of an id is its digit, whatever the owner's id ends in. -/
theorem initId_getId (pet : PetId) : IOS.initId pet.getId = some (pet.ownerId, (pet.sequence : ℤ)) := by
  rw [IOS.initId, PetId.getId_toList, SwiftString.characters_concat (digitChar_ne_newline pet.sequence)]
  simp [int_digitChar, SwiftString.flatten_characters]

theorem roomIds_identify_pairs (length : ℕ) (pets : Set PetId) (issued : ∀ pet ∈ pets, Issued length pet) :
    (∀ p ∈ pets, ∀ q ∈ pets, Android.getCombinedId p.getId q.getId = IOS.generateChatRoomId p q ∧
      Android.getCombinedId q.getId p.getId = IOS.generateChatRoomId p q ∧
      IOS.generateChatRoomId q p = IOS.generateChatRoomId p q) ∧
    (∀ p ∈ pets, ∀ q ∈ pets, ∀ p' ∈ pets, ∀ q' ∈ pets,
      IOS.generateChatRoomId p q = IOS.generateChatRoomId p' q' → s(p, q) = s(p', q')) ∧
    ∀ pet ∈ pets, IOS.initId pet.getId = some (pet.ownerId, (pet.sequence : ℤ)) := by
  refine ⟨fun p memP q memQ => ?_, fun p memP q memQ p' memP' q' memQ' same => ?_,
    fun pet _ => initId_getId pet⟩
  · rw [android_getCombinedId (issued p memP) (issued q memQ),
      android_getCombinedId (issued q memQ) (issued p memP), ios_generateChatRoomId, ios_generateChatRoomId,
      getCombinedId_comm q.getId]
    exact ⟨rfl, rfl, rfl⟩
  · exact getCombinedId_injective (Sym2.ball.mpr ⟨issued p memP, issued q memQ⟩)
      (Sym2.ball.mpr ⟨issued p' memP', issued q' memQ'⟩) same

theorem roomIds_identify_pairs_swapped :
    IOS.generateChatRoomId ⟨"ab", 3⟩ ⟨"b0", 1⟩ ≠ IOS.generateChatRoomId ⟨"ab", 1⟩ ⟨"b0", 3⟩ := by
  intro same
  have issued : ∀ pet ∈ ({⟨"ab", 3⟩, ⟨"b0", 1⟩, ⟨"ab", 1⟩, ⟨"b0", 3⟩} : Set PetId), Issued 2 pet := by
    rintro pet (rfl | rfl | rfl | rfl) <;> exact ⟨by simp, rfl⟩
  have pairs := (roomIds_identify_pairs 2 _ issued).2.1 ⟨"ab", 3⟩ (by simp) ⟨"b0", 1⟩ (by simp)
    ⟨"ab", 1⟩ (by simp) ⟨"b0", 3⟩ (by simp) same
  exact absurd pairs (by decide)

end PetClump.RoomId
