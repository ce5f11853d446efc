import Mathlib.Data.Fintype.Basic
import PetClump.Library.Decimal

/-! # Pets, clients and documents

The vocabulary every later module shares: the two clients, the ids under which
pets are stored, and the string fields of a Firestore document.
-/

namespace PetClump

inductive Client where
  | ios
  | android
  deriving Repr, DecidableEq

/-- A slot may be written as a numeral. -/
instance slots_neZero : @NeZero ℕ Zero.ofOfNat0 10 := ⟨by decide⟩

/-- A pet is stored under its owner's uid followed by its slot, one digit:
`PetProfile(id:)` takes the last character of an id for the slot. -/
structure PetId where
  ownerId : String
  sequence : Fin 10
  deriving DecidableEq

namespace PetId

/-- `"\(ownerId)\(sequence)"` on iOS, `user.getUid() + sequence` on Android. -/
def getId (pet : PetId) : String := pet.ownerId ++ String.singleton (Nat.digitChar pet.sequence)

theorem getId_toList (pet : PetId) :
    pet.getId.toList = pet.ownerId.toList ++ [Nat.digitChar pet.sequence] := by
  simp [getId]

theorem getId_injective : Function.Injective getId := by
  intro p q same
  have lists := congrArg String.toList same
  rw [getId_toList, getId_toList] at lists
  obtain ⟨owners, digits⟩ := List.append_inj' lists rfl
  have slots : p.sequence = q.sequence := by
    have byDigit : ∀ i j : Fin 10, [Nat.digitChar i] = [Nat.digitChar j] → i = j := by decide
    exact byDigit _ _ digits
  cases p
  cases q
  simp only [PetId.mk.injEq]
  exact ⟨String.toList_inj.mp owners, slots⟩

/-- The other two fields of a chat-room document cannot be pet ids. -/
theorem getId_ne_of_last {pet : PetId} {field : String} (init : List Char) (last : Char)
    (shape : field.toList = init ++ [last]) (letter : last.isDigit = false) :
    pet.getId ≠ field := by
  intro same
  have lists := congrArg String.toList same
  rw [getId_toList, shape] at lists
  obtain ⟨_, digits⟩ := List.append_inj' lists rfl
  have digit : ∀ i : Fin 10, (Nat.digitChar i).isDigit = true := by decide
  have isDigit := digit pet.sequence
  rw [List.singleton_inj.mp digits, letter] at isDigit
  cases isDigit

theorem getId_ne_bigPrime (pet : PetId) : pet.getId ≠ "bigPrime" :=
  getId_ne_of_last "bigPrim".toList 'e' (by simp) (by decide)

theorem getId_ne_priPrime (pet : PetId) : pet.getId ≠ "priPrime" :=
  getId_ne_of_last "priPrim".toList 'e' (by simp) (by decide)

end PetId

/-- The string fields of a document, as `getData()` and `data()` hand them out. -/
abbrev Data := String → Option String

namespace Data

def empty : Data := fun _ => none

def put (data : Data) (key value : String) : Data := Function.update data key (some value)

@[simp] theorem put_same (data : Data) (key value : String) : data.put key value key = some value := by
  simp [put]

theorem put_of_ne {data : Data} {key other : String} (value : String) (h : other ≠ key) :
    data.put key value other = data other := by
  simp [put, h]

/-- The number stored under a key, when there is one. -/
def number (data : Data) (key : String) : Option ℕ := (data key).bind Decimal.parse

end Data

end PetClump
