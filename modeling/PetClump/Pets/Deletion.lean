import PetClump.Friending.System
import PetClump.Library.ChangeFeed

/-! # Deleting a pet

A pet is a document of its own, its friends are documents in a subcollection of
that document and its rooms are documents elsewhere. Deleting a document leaves
its subcollections and all other documents as they are.
-/

namespace PetClump.Deletion

open ChangeFeed Runs

/-- `PetProfile.getCombinedId`, `generateChatRoomId` on iOS -/
def getCombinedId (petId1 petId2 : String) : String :=
  if petId2 < petId1 then petId1 ++ petId2 else petId2 ++ petId1

/-- `pets/id`, `pets/id/friends/other` and `chats/room`. -/
structure Firestore where
  pets : Table String Data
  friends : Table (String × String) Status
  chats : Table String Data

namespace Firestore

def empty : Firestore := ⟨∅, ∅, ∅⟩

def upload (s : Firestore) (id : String) (data : Data) : Firestore :=
  { s with pets := s.pets.insert id data }

/-- `PetProfile.delete` in Firestore, the same on both clients; on Android it deletes the photos in
storage first. -/
def delete (s : Firestore) (id : String) : Firestore := { s with pets := s.pets.erase id }

def record (ids : Side → String) (owner : Side) : String × String := (ids owner, ids owner.other)

def room (ids : Side → String) : String := getCombinedId (ids .a) (ids .b)

/-- A write of a friend operation of two pets. -/
def write (s : Firestore) (ids : Side → String) : Write → Firestore
  | .setRecord owner pending => { s with friends := s.friends.insert (record ids owner) pending }
  | .deleteRecord owner => { s with friends := s.friends.erase (record ids owner) }
  | .setRoom data => { s with chats := s.chats.insert (room ids) data }
  | .deleteRoom => { s with chats := s.chats.erase (room ids) }

/-- What two pets see of the store. -/
def documents (s : Firestore) (ids : Side → String) : Documents where
  record owner := s.friends.lookup (record ids owner)
  room := s.chats.lookup (room ids)

end Firestore

inductive Event where
  | upload (id : String) (data : Data)
  | delete (id : String)
  | friend (ids : Side → String) (write : Write)

def step (s : Firestore) : Event → Option Firestore
  | .upload id data => some (s.upload id data)
  | .delete id => some (s.delete id)
  | .friend ids write => some (s.write ids write)

/-- A friend operation with this pet, or one whose room is a room of this pet. -/
def Event.Concerns (id : String) : Event → Prop
  | .friend ids _ => (∃ side, ids side = id) ∨ ∃ other, Firestore.room ids = getCombinedId id other
  | .upload _ _ | .delete _ => False

/-- No other pet has a record of this one, and it has no room. -/
def NothingPointsAt (s : Firestore) (id : String) : Prop :=
  ∀ other, (other, id) ∉ s.friends ∧ getCombinedId id other ∉ s.chats

/-- A new pet under this id has no friends and no room. -/
def StartsFresh (s : Firestore) (id : String) : Prop :=
  ∀ other, (id, other) ∉ s.friends ∧ getCombinedId id other ∉ s.chats

/-- No record in either direction, and no room. -/
def Unattached (s : Firestore) (id : String) : Prop := NothingPointsAt s id ∧ StartsFresh s id

theorem record_injective {ids : Side → String} (distinct : ids .a ≠ ids .b) :
    Function.Injective (Firestore.record ids) := by
  intro x y same
  have owners : ids x = ids y := congrArg Prod.fst same
  cases x with
  | a =>
      cases y with
      | a => rfl
      | b => exact absurd owners distinct
  | b =>
      cases y with
      | a => exact absurd owners.symm distinct
      | b => rfl

/-- What two pets see of their records after one of them is written -/
theorem record_written {before after : Table (String × String) Status} {ids : Side → String}
    (distinct : ids .a ≠ ids .b) {owner : Side} {value : Option Status}
    (own : after.lookup (Firestore.record ids owner) = value)
    (others : ∀ key ≠ Firestore.record ids owner, after.lookup key = before.lookup key) :
    (fun x => after.lookup (Firestore.record ids x)) =
      Function.update (fun x => before.lookup (Firestore.record ids x)) owner value := by
  funext x
  by_cases same : x = owner
  · rw [same, own, Function.update_self]
  · rw [others _ ((record_injective distinct).ne same), Function.update_of_ne same]

/-- Two pets see a write as the writes of their operations are seen between the two alone. -/
theorem documents_write (s : Firestore) {ids : Side → String} (distinct : ids .a ≠ ids .b)
    (write : Write) : (s.write ids write).documents ids = (s.documents ids).apply write := by
  cases write with
  | setRecord owner pending =>
      exact congrArg (Documents.mk · _) (record_written distinct (Finmap.lookup_insert _)
        fun key apart => Finmap.lookup_insert_of_ne _ apart)
  | deleteRecord owner =>
      exact congrArg (Documents.mk · _) (record_written distinct (Finmap.lookup_erase _ _)
        fun key apart => Finmap.lookup_erase_ne apart)
  | setRoom data => exact congrArg (Documents.mk _) (Finmap.lookup_insert _)
  | deleteRoom => exact congrArg (Documents.mk _) (Finmap.lookup_erase _ _)

/-- Nothing is attached to a pet when it and every other pet are strangers. -/
theorem unattached_iff (s : Firestore) (id : String) :
    Unattached s id ↔ ∀ other, s.documents (fun | .a => id | .b => other) = ⟨fun _ => none, none⟩ := by
  simp only [Unattached, NothingPointsAt, StartsFresh, ← forall_and]
  refine forall_congr' fun other => ?_
  rw [Firestore.documents, Documents.mk.injEq, funext_iff]
  simp only [Finmap.lookup_eq_none]
  constructor
  · rintro ⟨⟨theirs, noRoom⟩, mine, -⟩
    refine ⟨fun side => ?_, noRoom⟩
    cases side with
    | a => exact mine
    | b => exact theirs
  · rintro ⟨noRecord, noRoom⟩
    exact ⟨⟨noRecord .b, noRoom⟩, noRecord .a, noRoom⟩

theorem startsFresh_step {s s' : Firestore} {e : Event} {id : String} (fresh : StartsFresh s id)
    (apart : ¬ e.Concerns id) (taken : step s e = some s') : StartsFresh s' id := by
  cases e with
  | upload | delete =>
      cases taken
      exact fresh
  | friend ids write =>
      cases taken
      simp only [Event.Concerns, not_or, not_exists] at apart
      obtain ⟨others, rooms⟩ := apart
      intro other
      obtain ⟨noRecord, noRoom⟩ := fresh other
      cases write with
      | setRecord owner pending =>
          refine ⟨fun mem => ?_, noRoom⟩
          rcases Finmap.mem_insert.mp mem with same | old
          · exact others owner (congrArg Prod.fst same).symm
          · exact noRecord old
      | deleteRecord owner => exact ⟨fun mem => noRecord (Finmap.mem_erase.mp mem).2, noRoom⟩
      | setRoom data =>
          refine ⟨noRecord, fun mem => ?_⟩
          rcases Finmap.mem_insert.mp mem with same | old
          · exact rooms other same.symm
          · exact noRoom old
      | deleteRoom => exact ⟨noRecord, fun mem => noRoom (Finmap.mem_erase.mp mem).2⟩

/-- Deleting a pet leaves nothing behind, for other pets and for a later pet under its id, exactly
when there was nothing to leave. -/
theorem delete_leaves_nothing_iff (s : Firestore) (id : String) :
    (NothingPointsAt (s.delete id) id ∧ ∀ (es : List Event) (s' : Firestore) (data : Data),
      (∀ e ∈ es, ¬ e.Concerns id) → run step (s.delete id) es = some s' →
        StartsFresh (s'.upload id data) id) ↔ Unattached s id := by
  constructor
  · rintro ⟨nothing, later⟩
    exact ⟨nothing, later [] (s.delete id) Data.empty nofun rfl⟩
  · rintro ⟨nothing, fresh⟩
    have fresh : StartsFresh (s.delete id) id := fresh
    refine ⟨nothing, fun es s' data apart reached => ?_⟩
    have kept : StartsFresh s' id :=
      run_invariant_of (fun _ _ _ => startsFresh_step) fresh apart reached
    exact kept

/-- The records and the room of a request outlive the pet that sent it. -/
theorem deleted_pet_is_remembered : ¬ ∀ (history : List Event) (s : Firestore) (id : String),
    run step .empty history = some s → NothingPointsAt (s.delete id) id ∧
      ∀ (es : List Event) (s' : Firestore) (data : Data), (∀ e ∈ es, ¬ e.Concerns id) →
        run step (s.delete id) es = some s' → StartsFresh (s'.upload id data) id := by
  intro claim
  let ids : Side → String
    | .a => "A0"
    | .b => "B0"
  have nothing := (claim [.upload "A0" Data.empty, .upload "B0" Data.empty, .friend ids (.setRoom Data.empty),
    .friend ids (.setRecord .a .sending), .friend ids (.setRecord .b .receiving)] _ "A0" rfl).1 "B0"
  refine nothing.1 ?_
  decide +kernel

end PetClump.Deletion
