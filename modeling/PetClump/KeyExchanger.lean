import PetClump.PetId
import PetClump.Library.ModPow
import PetClump.Library.Sha256

/-! # The key exchanger of both clients

`KeyExchanger.java` and `KeyExchanger.swift` with their secret files taken to be
reliable: a stored secret is read back, a missing one is drawn and stored. Files
that fail are the subject of `PetClump.SecretFile`.
-/

namespace PetClump

/-- What `generatePublicPrimes` draws. -/
@[ext] structure PublicPrimes where
  bigPrime : ℕ
  primitiveRoot : ℕ
  one_lt_bigPrime : 1 < bigPrime

/-- The stored secrets of one device, by file name. -/
abbrev SecretFiles := String → Option ℕ

namespace SecretFiles

/-- A device only ever gains files: no client deletes or rewrites a secret. -/
def Extends (files later : SecretFiles) : Prop :=
  ∀ name secret, files name = some secret → later name = some secret

theorem Extends.refl (files : SecretFiles) : Extends files files := fun _ _ h => h

theorem Extends.trans {first second third : SecretFiles}
    (h : Extends first second) (h' : Extends second third) : Extends first third :=
  fun name secret stored => h' name secret (h name secret stored)

end SecretFiles

structure KeyExchanger where
  friendId : String
  bigPrime : ℕ
  primitiveRoot : ℕ
  mySecret : ℕ

namespace KeyExchanger

/-- The file behind an exchanger's id: `fdId + ".txt"` on Android, the bare id on iOS. -/
def secretFile : Client → String → String
  | .ios, id => id
  | .android, id => id ++ ".txt"

/-- `random` is the number that is drawn when the file does not exist. -/
def loadOrGenerateSecret (client : Client) (files : SecretFiles) (id : String) (random : ℕ) :
    ℕ × SecretFiles :=
  match files (secretFile client id) with
  | some secret => (secret, files)
  | none => (random, Function.update files (secretFile client id) (some random))

/-- The constructor that takes the public numbers. -/
def withPrimes (client : Client) (files : SecretFiles) (id : String)
    (bigPrime primitiveRoot random : ℕ) : KeyExchanger × SecretFiles :=
  let loaded := loadOrGenerateSecret client files id random
  (⟨id, bigPrime, primitiveRoot, loaded.1⟩, loaded.2)

/-- The constructor of an add-friend request, which draws new public numbers. -/
def create (client : Client) (files : SecretFiles) (id : String) (primes : PublicPrimes)
    (random : ℕ) : KeyExchanger × SecretFiles :=
  withPrimes client files id primes.bigPrime primes.primitiveRoot random

/-- The constructor over a chat-room document. `none` stands for the exception or trap on a
document that lacks one of the two public numbers. -/
def ofData (client : Client) (files : SecretFiles) (id : String) (data : Data) (random : ℕ) :
    Option (KeyExchanger × SecretFiles) :=
  match data.number "bigPrime", data.number "priPrime" with
  | some bigPrime, some primitiveRoot =>
      some (withPrimes client files id bigPrime primitiveRoot random)
  | _, _ => none

def getMyPublic (k : KeyExchanger) : ℕ := modPow k.primitiveRoot k.mySecret k.bigPrime

/-- The first sixteen bytes of the digest of the shared number's decimal text. Both clients
cache the result, but each of their exchangers is asked for one key only. -/
def getSharedKey (k : KeyExchanger) (fdPublic : ℕ) : List UInt8 :=
  (Sha256.digest (Nat.repr (modPow fdPublic k.mySecret k.bigPrime)).toUTF8.toList).take 16

/-- `generateSenderData` on iOS, the anonymous map of `update_friend_key` on Android. -/
def generateSenderData (k : KeyExchanger) (myPetId friendPetId : String) : Data :=
  (((Data.empty.put "bigPrime" (Nat.repr k.bigPrime)).put "priPrime" (Nat.repr k.primitiveRoot)).put
    myPetId (Nat.repr k.getMyPublic)).put friendPetId "?"

theorem loadOrGenerateSecret_extends (client : Client) (files : SecretFiles) (id : String)
    (random : ℕ) : files.Extends (loadOrGenerateSecret client files id random).2 := by
  intro name secret stored
  unfold loadOrGenerateSecret
  split
  · exact stored
  · rename_i missing
    have other : name ≠ secretFile client id := by
      rintro rfl
      rw [missing] at stored
      cases stored
    simpa only [Function.update_of_ne other] using stored

theorem loadOrGenerateSecret_stored (client : Client) (files : SecretFiles) (id : String)
    (random : ℕ) :
    (loadOrGenerateSecret client files id random).2 (secretFile client id) =
      some (loadOrGenerateSecret client files id random).1 := by
  unfold loadOrGenerateSecret
  split
  · assumption
  · simp

theorem loadOrGenerateSecret_of_stored {client : Client} {files : SecretFiles} {id : String}
    {secret : ℕ} (stored : files (secretFile client id) = some secret) (random : ℕ) :
    loadOrGenerateSecret client files id random = (secret, files) := by
  simp only [loadOrGenerateSecret, stored]

/-- An exchanger carries the given public numbers and the secret its device keeps from then on. -/
theorem withPrimes_spec {client : Client} {files files' : SecretFiles} {id : String}
    {bigPrime primitiveRoot random : ℕ} {k : KeyExchanger}
    (h : withPrimes client files id bigPrime primitiveRoot random = (k, files')) :
    k.bigPrime = bigPrime ∧ k.primitiveRoot = primitiveRoot ∧
      files' (secretFile client id) = some k.mySecret ∧ files.Extends files' := by
  cases h
  exact ⟨rfl, rfl, loadOrGenerateSecret_stored client files id random,
    loadOrGenerateSecret_extends client files id random⟩

theorem ofData_spec {client : Client} {files files' : SecretFiles} {id : String} {data : Data}
    {random : ℕ} {k : KeyExchanger} (h : ofData client files id data random = some (k, files')) :
    data.number "bigPrime" = some k.bigPrime ∧ data.number "priPrime" = some k.primitiveRoot ∧
      files' (secretFile client id) = some k.mySecret ∧ files.Extends files' := by
  unfold ofData at h
  split at h
  · rename_i bigPrime primitiveRoot hasPrime hasRoot
    obtain ⟨prime, root, stored, more⟩ := withPrimes_spec (Option.some.inj h)
    exact ⟨by rw [hasPrime, prime], by rw [hasRoot, root], stored, more⟩
  · cases h

@[simp] theorem length_getSharedKey (k : KeyExchanger) (fdPublic : ℕ) :
    (k.getSharedKey fdPublic).length = 16 := by
  simp [getSharedKey]

end KeyExchanger

/-- What a client does with one version of the room document when it opens the chat: it computes
the key, and its device may store a new secret. `none` stands for the trap or exception of a
reader on a bad entry. -/
def openRoom (client : Client) (files : SecretFiles) (myId friendId : String) (data : Data)
    (random : ℕ) : Option (List UInt8 × SecretFiles) :=
  match client with
  -- Messenger.init
  | .ios => do
      let friendPublic ← data.number friendId
      let dh ← KeyExchanger.ofData .ios files friendId data random
      pure (dh.1.getSharedKey friendPublic, dh.2)
  -- ChattingActivity.onCreate, FriendFragment.onCreate
  | .android => do
      let _ ← data.number myId
      let friendPublic ← data.number friendId
      let bigPrime ← data.number "bigPrime"
      let priPrime ← data.number "priPrime"
      let my := KeyExchanger.withPrimes .android files myId bigPrime priPrime random
      pure (my.1.getSharedKey friendPublic, my.2)

def roomKey (client : Client) (files : SecretFiles) (myId friendId : String) (data : Data)
    (random : ℕ) : Option (List UInt8) :=
  (openRoom client files myId friendId data random).map Prod.fst

end PetClump
