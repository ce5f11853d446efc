import PetClump.Chat.AesRounds
import PetClump.Chat.IvText
import PetClump.Friending.Agreement
import PetClump.Library.Base64Lines

/-! # A message between two clients

iOS encrypts with its library of tables, Android with the cipher of its platform
and with Base64 in lines. Each reads what the other has sent, under the key that
both get from the room.
-/

namespace PetClump.Conversation

open Decoding (Document)
open Decoding.Android (Thrown)
open Encryption
open Runs

section Ciphers

/-- The library of iOS on one block. -/
def tables : BlockCipher where
  encrypt key block := (AES.encrypt key block).getD block
  decrypt key block := (AES.decrypt key block).getD block
  length_encrypt := by
    intro key block size full
    obtain ⟨secret, encrypted, length, _⟩ := AES.block_restored (.inl size) full
    rw [encrypted, Option.getD_some, length]
  decrypt_encrypt := by
    intro key block size full
    obtain ⟨secret, encrypted, _, decrypted⟩ := AES.block_restored (.inl size) full
    rw [encrypted, Option.getD_some, decrypted, Option.getD_some]

/-- The cipher of the Android platform on one block. -/
def platform : BlockCipher where
  encrypt := Rijndael.encrypt
  decrypt := Rijndael.decrypt
  length_encrypt _ _ _ _ := Rijndael.State.length_toBlock _
  decrypt_encrypt key _ _ full := Rijndael.decrypt_encrypt key full

end Ciphers

namespace Javax

def Known (key : List UInt8) : Prop := key.length = 16 ∨ key.length = 24 ∨ key.length = 32

instance (key : List UInt8) : Decidable (Known key) :=
  inferInstanceAs (Decidable (_ ∨ _ ∨ _))

/-- `doFinal` of "AES/CBC/PKCS5PADDING" in encryption; `none` is an exception. -/
def encrypt (key iv bytes : List UInt8) : Option (List UInt8) :=
  if Known key ∧ iv.length = 16 then
    some (cbcEncrypt platform key iv ((addPadding bytes).toChunks 16)).flatten
  else none

def cbcDecrypt (key : List UInt8) : List UInt8 → List (List UInt8) → List UInt8
  | _, [] => []
  | prev, chunk :: rest =>
      List.zipWith (· ^^^ ·) prev (platform.decrypt key chunk) ++ cbcDecrypt key chunk rest

/-- Every byte of the padding is compared with its length. -/
def removePadding (bytes : List UInt8) : Except Thrown (List UInt8) :=
  match bytes.getLast? with
  | none => .ok []
  | some padding =>
      let count := padding.toNat
      if 1 ≤ count ∧ count ≤ 16 ∧ bytes.drop (bytes.length - count) = List.replicate count padding
      then .ok (bytes.take (bytes.length - count))
      else .error .badPadding

def decrypt (key iv bytes : List UInt8) : Except Thrown (List UInt8) :=
  if ¬ Known key ∨ iv.length ≠ 16 ∨ bytes.length % 16 ≠ 0 then .error .other
  else removePadding (cbcDecrypt key iv (bytes.toChunks 16))

end Javax

namespace Android

/-- `none` is the null after a caught exception. -/
def encrypt (key iv : List UInt8) (plainText : String) : Option String :=
  (Javax.encrypt key iv plainText.toUTF8.data.toList).map Base64.encodeLines

/-- The body of the `try` block in `decrypt`; `malformed` stands for what the platform makes of
bytes that are no text. -/
def doFinal (malformed : List UInt8 → String) (key iv : List UInt8) (cipherText : String) :
    Except Thrown String :=
  match Base64.decodeLenient cipherText with
  | none => .error .other
  | some encrypted =>
      (Javax.decrypt key iv encrypted).map fun original =>
        (String.fromUTF8? ⟨original.toArray⟩).getD (malformed original)

/-- The text of the vector; its units are all ASCII. -/
def ivText (iv : List UInt8) : Option String :=
  (Encoding.Android.convertIV iv).map fun units => String.ofList (units.map Char.ofNat)

end Android

/-- The document of a message; `none` if there is none, after an exception or a trap. -/
def message (sender : Client) (key iv : List UInt8) (plainText : String) : Option Document :=
  match sender with
  | .ios => (encrypt tables key iv plainText).map fun cipher =>
      ⟨some (Encoding.IOS.description iv), some cipher⟩
  | .android => (Android.ivText iv).map fun text => ⟨some text, Android.encrypt key iv plainText⟩

/-- What a client shows for a document. -/
def shown (malformed : List UInt8 → String) (reader : Client) (key : List UInt8) (d : Document) :
    Option String :=
  match reader with
  | .ios => Decoding.IOS.decodeData tables.decrypt Base64.decode key d
  | .android => Decoding.Android.listened (Android.doFinal malformed) key d

section Bytes

variable {key iv : List UInt8}

/-- The bytes that go into the text of a message. -/
def sealed (key iv bytes : List UInt8) : List UInt8 :=
  (cbcEncrypt platform key iv ((addPadding bytes).toChunks 16)).flatten

/-- The two ciphers agree on whole blocks. -/
theorem cbcEncrypt_tables (size : key.length = 16) {prev : List UInt8} {blocks : List (List UInt8)}
    (start : prev.length = 16) (full : ∀ block ∈ blocks, block.length = 16) :
    cbcEncrypt tables key prev blocks = cbcEncrypt platform key prev blocks := by
  induction blocks generalizing prev with
  | nil => rfl
  | cons chunk rest ih =>
      have whole := length_xor start (full chunk List.mem_cons_self)
      have same : tables.encrypt key (List.zipWith (· ^^^ ·) prev chunk) =
          platform.encrypt key (List.zipWith (· ^^^ ·) prev chunk) := by
        simp only [tables, platform, AES.encrypt_eq (.inl size) whole, Option.getD_some]
      have next := platform.length_encrypt key _ size whole
      rw [cbcEncrypt, cbcEncrypt, same,
        ih next fun other mem => full other (List.mem_cons_of_mem chunk mem)]

theorem padded_full (bytes : List UInt8) : ∀ block ∈ (addPadding bytes).toChunks 16, block.length = 16 := by
  obtain ⟨blocks, last, full, lastFull, padded, -⟩ := addPadding_blocks bytes
  have every : ∀ block ∈ blocks ++ [last], block.length = 16 := by
    intro block mem
    cases List.mem_append.mp mem with
    | inl within => exact full block within
    | inr same => exact List.mem_singleton.mp same ▸ lastFull
  rwa [padded, Chunks.toChunks_flatten (by omega) every]

theorem aesEncrypt_sealed (size : key.length = 16) (start : iv.length = 16) (bytes : List UInt8) :
    aesEncrypt tables key iv bytes = .ok (sealed key iv bytes) := by
  rw [aesEncrypt, if_neg (not_not.mpr start), if_pos (.inl size),
    cbcEncrypt_tables size start (padded_full bytes), sealed]

theorem aesDecrypt_sealed (size : key.length = 16) (start : iv.length = 16) (bytes : List UInt8) :
    Decoding.IOS.aesDecrypt tables.decrypt key iv (sealed key iv bytes) = .ok bytes := by
  obtain ⟨encrypted, sent, back⟩ := @aesDecrypt_aesEncrypt tables key iv size start bytes
  rw [aesEncrypt_sealed size start] at sent
  cases sent
  exact back

theorem javax_encrypt (size : key.length = 16) (start : iv.length = 16) (bytes : List UInt8) :
    Javax.encrypt key iv bytes = some (sealed key iv bytes) :=
  if_pos ⟨.inl size, start⟩

theorem cbcDecrypt_cbcEncrypt (size : key.length = 16) {prev : List UInt8}
    {blocks : List (List UInt8)} (start : prev.length = 16)
    (full : ∀ block ∈ blocks, block.length = 16) :
    Javax.cbcDecrypt key prev (cbcEncrypt platform key prev blocks) = blocks.flatten := by
  induction blocks generalizing prev with
  | nil => rfl
  | cons chunk rest ih =>
      have chunkFull := full chunk List.mem_cons_self
      have whole := length_xor start chunkFull
      have next := platform.length_encrypt key _ size whole
      rw [cbcEncrypt, Javax.cbcDecrypt, platform.decrypt_encrypt key _ size whole,
        xor_xor (start.trans chunkFull.symm), List.flatten_cons,
        ih next fun other mem => full other (List.mem_cons_of_mem chunk mem)]

theorem removePadding_addPadding (bytes : List UInt8) :
    Javax.removePadding (addPadding bytes) = .ok bytes := by
  let count := 16 - bytes.length % 16
  have positive : 1 ≤ count := by omega
  have few : count ≤ 16 := by omega
  have value : (UInt8.ofNat count).toNat = count := by
    rw [UInt8.toNat_ofNat']
    omega
  have last : (addPadding bytes).getLast? = some (UInt8.ofNat count) := by
    rw [addPadding, List.getLast?_append, List.getLast?_replicate, if_neg (by omega)]
    rfl
  have cut : (addPadding bytes).length - count = bytes.length := by
    rw [addPadding, List.length_append, List.length_replicate]
    omega
  rw [Javax.removePadding, last]
  simp only [value, cut]
  rw [addPadding, List.drop_left, List.take_left, if_pos ⟨positive, few, rfl⟩]

theorem javax_decrypt (size : key.length = 16) (start : iv.length = 16) (bytes : List UInt8) :
    Javax.decrypt key iv (sealed key iv bytes) = .ok bytes := by
  have padded := padded_full bytes
  have encryptedFull := @length_cbcEncrypt platform key size iv _ start padded
  have length := Chunks.length_flatten encryptedFull
  have known : ¬ (¬ Javax.Known key ∨ iv.length ≠ 16 ∨ (sealed key iv bytes).length % 16 ≠ 0) := by
    rw [sealed, length, Nat.mul_mod_left]
    simp [Javax.Known, size, start]
  rw [Javax.decrypt, if_neg known, sealed, Chunks.toChunks_flatten (by omega) encryptedFull,
    cbcDecrypt_cbcEncrypt size start padded, Chunks.flatten_toChunks, removePadding_addPadding]

end Bytes

section Documents

variable {key iv : List UInt8} (malformed : List UInt8 → String)

/-- What both clients upload: the same bytes, on Android in lines. -/
def text (sender : Client) (key iv : List UInt8) (plainText : String) : String :=
  let bytes := sealed key iv plainText.toUTF8.data.toList
  match sender with
  | .ios => Base64.encode bytes
  | .android => Base64.encodeLines bytes

theorem ivText_eq (nonempty : iv ≠ []) :
    Android.ivText iv = some (Encoding.IOS.description iv) := by
  have back : Char.ofNat ∘ Char.toNat = id := funext Char.ofNat_toNat
  rw [Android.ivText, Encoding.convertIV_eq_description nonempty, Option.map_some,
    Encoding.units_description, ← Encoding.toList_description, List.map_map, back, List.map_id,
    String.ofList_toList]

theorem message_eq (sender : Client) (size : key.length = 16) (start : iv.length = 16)
    (plainText : String) : message sender key iv plainText =
      some ⟨some (Encoding.IOS.description iv), some (text sender key iv plainText)⟩ := by
  cases sender with
  | ios =>
      rw [message, encrypt, aesEncrypt_sealed size start]
      rfl
  | android =>
      have nonempty : iv ≠ [] := by
        rintro rfl
        cases start
      rw [message, ivText_eq nonempty, Android.encrypt, javax_encrypt size start]
      rfl

theorem utf8_read (plainText : String) :
    String.fromUTF8? ⟨plainText.toUTF8.data.toList.toArray⟩ = some plainText := by
  rw [Array.toArray_toList]
  exact dif_pos plainText.isValidUTF8

theorem decode_text (sender : Client) (plainText : String) :
    Base64.decode (text sender key iv plainText) =
        some (sealed key iv plainText.toUTF8.data.toList) ∧
      Base64.decodeLenient (text sender key iv plainText) =
        some (sealed key iv plainText.toUTF8.data.toList) := by
  cases sender with
  | ios => exact ⟨Base64.decode_encode _, Base64.decodeLenient_encode _⟩
  | android => exact ⟨Base64.decode_encodeLines _, Base64.decodeLenient_encodeLines _⟩

theorem shown_message (sender reader : Client) (size : key.length = 16) (start : iv.length = 16)
    (plainText : String) :
    shown malformed reader key
      ⟨some (Encoding.IOS.description iv), some (text sender key iv plainText)⟩ =
        some plainText := by
  obtain ⟨strict, lenient⟩ := @decode_text key iv sender plainText
  have nonempty : iv ≠ [] := by
    rintro rfl
    cases start
  cases reader with
  | ios =>
      have vector := Encoding.decoded_ios nonempty
      simp only [shown, Decoding.IOS.decodeData, Option.getD_some, vector, Option.bind_eq_bind,
        Option.bind_some, Decoding.IOS.decrypt, strict, aesDecrypt_sealed size start,
        utf8_read plainText]
  | android =>
      have vector := Encoding.decoded_android nonempty
      have original : Android.doFinal malformed key iv (text sender key iv plainText) =
          .ok plainText := by
        simp only [Android.doFinal, lenient, javax_decrypt size start]
        rw [Except.map, utf8_read plainText, Option.getD_some]
      simp only [shown, Decoding.Android.listened, Option.bind_eq_bind, Option.bind_some,
        Decoding.Android.decodeString, vector, Option.map_some, Decoding.Android.decrypt, original]

end Documents

/-- What one member of a room sends, the other shows and so does the sender: each under the key
that it computes from the room, in whatever state its device is in by then. -/
theorem members_read_each_other (malformed : List UInt8 → String) (pair : Pair)
    (files : ℕ → SecretFiles) (es later later' : List Event) (s t t' : State) (data : Data)
    (reached : run (step pair) (State.initial files) es = some s) (version : Version s data)
    (joined : ∀ x, (data.number (pair.id x)).isSome)
    (sent : run (step pair) s later = some t) (read : run (step pair) s later' = some t')
    (sender reader : Side) (randomSender randomReader : ℕ) (iv : List UInt8)
    (start : iv.length = 16) (plainText : String) :
    ∃ key key' d,
      roomKey (pair.client sender) (t.files (pair.device sender)) (pair.id sender)
        (pair.id sender.other) data randomSender = some key ∧
      roomKey (pair.client reader) (t'.files (pair.device reader)) (pair.id reader)
        (pair.id reader.other) data randomReader = some key' ∧
      message (pair.client sender) key iv plainText = some d ∧
      shown malformed (pair.client reader) key' d = some plainText := by
  obtain ⟨primes, fair⟩ := allFair_run (allFair_initial files) reached data version
  obtain ⟨key, size, computed⟩ := fair.keys joined
  exact ⟨key, key, _, computed _ (files_run sent) sender randomSender,
    computed _ (files_run read) reader randomReader,
    message_eq _ size start plainText, shown_message malformed _ _ size start plainText⟩

theorem ios_and_android_read_each_other :
    let pair := Pair.ofClients .ios .android
    ∃ s data, run (step pair) (State.initial fun _ _ => none) requestAndAccept = some s ∧
      s.docs.room = some data ∧ ∀ sender : Side, ∃ key key' d,
        roomKey (pair.client sender) (s.files (pair.device sender)) (pair.id sender)
          (pair.id sender.other) data 0 = some key ∧
        roomKey (pair.client sender.other) (s.files (pair.device sender.other)) (pair.id sender.other)
          (pair.id sender.other.other) data 0 = some key' ∧
        message (pair.client sender) key (List.replicate 16 7) "Привет" = some d ∧
        shown (fun _ => "") (pair.client sender.other) key' d = some "Привет" := by
  intro pair
  have usable : ((run (step pair) (State.initial fun _ _ => none) requestAndAccept).bind
      fun s => s.docs.room).any (fun data => decide (∀ x, (data.number (pair.id x)).isSome)) = true := by
    decide +kernel
  obtain ⟨data, room, joined⟩ := (Option.any_eq_true _ _).mp usable
  obtain ⟨s, reached, stored⟩ := Option.bind_eq_some_iff.mp room
  refine ⟨s, data, reached, stored, fun sender => ?_⟩
  exact members_read_each_other (fun _ => "") pair (fun _ _ => none) requestAndAccept [] [] s s s data
    reached (.stored stored) (of_decide_eq_true joined) rfl rfl sender sender.other 0 0
    (List.replicate 16 7) rfl "Привет"

end PetClump.Conversation
