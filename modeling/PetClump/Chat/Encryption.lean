import PetClump.Chat.Decoding
import PetClump.Library.Base64
import PetClump.Library.Chunks

/-! # Encryption on iOS

`Cryptographer.encrypt` and the parts of the cipher library under it: padding to
whole blocks, chaining from the initialization vector, and Base64. Decryption
undoes them for a key of the right size.
-/

namespace PetClump.Encryption

open Decoding.IOS (Failure)

/-- AES on one block, with what is assumed of it. -/
structure BlockCipher where
  encrypt : List UInt8 → List UInt8 → List UInt8
  decrypt : List UInt8 → List UInt8 → List UInt8
  length_encrypt : ∀ key block, key.length = 16 → block.length = 16 → (encrypt key block).length = 16
  decrypt_encrypt : ∀ key block, key.length = 16 → block.length = 16 →
    decrypt key (encrypt key block) = block

/-- What AES gives for one block under one key; elsewhere the block is left as it is. -/
def BlockCipher.sample : BlockCipher :=
  let sampleKey := [212, 115, 94, 58, 38, 94, 22, 238, 224, 63, 89, 113, 139, 155, 93, 3]
  let plain := [105, 107, 13, 10, 11, 8, 9, 6, 7, 4, 5, 2, 3, 0, 1, 30]
  let secret := [29, 103, 83, 249, 23, 193, 172, 95, 12, 166, 210, 196, 148, 4, 122, 121]
  let exchange := fun key block : List UInt8 =>
    if key = sampleKey ∧ block = plain then secret
    else if key = sampleKey ∧ block = secret then plain
    else block
  { encrypt := exchange
    decrypt := exchange
    length_encrypt := by
      intro key block size full
      simp only [exchange]
      split_ifs with first second
      · rfl
      · rfl
      · exact full
    decrypt_encrypt := by
      intro key block size full
      have other : secret ≠ plain := by decide
      simp only [exchange]
      grind }

variable (cipher : BlockCipher)

/-- The padding is added to what is left over after the whole blocks. -/
def addPadding (bytes : List UInt8) : List UInt8 :=
  let padding := 16 - bytes.length % 16
  bytes ++ List.replicate padding (UInt8.ofNat padding)

def cbcEncrypt (key : List UInt8) : List UInt8 → List (List UInt8) → List (List UInt8)
  | _, [] => []
  | prev, chunk :: rest =>
      let ciphertext := cipher.encrypt key (List.zipWith (· ^^^ ·) prev chunk)
      ciphertext :: cbcEncrypt key ciphertext rest

/-- `AES.encrypt`, which asks for the variant of the key when it comes to the first block. There
always is one. -/
def aesEncrypt (key iv bytes : List UInt8) : Except Failure (List UInt8) :=
  if iv.length ≠ 16 then .error .thrown
  else if key.length = 16 ∨ key.length = 24 ∨ key.length = 32 then
    .ok (cbcEncrypt cipher key iv ((addPadding bytes).toChunks 16)).flatten
  else .error .trap

def encrypt (key iv : List UInt8) (plainText : String) : Option String :=
  match aesEncrypt cipher key iv plainText.toUTF8.data.toList with
  | .ok encrypted => some (Base64.encode encrypted)
  | .error .thrown => some "error"
  | .error .trap => none

variable {cipher} {key : List UInt8}

theorem xor_xor {xs ys : List UInt8} (same : xs.length = ys.length) :
    List.zipWith (· ^^^ ·) xs (List.zipWith (· ^^^ ·) xs ys) = ys := by
  induction xs generalizing ys with
  | nil => simpa using same.symm
  | cons x xs ih =>
      cases ys with
      | nil => simp at same
      | cons y ys =>
          rw [List.zipWith_cons_cons, List.zipWith_cons_cons, ih (by simpa using same), ← UInt8.xor_assoc,
            UInt8.xor_self, UInt8.zero_xor]

theorem length_xor {xs ys : List UInt8} (left : xs.length = 16) (right : ys.length = 16) :
    (List.zipWith (· ^^^ ·) xs ys).length = 16 := by
  simp [left, right]

theorem length_cbcEncrypt (size : key.length = 16) {prev : List UInt8} {blocks : List (List UInt8)}
    (start : prev.length = 16) (full : ∀ block ∈ blocks, block.length = 16) :
    ∀ block ∈ cbcEncrypt cipher key prev blocks, block.length = 16 := by
  induction blocks generalizing prev with
  | nil => nofun
  | cons chunk rest ih =>
      have first := cipher.length_encrypt key _ size
        (length_xor start (full chunk List.mem_cons_self))
      rw [cbcEncrypt, List.forall_mem_cons]
      exact ⟨first, ih first fun other mem => full other (List.mem_cons_of_mem chunk mem)⟩

/-- Decryption gives the blocks back, and takes the padding off the last. -/
theorem cbc_cbcEncrypt (size : key.length = 16) {prev last : List UInt8} {blocks : List (List UInt8)}
    (start : prev.length = 16) (full : ∀ block ∈ blocks, block.length = 16)
    (lastFull : last.length = 16) :
    Decoding.IOS.cbc cipher.decrypt key prev (cbcEncrypt cipher key prev (blocks ++ [last])) =
      blocks.flatten ++ Decoding.IOS.removePadding last := by
  induction blocks generalizing prev with
  | nil =>
      have whole := length_xor start lastFull
      simp only [List.nil_append, cbcEncrypt, Decoding.IOS.cbc,
        cipher.decrypt_encrypt key _ size whole]
      rw [xor_xor (start.trans lastFull.symm), List.flatten_nil, List.nil_append]
  | cons chunk rest ih =>
      have chunkFull := full chunk List.mem_cons_self
      have whole := length_xor start chunkFull
      have first := cipher.length_encrypt key _ size whole
      have later := ih first fun other mem => full other (List.mem_cons_of_mem chunk mem)
      rw [List.cons_append, cbcEncrypt]
      cases more : cbcEncrypt cipher key (cipher.encrypt key (List.zipWith (· ^^^ ·) prev chunk))
          (rest ++ [last]) with
      | nil =>
          cases rest with
          | nil => simp [cbcEncrypt] at more
          | cons => simp [cbcEncrypt] at more
      | cons next others =>
          simp only [more] at later ⊢
          rw [Decoding.IOS.cbc, later, cipher.decrypt_encrypt key _ size whole,
            xor_xor (start.trans chunkFull.symm), List.flatten_cons, List.append_assoc]
          simp

theorem removePadding_append {bytes : List UInt8} (short : bytes.length < 16) :
    Decoding.IOS.removePadding
      (bytes ++ List.replicate (16 - bytes.length) (UInt8.ofNat (16 - bytes.length))) = bytes := by
  have value : (UInt8.ofNat (16 - bytes.length)).toNat = 16 - bytes.length := by
    rw [UInt8.toNat_ofNat']
    omega
  have last : (bytes ++ List.replicate (16 - bytes.length) (UInt8.ofNat (16 - bytes.length))).getLast? =
      some (UInt8.ofNat (16 - bytes.length)) := by
    rw [List.getLast?_append, List.getLast?_replicate, if_neg (by omega)]
    rfl
  rw [Decoding.IOS.removePadding, last]
  simp only [value, List.length_append, List.length_replicate]
  rw [if_pos (by omega)]
  have cut : bytes.length + (16 - bytes.length) - (16 - bytes.length) = bytes.length := by omega
  rw [cut, List.take_left]

/-- The padded text is whole blocks and a last one that holds the padding. -/
theorem addPadding_blocks (bytes : List UInt8) : ∃ (blocks : List (List UInt8)) (last : List UInt8),
    (∀ block ∈ blocks, block.length = 16) ∧ last.length = 16 ∧
      addPadding bytes = (blocks ++ [last]).flatten ∧
      blocks.flatten ++ Decoding.IOS.removePadding last = bytes := by
  let count := bytes.length / 16
  have whole : (bytes.take (count * 16)).length = count * 16 := by
    rw [List.length_take]
    omega
  obtain ⟨blocks, -, full, flat⟩ := Chunks.exists_blocks count whole
  have rest : (bytes.drop (count * 16)).length = bytes.length % 16 := by
    rw [List.length_drop]
    omega
  have short : (bytes.drop (count * 16)).length < 16 := by omega
  have unpadded := removePadding_append short
  rw [rest] at unpadded
  refine ⟨blocks, bytes.drop (count * 16) ++ List.replicate (16 - bytes.length % 16)
    (UInt8.ofNat (16 - bytes.length % 16)), full, ?_, ?_, ?_⟩
  · rw [List.length_append, rest, List.length_replicate]
    omega
  · rw [List.flatten_append, flat, List.flatten_singleton, ← List.append_assoc, List.take_append_drop]
    rfl
  · rw [flat, unpadded, List.take_append_drop]

theorem aesDecrypt_aesEncrypt {iv : List UInt8} (size : key.length = 16) (start : iv.length = 16)
    (bytes : List UInt8) : ∃ encrypted, aesEncrypt cipher key iv bytes = .ok encrypted ∧
      Decoding.IOS.aesDecrypt cipher.decrypt key iv encrypted = .ok bytes := by
  obtain ⟨blocks, last, full, lastFull, padded, restored⟩ := addPadding_blocks bytes
  have every : ∀ block ∈ blocks ++ [last], block.length = 16 := by
    intro block mem
    cases List.mem_append.mp mem with
    | inl within => exact full block within
    | inr same => exact List.mem_singleton.mp same ▸ lastFull
  have encryptedFull := @length_cbcEncrypt cipher key size iv _ start every
  refine ⟨_, by rw [aesEncrypt, if_neg (not_not.mpr start), if_pos (.inl size), padded,
    Chunks.toChunks_flatten (by omega) every], ?_⟩
  have length := Chunks.length_flatten encryptedFull
  have some_block : 0 < (cbcEncrypt cipher key iv (blocks ++ [last])).length := by
    cases blocks with
    | nil => simp [cbcEncrypt]
    | cons => simp [cbcEncrypt]
  have nonempty : (cbcEncrypt cipher key iv (blocks ++ [last])).flatten ≠ [] := by
    intro empty
    rw [empty, List.length_nil] at length
    omega
  rw [Decoding.IOS.aesDecrypt, if_neg (by omega), if_neg (not_not.mpr start), if_neg nonempty,
    if_pos (.inl size), Chunks.toChunks_flatten (by omega) encryptedFull,
    cbc_cbcEncrypt size start full lastFull, restored]

/-- A text that is encrypted under a key of the right size decrypts to itself. -/
theorem decrypt_encrypt {iv : List UInt8} (size : key.length = 16) (start : iv.length = 16)
    (plainText : String) : ∃ cipherText, encrypt cipher key iv plainText = some cipherText ∧
      Decoding.IOS.decrypt cipher.decrypt Base64.decode key iv cipherText = some plainText := by
  obtain ⟨encrypted, sent, back⟩ :=
    @aesDecrypt_aesEncrypt cipher key iv size start plainText.toUTF8.data.toList
  have text : String.fromUTF8? ⟨plainText.toUTF8.data.toList.toArray⟩ = some plainText := by
    rw [Array.toArray_toList]
    exact dif_pos plainText.isValidUTF8
  refine ⟨Base64.encode encrypted, by rw [encrypt, sent], ?_⟩
  rw [Decoding.IOS.decrypt, Base64.decode_encode]
  simp only [back, text, Option.getD_some]

end PetClump.Encryption
