import PetClump.Chat.Encryption
import PetClump.Chat.IvText
import PetClump.KeyExchanger
import PetClump.Library.Runs

/-! # Sending from a chat room on iOS

`Messenger.init` hands its messenger out at once, with an empty key, and asks for
the room document. The key is set when the document comes. The send button of
`ChatRoomVC` works from the start.
-/

namespace PetClump.Sending

open Runs
open Decoding (Document)
open Encryption (BlockCipher)

/-- What has come of asking for the room document. -/
inductive Room where
  | requested
  | unavailable
  | arrived (data : Data)

/-- A call of `upload`: the key it encrypts under, and the document it writes. Without a document
the cipher library has stopped the app. -/
structure Upload where
  typed : String
  key : List UInt8
  document : Option Document

structure State where
  key : List UInt8
  files : SecretFiles
  room : Room
  uploads : List Upload
  running : Bool

/-- `Messenger.init` up to its return. -/
def State.initial (files : SecretFiles) : State := ⟨[], files, .requested, [], true⟩

/-- An initialization vector as `generateInitializationVector` draws it. -/
abbrev Iv := { bytes : List UInt8 // bytes.length = 16 }

/-- The answer to `getDocument` comes once. `random` is the secret that is drawn when none is
stored. -/
inductive Event where
  | failed
  | absent
  | document (data : Data) (random : ℕ)
  | tap (typed : String) (iv : Iv)

variable (cipher : BlockCipher) (me friend : PetId)

/-- The callback of `getDocument`; a bad document stops the app. -/
def received (s : State) (data : Data) (random : ℕ) : State :=
  match openRoom .ios s.files me.getId friend.getId data random with
  | some (key, files) => { s with key := key, files := files, room := .arrived data }
  | none => { s with room := .arrived data, running := false }

def upload (s : State) (message : String) (iv : Iv) : State :=
  let document := (Encryption.encrypt cipher s.key iv message).map fun cipherText =>
    (⟨some (Encoding.IOS.description iv), some cipherText⟩ : Document)
  { s with uploads := s.uploads ++ [⟨message, s.key, document⟩], running := document.isSome }

def handleSend (s : State) (text : String) (iv : Iv) : State :=
  if text ≠ "" then upload cipher s text iv else s

/-- Only a request that is under way is answered. -/
def State.answer (s after : State) : Option State :=
  match s.room with
  | .requested => some after
  | .unavailable | .arrived _ => none

def step (s : State) (e : Event) : Option State :=
  if s.running then
    match e with
    | .failed | .absent => s.answer { s with room := .unavailable }
    | .document data random => s.answer (received me friend s data random)
    | .tap typed iv => some (handleSend cipher s typed iv)
  else none

/-- The call encrypted under the key of the room document, and what it wrote decrypts under that
key to what was typed. -/
def Upload.Proper (s : State) (u : Upload) : Prop :=
  ∃ data, s.room = .arrived data ∧ u.key.length = 16 ∧
    (∀ random, roomKey .ios s.files me.getId friend.getId data random = some u.key) ∧
    ∃ document, u.document = some document ∧
      Decoding.IOS.decodeData cipher.decrypt Base64.decode u.key document = some u.typed

def SentUnderRoomKey (s : State) : Prop := ∀ u ∈ s.uploads, u.Proper cipher me friend s

/-- Nothing is sent before the room document has arrived. -/
def TapsAfterArrival (s : State) : Event → Prop
  | .tap typed _ => typed = "" ∨ ∃ data, s.room = .arrived data
  | _ => True

/-- The key is the one of the document that has arrived, and empty before. -/
def Keyed (s : State) : Prop :=
  match s.room with
  | .arrived data => s.running → s.key.length = 16 ∧
      ∀ random, roomKey .ios s.files me.getId friend.getId data random = some s.key
  | _ => s.key = []

variable {cipher me friend} {s s' : State}

/-- Once a room has been opened its key no longer depends on what is drawn. -/
theorem roomKey_of_openRoom {files files' : SecretFiles} {myId friendId : String} {data : Data}
    {random : ℕ} {key : List UInt8}
    (opened : openRoom .ios files myId friendId data random = some (key, files')) (again : ℕ) :
    key.length = 16 ∧ roomKey .ios files' myId friendId data again = some key := by
  simp only [openRoom, Option.bind_eq_bind, Option.bind_eq_some_iff, Option.pure_def,
    Option.some.injEq, Prod.mk.injEq] at opened
  obtain ⟨friendPublic, theirs, ⟨k, later⟩, loaded, rfl, rfl⟩ := opened
  obtain ⟨prime, root, stored, -⟩ := KeyExchanger.ofData_spec loaded
  refine ⟨KeyExchanger.length_getSharedKey k friendPublic, ?_⟩
  simp [roomKey, openRoom, theirs, KeyExchanger.ofData, prime, root, KeyExchanger.withPrimes,
    KeyExchanger.loadOrGenerateSecret_of_stored stored, KeyExchanger.getSharedKey]

theorem keyed_initial (files : SecretFiles) : Keyed me friend (State.initial files) := rfl

theorem keyed_received (data : Data) (random : ℕ) :
    Keyed me friend (received me friend s data random) := by
  rw [received]
  cases opened : openRoom .ios s.files me.getId friend.getId data random with
  | none => nofun
  | some result =>
      intro _
      exact ⟨(roomKey_of_openRoom opened 0).1, fun again => (roomKey_of_openRoom opened again).2⟩

theorem uploads_received (data : Data) (random : ℕ) :
    (received me friend s data random).uploads = s.uploads := by
  rw [received]
  cases openRoom .ios s.files me.getId friend.getId data random with
  | none => rfl
  | some => rfl

theorem answer_eq_some {after : State} :
    s.answer after = some s' ↔ s.room = .requested ∧ s' = after := by
  cases room : s.room with
  | requested => simp [State.answer, room, eq_comm]
  | unavailable | arrived => simp [State.answer, room]

theorem step_cases {e : Event} (taken : step cipher me friend s e = some s') : s.running = true ∧
    ((s.room = .requested ∧ (e = .failed ∨ e = .absent) ∧ s' = { s with room := .unavailable }) ∨
      (∃ data random, s.room = .requested ∧ e = .document data random ∧
        s' = received me friend s data random) ∨
      ∃ typed iv, e = .tap typed iv ∧ s' = handleSend cipher s typed iv) := by
  unfold step at taken
  split at taken
  · rename_i running
    refine ⟨running, ?_⟩
    cases e with
    | failed =>
        obtain ⟨room, after⟩ := answer_eq_some.mp taken
        exact .inl ⟨room, .inl rfl, after⟩
    | absent =>
        obtain ⟨room, after⟩ := answer_eq_some.mp taken
        exact .inl ⟨room, .inr rfl, after⟩
    | document data random =>
        obtain ⟨room, after⟩ := answer_eq_some.mp taken
        exact .inr (.inl ⟨data, random, room, rfl, after⟩)
    | tap typed iv => exact .inr (.inr ⟨typed, iv, rfl, (Option.some.inj taken).symm⟩)
  · cases taken

theorem keyed_upload (keyed : Keyed me friend s) (running : s.running = true) (message : String)
    (iv : Iv) : Keyed me friend (upload cipher s message iv) := by
  cases room : s.room with
  | requested | unavailable =>
      simp only [Keyed, room] at keyed
      simpa only [Keyed, upload, room] using keyed
  | arrived data =>
      simp only [Keyed, room] at keyed
      simp only [Keyed, upload, room]
      exact fun _ => keyed running

theorem keyed_step {e : Event} (keyed : Keyed me friend s)
    (taken : step cipher me friend s e = some s') : Keyed me friend s' := by
  obtain ⟨running, failed | arrived | tapped⟩ := step_cases taken
  · obtain ⟨room, -, rfl⟩ := failed
    simpa only [Keyed, room] using keyed
  · obtain ⟨data, random, room, -, rfl⟩ := arrived
    exact keyed_received data random
  · obtain ⟨typed, iv, -, rfl⟩ := tapped
    rw [handleSend]
    split
    · exact keyed_upload keyed running typed iv
    · exact keyed

theorem uploads_of_requested (sent : SentUnderRoomKey cipher me friend s)
    (room : s.room = .requested) : s.uploads = [] := by
  refine List.eq_nil_iff_forall_not_mem.mpr fun u mem => ?_
  obtain ⟨data, arrived, -⟩ := sent u mem
  rw [room] at arrived
  cases arrived

/-- Under a key of the right size a message is written that decrypts to what was typed. -/
theorem decodeData_upload {key : List UInt8} (size : key.length = 16) (iv : Iv) (typed : String) :
    ∃ cipherText, Encryption.encrypt cipher key iv typed = some cipherText ∧
      Decoding.IOS.decodeData cipher.decrypt Base64.decode key
        ⟨some (Encoding.IOS.description iv), some cipherText⟩ = some typed := by
  obtain ⟨cipherText, sent, back⟩ := @Encryption.decrypt_encrypt cipher key iv.val size iv.property typed
  have nonempty : iv.val ≠ [] := List.ne_nil_of_length_pos (by rw [iv.property]; omega)
  refine ⟨cipherText, sent, ?_⟩
  rw [Decoding.IOS.decodeData]
  simp only [Option.getD_some, Encoding.decoded_ios nonempty, Option.bind_eq_bind, Option.bind_some,
    back]

/-- An upload is proper exactly when the document has arrived. -/
theorem sent_upload (keyed : Keyed me friend s) (running : s.running = true)
    (sent : SentUnderRoomKey cipher me friend s) (typed : String) (iv : Iv) :
    SentUnderRoomKey cipher me friend (upload cipher s typed iv) ↔ ∃ data, s.room = .arrived data := by
  constructor
  · intro later
    obtain ⟨data, room, -⟩ := later _ (List.mem_append_right _ (List.mem_singleton_self _))
    exact ⟨data, room⟩
  · rintro ⟨data, room⟩ u mem
    simp only [Keyed, room] at keyed
    obtain ⟨size, derived⟩ := keyed running
    cases List.mem_append.mp mem with
    | inl old => exact sent u old
    | inr new =>
        obtain rfl := List.mem_singleton.mp new
        obtain ⟨cipherText, written, back⟩ := @decodeData_upload cipher s.key size iv typed
        exact ⟨data, room, size, derived, _, by rw [written]; rfl, back⟩

theorem sent_step {e : Event} (keyed : Keyed me friend s) (sent : SentUnderRoomKey cipher me friend s)
    (taken : step cipher me friend s e = some s') :
    SentUnderRoomKey cipher me friend s' ↔ TapsAfterArrival s e := by
  obtain ⟨running, failed | arrived | tapped⟩ := step_cases taken
  · obtain ⟨room, event, rfl⟩ := failed
    have none_sent := uploads_of_requested sent room
    rcases event with rfl | rfl
    · simp [SentUnderRoomKey, TapsAfterArrival, none_sent]
    · simp [SentUnderRoomKey, TapsAfterArrival, none_sent]
  · obtain ⟨data, random, room, rfl, rfl⟩ := arrived
    have none_sent : (received me friend s data random).uploads = [] := by
      rw [uploads_received, uploads_of_requested sent room]
    simp [SentUnderRoomKey, TapsAfterArrival, none_sent]
  · obtain ⟨typed, iv, rfl, rfl⟩ := tapped
    rw [handleSend, TapsAfterArrival]
    by_cases empty : typed = ""
    · rw [if_neg (not_not.mpr empty)]
      exact iff_of_true sent (.inl empty)
    · rw [if_pos empty, sent_upload keyed running sent, or_iff_right empty]

/-- Every upload uses the key of the room document and is read back as it was typed, as long as
nothing is sent before the document has arrived. One tap before that is enough to lose this. -/
theorem sent_under_room_key_iff (cipher : BlockCipher) (me friend : PetId) (files : SecretFiles)
    (es : List Event) :
    Always (step cipher me friend) (SentUnderRoomKey cipher me friend) (State.initial files) es ↔
      Meets (step cipher me friend) TapsAfterArrival (State.initial files) es :=
  always_iff_meets (fun _ _ _ => keyed_step) (fun _ _ _ => sent_step) (keyed_initial files) nofun

instance (s : State) : ∀ e, Decidable (TapsAfterArrival s e)
  | .tap typed _ =>
      match room : s.room with
      | .arrived data => .isTrue (.inr ⟨data, room⟩)
      | .requested | .unavailable =>
          decidable_of_iff (typed = "") <| by simp [TapsAfterArrival, room]
  | .failed | .absent | .document _ _ => .isTrue trivial

/-- The room of a friend whose public number is 8, opened with the secret 15. -/
def sampleRoom : Data :=
  ((Data.empty.put "bigPrime" "23").put "priPrime" "5").put "friend0" "8"

theorem sent_after_arrival :
    let iv : Iv := ⟨[1, 2, 3, 4, 5, 6, 7, 8, 9, 10, 11, 12, 13, 14, 15, 16], rfl⟩
    let es : List Event := [.tap "" iv, .document sampleRoom 15, .tap "hi" iv]
    Always (step .sample ⟨"me", 0⟩ ⟨"friend", 0⟩) (SentUnderRoomKey .sample ⟨"me", 0⟩ ⟨"friend", 0⟩)
        (State.initial fun _ => none) es ∧
      ((run (step .sample ⟨"me", 0⟩ ⟨"friend", 0⟩) (State.initial fun _ => none) es).map fun s =>
        s.uploads.map Upload.document) =
          some [some ⟨some "[1, 2, 3, 4, 5, 6, 7, 8, 9, 10, 11, 12, 13, 14, 15, 16]",
            some "HWdT+RfBrF8MptLElAR6eQ=="⟩] :=
  ⟨(sent_under_room_key_iff _ _ _ _ _).mpr (by decide +kernel), by decide +kernel⟩

/-- Whatever the cipher, one tap on the button before the document has arrived is an upload under
no key. -/
theorem sent_before_arrival : ¬ ∃ (cipher : BlockCipher) (me friend : PetId) (files : SecretFiles),
    ∀ es, Always (step cipher me friend) (SentUnderRoomKey cipher me friend) (State.initial files)
      es := by
  rintro ⟨cipher, me, friend, files, always⟩
  let iv : Iv := ⟨List.replicate 16 0, rfl⟩
  obtain ⟨-, later⟩ := always [.tap "hi" iv]
  have after := always_head (later (upload cipher (State.initial files) "hi" iv) rfl)
  obtain ⟨data, room, -⟩ := after _ (List.mem_append_right _ (List.mem_singleton_self _))
  cases room

end PetClump.Sending
