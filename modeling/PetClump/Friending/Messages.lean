import PetClump.Friending.Agreement

/-! # Messages and the room they were sent from

A message is encrypted under the key of the room document that is stored when it
is uploaded, and decrypted under the key of the one that is stored when it is
read. The messages are a collection of their own, so they outlive the document.
-/

namespace PetClump

open Runs

/-- The cipher of both clients, with what is assumed of AES in CBC mode. Key and initialization
vector are bytes, the ciphertext travels as Base64 text. -/
structure Cipher where
  encrypt : List UInt8 → List UInt8 → String → String
  decrypt : List UInt8 → List UInt8 → String → Option String
  decrypt_encrypt : ∀ key iv text, decrypt key iv (encrypt key iv text) = some text

/-- Another key does not give the text back. -/
def Cipher.Separates (cipher : Cipher) : Prop :=
  ∀ key other iv text, other ≠ key → cipher.decrypt other iv (cipher.encrypt key iv text) ≠ some text

variable {pair : Pair} {cipher : Cipher}

/-- A stored message. What was typed and the room document it was sent from are not stored; they
are kept here to say what reading it back should give. -/
structure Message where
  senderId : Side
  iv : List UInt8
  text : String
  typed : String
  sentFrom : Data

inductive ChatEvent where
  | friend (e : Event)
  | send (x : Side) (random : ℕ) (iv : List UInt8) (typed : String)

/-- The friend system with the message collection of the room. -/
abbrev Chat := State × List Message

/-- The sender opens the stored room and uploads under the key it gets. -/
def send (pair : Pair) (cipher : Cipher) (x : Side) (random : ℕ) (iv : List UInt8) (typed : String)
    (c : Chat) : Option Chat := do
  let data ← c.1.docs.room
  let opened ← openRoom (pair.client x) (c.1.files (pair.device x)) (pair.id x) (pair.id x.other) data
    random
  pure (c.1.store (pair.device x) opened.2,
    c.2 ++ [⟨x, iv, cipher.encrypt opened.1 iv typed, typed, data⟩])

def chatStep (pair : Pair) (cipher : Cipher) (c : Chat) : ChatEvent → Option Chat
  | .friend e => (step pair c.1 e).map fun s => (s, c.2)
  | .send x random iv typed => send pair cipher x random iv typed c

/-- Once the stored room holds both publics, both pets read every message back as it was typed. -/
def Readable (pair : Pair) (cipher : Cipher) (c : Chat) : Prop :=
  ∀ data, c.1.docs.room = some data → (∀ x, (data.number (pair.id x)).isSome) →
    ∀ m ∈ c.2, ∀ x random, ∃ key, roomKey (pair.client x) (c.1.files (pair.device x)) (pair.id x)
      (pair.id x.other) data random = some key ∧ cipher.decrypt key m.iv m.text = some m.typed

/-- Two versions with the same prime and generator. -/
def SamePrimes (data data' : Data) : Prop :=
  data "bigPrime" = data' "bigPrime" ∧ data "priPrime" = data' "priPrime"

instance (data data' : Data) : Decidable (SamePrimes data data') :=
  inferInstanceAs (Decidable (_ ∧ _))

/-- A room document with both publics carries the public numbers of every stored message. -/
def Write.KeepsPrimes (pair : Pair) (messages : List Message) : Write → Prop
  | .setRoom data => (∀ x, (data.number (pair.id x)).isSome) → ∀ m ∈ messages, SamePrimes data m.sentFrom
  | _ => True

def KeepsPrimes (pair : Pair) (c : Chat) : ChatEvent → Prop
  | .friend (.land x) => ∀ i ∈ (c.1.queue x).head?.toList, i.write.KeepsPrimes pair c.2
  | _ => True

instance (messages : List Message) : ∀ write, Decidable (Write.KeepsPrimes pair messages write)
  | .setRoom data => inferInstanceAs (Decidable
      ((∀ x, (data.number (pair.id x)).isSome) → ∀ m ∈ messages, SamePrimes data m.sentFrom))
  | .setRecord .. | .deleteRecord _ | .deleteRoom => .isTrue trivial

instance (c : Chat) : ∀ e, Decidable (KeepsPrimes pair c e)
  | .friend (.land x) => inferInstanceAs (Decidable
      (∀ i ∈ (c.1.queue x).head?.toList, i.write.KeepsPrimes pair c.2))
  | .friend (.add ..) | .friend (.accept _) | .friend (.reject _) | .friend (.fetch ..)
  | .friend (.resume ..) | .friend (.observe _) | .send .. => .isTrue trivial

/-- A message is sealed under the key of two stored secrets and its own public numbers. -/
def Sealed (pair : Pair) (cipher : Cipher) (files : ℕ → SecretFiles) (m : Message) : Prop :=
  ∃ (primes : PublicPrimes) (mine theirs : ℕ),
    m.sentFrom "bigPrime" = some (Nat.repr primes.bigPrime) ∧
    m.sentFrom "priPrime" = some (Nat.repr primes.primitiveRoot) ∧
    pair.secret files .a = some mine ∧ pair.secret files .b = some theirs ∧
    m.text = cipher.encrypt (agreedKey primes mine theirs) m.iv m.typed

theorem Sealed.extend {files later : ℕ → SecretFiles} {m : Message} (h : Sealed pair cipher files m)
    (more : ∀ d, (files d).Extends (later d)) : Sealed pair cipher later m := by
  obtain ⟨primes, mine, theirs, prime, root, secretA, secretB, text⟩ := h
  exact ⟨primes, mine, theirs, prime, root, more _ _ _ secretA, more _ _ _ secretB, text⟩

/-- Opening a fair room leaves both secrets stored and gives the key they stand for. -/
theorem Fair.openRoom {files : ℕ → SecretFiles} {data : Data} {primes : PublicPrimes} {x : Side}
    {random : ℕ} {key : List UInt8} {files' : SecretFiles} (h : Fair pair files data primes)
    (opened : openRoom (pair.client x) (files (pair.device x)) (pair.id x) (pair.id x.other) data
      random = some (key, files')) :
    (files (pair.device x)).Extends files' ∧ ∃ mine theirs,
      files' (KeyExchanger.secretFile (pair.client x) (pair.exchangerId x)) = some mine ∧
      pair.secret files x.other = some theirs ∧ key = agreedKey primes theirs mine := by
  obtain ⟨prime, root⟩ := h.numbers
  have stored := KeyExchanger.loadOrGenerateSecret_stored (pair.client x) (files (pair.device x))
    (pair.exchangerId x) random
  have more := KeyExchanger.loadOrGenerateSecret_extends (pair.client x) (files (pair.device x))
    (pair.exchangerId x) random
  have friendPublic : (data.number (pair.id x.other)).isSome := by
    cases missing : data.number (pair.id x.other) with
    | some n => rfl
    | none => cases client : pair.client x <;> simp [PetClump.openRoom, client, missing] at opened
  obtain ⟨theirs, secret, friendPublic⟩ := h.secrets x.other friendPublic
  cases client : pair.client x with
  | ios =>
      simp only [client, Pair.exchangerId] at stored more ⊢
      simp [PetClump.openRoom, client, friendPublic, KeyExchanger.ofData, prime, root,
        KeyExchanger.withPrimes] at opened
      obtain ⟨rfl, rfl⟩ := opened
      refine ⟨more, _, theirs, stored, secret, ?_⟩
      simp [KeyExchanger.getSharedKey, ModPow.modPow_modPow, agreedKey]
  | android =>
      simp only [client, Pair.exchangerId] at stored more ⊢
      cases own : data.number (pair.id x) with
      | none => simp [PetClump.openRoom, client, own] at opened
      | some n =>
          simp [PetClump.openRoom, client, own, friendPublic, prime, root,
            KeyExchanger.withPrimes] at opened
          obtain ⟨rfl, rfl⟩ := opened
          refine ⟨more, _, theirs, stored, secret, ?_⟩
          simp [KeyExchanger.getSharedKey, ModPow.modPow_modPow, agreedKey]

/-- Fair versions with the same entries have the same public numbers. -/
theorem Fair.primes_eq {files : ℕ → SecretFiles} {data other : Data} {primes primes' : PublicPrimes}
    (h : Fair pair files data primes) (same : SamePrimes data other)
    (prime : other "bigPrime" = some (Nat.repr primes'.bigPrime))
    (root : other "priPrime" = some (Nat.repr primes'.primitiveRoot)) : primes = primes' := by
  have primeEq := congrArg (Option.bind · Decimal.parse) (h.bigPrime.symm.trans (same.1.trans prime))
  have rootEq := congrArg (Option.bind · Decimal.parse) (h.priPrime.symm.trans (same.2.trans root))
  simp only [Option.bind_some, Decimal.parse_repr, Option.some.injEq] at primeEq rootEq
  exact PublicPrimes.ext primeEq rootEq

/-- What a run that keeps its primes preserves. -/
structure Kept (pair : Pair) (cipher : Cipher) (c : Chat) : Prop where
  fair : AllFair pair c.1
  isSealed : ∀ m ∈ c.2, Sealed pair cipher c.1.files m
  current : ∀ data, c.1.docs.room = some data → (∀ x, (data.number (pair.id x)).isSome) →
    ∀ m ∈ c.2, SamePrimes data m.sentFrom

theorem Kept.readable {c : Chat} (inv : Kept pair cipher c) : Readable pair cipher c := by
  intro data room numbers m mem x random
  obtain ⟨primes, mine, theirs, prime, root, secretA, secretB, text⟩ := inv.isSealed m mem
  obtain ⟨primes', fair⟩ := inv.fair data (.stored room)
  obtain rfl := fair.primes_eq (inv.current data room numbers m mem) prime root
  obtain ⟨secretA', storedA, publicA⟩ := fair.secrets .a (numbers .a)
  obtain ⟨secretB', storedB, publicB⟩ := fair.secrets .b (numbers .b)
  obtain rfl : secretA' = mine := Option.some.inj (storedA.symm.trans secretA)
  obtain rfl : secretB' = theirs := Option.some.inj (storedB.symm.trans secretB)
  refine ⟨agreedKey primes' secretA' secretB', ?_, by rw [text, cipher.decrypt_encrypt]⟩
  cases x with
  | a =>
      rw [agreedKey_comm]
      exact fair.roomKey random storedA (numbers .a) publicB
  | b => exact fair.roomKey random storedB (numbers .b) publicA

theorem kept_initial (files : ℕ → SecretFiles) : Kept pair cipher (State.initial files, []) where
  fair := allFair_initial files
  isSealed := nofun
  current := nofun

theorem kept_friend {c : Chat} {e : Event} {s' : State} (inv : Kept pair cipher c)
    (keeps : KeepsPrimes pair c (.friend e)) (taken : step pair c.1 e = some s') :
    Kept pair cipher (s', c.2) where
  fair := allFair_step inv.fair taken
  isSealed m mem := (inv.isSealed m mem).extend (step_files taken)
  current data room numbers := by
    cases step_docs taken with
    | inl still => exact inv.current data (still.2 ▸ room) numbers
    | inr landed =>
        obtain ⟨x, i, rest, rfl, queued, after⟩ := landed
        have room : (c.1.docs.apply i.write).room = some data := after ▸ room
        cases write : i.write with
        | setRoom new =>
            simp only [write, Documents.apply, Option.some.injEq] at room
            subst room
            have landing := keeps i (by simp [queued])
            rw [write] at landing
            exact landing numbers
        | deleteRoom => simp [write, Documents.apply] at room
        | setRecord | deleteRecord =>
            exact inv.current data (by simpa only [write, Documents.apply] using room) numbers

theorem kept_send {c c' : Chat} {x : Side} {random : ℕ} {iv : List UInt8} {typed : String}
    (inv : Kept pair cipher c) (sent : send pair cipher x random iv typed c = some c') :
    Kept pair cipher c' := by
  simp only [send, Option.bind_eq_bind, Option.bind_eq_some_iff, Option.pure_def,
    Option.some.injEq] at sent
  obtain ⟨data, room, ⟨key, files'⟩, opened, rfl⟩ := sent
  obtain ⟨primes, fair⟩ := inv.fair data (.stored room)
  obtain ⟨more, mine, theirs, own, friend, rfl⟩ := fair.openRoom opened
  have extends' : ∀ d, (c.1.files d).Extends ((c.1.store (pair.device x) files').files d) :=
    extends_store more
  have friend' := extends' _ _ _ friend
  have own' : pair.secret (c.1.store (pair.device x) files').files x = some mine := by
    simpa [Pair.secret] using own
  refine ⟨inv.fair.store more, ?_, ?_⟩
  · intro m mem
    cases List.mem_append.mp mem with
    | inl old => exact (inv.isSealed m old).extend extends'
    | inr new =>
        obtain rfl := List.mem_singleton.mp new
        cases x with
        | a => exact ⟨primes, mine, theirs, fair.bigPrime, fair.priPrime, own', friend', by
            rw [agreedKey_comm]⟩
        | b => exact ⟨primes, theirs, mine, fair.bigPrime, fair.priPrime, friend', own', rfl⟩
  · intro current room' numbers m mem
    obtain rfl : data = current := Option.some.inj (room.symm.trans room')
    cases List.mem_append.mp mem with
    | inl old => exact inv.current data room numbers m old
    | inr new =>
        obtain rfl := List.mem_singleton.mp new
        exact ⟨rfl, rfl⟩

theorem kept_step {c c' : Chat} {e : ChatEvent} (inv : Kept pair cipher c)
    (keeps : KeepsPrimes pair c e) (taken : chatStep pair cipher c e = some c') :
    Kept pair cipher c' := by
  cases e with
  | friend e =>
      simp only [chatStep, Option.map_eq_some_iff] at taken
      obtain ⟨s', taken, rfl⟩ := taken
      exact kept_friend inv keeps taken
  | send x random iv typed => exact kept_send inv taken

/-- Messages stay readable throughout every run that keeps its primes. -/
theorem messages_stay_readable (pair : Pair) (cipher : Cipher) (files : ℕ → SecretFiles)
    (es : List ChatEvent)
    (keeps : Meets (chatStep pair cipher) (KeepsPrimes pair) (State.initial files, []) es) :
    Always (chatStep pair cipher) (Readable pair cipher) (State.initial files, []) es :=
  always_of_meets (fun _ _ _ => kept_step) (fun _ => Kept.readable) (kept_initial files) keeps

/-- The one ciphertext below is what AES gives for it; elsewhere the text is only marked. -/
def Cipher.sample : Cipher where
  encrypt key iv text :=
    if key = [212, 115, 94, 58, 38, 94, 22, 238, 224, 63, 89, 113, 139, 155, 93, 3] ∧
        iv = [1, 2, 3, 4, 5, 6, 7, 8, 9, 10, 11, 12, 13, 14, 15, 16] ∧ text = "hi" then
      "HWdT+RfBrF8MptLElAR6eQ=="
    else "!" ++ text
  decrypt key iv text :=
    if key = [212, 115, 94, 58, 38, 94, 22, 238, 224, 63, 89, 113, 139, 155, 93, 3] ∧
        iv = [1, 2, 3, 4, 5, 6, 7, 8, 9, 10, 11, 12, 13, 14, 15, 16] ∧
        text = "HWdT+RfBrF8MptLElAR6eQ==" then
      some "hi"
    else some (String.ofList text.toList.tail)
  decrypt_encrypt key iv text := by
    split
    · rename_i same
      simp [same]
    · have marked : "!" ++ text ≠ "HWdT+RfBrF8MptLElAR6eQ==" := by
        intro same
        have first := congrArg (fun s => s.toList.head?) same
        simp at first
      simp [marked]

/-- An Android pet asks, an iOS pet accepts, and both look at the outcome. -/
def becomeFriends (primes : PublicPrimes) : List Event :=
  [.add .a primes 6, .land .a, .land .a, .resume .a 0 0, .land .a, .observe .b, .accept .b,
    .land .b, .land .b, .fetch .b 0, .resume .b 0 15, .land .b, .observe .a]

theorem messages_stay_readable_once_friends :
    Always (chatStep (.ofClients .android .ios) .sample) (Readable (.ofClients .android .ios) .sample)
      (State.initial fun _ _ => none, [])
      ((becomeFriends ⟨23, 5, by decide⟩).map .friend ++
        [.send .a 0 [1, 2, 3, 4, 5, 6, 7, 8, 9, 10, 11, 12, 13, 14, 15, 16] "hi",
          .friend (.observe .b)]) :=
  messages_stay_readable _ _ _ _ (by decide +kernel)

/-- What the screens offer: iOS disables its add button once there is a record, Android does not;
the chat opens from a friend's row. -/
def Offered (pair : Pair) (s : State) : ChatEvent → Prop
  | .friend (.add x _ _) => pair.client x = .ios → s.lastSeen x = none
  | .friend e => Gated s e
  | .send x _ _ _ => s.lastSeen x = some .friending

instance (s : State) : ∀ e, Decidable (Offered pair s (.friend e))
  | .add x _ _ => inferInstanceAs (Decidable (pair.client x = .ios → s.lastSeen x = none))
  | .accept x => inferInstanceAs (Decidable (s.lastSeen x = _))
  | .reject x => inferInstanceAs (Decidable (s.lastSeen x = _))
  | .fetch .. | .resume .. | .land _ | .observe _ => .isTrue trivial

theorem run_friends {s : State} {messages : List Message} {es : List Event} :
    run (chatStep pair cipher) (s, messages) (es.map .friend) =
      (run (step pair) s es).map fun s' => (s', messages) := by
  induction es generalizing s with
  | nil => rfl
  | cons e es ih =>
      simp only [List.map_cons, run, chatStep]
      cases step pair s e with
      | none => rfl
      | some t => simpa using ih

theorem meets_friends {s : State} {messages : List Message} {es : List Event}
    (h : Meets (step pair) (fun s e => Offered pair s (.friend e)) s es) :
    Meets (chatStep pair cipher) (fun c => Offered pair c.1) (s, messages) (es.map .friend) := by
  induction es generalizing s with
  | nil => trivial
  | cons e es ih =>
      intro c taken
      simp only [chatStep, Option.map_eq_some_iff] at taken
      obtain ⟨t, taken, rfl⟩ := taken
      obtain ⟨ok, later⟩ := h t taken
      exact ⟨ok, ih later⟩

/-- Friends exchange a message, and then the Android pet taps its add button again. Whatever the
cipher, the message is lost to both once the second request is accepted. -/
theorem message_lost_by_second_request : ¬ ∃ cipher : Cipher, cipher.Separates ∧
    ∀ (pair : Pair) (files : ℕ → SecretFiles) (es : List ChatEvent),
      Meets (chatStep pair cipher) (fun c => Offered pair c.1) (State.initial files, []) es →
        Always (chatStep pair cipher) (Readable pair cipher) (State.initial files, []) es := by
  rintro ⟨cipher, separates, claim⟩
  let pair := Pair.ofClients .android .ios
  let first := becomeFriends ⟨23, 5, by decide⟩
  let second := becomeFriends ⟨47, 5, by decide⟩
  have offered : Meets (step pair) (fun s e => Offered pair s (.friend e))
      (State.initial fun _ _ => none) first := by
    decide +kernel
  have trace : ((run (step pair) (State.initial fun _ _ => none) first).bind fun s =>
      s.docs.room.bind fun data =>
      (openRoom .android (s.files 0) (pair.id .a) (pair.id .b) data 0).bind fun opened =>
      (run (step pair) (s.store 0 opened.2) second).bind fun t =>
      t.docs.room.bind fun data' =>
      (roomKey .android (t.files 0) (pair.id .a) (pair.id .b) data' 0).map fun key =>
        decide (s.lastSeen .a = some .friending) &&
        decide (Meets (step pair) (fun s e => Offered pair s (.friend e)) (s.store 0 opened.2) second) &&
        decide (∀ x, (data'.number (pair.id x)).isSome) && decide (key ≠ opened.1)) = some true := by
    decide +kernel
  simp only [Option.bind_eq_some_iff, Option.map_eq_some_iff, Bool.and_eq_true, decide_eq_true_eq]
    at trace
  obtain ⟨s, befriended, data, room, opened, opens, t, again, data', room', key, keyed,
    ⟨⟨seen, offered'⟩, numbers⟩, differs⟩ := trace
  let message : Message := ⟨.a, [], cipher.encrypt opened.1 [] "hi", "hi", data⟩
  have sent : chatStep pair cipher (s, []) (.send .a 0 [] "hi") =
      some (s.store 0 opened.2, [message]) := by
    simp only [chatStep, send, room, Option.bind_eq_bind, Option.bind_some]
    exact congrArg (Option.bind · _) opens
  have rest : run (chatStep pair cipher) (s, []) (.send .a 0 [] "hi" :: second.map .friend) =
      some (t, [message]) := by
    rw [run_cons]
    exact ⟨_, sent, by rw [run_friends, again]; rfl⟩
  have reached : run (chatStep pair cipher) (State.initial fun _ _ => none, [])
      (first.map .friend ++ .send .a 0 [] "hi" :: second.map .friend) = some (t, [message]) := by
    rw [run_append]
    exact ⟨(s, []), by rw [run_friends, befriended]; rfl, rest⟩
  have screens : Meets (chatStep pair cipher) (fun c => Offered pair c.1)
      (State.initial fun _ _ => none, [])
      (first.map .friend ++ .send .a 0 [] "hi" :: second.map .friend) := by
    refine meets_append (meets_friends offered) fun c arrived c' taken => ?_
    rw [run_friends, befriended] at arrived
    cases arrived
    obtain rfl := Option.some.inj (sent.symm.trans taken)
    exact ⟨seen, meets_friends offered'⟩
  have readable := always_iff_prefixes.mp (claim pair _ _ screens) _ (List.prefix_refl _) _ reached
  obtain ⟨key', keyed', decrypted⟩ := readable data' room' numbers message (by simp) .a 0
  obtain rfl : key = key' := Option.some.inj (keyed.symm.trans keyed')
  exact separates opened.1 key [] "hi" differs decrypted

end PetClump
