import PetClump.Friending.Versions

/-! # Both pets compute one key

The entries of a version were made with its own public numbers: an entry is the
placeholder or the public number of the secret that the side's device keeps.
Writing back a stale version keeps this, since the whole document travels.
-/

namespace PetClump

open Runs

variable {pair : Pair} {s s' : State}

/-- The secret that the device of `x` keeps for this friendship, once there is one. -/
def Pair.secret (pair : Pair) (files : ℕ → SecretFiles) (x : Side) : Option ℕ :=
  files (pair.device x) (KeyExchanger.secretFile (pair.client x) (pair.exchangerId x))

/-- The invariant of a version: its entries were made with its own public numbers. -/
structure Fair (pair : Pair) (files : ℕ → SecretFiles) (data : Data) (primes : PublicPrimes) :
    Prop where
  bigPrime : data "bigPrime" = some (Nat.repr primes.bigPrime)
  priPrime : data "priPrime" = some (Nat.repr primes.primitiveRoot)
  entry : ∀ x, data (pair.id x) = some "?" ∨ ∃ secret, pair.secret files x = some secret ∧
    data (pair.id x) = some (Nat.repr (modPow primes.primitiveRoot secret primes.bigPrime))

namespace Fair

variable {files : ℕ → SecretFiles} {data : Data} {primes : PublicPrimes}

theorem extend {later : ℕ → SecretFiles} (h : Fair pair files data primes)
    (more : ∀ d, (files d).Extends (later d)) : Fair pair later data primes where
  bigPrime := h.bigPrime
  priPrime := h.priPrime
  entry x := by
    cases h.entry x with
    | inl unset => exact .inl unset
    | inr made =>
        obtain ⟨secret, stored, entry⟩ := made
        exact .inr ⟨secret, more _ _ _ stored, entry⟩

theorem sent {x : Side} {k : KeyExchanger} {old : SecretFiles} {random : ℕ}
    (created : KeyExchanger.create (pair.client x) old (pair.exchangerId x) primes random =
      (k, files (pair.device x))) :
    Fair pair files (k.generateSenderData (pair.id x) (pair.id x.other)) primes := by
  obtain ⟨prime, root, stored, _⟩ := KeyExchanger.withPrimes_spec created
  have apart := pair.id_ne x
  constructor
  · simp [KeyExchanger.generateSenderData, Data.put_of_ne, pair.bigPrime_ne_id, prime]
  · simp [KeyExchanger.generateSenderData, Data.put_of_ne, pair.priPrime_ne_id, root]
  · intro y
    cases Side.eq_or_eq_other x y with
    | inl own =>
        subst own
        refine .inr ⟨k.mySecret, stored, ?_⟩
        simp [KeyExchanger.generateSenderData, Data.put_of_ne _ apart, KeyExchanger.getMyPublic, prime,
          root]
    | inr friend =>
        subst friend
        exact .inl (by simp [KeyExchanger.generateSenderData])

/-- The public numbers are read back as they were written. -/
theorem numbers (h : Fair pair files data primes) :
    data.number "bigPrime" = some primes.bigPrime ∧ data.number "priPrime" = some primes.primitiveRoot := by
  simp [Data.number, h.bigPrime, h.priPrime]

theorem joined {x : Side} {k : KeyExchanger} {old : SecretFiles} {random : ℕ}
    (h : Fair pair files data primes)
    (created : KeyExchanger.ofData (pair.client x) old (pair.exchangerId x) data random =
      some (k, files (pair.device x))) :
    Fair pair files (data.put (pair.id x) (Nat.repr k.getMyPublic)) primes := by
  obtain ⟨prime, root, stored, _⟩ := KeyExchanger.ofData_spec created
  have prime : primes.bigPrime = k.bigPrime := by simpa [Data.number, h.bigPrime] using prime
  have root : primes.primitiveRoot = k.primitiveRoot := by simpa [Data.number, h.priPrime] using root
  constructor
  · rw [Data.put_of_ne _ (pair.bigPrime_ne_id x), h.bigPrime]
  · rw [Data.put_of_ne _ (pair.priPrime_ne_id x), h.priPrime]
  · intro y
    cases Side.eq_or_eq_other x y with
    | inl own =>
        subst own
        refine .inr ⟨k.mySecret, stored, ?_⟩
        rw [Data.put_same, KeyExchanger.getMyPublic, prime, root]
    | inr friend =>
        subst friend
        rw [Data.put_of_ne _ (pair.id_ne x).symm]
        exact h.entry x.other

/-- A fair version with a number under both ids names both secrets. -/
theorem secrets (h : Fair pair files data primes) (x : Side)
    (joined : (data.number (pair.id x)).isSome) :
    ∃ secret, pair.secret files x = some secret ∧
      data.number (pair.id x) = some (modPow primes.primitiveRoot secret primes.bigPrime) := by
  cases h.entry x with
  | inl unset =>
      have notNumeral : Decimal.parse "?" = none := by decide
      simp [Data.number, unset, notNumeral] at joined
  | inr made =>
      obtain ⟨secret, stored, entry⟩ := made
      exact ⟨secret, stored, by simp [Data.number, entry]⟩

end Fair

/-- The key that two secrets and the public numbers of a version stand for. -/
def agreedKey (primes : PublicPrimes) (mine theirs : ℕ) : List UInt8 :=
  (Sha256.digest (Nat.repr
    (modPow primes.primitiveRoot (mine * theirs) primes.bigPrime)).toUTF8.toList).take 16

theorem Fair.roomKey {files : ℕ → SecretFiles} {data : Data} {primes : PublicPrimes} {x : Side}
    {mine theirs : ℕ} (h : Fair pair files data primes) (random : ℕ)
    (own : pair.secret files x = some mine)
    (ownPublic : (data.number (pair.id x)).isSome)
    (friendPublic : data.number (pair.id x.other) =
      some (modPow primes.primitiveRoot theirs primes.bigPrime)) :
    roomKey (pair.client x) (files (pair.device x)) (pair.id x) (pair.id x.other) data random =
      some (agreedKey primes theirs mine) := by
  obtain ⟨prime, root⟩ := h.numbers
  obtain ⟨ownNumber, hasOwn⟩ := Option.isSome_iff_exists.mp ownPublic
  have loaded := KeyExchanger.loadOrGenerateSecret_of_stored own random
  cases client : pair.client x with
  | ios =>
      simp only [client, Pair.exchangerId] at loaded
      simp [PetClump.roomKey, openRoom, friendPublic, KeyExchanger.ofData, prime, root,
        KeyExchanger.withPrimes, loaded, KeyExchanger.getSharedKey, ModPow.modPow_modPow, agreedKey]
  | android =>
      simp only [client, Pair.exchangerId] at loaded
      simp [PetClump.roomKey, openRoom, hasOwn, friendPublic, prime, root, KeyExchanger.withPrimes, loaded,
        KeyExchanger.getSharedKey, ModPow.modPow_modPow, agreedKey]

theorem agreedKey_comm (primes : PublicPrimes) (mine theirs : ℕ) :
    agreedKey primes mine theirs = agreedKey primes theirs mine := by
  rw [agreedKey, agreedKey, Nat.mul_comm]

theorem length_agreedKey (primes : PublicPrimes) (mine theirs : ℕ) :
    (agreedKey primes mine theirs).length = 16 := by
  simp [agreedKey]

/-- Every version there is was made fairly. -/
def AllFair (pair : Pair) (s : State) : Prop :=
  ∀ data, Version s data → ∃ primes, Fair pair s.files data primes

theorem allFair_initial (files : ℕ → SecretFiles) : AllFair pair (State.initial files) := by
  intro data version
  cases version with
  | stored h => cases h
  | queued x i mem => simp [State.initial] at mem
  | read x op mem => simp [State.initial] at mem

theorem AllFair.store {device : ℕ} {files : SecretFiles} (inv : AllFair pair s)
    (more : (s.files device).Extends files) : AllFair pair (s.store device files) := by
  intro data version
  obtain ⟨primes, fair⟩ := inv data (version.of_parts rfl rfl rfl)
  exact ⟨primes, fair.extend (extends_store more)⟩

theorem allFair_step {e : Event} (inv : AllFair pair s) (h : step pair s e = some s') :
    AllFair pair s' := by
  have more := step_files h
  intro data version
  cases step_version h version with
  | inl old =>
      obtain ⟨primes, fair⟩ := inv data old
      exact ⟨primes, fair.extend more⟩
  | inr made =>
      cases made with
      | sent x primes random k created => exact ⟨primes, Fair.sent created⟩
      | joined x old random k known created =>
          obtain ⟨primes, fair⟩ := inv old known
          exact ⟨primes, (fair.extend more).joined created⟩

theorem allFair_run {es : List Event} (inv : AllFair pair s) (h : run (step pair) s es = some s') :
    AllFair pair s' :=
  run_invariant (fun _ _ _ => allFair_step) inv h

/-- A fair version with both numbers gives both devices the same key. -/
theorem Fair.keys {files : ℕ → SecretFiles} {data : Data} {primes : PublicPrimes}
    (h : Fair pair files data primes) (joined : ∀ x, (data.number (pair.id x)).isSome) :
    ∃ key : List UInt8, key.length = 16 ∧
      ∀ (later : ℕ → SecretFiles), (∀ d, (files d).Extends (later d)) → ∀ x random,
        PetClump.roomKey (pair.client x) (later (pair.device x)) (pair.id x) (pair.id x.other) data
          random = some key := by
  obtain ⟨secretA, storedA, publicA⟩ := h.secrets .a (joined .a)
  obtain ⟨secretB, storedB, publicB⟩ := h.secrets .b (joined .b)
  refine ⟨agreedKey primes secretA secretB, length_agreedKey _ _ _, ?_⟩
  intro later more x random
  have fair := h.extend more
  cases x with
  | a =>
      rw [agreedKey_comm]
      exact fair.roomKey random (more _ _ _ storedA) (joined .a) publicB
  | b => exact fair.roomKey random (more _ _ _ storedB) (joined .b) publicA

/-- Both pets compute one key from every version that carries both their numbers, whenever each
of them gets to it: the runs `later` and `later'` lead to the states in which they compute. -/
theorem room_keys_agree (pair : Pair) (files : ℕ → SecretFiles) (es later later' : List Event)
    (s t t' : State) (data : Data) (randomA randomB : ℕ)
    (reached : run (step pair) (State.initial files) es = some s) (version : Version s data)
    (numberA : (data.number (pair.id .a)).isSome) (numberB : (data.number (pair.id .b)).isSome)
    (atA : run (step pair) s later = some t) (atB : run (step pair) s later' = some t') :
    ∃ key : List UInt8, key.length = 16 ∧
      roomKey (pair.client .a) (t.files (pair.device .a)) (pair.id .a) (pair.id .b) data randomA =
        some key ∧
      roomKey (pair.client .b) (t'.files (pair.device .b)) (pair.id .b) (pair.id .a) data randomB =
        some key := by
  obtain ⟨primes, fair⟩ := allFair_run (allFair_initial files) reached data version
  obtain ⟨key, length, computed⟩ := fair.keys fun x => by cases x <;> assumption
  exact ⟨key, length, computed _ (files_run atA) .a randomA, computed _ (files_run atB) .b randomB⟩

/-- An iOS pet asks, an Android pet accepts, and all writes land. -/
def requestAndAccept : List Event :=
  [.add .a ⟨23, 5, by decide⟩ 6, .land .a, .land .a, .land .a,
    .accept .b, .fetch .b 0, .resume .b 0 15, .land .b, .resume .b 0 0, .land .b, .land .b]

theorem room_keys_agree_after_request :
    let pair := Pair.ofClients .ios .android
    ∃ s data, run (step pair) (State.initial fun _ _ => none) requestAndAccept = some s ∧
      s.docs.room = some data ∧ ∃ key : List UInt8, key.length = 16 ∧
        roomKey .ios (s.files 0) (pair.id .a) (pair.id .b) data 0 = some key ∧
        roomKey .android (s.files 1) (pair.id .b) (pair.id .a) data 0 = some key := by
  intro pair
  have usable : ((run (step pair) (State.initial fun _ _ => none) requestAndAccept).bind
      fun s => s.docs.room).any (fun data =>
        (data.number (pair.id .a)).isSome && (data.number (pair.id .b)).isSome) = true := by
    decide +kernel
  obtain ⟨data, room, numbers⟩ := (Option.any_eq_true _ _).mp usable
  obtain ⟨s, reached, stored⟩ := Option.bind_eq_some_iff.mp room
  obtain ⟨numberA, numberB⟩ := Bool.and_eq_true_iff.mp numbers
  refine ⟨s, data, reached, stored, ?_⟩
  exact room_keys_agree pair (fun _ _ => none) requestAndAccept [] [] s s s data 0 0 reached
    (.stored stored) numberA numberB rfl rfl

end PetClump
