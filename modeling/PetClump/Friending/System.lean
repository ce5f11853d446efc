import PetClump.KeyExchanger
import PetClump.Library.Runs

/-! # Friend operations of two pets

Two pets, the two friend records they keep about each other and their chat-room
document. Every client owns a queue of writes that it has issued and that have
not landed yet, and a list of callbacks it waits for. A read is answered from the
client's own view, the stored documents with its queued writes on top, and the
callback that uses the answer runs at some later step.
-/

namespace PetClump

inductive Side where
  | a
  | b
  deriving Repr, DecidableEq

namespace Side

def other : Side → Side
  | .a => .b
  | .b => .a

@[simp] theorem other_other (x : Side) : x.other.other = x := by cases x <;> rfl

theorem eq_or_eq_other (x y : Side) : y = x ∨ y = x.other := by
  cases x <;> cases y <;> simp [other]

theorem other_ne (x : Side) : x.other ≠ x := by cases x <;> decide

instance {p : Side → Prop} [DecidablePred p] : Decidable (∀ x, p x) :=
  decidable_of_iff (p .a ∧ p .b) ⟨fun h x => by cases x; exacts [h.1, h.2], fun h => ⟨h .a, h .b⟩⟩

end Side

/-- The `pending` field of a friend record. -/
inductive Status where
  | sending
  | receiving
  | friending
  | blocking
  deriving Repr, DecidableEq

/-- Two pets and the device each of them is acted for from. -/
structure Pair where
  pet : Side → PetId
  distinct : pet .a ≠ pet .b
  client : Side → Client
  device : Side → ℕ

namespace Pair

def id (pair : Pair) (x : Side) : String := (pair.pet x).getId

/-- The id an exchanger is built for: the friend's on iOS, the own pet's on Android. -/
def exchangerId (pair : Pair) (x : Side) : String :=
  match pair.client x with
  | .ios => pair.id x.other
  | .android => pair.id x

theorem id_ne (pair : Pair) (x : Side) : pair.id x ≠ pair.id x.other := by
  intro same
  have pets := PetId.getId_injective same
  cases x with
  | a => exact pair.distinct pets
  | b => exact pair.distinct pets.symm

/-- Two pets of two owners, each on a device of its own. -/
def ofClients (clientA clientB : Client) : Pair where
  pet
    | .a => ⟨"A", 0⟩
    | .b => ⟨"B", 0⟩
  distinct := by decide
  client
    | .a => clientA
    | .b => clientB
  device
    | .a => 0
    | .b => 1

theorem bigPrime_ne_id (pair : Pair) (x : Side) : "bigPrime" ≠ pair.id x :=
  (PetId.getId_ne_bigPrime (pair.pet x)).symm

theorem priPrime_ne_id (pair : Pair) (x : Side) : "priPrime" ≠ pair.id x :=
  (PetId.getId_ne_priPrime (pair.pet x)).symm

end Pair

/-- `record x` is the status stored under `pets/x/friends/(other x)`. -/
structure Documents where
  record : Side → Option Status
  room : Option Data

inductive Write where
  | setRecord (owner : Side) (pending : Status)
  | deleteRecord (owner : Side)
  | setRoom (data : Data)
  | deleteRoom

def Documents.apply (docs : Documents) : Write → Documents
  | .setRecord owner pending =>
      { docs with record := Function.update docs.record owner (some pending) }
  | .deleteRecord owner => { docs with record := Function.update docs.record owner none }
  | .setRoom data => { docs with room := some data }
  | .deleteRoom => { docs with room := none }

inductive Kind where
  | add
  | accept
  | reject
  deriving Repr, DecidableEq

/-- One tap on one of the three buttons. -/
structure Operation where
  number : ℕ
  kind : Kind
  starter : Side
  deriving Repr, DecidableEq

/-- What a client waits for. A `get` is a read under way, the `got` after it a callback that
holds the answer. -/
inductive Task where
  | getRoom (op : Operation)
  | gotRoom (op : Operation) (snap : Option Data)
  | setReceiverList (op : Operation) (owner : Side) (pending : Status)
  | getSender (op : Operation)
  | gotSender (op : Operation) (found : Bool)
  | getReceiver (op : Operation)
  | gotReceiver (op : Operation) (found : Bool)
  | getChatRoom (op : Operation)
  | gotChatRoom (op : Operation) (found : Bool)

/-- A queued write. The only completion callback that does something sets the receiver's record
once the sender's is stored. -/
structure Issued where
  op : Operation
  write : Write
  receiverList : Option (Side × Status)

def Issued.onComplete (i : Issued) : List Task :=
  match i.receiverList with
  | some (owner, pending) => [.setReceiverList i.op owner pending]
  | none => []

structure State where
  docs : Documents
  files : ℕ → SecretFiles
  queue : Side → List Issued
  waiting : Side → List Task
  lastSeen : Side → Option Status
  started : ℕ

namespace State

/-- Strangers: no record, no room, nothing under way. The devices may hold secrets already. -/
def initial (files : ℕ → SecretFiles) : State where
  docs := ⟨fun _ => none, none⟩
  files := files
  queue := fun _ => []
  waiting := fun _ => []
  lastSeen := fun _ => none
  started := 0

def issue (s : State) (x : Side) (writes : List Issued) : State :=
  { s with queue := Function.update s.queue x (s.queue x ++ writes) }

def await (s : State) (x : Side) (tasks : List Task) : State :=
  { s with waiting := Function.update s.waiting x (s.waiting x ++ tasks) }

/-- Client `x` stops waiting for what is in place `i`. -/
def dismiss (s : State) (x : Side) (i : ℕ) : State :=
  { s with waiting := Function.update s.waiting x ((s.waiting x).eraseIdx i) }

def store (s : State) (device : ℕ) (files : SecretFiles) : State :=
  { s with files := Function.update s.files device files }

/-- The documents as client `x` sees them: its queued writes are applied already. -/
def view (s : State) (x : Side) : Documents :=
  (s.queue x).foldl (fun docs i => docs.apply i.write) s.docs

/-- No operation in progress and no write in flight. -/
def Quiet (s : State) : Prop := ∀ x, s.queue x = [] ∧ s.waiting x = []

instance (s : State) : Decidable s.Quiet :=
  inferInstanceAs (Decidable (∀ x, s.queue x = [] ∧ s.waiting x = []))

variable {s : State}

@[simp] theorem issue_docs (x : Side) (writes : List Issued) : (s.issue x writes).docs = s.docs := rfl

@[simp] theorem issue_files (x : Side) (writes : List Issued) :
    (s.issue x writes).files = s.files := rfl

@[simp] theorem issue_waiting (x : Side) (writes : List Issued) :
    (s.issue x writes).waiting = s.waiting := rfl

@[simp] theorem await_docs (x : Side) (tasks : List Task) : (s.await x tasks).docs = s.docs := rfl

@[simp] theorem await_files (x : Side) (tasks : List Task) : (s.await x tasks).files = s.files := rfl

@[simp] theorem await_queue (x : Side) (tasks : List Task) : (s.await x tasks).queue = s.queue := rfl

@[simp] theorem dismiss_docs (x : Side) (i : ℕ) : (s.dismiss x i).docs = s.docs := rfl

@[simp] theorem dismiss_files (x : Side) (i : ℕ) : (s.dismiss x i).files = s.files := rfl

@[simp] theorem dismiss_queue (x : Side) (i : ℕ) : (s.dismiss x i).queue = s.queue := rfl

@[simp] theorem store_docs (device : ℕ) (files : SecretFiles) : (s.store device files).docs = s.docs := rfl

@[simp] theorem store_queue (device : ℕ) (files : SecretFiles) :
    (s.store device files).queue = s.queue := rfl

@[simp] theorem store_waiting (device : ℕ) (files : SecretFiles) :
    (s.store device files).waiting = s.waiting := rfl

@[simp] theorem store_files (device : ℕ) (files : SecretFiles) :
    (s.store device files).files = Function.update s.files device files := rfl

theorem mem_queue_issue {x y : Side} {writes : List Issued} {i : Issued} :
    i ∈ (s.issue x writes).queue y ↔ i ∈ s.queue y ∨ y = x ∧ i ∈ writes := by
  by_cases same : y = x
  · subst same
    simp [issue]
  · simp [issue, same]

theorem mem_waiting_await {x y : Side} {tasks : List Task} {t : Task} :
    t ∈ (s.await x tasks).waiting y ↔ t ∈ s.waiting y ∨ y = x ∧ t ∈ tasks := by
  by_cases same : y = x
  · subst same
    simp [await]
  · simp [await, same]

theorem mem_waiting_of_dismiss {x y : Side} {i : ℕ} {t : Task}
    (h : t ∈ (s.dismiss x i).waiting y) : t ∈ s.waiting y := by
  by_cases same : y = x
  · subst same
    simp only [dismiss, Function.update_self] at h
    exact List.mem_of_mem_eraseIdx h
  · simpa only [dismiss, Function.update_of_ne same] using h

/-- Dismissing a callback drops that one and no other. -/
theorem mem_waiting_of_mem {x y : Side} {i : ℕ} {task t : Task} (taken : (s.waiting x)[i]? = some task)
    (h : t ∈ s.waiting y) : t ∈ (s.dismiss x i).waiting y ∨ y = x ∧ t = task := by
  by_cases same : y = x
  · subst same
    obtain ⟨j, found⟩ := List.mem_iff_getElem?.mp h
    by_cases place : j = i
    · subst place
      exact .inr ⟨rfl, Option.some.inj (found.symm.trans taken)⟩
    · refine .inl ?_
      simp only [dismiss, Function.update_self]
      exact List.mem_eraseIdx_iff_getElem?.mpr ⟨j, place, found⟩
  · exact .inl (by simpa only [dismiss, Function.update_of_ne same] using h)

/-- The documents as they were, or as some queued write leaves them. -/
theorem view_room {x : Side} {data : Data} (seen : (s.view x).room = some data) :
    s.docs.room = some data ∨ ∃ i ∈ s.queue x, i.write = .setRoom data := by
  unfold view at seen
  generalize s.docs = docs at seen ⊢
  generalize s.queue x = queue at seen ⊢
  induction queue generalizing docs with
  | nil => exact .inl seen
  | cons i rest ih =>
      cases ih (docs.apply i.write) seen with
      | inl now =>
          cases write : i.write with
          | setRoom new =>
              simp only [write, Documents.apply, Option.some.injEq] at now
              exact .inr ⟨i, List.mem_cons_self, by rw [write, now]⟩
          | deleteRoom => simp [write, Documents.apply] at now
          | setRecord owner pending => exact .inl (by simpa only [write, Documents.apply] using now)
          | deleteRecord owner => exact .inl (by simpa only [write, Documents.apply] using now)
      | inr later =>
          obtain ⟨j, queued, written⟩ := later
          exact .inr ⟨j, List.mem_cons_of_mem _ queued, written⟩

end State

section IOS

variable (pair : Pair) (x : Side) (op : Operation)

/-- `FriendHandler.addFriend` -/
def addFriend (primes : PublicPrimes) (random : ℕ) (s : State) : State :=
  let myDH := KeyExchanger.create .ios (s.files (pair.device x)) (pair.id x.other) primes random
  (s.store (pair.device x) myDH.2).issue x
    [⟨op, .setRoom (myDH.1.generateSenderData (pair.id x) (pair.id x.other)), none⟩,
      ⟨op, .setRecord x .sending, none⟩,
      ⟨op, .setRecord x.other .receiving, none⟩]

/-- `FriendHandler.acceptFriend` -/
def acceptFriend (s : State) : State :=
  (s.await x [.getRoom op]).issue x
    [⟨op, .setRecord x .friending, none⟩, ⟨op, .setRecord x.other .friending, none⟩]

/-- `FriendHandler.rejectFriend` -/
def rejectFriend (s : State) : State :=
  s.issue x
    [⟨op, .deleteRoom, none⟩, ⟨op, .deleteRecord x, none⟩, ⟨op, .deleteRecord x.other, none⟩]

end IOS

section Android

inductive FriendChangeType where
  | newFriend
  | addUnreadFriend
  | blockFriend
  deriving Repr, DecidableEq

def FriendChangeType.codeSender : FriendChangeType → Status
  | .newFriend => .sending
  | .addUnreadFriend => .friending
  | .blockFriend => .blocking

def FriendChangeType.codeReceiver : FriendChangeType → Status
  | .newFriend => .receiving
  | .addUnreadFriend => .friending
  | .blockFriend => .blocking

variable (pair : Pair) (x : Side) (op : Operation)

/-- `PetProfile.update_friend_key`, run by client `x` -/
def updateFriendKey (myPetId friendPetId : Side) (type : FriendChangeType)
    (primes : PublicPrimes) (random : ℕ) (s : State) : State :=
  match type with
  | .newFriend =>
      let thispet :=
        KeyExchanger.create .android (s.files (pair.device x)) (pair.id myPetId) primes random
      (s.store (pair.device x) thispet.2).issue x
        [⟨op, .setRoom (thispet.1.generateSenderData (pair.id myPetId) (pair.id friendPetId)), none⟩]
  | .addUnreadFriend => s.await x [.getRoom op]
  | .blockFriend => s

/-- `PetProfile.new_friend_change`: the receiver's record is written when the write of the
sender's record has completed. -/
def newFriendChange (sender receiver : Side) (type : FriendChangeType) (primes : PublicPrimes)
    (random : ℕ) (s : State) : State :=
  (updateFriendKey pair x op sender receiver type primes random s).issue x
    [⟨op, .setRecord sender type.codeSender, some (receiver, type.codeReceiver)⟩]

/-- `PetProfile.friend_delete`, called with the friend as sender -/
def friendDelete (s : State) : State := s.await x [.getSender op]

end Android

inductive Event where
  /-- the add-friend button; the numbers are what the exchanger draws -/
  | add (x : Side) (primes : PublicPrimes) (random : ℕ)
  | accept (x : Side)
  | reject (x : Side)
  /-- the read that waits in place `i` is answered -/
  | fetch (x : Side) (i : ℕ)
  /-- the callback that waits in place `i` runs -/
  | resume (x : Side) (i : ℕ) (random : ℕ)
  /-- the oldest queued write of `x` reaches the store -/
  | land (x : Side)
  /-- `x` looks at its own friend record -/
  | observe (x : Side)

/-- The answer to a read, from the view of the reading client. -/
def answer (docs : Documents) (x : Side) : Task → Option Task
  | .getRoom op => some (.gotRoom op docs.room)
  | .getSender op => some (.gotSender op (docs.record x.other).isSome)
  | .getReceiver op => some (.gotReceiver op (docs.record x).isSome)
  | .getChatRoom op => some (.gotChatRoom op docs.room.isSome)
  | _ => none

/-- Run a callback. `none` when the task still waits for its read. -/
def callback (pair : Pair) (x : Side) (random : ℕ) (s : State) : Task → Option State
  | .gotRoom op (some data) =>
      match KeyExchanger.ofData (pair.client x) (s.files (pair.device x)) (pair.exchangerId x) data
        random with
      | some (kE, files) =>
          some ((s.store (pair.device x) files).issue x
            [⟨op, .setRoom (data.put (pair.id x) (Nat.repr kE.getMyPublic)), none⟩])
      | none => some s
  | .gotRoom _ none => some s
  | .setReceiverList op owner pending => some (s.issue x [⟨op, .setRecord owner pending, none⟩])
  | .gotSender op true =>
      some ((s.issue x [⟨op, .deleteRecord x.other, none⟩]).await x [.getReceiver op])
  | .gotSender _ false => some s
  | .gotReceiver op true =>
      some ((s.issue x [⟨op, .deleteRecord x, none⟩]).await x [.getChatRoom op])
  | .gotReceiver _ false => some s
  | .gotChatRoom op true => some (s.issue x [⟨op, .deleteRoom, none⟩])
  | .gotChatRoom _ false => some s
  | .getRoom _ | .getSender _ | .getReceiver _ | .getChatRoom _ => none

/-- Start an operation on the client of `x`. -/
def start (pair : Pair) (x : Side) (kind : Kind) (primes : PublicPrimes) (random : ℕ)
    (s : State) : State :=
  let op : Operation := ⟨s.started, kind, x⟩
  let s := { s with started := s.started + 1 }
  match pair.client x, kind with
  | .ios, .add => addFriend pair x op primes random s
  | .ios, .accept => acceptFriend x op s
  | .ios, .reject => rejectFriend x op s
  | .android, .add => newFriendChange pair x op x x.other .newFriend primes random s
  | .android, .accept => newFriendChange pair x op x.other x .addUnreadFriend primes random s
  | .android, .reject => friendDelete x op s

def step (pair : Pair) (s : State) : Event → Option State
  | .add x primes random => some (start pair x .add primes random s)
  | .accept x => some (start pair x .accept ⟨2, 0, by decide⟩ 0 s)
  | .reject x => some (start pair x .reject ⟨2, 0, by decide⟩ 0 s)
  | .fetch x i => do
      let task ← (s.waiting x)[i]?
      let answered ← answer (s.view x) x task
      pure ((s.dismiss x i).await x [answered])
  | .resume x i random => do
      let task ← (s.waiting x)[i]?
      callback pair x random (s.dismiss x i) task
  | .land x =>
      match s.queue x with
      | [] => none
      | i :: rest =>
          some ({ s with docs := s.docs.apply i.write, queue := Function.update s.queue x rest }.await x
            i.onComplete)
  | .observe x => some { s with lastSeen := Function.update s.lastSeen x ((s.view x).record x) }

/-- What a step can be. -/
inductive Stepped (pair : Pair) (s : State) : Event → State → Prop where
  | add (x : Side) (primes : PublicPrimes) (random : ℕ) :
      Stepped pair s (.add x primes random) (start pair x .add primes random s)
  | accept (x : Side) : Stepped pair s (.accept x) (start pair x .accept ⟨2, 0, by decide⟩ 0 s)
  | reject (x : Side) : Stepped pair s (.reject x) (start pair x .reject ⟨2, 0, by decide⟩ 0 s)
  | fetch {x : Side} {i : ℕ} {task answered : Task} (waits : (s.waiting x)[i]? = some task)
      (fetched : answer (s.view x) x task = some answered) :
      Stepped pair s (.fetch x i) ((s.dismiss x i).await x [answered])
  | resume {x : Side} {i random : ℕ} {task : Task} {s' : State} (waits : (s.waiting x)[i]? = some task)
      (done : callback pair x random (s.dismiss x i) task = some s') :
      Stepped pair s (.resume x i random) s'
  | land {x : Side} {i : Issued} {rest : List Issued} (queued : s.queue x = i :: rest) :
      Stepped pair s (.land x)
        ({ s with docs := s.docs.apply i.write, queue := Function.update s.queue x rest }.await x
          i.onComplete)
  | observe (x : Side) :
      Stepped pair s (.observe x) { s with lastSeen := Function.update s.lastSeen x ((s.view x).record x) }

theorem step_cases {pair : Pair} {s s' : State} {e : Event} (h : step pair s e = some s') :
    Stepped pair s e s' := by
  cases e with
  | add x primes random =>
      cases h
      exact .add x primes random
  | accept x =>
      cases h
      exact .accept x
  | reject x =>
      cases h
      exact .reject x
  | fetch x i =>
      simp only [step, Option.bind_eq_bind, Option.bind_eq_some_iff] at h
      obtain ⟨task, waits, answered, fetched, done⟩ := h
      cases done
      exact .fetch waits fetched
  | resume x i random =>
      simp only [step, Option.bind_eq_bind, Option.bind_eq_some_iff] at h
      obtain ⟨task, waits, done⟩ := h
      exact .resume waits done
  | land x =>
      simp only [step] at h
      split at h
      · cases h
      · rename_i i rest queued
        cases h
        exact .land queued
  | observe x =>
      cases h
      exact .observe x

/-- The buttons of a friend request are shown to a client that last saw `receiving`. -/
def Gated (s : State) : Event → Prop
  | .accept x | .reject x => s.lastSeen x = some .receiving
  | _ => True

instance : ∀ (s : State) (e : Event), Decidable (Gated s e)
  | s, .accept x => inferInstanceAs (Decidable (s.lastSeen x = _))
  | s, .reject x => inferInstanceAs (Decidable (s.lastSeen x = _))
  | _, .add .. | _, .fetch .. | _, .resume .. | _, .land _ | _, .observe _ => .isTrue trivial

/-- Only a landing write changes a stored document. -/
theorem start_docs (pair : Pair) (x : Side) (kind : Kind) (primes : PublicPrimes) (random : ℕ)
    (s : State) : (start pair x kind primes random s).docs = s.docs := by
  cases client : pair.client x <;> cases kind <;> simp only [start, client] <;> rfl

theorem callback_docs {pair : Pair} {x : Side} {random : ℕ} {s s' : State} {task : Task}
    (h : callback pair x random s task = some s') : s'.docs = s.docs := by
  cases task with
  | getRoom | getSender | getReceiver | getChatRoom => simp [callback] at h
  | gotRoom op snap =>
      cases snap with
      | none => cases h; rfl
      | some old =>
          simp only [callback] at h
          split at h <;> (cases h; rfl)
  | setReceiverList => cases h; rfl
  | gotSender op found | gotReceiver op found | gotChatRoom op found =>
      cases found <;> (cases h; rfl)

theorem step_docs {pair : Pair} {s s' : State} {e : Event} (h : step pair s e = some s') :
    ((∀ x, e ≠ .land x) ∧ s'.docs = s.docs) ∨ ∃ x i rest, e = .land x ∧ s.queue x = i :: rest ∧
      s'.docs = s.docs.apply i.write := by
  cases step_cases h with
  | add | accept | reject => exact .inl ⟨nofun, start_docs _ _ _ _ _ _⟩
  | fetch waits fetched => exact .inl ⟨nofun, rfl⟩
  | resume waits done =>
      have kept := callback_docs done
      exact .inl ⟨nofun, kept⟩
  | @land x i rest queued => exact .inr ⟨x, i, rest, rfl, queued, rfl⟩
  | observe x => exact .inl ⟨nofun, rfl⟩

end PetClump
