import PetClump.Friending.Records
import PetClump.Library.PartialUpdate

/-! # Friend operations with failing accesses

One client carries out one operation while nothing else happens, and any of its
reads and writes may fail. A failed write leaves its document as it is, a failed
read ends the chain that waits for it.
-/

namespace PetClump

open PartialUpdate

/-- A read or a write of an operation, which makes at most one of each. -/
inductive Access where
  | getSender
  | getReceiver
  | getRoom
  | getChatRoom
  | record (owner : Side)
  | room
  deriving DecidableEq

def Write.access : Write → Access
  | .setRecord owner _ | .deleteRecord owner => .record owner
  | .setRoom _ | .deleteRoom => .room

/-- The read under way, `none` for a callback that holds its answer. -/
def Task.access : Task → Option Access
  | .getRoom _ => some .getRoom
  | .getSender _ => some .getSender
  | .getReceiver _ => some .getReceiver
  | .getChatRoom _ => some .getChatRoom
  | .gotRoom _ _ | .gotSender _ _ | .gotReceiver _ _ | .gotChatRoom _ _ | .setReceiverList _ _ _ => none

section Advance

variable (pair : Pair) (x : Side) (random : ℕ) (fails : Access → Bool)

/-- The next step of the one client: its oldest write, or else what it has waited for longest. -/
def advance (s : State) : Option State :=
  match s.queue x, s.waiting x with
  | i :: rest, _ =>
      let s := { s with queue := Function.update s.queue x rest }
      some (if fails i.write.access then s
        else { s with docs := s.docs.apply i.write }.await x i.onComplete)
  | [], task :: _ =>
      let s := s.dismiss x 0
      match task.access with
      | some access =>
          if fails access then some s
          else (answer (s.view x) x task).map fun answered => s.await x [answered]
      | none => callback pair x random s task
  | [], [] => none

def settle : ℕ → State → State
  | 0, s => s
  | fuel + 1, s =>
      match advance pair x random fails s with
      | some s' => settle fuel s'
      | none => s

end Advance

/-- The operation from its start to its end. -/
def operate (pair : Pair) (x : Side) (kind : Kind) (primes : PublicPrimes) (random : ℕ)
    (fails : Access → Bool) (s : State) : State :=
  settle pair x random fails 12 (start pair x kind primes random s)

/-- The records are complementary, and there is a room when there is a record. -/
def Documents.Consistent (docs : Documents) : Prop :=
  docs.Complementary ∧ ∀ y, (docs.record y).isSome → docs.room.isSome

instance (docs : Documents) : Decidable docs.Consistent :=
  inferInstanceAs (Decidable (_ ∧ ∀ _, _ → _))

inductive Target where
  | record (owner : Side)
  | room

/-- The accesses that have to succeed for a document to be written. -/
def chain (client : Client) (x : Side) : Kind → Target → List Access
  | .add, .record y =>
      if client = .android ∧ y = x.other then [.record x, .record x.other] else [.record y]
  | .accept, .record y => if client = .android ∧ y = x then [.record x.other, .record x] else [.record y]
  | .reject, .record y =>
      match client with
      | .ios => [.record y]
      | .android => if y = x then [.getSender, .getReceiver, .record x] else [.getSender, .record y]
  | .add, .room => [.room]
  | .accept, .room => [.getRoom, .room]
  | .reject, .room =>
      match client with
      | .ios => [.room]
      | .android => [.getSender, .getReceiver, .getChatRoom, .room]

/-- Every access on the way to a document succeeds. -/
def carried (client : Client) (x : Side) (kind : Kind) (fails : Access → Bool) (target : Target) : Bool :=
  (chain client x kind target).all fun access => !fails access

/-- The room with the own number in it, when an exchanger can be made from it. -/
def answered (pair : Pair) (x : Side) (random : ℕ) (files : SecretFiles) (data : Data) : Option Data :=
  (KeyExchanger.ofData (pair.client x) files (pair.exchangerId x) data random).map fun kE =>
    data.put (pair.id x) (Nat.repr kE.1.getMyPublic)

/-- The room that the operation is to leave. A delete on Android stops at a missing record. -/
def roomAfter (pair : Pair) (x : Side) (primes : PublicPrimes) (random : ℕ) (s : State) : Kind → Option Data
  | .add =>
      let k := KeyExchanger.create (pair.client x) (s.files (pair.device x)) (pair.exchangerId x) primes random
      some (k.1.generateSenderData (pair.id x) (pair.id x.other))
  | .accept =>
      (s.docs.room.bind (answered pair x random (s.files (pair.device x)))).or s.docs.room
  | .reject => if pair.client x = .android ∧ s.docs.record x = none then s.docs.room else none

variable {pair : Pair} {x : Side} {primes : PublicPrimes} {random : ℕ} {fails : Access → Bool} {s : State}

/-- What a client alone has before it. -/
structure At (pair : Pair) (x : Side) (s : State) (docs : Documents) (files : SecretFiles)
    (queue : List Issued) (waiting : List Task) : Prop where
  docs : s.docs = docs
  files : s.files (pair.device x) = files
  queue : s.queue x = queue
  waiting : s.waiting x = waiting

namespace At

variable {docs : Documents} {files : SecretFiles} {queue : List Issued} {waiting : List Task}

theorem issue (now : At pair x s docs files queue waiting) (writes : List Issued) :
    At pair x (s.issue x writes) docs files (queue ++ writes) waiting where
  docs := now.docs
  files := now.files
  queue := by simp [State.issue, now.queue]
  waiting := now.waiting

theorem await (now : At pair x s docs files queue waiting) (tasks : List Task) :
    At pair x (s.await x tasks) docs files queue (waiting ++ tasks) where
  docs := now.docs
  files := now.files
  queue := now.queue
  waiting := by simp [State.await, now.waiting]

theorem dismiss {task : Task} (now : At pair x s docs files queue (task :: waiting)) :
    At pair x (s.dismiss x 0) docs files queue waiting where
  docs := now.docs
  files := now.files
  queue := now.queue
  waiting := by simp [State.dismiss, now.waiting]

theorem store (now : At pair x s docs files queue waiting) (later : SecretFiles) :
    At pair x (s.store (pair.device x) later) docs later queue waiting where
  docs := now.docs
  files := by simp
  queue := now.queue
  waiting := now.waiting

end At

def attempt (fails : Access → Bool) (write : Write) (docs : Documents) : Documents :=
  if fails write.access then docs else docs.apply write

theorem attempt_record (write : Write) (docs : Documents) (y : Side) :
    (attempt fails write docs).record y =
      if write.record = some y ∧ fails (.record y) = false then write.leaves else docs.record y := by
  rw [attempt]
  cases write with
  | setRecord owner | deleteRecord owner =>
      by_cases own : owner = y
      · subst own
        cases failed : fails (.record owner) <;> simp [Write.access, failed, apply_record, Write.record]
      · cases failed : fails (.record owner) <;>
          simp [Write.access, failed, apply_record, Write.record, own]
  | setRoom | deleteRoom =>
      cases failed : fails .room <;> simp [Write.access, failed, apply_record, Write.record]

@[simp] theorem attempt_setRecord_room (owner : Side) (pending : Status) (docs : Documents) :
    (attempt fails (.setRecord owner pending) docs).room = docs.room := by
  rw [attempt]
  split <;> rfl

@[simp] theorem attempt_deleteRecord_room (owner : Side) (docs : Documents) :
    (attempt fails (.deleteRecord owner) docs).room = docs.room := by
  rw [attempt]
  split <;> rfl

@[simp] theorem attempt_setRoom_room (data : Data) (docs : Documents) :
    (attempt fails (.setRoom data) docs).room = if fails .room = false then some data else docs.room := by
  rw [attempt, Write.access]
  cases fails .room <;> rfl

@[simp] theorem attempt_deleteRoom_room (docs : Documents) :
    (attempt fails .deleteRoom docs).room = if fails .room = false then none else docs.room := by
  rw [attempt, Write.access]
  cases fails .room <;> rfl

/-- After so many steps the client has nothing left before it, and the documents are as wanted. -/
def Ends (pair : Pair) (x : Side) (random : ℕ) (fails : Access → Bool) (fuel : ℕ) (s : State)
    (wanted : Documents → Prop) : Prop :=
  ∃ docs files, At pair x (settle pair x random fails fuel s) docs files [] [] ∧ wanted docs

namespace Ends

variable {docs : Documents} {files : SecretFiles} {queue : List Issued} {waiting : List Task}
  {fuel : ℕ} {wanted : Documents → Prop}

theorem done (now : At pair x s docs files [] []) (fine : wanted docs) :
    Ends pair x random fails fuel s wanted := by
  cases fuel with
  | zero => exact ⟨docs, files, now, fine⟩
  | succ fuel =>
      have still : settle pair x random fails (fuel + 1) s = s := by
        simp [settle, advance, now.queue, now.waiting]
      exact ⟨docs, files, still.symm ▸ now, fine⟩

theorem write {i : Issued} (now : At pair x s docs files (i :: queue) waiting)
    (rest : ∀ s', At pair x s' (attempt fails i.write docs) files queue
      (waiting ++ if fails i.write.access then [] else i.onComplete) →
        Ends pair x random fails fuel s' wanted) :
    Ends pair x random fails (fuel + 1) s wanted := by
  simp only [Ends, settle, advance, now.queue]
  rw [attempt] at rest
  cases failed : fails i.write.access with
  | true =>
      rw [failed] at rest
      refine rest _ ⟨now.docs, now.files, ?_, ?_⟩
      · simp
      · simpa using now.waiting
  | false =>
      rw [failed] at rest
      have landed : At pair x { s with
          docs := s.docs.apply i.write, queue := Function.update s.queue x queue }
          (docs.apply i.write) files queue waiting :=
        ⟨congrArg (·.apply i.write) now.docs, now.files, by simp, now.waiting⟩
      exact rest _ (landed.await i.onComplete)

theorem read {task next : Task} {access : Access} (now : At pair x s docs files [] (task :: waiting))
    (reads : task.access = some access) (answered : answer docs x task = some next)
    (rest : ∀ s', At pair x s' docs files [] (waiting ++ if fails access then [] else [next]) →
      Ends pair x random fails fuel s' wanted) :
    Ends pair x random fails (fuel + 1) s wanted := by
  have view : (s.dismiss x 0).view x = docs := by
    rw [State.view, State.dismiss_queue, now.queue]
    exact now.docs
  simp only [Ends, settle, advance, now.queue, now.waiting, reads, view, answered, Option.map_some]
  cases failed : fails access with
  | true =>
      rw [failed] at rest
      exact rest _ (by simpa using now.dismiss)
  | false =>
      rw [failed] at rest
      exact rest _ (now.dismiss.await [next])

theorem callback {task : Task} {s' : State} (now : At pair x s docs files [] (task :: waiting))
    (runs : task.access = none) (taken : PetClump.callback pair x random (s.dismiss x 0) task = some s')
    (rest : Ends pair x random fails fuel s' wanted) :
    Ends pair x random fails (fuel + 1) s wanted := by
  simpa only [Ends, settle, advance, now.queue, now.waiting, runs, taken] using rest

/-- A write whose completion nothing waits for. -/
theorem write_alone {op : Operation} {update : Write}
    (now : At pair x s docs files (⟨op, update, none⟩ :: queue) waiting)
    (rest : ∀ s', At pair x s' (attempt fails update docs) files queue waiting →
      Ends pair x random fails fuel s' wanted) :
    Ends pair x random fails (fuel + 1) s wanted := by
  refine write now fun s' later => rest s' ?_
  simpa [Issued.onComplete] using later

/-- The sender's record, with the receiver's to come when it is stored. -/
theorem write_sender {op : Operation} {sender receiver : Side} {first second : Status}
    (now : At pair x s docs files [⟨op, .setRecord sender first, some (receiver, second)⟩] waiting)
    (missed : fails (.record sender) = true → ∀ s', At pair x s' docs files [] waiting →
      Ends pair x random fails fuel s' wanted)
    (stored : fails (.record sender) = false → ∀ s',
      At pair x s' (attempt fails (.setRecord sender first) docs) files []
        (waiting ++ [.setReceiverList op receiver second]) → Ends pair x random fails fuel s' wanted) :
    Ends pair x random fails (fuel + 1) s wanted := by
  refine write now fun s' later => ?_
  cases result : fails (.record sender) with
  | true => exact missed result s' (by simpa [attempt, Write.access, result] using later)
  | false => exact stored result s' (by simpa [Issued.onComplete, Write.access, result] using later)

/-- The callback of the sender's record. -/
theorem receiverList {op : Operation} {owner : Side} {pending : Status}
    (now : At pair x s docs files [] (.setReceiverList op owner pending :: waiting))
    (rest : ∀ s', At pair x s' (attempt fails (.setRecord owner pending) docs) files [] waiting →
      Ends pair x random fails fuel s' wanted) :
    Ends pair x random fails (fuel + 2) s wanted :=
  callback now rfl rfl (write_alone (now.dismiss.issue _) rest)

/-- The callback of the room, which writes it again with the own number when it can. -/
theorem gotRoom {op : Operation} {snap : Option Data} (now : At pair x s docs files [] [.gotRoom op snap])
    (read : docs.room = snap)
    (fine : ∀ final : Documents, final.record = docs.record →
      final.room = (if fails .room = false then (snap.bind (answered pair x random files)).or snap
        else snap) → wanted final) :
    Ends pair x random fails (fuel + 2) s wanted := by
  cases snap with
  | none => exact callback now rfl rfl (done now.dismiss (fine docs rfl (by simp [read])))
  | some data =>
      cases made : KeyExchanger.ofData (pair.client x) files (pair.exchangerId x) data random with
      | none =>
          refine callback now rfl ?_ (done now.dismiss (fine docs rfl ?_))
          · simp [PetClump.callback, now.files, made]
          · simp [read, answered, made]
      | some kE =>
          let numbers := data.put (pair.id x) (Nat.repr kE.1.getMyPublic)
          have taken : PetClump.callback pair x random (s.dismiss x 0) (.gotRoom op (some data)) =
              some (((s.dismiss x 0).store (pair.device x) kE.2).issue x [⟨op, .setRoom numbers, none⟩]) := by
            simp [PetClump.callback, now.files, made, numbers]
          refine callback now rfl taken (write_alone ((now.dismiss.store kE.2).issue _) fun _ now =>
            done now (fine _ (funext fun y => ?_) ?_))
          · simp [attempt_record, Write.record]
          · simp [read, answered, made, numbers]

/-- A read that fails ends its chain. -/
theorem readEnds {access : Access} {task : Task}
    (now : At pair x s docs files [] (if fails access then [] else [task]))
    (missed : fails access = true → wanted docs)
    (rest : fails access = false → At pair x s docs files [] [task] →
      Ends pair x random fails fuel s wanted) :
    Ends pair x random fails fuel s wanted := by
  cases failed : fails access with
  | true =>
      rw [failed] at now
      exact done now (missed failed)
  | false =>
      rw [failed] at now
      exact rest failed now

/-- The answer to the read of the room, if there is one, and what comes of it. -/
theorem getRoom {op : Operation} {snap : Option Data}
    (now : At pair x s docs files [] (if fails .getRoom then [] else [.gotRoom op snap]))
    (read : docs.room = snap)
    (fine : ∀ final : Documents, final.record = docs.record →
      final.room = (if fails .getRoom = false ∧ fails .room = false then
        (snap.bind (answered pair x random files)).or snap else snap) → wanted final) :
    Ends pair x random fails (fuel + 2) s wanted :=
  readEnds now (fun failed => fine docs rfl (by simp [failed, read])) fun got now =>
    gotRoom now read fun final records room => fine final records (by simpa [got] using room)

end Ends

/-- Of what the operation is to leave, `final` has what is carried out. -/
structure CarriedOut (pair : Pair) (x : Side) (kind : Kind) (primes : PublicPrimes) (random : ℕ)
    (fails : Access → Bool) (s : State) (final : Documents) : Prop where
  record : ∀ y, final.record y =
    if carried (pair.client x) x kind fails (.record y) then (⟨s.started, kind, x⟩ : Operation).leaves y
    else s.docs.record y
  room : final.room =
    if carried (pair.client x) x kind fails .room then roomAfter pair x primes random s kind
    else s.docs.room

theorem forall_side (x : Side) {p : Side → Prop} (own : p x) (other : p x.other) (y : Side) : p y := by
  rcases Side.eq_or_eq_other x y with rfl | rfl
  · exact own
  · exact other

/-- The record that the other pet of a consistent pair has. -/
def complement : Option Status → Option Status
  | some .sending => some .receiving
  | some .receiving => some .sending
  | record => record

theorem other_eq_complement {docs : Documents} (complementary : docs.Complementary) (y : Side) :
    docs.record y.other = complement (docs.record y) := by
  simp only [Documents.Complementary, List.mem_cons, Prod.mk.injEq, List.not_mem_nil, or_false] at complementary
  rcases complementary with ⟨a, b⟩ | ⟨a, b⟩ | ⟨a, b⟩ | ⟨a, b⟩ <;> cases y <;>
    simp [Side.other, complement, a, b]

/-- One of two complementary records tells the other. -/
theorem complementary_ext {docs docs' : Documents} (complementary : docs.Complementary)
    (complementary' : docs'.Complementary) {y : Side} (same : docs.record y = docs'.record y) :
    docs.record = docs'.record :=
  funext (forall_side y same
    (by rw [other_eq_complement complementary, other_eq_complement complementary', same]))

/-- Complementary records exist together. -/
theorem other_eq_none {docs : Documents} (complementary : docs.Complementary) (y : Side) :
    docs.record y.other = none ↔ docs.record y = none := by
  have absent : (⟨fun _ => none, none⟩ : Documents).Complementary := complementary_of_leaves none fun _ => rfl
  constructor
  · intro none_found
    exact congrFun (complementary_ext complementary absent none_found) y
  · intro none_found
    exact congrFun (complementary_ext complementary absent none_found) y.other

/-- When an operation changes one of two complementary records, it changes both. -/
theorem other_ne_leaves {docs : Documents} (complementary : docs.Complementary) (op : Operation) {y : Side}
    (changes : docs.record y ≠ op.leaves y) (z : Side) : docs.record z ≠ op.leaves z := by
  have left : (⟨op.leaves, none⟩ : Documents).Complementary := complementary_of_leaves (some op) fun _ => rfl
  intro same
  exact changes (congrFun (complementary_ext complementary left same) y)

section Operations

variable (random) (fails)

theorem started (now : At pair x s s.docs (s.files (pair.device x)) [] []) :
    At pair x { s with started := s.started + 1 } s.docs (s.files (pair.device x)) [] [] :=
  ⟨now.docs, now.files, now.queue, now.waiting⟩

theorem add_ios (client : pair.client x = .ios)
    (now : At pair x s s.docs (s.files (pair.device x)) [] []) :
    Ends pair x random fails 12 (start pair x .add primes random s)
      (CarriedOut pair x .add primes random fails s) := by
  simp only [start, client, addFriend]
  refine .write_alone (((started now).store _).issue _) fun _ now => .write_alone now fun _ now =>
    .write_alone now fun _ now => .done now ⟨forall_side x ?_ ?_, ?_⟩
  · simp [carried, chain, client, Operation.leaves, attempt_record, Write.record, Write.leaves,
      Side.other_ne]
  · simp [carried, chain, client, Operation.leaves, attempt_record, Write.record, Write.leaves,
      Side.other_ne, (Side.other_ne x).symm]
  · simp [carried, chain, client, roomAfter, Pair.exchangerId]

theorem add_android (client : pair.client x = .android)
    (now : At pair x s s.docs (s.files (pair.device x)) [] []) :
    Ends pair x random fails 12 (start pair x .add primes random s)
      (CarriedOut pair x .add primes random fails s) := by
  simp only [start, client, newFriendChange, updateFriendKey]
  refine .write_alone ((((started now).store _).issue _).issue _) fun _ now => .write_sender now
    (fun sender _ now => .done now ⟨forall_side x ?_ ?_, ?_⟩)
    (fun sender _ now => .receiverList now fun _ now => .done now ⟨forall_side x ?_ ?_, ?_⟩)
  · simp [carried, chain, client, attempt_record, Write.record, sender, (Side.other_ne x).symm]
  · simp [carried, chain, client, attempt_record, Write.record, sender]
  · simp [carried, chain, client, roomAfter, Pair.exchangerId]
  · simp [carried, chain, client, attempt_record, Write.record, Write.leaves, sender,
      Operation.leaves, Side.other_ne, (Side.other_ne x).symm, FriendChangeType.codeSender]
  · simp [carried, chain, client, attempt_record, Write.record, Write.leaves, sender,
      Operation.leaves, Side.other_ne, (Side.other_ne x).symm, FriendChangeType.codeReceiver]
  · simp [carried, chain, client, roomAfter, Pair.exchangerId]

theorem accept_ios (client : pair.client x = .ios)
    (now : At pair x s s.docs (s.files (pair.device x)) [] []) :
    Ends pair x random fails 12 (start pair x .accept primes random s)
      (CarriedOut pair x .accept primes random fails s) := by
  simp only [start, client, acceptFriend]
  refine .write_alone (((started now).await _).issue _) fun _ now => .write_alone now fun _ now =>
    .read now rfl rfl fun _ now => .getRoom now rfl fun final records room => ⟨forall_side x ?_ ?_, ?_⟩
  · simp [records, carried, chain, client, Operation.leaves, attempt_record, Write.record, Write.leaves,
      Side.other_ne]
  · simp [records, carried, chain, client, Operation.leaves, attempt_record, Write.record, Write.leaves,
      (Side.other_ne x).symm]
  · simp [room, carried, chain, roomAfter]

theorem accept_android (client : pair.client x = .android)
    (now : At pair x s s.docs (s.files (pair.device x)) [] []) :
    Ends pair x random fails 12 (start pair x .accept primes random s)
      (CarriedOut pair x .accept primes random fails s) := by
  simp only [start, client, newFriendChange, updateFriendKey]
  refine .write_sender (((started now).await _).issue _)
    (fun sender _ now => .read now rfl rfl fun _ now => .getRoom now rfl fun final records room =>
      ⟨forall_side x ?_ ?_, ?_⟩)
    (fun sender _ now => .read now rfl rfl fun _ now => .receiverList now fun _ now =>
      .getRoom now (by simp) fun final records room => ⟨forall_side x ?_ ?_, ?_⟩)
  · simp [records, carried, chain, client, sender]
  · simp [records, carried, chain, client, sender, Side.other_ne]
  · simp [room, carried, chain, roomAfter]
  · simp [records, carried, chain, client, sender, Operation.leaves, attempt_record, Write.record,
      Write.leaves, Side.other_ne, FriendChangeType.codeReceiver]
  · simp [records, carried, chain, client, sender, Operation.leaves, attempt_record, Write.record,
      Write.leaves, Side.other_ne, (Side.other_ne x).symm, FriendChangeType.codeSender]
  · simp [room, carried, chain, roomAfter]

theorem reject_ios (client : pair.client x = .ios)
    (now : At pair x s s.docs (s.files (pair.device x)) [] []) :
    Ends pair x random fails 12 (start pair x .reject primes random s)
      (CarriedOut pair x .reject primes random fails s) := by
  simp only [start, client, rejectFriend]
  refine .write_alone ((started now).issue _) fun _ now => .write_alone now fun _ now =>
    .write_alone now fun _ now => .done now ⟨forall_side x ?_ ?_, ?_⟩
  · simp [carried, chain, client, Operation.leaves, attempt_record, Write.record, Write.leaves,
      Side.other_ne]
  · simp [carried, chain, client, Operation.leaves, attempt_record, Write.record, Write.leaves,
      (Side.other_ne x).symm]
  · simp [carried, chain, client, roomAfter]

theorem reject_android (client : pair.client x = .android)
    (now : At pair x s s.docs (s.files (pair.device x)) [] []) (consistent : s.docs.Consistent) :
    Ends pair x random fails 12 (start pair x .reject primes random s)
      (CarriedOut pair x .reject primes random fails s) := by
  simp only [start, client, friendDelete]
  cases mine : s.docs.record x with
  | none =>
      have theirs := (other_eq_none consistent.1 x).mpr mine
      have gone : CarriedOut pair x .reject primes random fails s s.docs :=
        ⟨forall_side x (by simp [mine, Operation.leaves]) (by simp [theirs, Operation.leaves]),
          by simp [roomAfter, client, mine]⟩
      have answered : answer s.docs x (.getSender ⟨s.started, .reject, x⟩) =
          some (.gotSender ⟨s.started, .reject, x⟩ false) := by
        simp [answer, theirs]
      exact .read ((started now).await _) rfl answered fun _ now => .readEnds now (fun _ => gone) fun _ now =>
        .callback now rfl rfl (.done now.dismiss gone)
  | some pending =>
      have theirs : (s.docs.record x.other).isSome = true := by
        rw [Option.isSome_iff_ne_none, ne_eq, other_eq_none consistent.1, mine]
        exact Option.some_ne_none pending
      have room : s.docs.room.isSome = true := consistent.2 x (by simp [mine])
      let op : Operation := ⟨s.started, .reject, x⟩
      have sender : answer s.docs x (.getSender op) = some (.gotSender op true) := by
        simp [answer, theirs]
      have receiver : answer (attempt fails (.deleteRecord x.other) s.docs) x (.getReceiver op) =
          some (.gotReceiver op true) := by
        simp [answer, attempt_record, Write.record, Side.other_ne, mine]
      have chatRoom : answer (attempt fails (.deleteRecord x) (attempt fails (.deleteRecord x.other) s.docs)) x
          (.getChatRoom op) = some (.gotChatRoom op true) := by
        simp [answer, room]
      refine .read ((started now).await _) rfl sender fun _ now => .readEnds now
        (fun failed => ⟨forall_side x ?_ ?_, ?_⟩) fun gotSender now =>
        .callback now rfl rfl (.write_alone ((now.dismiss.issue _).await _) fun _ now =>
        .read now rfl receiver fun _ now => .readEnds now
        (fun failed => ⟨forall_side x ?_ ?_, ?_⟩) fun gotReceiver now =>
        .callback now rfl rfl (.write_alone ((now.dismiss.issue _).await _) fun _ now =>
        .read now rfl chatRoom fun _ now => .readEnds now
        (fun failed => ⟨forall_side x ?_ ?_, ?_⟩) fun gotChatRoom now =>
        .callback now rfl rfl (.write_alone (now.dismiss.issue _) fun _ now =>
        .done now ⟨forall_side x ?_ ?_, ?_⟩)))
      all_goals
        simp [*, carried, chain, Operation.leaves, attempt_record, Write.record, Write.leaves,
          Side.other_ne, (Side.other_ne x).symm, roomAfter]

theorem operate_of_ends {kind : Kind} {wanted : Documents → Prop}
    (ends : Ends pair x random fails 12 (start pair x kind primes random s) wanted) :
    wanted (operate pair x kind primes random fails s).docs := by
  obtain ⟨docs, files, finished, fine⟩ := ends
  rw [operate, finished.docs]
  exact fine

/-- iOS carries out its operations whatever the documents are. -/
theorem carriedOut_ios (client : pair.client x = .ios) (quiet : s.queue x = [] ∧ s.waiting x = []) (kind : Kind) :
    CarriedOut pair x kind primes random fails s (operate pair x kind primes random fails s).docs := by
  have now : At pair x s s.docs (s.files (pair.device x)) [] [] := ⟨rfl, rfl, quiet.1, quiet.2⟩
  apply operate_of_ends
  cases kind with
  | add => exact add_ios random fails client now
  | accept => exact accept_ios random fails client now
  | reject => exact reject_ios random fails client now

theorem carriedOut (quiet : s.queue x = [] ∧ s.waiting x = []) (consistent : s.docs.Consistent) (kind : Kind) :
    CarriedOut pair x kind primes random fails s (operate pair x kind primes random fails s).docs := by
  cases client : pair.client x with
  | ios => exact carriedOut_ios random fails client quiet kind
  | android =>
      have now : At pair x s s.docs (s.files (pair.device x)) [] [] := ⟨rfl, rfl, quiet.1, quiet.2⟩
      apply operate_of_ends
      cases kind with
      | add => exact add_android random fails client now
      | accept => exact accept_android random fails client now
      | reject => exact reject_android random fails client now consistent

end Operations

/-- The operation leaves the pair consistent: as it was, or as a run without failures leaves it. -/
def LeavesConsistent (pair : Pair) (x : Side) (kind : Kind) (primes : PublicPrimes) (random : ℕ)
    (fails : Access → Bool) (s : State) : Prop :=
  let after := (operate pair x kind primes random fails s).docs
  after.Consistent ∧ (after = s.docs ∨ after = (operate pair x kind primes random (fun _ => false) s).docs)

/-- The writes that change something are carried out together or not at all, and an accept without a
room is not carried out. -/
structure FailsTogether (pair : Pair) (x : Side) (kind : Kind) (primes : PublicPrimes) (random : ℕ)
    (fails : Access → Bool) (s : State) : Prop where
  records : s.docs.record x ≠ (⟨s.started, kind, x⟩ : Operation).leaves x →
    carried (pair.client x) x kind fails (.record x) = carried (pair.client x) x kind fails (.record x.other)
  room : s.docs.record x ≠ (⟨s.started, kind, x⟩ : Operation).leaves x →
    s.docs.room ≠ roomAfter pair x primes random s kind →
      carried (pair.client x) x kind fails (.record x) = carried (pair.client x) x kind fails .room
  noRoom : kind = .accept → s.docs.room = none →
    carried (pair.client x) x kind fails (.record x) = false

/-- What is stored in each of the three documents. -/
def Target.Value : Target → Type
  | .record _ => Option Status
  | .room => Option Data

def Documents.value (docs : Documents) : ∀ target : Target, target.Value
  | .record owner => docs.record owner
  | .room => docs.room

theorem Documents.value_injective : Function.Injective Documents.value := by
  rintro ⟨records, room⟩ ⟨records', room'⟩ same
  have sameRecords : records = records' := funext fun y => congrFun same (.record y)
  have sameRoom : room = room' := congrFun same .room
  rw [sameRecords, sameRoom]

theorem carried_all (client : Client) (x : Side) (kind : Kind) (target : Target) :
    carried client x kind (fun _ => false) target = true := by
  simp [carried]

section Fates

variable {complete final : Documents} {kind : Kind}

theorem CarriedOut.complete_record
    (full : CarriedOut pair x kind primes random (fun _ => false) s complete) (y : Side) :
    complete.record y = (⟨s.started, kind, x⟩ : Operation).leaves y := by
  rw [full.record, carried_all, if_pos rfl]

theorem CarriedOut.complete_room
    (full : CarriedOut pair x kind primes random (fun _ => false) s complete) :
    complete.room = roomAfter pair x primes random s kind := by
  rw [full.room, carried_all, if_pos rfl]

theorem CarriedOut.value (full : CarriedOut pair x kind primes random (fun _ => false) s complete)
    (part : CarriedOut pair x kind primes random fails s final) :
    final.value = partialUpdate (carried (pair.client x) x kind fails) s.docs.value complete.value := by
  funext target
  cases target with
  | record y => exact (part.record y).trans (by rw [← full.complete_record]; rfl)
  | room => exact part.room.trans (by rw [← full.complete_room]; rfl)

/-- It is all or nothing exactly when the documents that change share one fate. -/
theorem CarriedOut.old_or_complete_iff
    (full : CarriedOut pair x kind primes random (fun _ => false) s complete)
    (part : CarriedOut pair x kind primes random fails s final) :
    final = s.docs ∨ final = complete ↔
      ∀ j k, s.docs.value j ≠ complete.value j → s.docs.value k ≠ complete.value k →
        (carried (pair.client x) x kind fails j ↔ carried (pair.client x) x kind fails k) := by
  rw [← Documents.value_injective.eq_iff, ← Documents.value_injective.eq_iff, full.value part]
  exact eq_old_or_new_iff

/-- A run without failures leaves the pair consistent, except for an accept without a room. -/
theorem CarriedOut.consistent (full : CarriedOut pair x kind primes random (fun _ => false) s complete) :
    complete.Consistent ↔ ¬ (kind = .accept ∧ s.docs.room = none) := by
  have complementary : complete.Complementary :=
    complementary_of_leaves (some ⟨s.started, kind, x⟩) full.complete_record
  rw [Documents.Consistent, and_iff_right complementary, full.complete_room]
  cases kind with
  | add => simp [roomAfter]
  | reject => simp [full.complete_record, Operation.leaves]
  | accept =>
      cases stored : s.docs.room with
      | none =>
          refine iff_of_false (fun rooms => ?_) fun roomed => roomed ⟨rfl, rfl⟩
          have kept := rooms x (by rw [full.complete_record]; rfl)
          simp [roomAfter, stored] at kept
      | some data => simp [full.complete_record, Operation.leaves, roomAfter, stored]

theorem Documents.Consistent.record_eq_none {docs : Documents} (consistent : docs.Consistent)
    (noRoom : docs.room = none) (y : Side) : docs.record y = none := by
  by_contra stored
  have room := consistent.2 y (Option.isSome_iff_ne_none.mpr stored)
  rw [noRoom] at room
  cases room

/-- The records change together. -/
theorem CarriedOut.changes (full : CarriedOut pair x kind primes random (fun _ => false) s complete)
    (consistent : s.docs.Consistent) {y : Side} (changed : s.docs.record y ≠ complete.record y) (z : Side) :
    s.docs.record z ≠ complete.record z := by
  rw [full.complete_record] at changed ⊢
  exact other_ne_leaves consistent.1 _ changed z

/-- What changes shares the fate of the own record. -/
theorem FailsTogether.carried_iff (together : FailsTogether pair x kind primes random fails s)
    (full : CarriedOut pair x kind primes random (fun _ => false) s complete)
    (consistent : s.docs.Consistent) {y : Side} (changed : s.docs.record y ≠ complete.record y)
    {target : Target} (changedToo : s.docs.value target ≠ complete.value target) :
    carried (pair.client x) x kind fails target ↔ carried (pair.client x) x kind fails (.record x) := by
  have own : s.docs.record x ≠ (⟨s.started, kind, x⟩ : Operation).leaves x :=
    full.complete_record x ▸ full.changes consistent changed x
  cases target with
  | record z =>
      rcases Side.eq_or_eq_other x z with rfl | rfl
      · rfl
      · rw [together.records own]
  | room =>
      have newRoom : s.docs.room ≠ roomAfter pair x primes random s kind := full.complete_room ▸ changedToo
      rw [together.room own newRoom]

theorem FailsTogether.old_or_complete (together : FailsTogether pair x kind primes random fails s)
    (full : CarriedOut pair x kind primes random (fun _ => false) s complete)
    (part : CarriedOut pair x kind primes random fails s final) (consistent : s.docs.Consistent) :
    final = s.docs ∨ final = complete := by
  refine (full.old_or_complete_iff part).mpr fun j k changedJ changedK => ?_
  cases j with
  | record y =>
      exact (together.carried_iff full consistent changedJ changedJ).trans
        (together.carried_iff full consistent changedJ changedK).symm
  | room =>
      cases k with
      | record z =>
          exact (together.carried_iff full consistent changedK changedJ).trans
            (together.carried_iff full consistent changedK changedK).symm
      | room => rfl

/-- An accept without a room that is not carried out is not what a complete run leaves. -/
theorem FailsTogether.complete_consistent (together : FailsTogether pair x kind primes random fails s)
    (full : CarriedOut pair x kind primes random (fun _ => false) s complete)
    (part : CarriedOut pair x kind primes random fails s complete) (consistent : s.docs.Consistent) :
    complete.Consistent := by
  rw [full.consistent]
  rintro ⟨rfl, noRoom⟩
  have record := part.record x
  rw [together.noRoom rfl noRoom, if_neg Bool.false_ne_true, consistent.record_eq_none noRoom,
    full.complete_record] at record
  cases record

/-- An accept whose own record is stored needs a room. -/
theorem CarriedOut.not_carried_of_room_eq_none
    (part : CarriedOut pair x .accept primes random fails s final) (consistent : final.Consistent)
    (noRoom : s.docs.room = none) : carried (pair.client x) x .accept fails (.record x) = false := by
  by_contra done
  have room : final.room = none := by
    rw [part.room, roomAfter, noRoom]
    split <;> rfl
  have record := part.record x
  rw [if_pos (Bool.not_eq_false _ ▸ done), consistent.record_eq_none room] at record
  cases record

theorem CarriedOut.failsTogether (full : CarriedOut pair x kind primes random (fun _ => false) s complete)
    (part : CarriedOut pair x kind primes random fails s final) (before : s.docs.Consistent)
    (after : final.Consistent) (atomic : final = s.docs ∨ final = complete) :
    FailsTogether pair x kind primes random fails s where
  records changed := by
    rw [← full.complete_record] at changed
    exact Bool.eq_iff_iff.mpr ((full.old_or_complete_iff part).mp atomic (.record x) (.record x.other)
      changed (full.changes before changed _))
  room changed new := by
    rw [← full.complete_record] at changed
    rw [← full.complete_room] at new
    exact Bool.eq_iff_iff.mpr ((full.old_or_complete_iff part).mp atomic (.record x) .room changed new)
  noRoom accepts noRoom := by
    subst accepts
    exact part.not_carried_of_room_eq_none after noRoom

end Fates

/-- A single operation whose accesses may fail leaves a consistent pair consistent exactly when the
accesses of what it changes fail together. -/
theorem failed_operation_iff (pair : Pair) (x : Side) (kind : Kind) (primes : PublicPrimes) (random : ℕ)
    (fails : Access → Bool) (s : State) (quiet : s.queue x = [] ∧ s.waiting x = [])
    (consistent : s.docs.Consistent) :
    LeavesConsistent pair x kind primes random fails s ↔ FailsTogether pair x kind primes random fails s := by
  have part : CarriedOut pair x kind primes random fails s _ := carriedOut random fails quiet consistent kind
  have full : CarriedOut pair x kind primes random (fun _ => false) s _ :=
    carriedOut random _ quiet consistent kind
  constructor
  · rintro ⟨after, atomic⟩
    exact full.failsTogether part consistent after atomic
  · intro together
    have atomic := together.old_or_complete full part consistent
    refine ⟨?_, atomic⟩
    rcases atomic with same | same
    · exact same ▸ consistent
    · rw [same] at part ⊢
      exact together.complete_consistent full part consistent

/-- The first write of an accept on Android fails, and so does the read of the room. -/
theorem failed_accept_leaves_request :
    let request : Documents := ⟨fun | .a => some .sending | .b => some .receiving, some Data.empty⟩
    LeavesConsistent (.ofClients .ios .android) .b .accept ⟨2, 0, by decide⟩ 0
      (fun access => access == .record .a || access == .getRoom)
      { State.initial (fun _ _ => none) with docs := request } := by
  refine (failed_operation_iff _ _ _ _ _ _ _ ⟨rfl, rfl⟩ (by decide)).mpr
    ⟨fun _ => by decide, fun _ _ => by decide, ?_⟩
  intro _ noRoom
  cases noRoom

/-- The write of the receiver's record fails: the friend never learns of the request. -/
theorem half_a_request : ¬ ∀ (pair : Pair) (x : Side) (kind : Kind) (primes : PublicPrimes) (random : ℕ)
    (fails : Access → Bool) (s : State), s.queue x = [] ∧ s.waiting x = [] → s.docs.Consistent →
      LeavesConsistent pair x kind primes random fails s := by
  intro claim
  have kept := claim (.ofClients .android .android) .a .add ⟨23, 5, by decide⟩ 6 (· == .record .b)
    (State.initial fun _ _ => none) ⟨rfl, rfl⟩ (by decide)
  have broken : ¬ (operate (.ofClients .android .android) .a .add ⟨23, 5, by decide⟩ 6 (· == .record .b)
      (State.initial fun _ _ => none)).docs.Consistent := by
    decide +kernel
  exact broken kept.1

end PetClump
