import PetClump.Friending.System
import PetClump.Library.PairedWrites

/-! # The two friend records

An operation overwrites both records, but one at a time and without a
transaction. The log of a run says which operation reached which record, in the
order in which it did. The records end complementary when no two operations reach
them in opposite orders.
-/

namespace PetClump

open Runs PairedWrites

variable {pair : Pair} {s s' : State}

/-- An operation and the record it reached. -/
abbrev Touch := Operation × Side

/-- What an operation leaves in the record of `owner`. -/
def Operation.leaves (op : Operation) (owner : Side) : Option Status :=
  match op.kind with
  | .add => if owner = op.starter then some .sending else some .receiving
  | .accept => some .friending
  | .reject => none

def Documents.Complementary (docs : Documents) : Prop :=
  (docs.record .a, docs.record .b) ∈ [(none, none), (some Status.sending, some Status.receiving),
    (some Status.receiving, some Status.sending), (some Status.friending, some Status.friending)]

instance (docs : Documents) : Decidable docs.Complementary :=
  inferInstanceAs (Decidable ((_, _) ∈ [_, _, _, _]))

def Write.record : Write → Option Side
  | .setRecord owner _ => some owner
  | .deleteRecord owner => some owner
  | .setRoom _ => none
  | .deleteRoom => none

/-- The record a write reaches. -/
def Issued.reaches (i : Issued) : List Touch := i.write.record.toList.map (i.op, ·)

/-- The record that a delete does not find, as its answer shows. -/
def missed (docs : Documents) (x : Side) : Task → List Touch
  | .getReceiver op => if docs.record x = none then [(op, x)] else []
  | _ => []

/-- The records an event reaches. A write reaches its record when it lands. A delete that looks
for its own record and finds it gone counts as having deleted it at that moment. -/
def touches (s : State) : Event → List Touch
  | .land x => (s.queue x).head?.toList.flatMap Issued.reaches
  | .fetch x i => (s.waiting x)[i]?.toList.flatMap (missed (s.view x) x)
  | _ => []

/-- The system with the log of its run. -/
def stepLogged (pair : Pair) (t : State × List Touch) (e : Event) : Option (State × List Touch) :=
  (step pair t.1 e).map fun s' => (s', t.2 ++ touches t.1 e)

/-- The records a queued write and its completion callback will still reach. -/
def Issued.owes (i : Issued) : List Touch :=
  i.reaches ++ i.receiverList.toList.map fun r => (i.op, r.1)

/-- The records a callback of client `x` will still reach. -/
def Task.owes (x : Side) : Task → List Touch
  | .setReceiverList op owner _ => [(op, owner)]
  | .gotSender op true => [(op, x.other), (op, x)]
  | .getReceiver op => [(op, x)]
  | .gotReceiver op true => [(op, x)]
  | _ => []

/-- A touch is still owed by a queue or by a callback. -/
inductive Owed (s : State) (t : Touch) : Prop where
  | queued (x : Side) (i : Issued) (mem : i ∈ s.queue x) (owes : t ∈ i.owes)
  | waiting (x : Side) (task : Task) (mem : task ∈ s.waiting x) (owes : t ∈ task.owes x)

/-- Every touch that has happened or is still owed. -/
def Ledger (s : State) (log : List Touch) (t : Touch) : Prop := t ∈ log ∨ Owed s t

namespace Owed

variable {x : Side} {t : Touch}

theorem of_parts (h : Owed s t) (queue : s'.queue = s.queue) (waiting : s'.waiting = s.waiting) :
    Owed s' t := by
  cases h with
  | queued y i mem owes => exact .queued y i (queue ▸ mem) owes
  | waiting y task mem owes => exact .waiting y task (waiting ▸ mem) owes

theorem issue_iff {writes : List Issued} :
    Owed (s.issue x writes) t ↔ Owed s t ∨ ∃ i ∈ writes, t ∈ i.owes := by
  constructor
  · intro h
    cases h with
    | queued y i mem owes =>
        cases State.mem_queue_issue.mp mem with
        | inl old => exact .inl (.queued y i old owes)
        | inr new => exact .inr ⟨i, new.2, owes⟩
    | waiting y task mem owes => exact .inl (.waiting y task mem owes)
  · intro h
    cases h with
    | inl old =>
        cases old with
        | queued y i mem owes => exact .queued y i (State.mem_queue_issue.mpr (.inl mem)) owes
        | waiting y task mem owes => exact .waiting y task mem owes
    | inr new =>
        obtain ⟨i, mem, owes⟩ := new
        exact .queued x i (State.mem_queue_issue.mpr (.inr ⟨rfl, mem⟩)) owes

theorem await_iff {tasks : List Task} :
    Owed (s.await x tasks) t ↔ Owed s t ∨ ∃ task ∈ tasks, t ∈ task.owes x := by
  constructor
  · intro h
    cases h with
    | queued y i mem owes => exact .inl (.queued y i mem owes)
    | waiting y task mem owes =>
        cases State.mem_waiting_await.mp mem with
        | inl old => exact .inl (.waiting y task old owes)
        | inr new =>
            obtain ⟨rfl, fresh⟩ := new
            exact .inr ⟨task, fresh, owes⟩
  · intro h
    cases h with
    | inl old =>
        cases old with
        | queued y i mem owes => exact .queued y i mem owes
        | waiting y task mem owes =>
            exact .waiting y task (State.mem_waiting_await.mpr (.inl mem)) owes
    | inr new =>
        obtain ⟨task, mem, owes⟩ := new
        exact .waiting x task (State.mem_waiting_await.mpr (.inr ⟨rfl, mem⟩)) owes

theorem dismiss_iff {i : ℕ} {task : Task} (taken : (s.waiting x)[i]? = some task) :
    Owed s t ↔ Owed (s.dismiss x i) t ∨ t ∈ task.owes x := by
  constructor
  · intro h
    cases h with
    | queued y j mem owes => exact .inl (.queued y j mem owes)
    | waiting y other mem owes =>
        cases State.mem_waiting_of_mem taken mem with
        | inl kept => exact .inl (.waiting y other kept owes)
        | inr this =>
            obtain ⟨rfl, rfl⟩ := this
            exact .inr owes
  · intro h
    cases h with
    | inl kept =>
        cases kept with
        | queued y j mem owes => exact .queued y j mem owes
        | waiting y other mem owes => exact .waiting y other (State.mem_waiting_of_dismiss mem) owes
    | inr owes => exact .waiting x task (List.mem_of_getElem? taken) owes

theorem numbered_iff {n : ℕ} : Owed { s with started := n } t ↔ Owed s t :=
  ⟨fun h => h.of_parts rfl rfl, fun h => h.of_parts rfl rfl⟩

theorem store_iff {device : ℕ} {files : SecretFiles} : Owed (s.store device files) t ↔ Owed s t :=
  ⟨fun h => h.of_parts rfl rfl, fun h => h.of_parts rfl rfl⟩

/-- Landing the head of a queue keeps what the rest owes. -/
theorem land_iff (docs : Documents) {i : Issued} {rest : List Issued} (queued : s.queue x = i :: rest) :
    Owed s t ↔
      Owed { s with docs := docs, queue := Function.update s.queue x rest } t ∨ t ∈ i.owes := by
  constructor
  · intro h
    cases h with
    | waiting y task mem owes => exact .inl (.waiting y task mem owes)
    | queued y j mem owes =>
        by_cases same : y = x
        · subst same
          rw [queued] at mem
          cases List.mem_cons.mp mem with
          | inl head => exact .inr (head ▸ owes)
          | inr tail => exact .inl (.queued y j (by simpa using tail) owes)
        · exact .inl (.queued y j (by simpa [same] using mem) owes)
  · intro h
    cases h with
    | inr owes => exact .queued x i (queued ▸ List.mem_cons_self) owes
    | inl kept =>
        cases kept with
        | waiting y task mem owes => exact .waiting y task mem owes
        | queued y j mem owes =>
            by_cases same : y = x
            · subst same
              have tail : j ∈ rest := by simpa using mem
              exact .queued y j (queued ▸ List.mem_cons_of_mem _ tail) owes
            · exact .queued y j (by simpa [same] using mem) owes

end Owed

theorem touch_iff (op : Operation) (x : Side) (t : Touch) :
    t = (op, x) ∨ t = (op, x.other) ↔ t.1 = op := by
  obtain ⟨o, y⟩ := t
  cases Side.eq_or_eq_other x y with
  | inl own => simp [own, (Side.other_ne x).symm]
  | inr friend => simp [friend, Side.other_ne]

/-- A new operation owes both records or, as an Android delete before its first answer, none. -/
theorem start_owed (x : Side) (kind : Kind) (primes : PublicPrimes) (random : ℕ) :
    ∃ fresh : Option Operation, ∀ t,
      Owed (start pair x kind primes random s) t ↔ Owed s t ∨ some t.1 = fresh := by
  have one (op : Operation) (t : Touch) := touch_iff op x t
  have two (op : Operation) (t : Touch) := touch_iff op x.other t
  simp only [Side.other_other] at two
  cases client : pair.client x with
  | ios =>
      refine ⟨some ⟨s.started, kind, x⟩, fun t => ?_⟩
      cases kind <;>
        simp [start, client, addFriend, acceptFriend, rejectFriend, Owed.issue_iff, Owed.await_iff,
          Owed.numbered_iff, Owed.store_iff, Issued.owes, Issued.reaches, Task.owes, Write.record,
          @eq_comm Touch _ t, one]
  | android =>
      cases kind with
      | add =>
          refine ⟨some ⟨s.started, .add, x⟩, fun t => ?_⟩
          simp [start, client, newFriendChange, updateFriendKey, Owed.issue_iff, Owed.numbered_iff,
            Owed.store_iff, Issued.owes, Issued.reaches, Write.record, @eq_comm Touch _ t, one]
      | accept =>
          refine ⟨some ⟨s.started, .accept, x⟩, fun t => ?_⟩
          simp [start, client, newFriendChange, updateFriendKey, Owed.issue_iff, Owed.await_iff,
            Owed.numbered_iff, Issued.owes, Issued.reaches, Task.owes, Write.record, @eq_comm Touch _ t, two]
      | reject =>
          refine ⟨none, fun t => ?_⟩
          simp [start, client, friendDelete, Owed.await_iff, Owed.numbered_iff, Task.owes]

/-- A callback hands on what it owes. -/
theorem callback_owed {x : Side} {random : ℕ} {task : Task}
    (h : callback pair x random s task = some s') (t : Touch) :
    Owed s' t ↔ Owed s t ∨ t ∈ task.owes x := by
  cases task with
  | getRoom | getSender | getReceiver | getChatRoom => simp [callback] at h
  | gotRoom op snap =>
      cases snap with
      | none =>
          cases h
          simp [Task.owes]
      | some old =>
          simp only [callback] at h
          split at h
          · cases h
            simp [Owed.issue_iff, Owed.store_iff, Issued.owes, Issued.reaches, Task.owes, Write.record]
          · cases h
            simp [Task.owes]
  | setReceiverList op owner pending =>
      cases h
      simp [Owed.issue_iff, Issued.owes, Issued.reaches, Task.owes, Write.record, @eq_comm Touch _ t]
  | gotSender op found | gotReceiver op found | gotChatRoom op found =>
      cases found with
      | false =>
          cases h
          simp [Task.owes]
      | true =>
          cases h
          simp [Owed.issue_iff, Owed.await_iff, Issued.owes, Issued.reaches, Task.owes, Write.record,
            @eq_comm Touch _ t, or_assoc]

/-- An answered read owes what it owed before, or has just counted it as reached. Only a delete
that finds its friend's record starts to owe something. -/
theorem answer_owed {docs : Documents} {x : Side} {task answered : Task}
    (h : answer docs x task = some answered) : ∃ fresh : Option Operation, ∀ t : Touch,
      t ∈ missed docs x task ∨ t ∈ answered.owes x ↔ t ∈ task.owes x ∨ some t.1 = fresh := by
  have two (op : Operation) (t : Touch) := touch_iff op x.other t
  simp only [Side.other_other] at two
  cases task with
  | getRoom op | getChatRoom op =>
      cases h
      exact ⟨none, fun t => by simp [missed, Task.owes]⟩
  | getSender op =>
      cases h
      cases found : docs.record x.other with
      | none => exact ⟨none, fun t => by simp [missed, Task.owes]⟩
      | some pending => exact ⟨some op, fun t => by simp [missed, Task.owes, two op t]⟩
  | getReceiver op =>
      cases h
      cases found : docs.record x with
      | none => exact ⟨none, fun t => by simp [missed, Task.owes, found]⟩
      | some pending => exact ⟨none, fun t => by simp [missed, Task.owes, found]⟩
  | gotRoom | gotSender | gotReceiver | gotChatRoom | setReceiverList => simp [answer] at h

theorem Issued.owes_iff (i : Issued) (x : Side) (t : Touch) :
    t ∈ i.owes ↔ t ∈ i.reaches ∨ ∃ task ∈ i.onComplete, t ∈ task.owes x := by
  unfold Issued.owes Issued.onComplete
  cases i.receiverList <;> simp [Task.owes]

theorem start_ledger {log : List Touch} (x : Side) (kind : Kind) (primes : PublicPrimes)
    (random : ℕ) : ∃ fresh : Option Operation, ∀ t,
      Ledger (start pair x kind primes random s) log t ↔ Ledger s log t ∨ some t.1 = fresh := by
  obtain ⟨fresh, owed⟩ := @start_owed pair s x kind primes random
  exact ⟨fresh, fun t => by simp only [Ledger, owed t, or_assoc]⟩

/-- A step keeps every touch on the ledger, and a fresh operation enters it with both records. -/
theorem ledger_step {log : List Touch} {e : Event} (h : step pair s e = some s') :
    ∃ fresh : Option Operation, ∀ t,
      Ledger s' (log ++ touches s e) t ↔ Ledger s log t ∨ some t.1 = fresh := by
  cases step_cases h with
  | add | accept | reject =>
      simpa only [touches, List.append_nil] using start_ledger _ _ _ _
  | fetch waits fetched =>
      obtain ⟨fresh, owed⟩ := answer_owed fetched
      refine ⟨fresh, fun t => ?_⟩
      have here := owed t
      have before := Owed.dismiss_iff waits (t := t)
      simp only [Ledger, touches, waits, Option.toList_some, List.flatMap_singleton, List.mem_append,
        Owed.await_iff, List.mem_singleton, exists_eq_left, before]
      grind
  | resume waits done =>
      refine ⟨none, fun t => ?_⟩
      have after := callback_owed done t
      have before := Owed.dismiss_iff waits (t := t)
      simp [Ledger, touches, after, before]
  | @land x i rest queued =>
      refine ⟨none, fun t => ?_⟩
      have before := Owed.land_iff (s.docs.apply i.write) queued (t := t)
      simp only [Ledger, touches, queued, List.head?_cons, Option.toList_some,
        List.flatMap_singleton, List.mem_append, Owed.await_iff, before, i.owes_iff x t]
      grind
  | observe x =>
      exact ⟨none, fun t => by
        simp only [Ledger, touches, List.append_nil, reduceCtorEq, or_false]
        exact or_congr_right ⟨fun h => h.of_parts rfl rfl, fun h => h.of_parts rfl rfl⟩⟩

/-- The status a write leaves in the record it reaches. -/
def Write.leaves : Write → Option Status
  | .setRecord _ pending => some pending
  | _ => none

/-- A queued write leaves what its operation is to leave, and so will its callback. -/
structure Issued.Honest (i : Issued) : Prop where
  write : ∀ owner, i.write.record = some owner → i.write.leaves = i.op.leaves owner
  receiver : ∀ owner pending, i.receiverList = some (owner, pending) →
    i.op.leaves owner = some pending

theorem Issued.honest_iff (i : Issued) : i.Honest ↔
    (∀ owner, i.write.record = some owner → i.write.leaves = i.op.leaves owner) ∧
      ∀ owner pending, i.receiverList = some (owner, pending) → i.op.leaves owner = some pending :=
  ⟨fun h => ⟨h.write, h.receiver⟩, fun h => ⟨h.1, h.2⟩⟩

def Task.Honest : Task → Prop
  | .setReceiverList op owner pending => op.leaves owner = some pending
  | .getSender op | .gotSender op _ | .getReceiver op | .gotReceiver op _ => op.kind = .reject
  | _ => True

structure Honest (s : State) : Prop where
  queue : ∀ x, ∀ i ∈ s.queue x, i.Honest
  waiting : ∀ x, ∀ task ∈ s.waiting x, task.Honest

namespace Honest

variable {x : Side}

theorem issue (h : Honest s) {writes : List Issued} (new : ∀ i ∈ writes, i.Honest) :
    Honest (s.issue x writes) where
  queue y i mem := by
    cases State.mem_queue_issue.mp mem with
    | inl old => exact h.queue y i old
    | inr fresh => exact new i fresh.2
  waiting := h.waiting

theorem await (h : Honest s) {tasks : List Task} (new : ∀ task ∈ tasks, task.Honest) :
    Honest (s.await x tasks) where
  queue := h.queue
  waiting y task mem := by
    cases State.mem_waiting_await.mp mem with
    | inl old => exact h.waiting y task old
    | inr fresh => exact new task fresh.2

theorem dismiss (h : Honest s) (i : ℕ) : Honest (s.dismiss x i) where
  queue := h.queue
  waiting y task mem := h.waiting y task (State.mem_waiting_of_dismiss mem)

theorem of_parts (h : Honest s) (queue : s'.queue = s.queue) (waiting : s'.waiting = s.waiting) :
    Honest s' where
  queue := queue ▸ h.queue
  waiting := waiting ▸ h.waiting

theorem store (h : Honest s) (device : ℕ) (files : SecretFiles) : Honest (s.store device files) :=
  h.of_parts rfl rfl

theorem land (h : Honest s) {docs : Documents} {i : Issued} {rest : List Issued}
    (queued : s.queue x = i :: rest) :
    Honest { s with docs := docs, queue := Function.update s.queue x rest } where
  queue y j mem := by
    by_cases same : y = x
    · subst same
      have tail : j ∈ rest := by simpa using mem
      exact h.queue y j (queued ▸ List.mem_cons_of_mem _ tail)
    · exact h.queue y j (by simpa [same] using mem)
  waiting := h.waiting

end Honest

theorem Issued.honest_onComplete {i : Issued} (h : i.Honest) : ∀ task ∈ i.onComplete, task.Honest := by
  intro task mem
  unfold Issued.onComplete at mem
  split at mem
  · rename_i owner pending completion
    obtain rfl := List.mem_singleton.mp mem
    exact h.receiver owner pending completion
  · cases mem

theorem honest_start (h : Honest s) (x : Side) (kind : Kind) (primes : PublicPrimes) (random : ℕ) :
    Honest (start pair x kind primes random s) := by
  have bumped : Honest { s with started := s.started + 1 } := h.of_parts rfl rfl
  have apart := Side.other_ne x
  cases client : pair.client x with
  | ios =>
      cases kind with
      | add =>
          simp only [start, client, addFriend]
          refine (bumped.store _ _).issue ?_
          simp [Issued.honest_iff, Write.record, Write.leaves, Operation.leaves, apart]
      | accept =>
          simp only [start, client, acceptFriend]
          refine (bumped.await ?_).issue ?_
          · simp [Task.Honest]
          · simp [Issued.honest_iff, Write.record, Write.leaves, Operation.leaves]
      | reject =>
          simp only [start, client, rejectFriend]
          refine bumped.issue ?_
          simp [Issued.honest_iff, Write.record, Write.leaves, Operation.leaves]
  | android =>
      cases kind with
      | add =>
          simp only [start, client, newFriendChange, updateFriendKey]
          refine ((bumped.store _ _).issue ?_).issue ?_
          · simp [Issued.honest_iff, Write.record]
          · simp [Issued.honest_iff, Write.record, Write.leaves, Operation.leaves, apart,
              FriendChangeType.codeSender, FriendChangeType.codeReceiver]
      | accept =>
          simp only [start, client, newFriendChange, updateFriendKey]
          refine (bumped.await ?_).issue ?_
          · simp [Task.Honest]
          · simp [Issued.honest_iff, Write.record, Write.leaves, Operation.leaves,
              FriendChangeType.codeSender, FriendChangeType.codeReceiver]
      | reject =>
          simp only [start, client, friendDelete]
          refine bumped.await ?_
          simp [Task.Honest]

theorem honest_callback (h : Honest s) {x : Side} {random : ℕ} {task : Task} (honest : task.Honest)
    (done : callback pair x random s task = some s') : Honest s' := by
  cases task with
  | getRoom | getSender | getReceiver | getChatRoom => simp [callback] at done
  | gotRoom op snap =>
      cases snap with
      | none => cases done; exact h
      | some old =>
          simp only [callback] at done
          split at done
          · cases done
            refine (h.store _ _).issue ?_
            simp [Issued.honest_iff, Write.record]
          · cases done; exact h
  | setReceiverList op owner pending =>
      cases done
      refine h.issue ?_
      simpa [Issued.honest_iff, Write.record, Write.leaves] using honest.symm
  | gotSender op found | gotReceiver op found =>
      cases found with
      | false => cases done; exact h
      | true =>
          cases done
          have kind : op.kind = .reject := honest
          refine (h.issue ?_).await ?_
          · simp [Issued.honest_iff, Write.record, Write.leaves, Operation.leaves, kind]
          · simp [Task.Honest, kind]
  | gotChatRoom op found =>
      cases found with
      | false => cases done; exact h
      | true =>
          cases done
          refine h.issue ?_
          simp [Issued.honest_iff, Write.record]

theorem honest_answer {docs : Documents} {x : Side} {task answered : Task} (honest : task.Honest)
    (h : answer docs x task = some answered) : answered.Honest := by
  cases task with
  | getRoom | getSender | getReceiver | getChatRoom => cases h; exact honest
  | gotRoom | gotSender | gotReceiver | gotChatRoom | setReceiverList => simp [answer] at h

theorem honest_step {e : Event} (inv : Honest s) (h : step pair s e = some s') : Honest s' := by
  cases step_cases h with
  | add | accept | reject => exact honest_start inv _ _ _ _
  | @fetch x i task answered waits fetched =>
      have honest := inv.waiting x task (List.mem_of_getElem? waits)
      refine (inv.dismiss i).await ?_
      simpa using honest_answer honest fetched
  | @resume x i random task s' waits done =>
      have honest := inv.waiting x task (List.mem_of_getElem? waits)
      exact honest_callback (inv.dismiss i) honest done
  | @land x i rest queued =>
      have honest := inv.queue x i (queued ▸ List.mem_cons_self)
      exact (inv.land queued).await (Issued.honest_onComplete honest)
  | observe x => exact inv.of_parts rfl rfl

/-- The record of `y` holds what the last operation on the log leaves there, unless a write of its
own client is about to overwrite it. -/
def Settled (s : State) (log : List Touch) (y : Side) : Prop :=
  (∀ i ∈ s.queue y, i.write.record ≠ some y) →
    s.docs.record y = (lastWriter log y).bind fun op => op.leaves y

theorem apply_record (docs : Documents) (write : Write) (y : Side) :
    (docs.apply write).record y = if write.record = some y then write.leaves else docs.record y := by
  cases write with
  | setRecord owner pending | deleteRecord owner =>
      by_cases own : y = owner
      · simp [Documents.apply, Write.record, Write.leaves, own]
      · simp [Documents.apply, Write.record, own, eq_comm]
  | setRoom | deleteRoom => simp [Documents.apply, Write.record]

theorem view_record {x y : Side} (untouched : ∀ i ∈ s.queue x, i.write.record ≠ some y) :
    (s.view x).record y = s.docs.record y := by
  unfold State.view
  generalize s.docs = docs
  generalize s.queue x = queue at untouched ⊢
  induction queue generalizing docs with
  | nil => rfl
  | cons i rest ih =>
      have later := ih (docs.apply i.write) fun j mem => untouched j (List.mem_cons_of_mem _ mem)
      rw [List.foldl_cons, later, apply_record, if_neg (untouched i List.mem_cons_self)]

namespace Settled

variable {log : List Touch} {y : Side}

theorem of_grows (h : Settled s log y) (docs : s'.docs = s.docs)
    (grows : ∀ i ∈ s.queue y, i ∈ s'.queue y) : Settled s' log y := by
  intro untouched
  rw [docs]
  exact h fun i mem => untouched i (grows i mem)

/-- A delete that misses the record of its own client has found what a delete leaves. -/
theorem missed (h : Settled s log y) {x : Side} {task : Task} (honest : task.Honest) :
    Settled s (log ++ missed (s.view x) x task) y := by
  cases task with
  | getReceiver op =>
      by_cases gone : (s.view x).record x = none
      · simp only [PetClump.missed, gone, if_true]
        intro untouched
        rw [lastWriter_append]
        by_cases own : y = x
        · subst own
          have kind : op.kind = .reject := honest
          rw [Function.update_self, ← view_record untouched, gone]
          simp [Operation.leaves, kind]
        · rw [Function.update_of_ne own]
          exact h untouched
      · simpa only [PetClump.missed, gone, if_false, List.append_nil] using h
  | getRoom | getSender | getChatRoom | gotRoom | gotSender | gotReceiver | gotChatRoom
  | setReceiverList => simpa only [PetClump.missed, List.append_nil] using h

/-- A landing write leaves in its record what its operation is to leave there. -/
theorem land (h : Settled s log y) {x : Side} {i : Issued} {rest : List Issued}
    (queued : s.queue x = i :: rest) (honest : i.Honest) :
    Settled { s with docs := s.docs.apply i.write, queue := Function.update s.queue x rest }
      (log ++ i.reaches) y := by
  intro untouched
  show (s.docs.apply i.write).record y = _
  rw [apply_record]
  by_cases own : i.write.record = some y
  · have reached : i.reaches = [(i.op, y)] := by simp [Issued.reaches, own]
    rw [if_pos own, reached, lastWriter_append, Function.update_self]
    exact honest.write y own
  · have kept : lastWriter (log ++ i.reaches) y = lastWriter log y := by
      cases target : i.write.record with
      | none => simp [Issued.reaches, target]
      | some owner =>
          have apart : y ≠ owner := fun same => own (same ▸ target)
          simp [Issued.reaches, target, lastWriter_append, apart]
    rw [if_neg own, kept]
    apply h
    intro j mem
    by_cases same : y = x
    · subst same
      rw [queued] at mem
      cases List.mem_cons.mp mem with
      | inl head => exact head ▸ own
      | inr tail => exact untouched j (by simpa using tail)
    · exact untouched j (by simpa [same] using mem)

end Settled

theorem start_queue (x : Side) (kind : Kind) (primes : PublicPrimes) (random : ℕ) (y : Side) :
    ∀ i ∈ s.queue y, i ∈ (start pair x kind primes random s).queue y := by
  intro i mem
  cases client : pair.client x <;> cases kind <;>
    simp [start, client, addFriend, acceptFriend, rejectFriend, newFriendChange, updateFriendKey,
      friendDelete, State.mem_queue_issue, mem]

theorem callback_queue {x : Side} {random : ℕ} {task : Task}
    (h : callback pair x random s task = some s') (y : Side) : ∀ i ∈ s.queue y, i ∈ s'.queue y := by
  intro i mem
  cases task with
  | getRoom | getSender | getReceiver | getChatRoom => simp [callback] at h
  | gotRoom op snap =>
      cases snap with
      | none => cases h; exact mem
      | some old =>
          simp only [callback] at h
          split at h
          · cases h
            exact State.mem_queue_issue.mpr (.inl mem)
          · cases h; exact mem
  | setReceiverList => cases h; exact State.mem_queue_issue.mpr (.inl mem)
  | gotSender op found | gotReceiver op found | gotChatRoom op found =>
      cases found with
      | false => cases h; exact mem
      | true => cases h; exact State.mem_queue_issue.mpr (.inl mem)

theorem settled_step {log : List Touch} {e : Event} {y : Side} (honest : Honest s)
    (inv : Settled s log y) (h : step pair s e = some s') : Settled s' (log ++ touches s e) y := by
  cases step_cases h with
  | add | accept | reject =>
      simp only [touches, List.append_nil]
      exact inv.of_grows (start_docs _ _ _ _ _ _) (start_queue _ _ _ _ y)
  | @fetch x i task answered waits fetched =>
      simp only [touches, waits, Option.toList_some, List.flatMap_singleton]
      have missed := inv.missed (x := x) (honest.waiting x task (List.mem_of_getElem? waits))
      exact missed.of_grows rfl fun _ mem => mem
  | resume waits done =>
      simp only [touches, List.append_nil]
      have docs := callback_docs done
      have grows := callback_queue done y
      exact inv.of_grows docs grows
  | @land x i rest queued =>
      simp only [touches, queued, List.head?_cons, Option.toList_some, List.flatMap_singleton]
      have landed := inv.land queued (honest.queue x i (queued ▸ List.mem_cons_self))
      exact landed.of_grows rfl fun _ mem => mem
  | observe x =>
      simp only [touches, List.append_nil]
      exact inv.of_grows rfl fun _ mem => mem

/-- What holds of the documents, the queues and the log in every run. -/
structure Booked (t : State × List Touch) : Prop where
  honest : Honest t.1
  paired : ∀ op x y, Ledger t.1 t.2 (op, x) → Ledger t.1 t.2 (op, y)
  settled : ∀ y, Settled t.1 t.2 y

theorem booked_initial (files : ℕ → SecretFiles) : Booked (State.initial files, []) where
  honest := ⟨by simp [State.initial], by simp [State.initial]⟩
  paired op x y h := by
    cases h with
    | inl logged => cases logged
    | inr owed =>
        cases owed with
        | queued z i mem => cases mem
        | waiting z task mem => cases mem
  settled y _ := rfl

theorem booked_step {t t' : State × List Touch} {e : Event} (inv : Booked t)
    (h : stepLogged pair t e = some t') : Booked t' := by
  obtain ⟨s, log⟩ := t
  simp only [stepLogged, Option.map_eq_some_iff] at h
  obtain ⟨s', taken, rfl⟩ := h
  obtain ⟨fresh, ledger⟩ := @ledger_step pair s s' log e taken
  refine ⟨honest_step inv.honest taken, ?_, fun y => settled_step inv.honest (inv.settled y) taken⟩
  intro op x y h
  cases (ledger (op, x)).mp h with
  | inl old => exact (ledger (op, y)).mpr (.inl (inv.paired op x y old))
  | inr new => exact (ledger (op, y)).mpr (.inr new)

/-- With nothing in flight, the log alone says which record an operation reached. -/
theorem owed_of_quiet (quiet : s.Quiet) (t : Touch) : ¬ Owed s t := by
  intro owed
  cases owed with
  | queued x i mem => simp [(quiet x).1] at mem
  | waiting x task mem => simp [(quiet x).2] at mem

theorem complementary_of_leaves {docs : Documents} (op : Option Operation)
    (left : ∀ y, docs.record y = op.bind fun op => op.leaves y) : docs.Complementary := by
  cases op with
  | none => simp [Documents.Complementary, left]
  | some op =>
      obtain ⟨number, kind, starter⟩ := op
      cases kind with
      | add => cases starter <;> simp [Documents.Complementary, left, Operation.leaves]
      | accept | reject => simp [Documents.Complementary, left, Operation.leaves]

/-- Whenever nothing is in flight, the records of two pets whose operations did not cross are
complementary. -/
theorem records_complementary (pair : Pair) (files : ℕ → SecretFiles) (es : List Event) (s : State)
    (log : List Touch) (reached : run (stepLogged pair) (State.initial files, []) es = some (s, log))
    (uncrossed : Uncrossed log) (quiet : s.Quiet) : s.docs.Complementary := by
  have inv : Booked (s, log) :=
    run_invariant (fun _ _ _ => booked_step) (booked_initial files) reached
  have complete : Complete log := by
    intro op x y logged
    cases inv.paired op x y (.inl logged) with
    | inl logged => exact logged
    | inr owed => exact absurd owed (owed_of_quiet quiet _)
  apply complementary_of_leaves (lastWriter log .a)
  intro y
  rw [lastWriter_agree uncrossed complete .a y]
  exact inv.settled y (by simp [(quiet y).1])

theorem records_complementary_after_accept :
    ∃ s log, run (stepLogged (.ofClients .ios .android)) (State.initial fun _ _ => none, [])
      [.add .a ⟨23, 5, by decide⟩ 6, .land .a, .land .a, .land .a, .observe .b, .accept .b,
        .land .b, .fetch .b 0, .resume .b 0 0, .resume .b 0 15, .land .b, .land .b] = some (s, log) ∧
      s.docs.Complementary := by
  have fine : (run (stepLogged (.ofClients .ios .android)) (State.initial fun _ _ => none, [])
      [.add .a ⟨23, 5, by decide⟩ 6, .land .a, .land .a, .land .a, .observe .b, .accept .b,
        .land .b, .fetch .b 0, .resume .b 0 0, .resume .b 0 15, .land .b, .land .b]).any
      (fun t => decide (Uncrossed t.2) && decide t.1.Quiet) = true := by
    decide +kernel
  obtain ⟨⟨s, log⟩, reached, checked⟩ := (Option.any_eq_true _ _).mp fine
  obtain ⟨uncrossed, quiet⟩ := Bool.and_eq_true_iff.mp checked
  exact ⟨s, log, reached, records_complementary _ _ _ s log reached (of_decide_eq_true uncrossed)
    (of_decide_eq_true quiet)⟩

/-- Two requests at once: each client writes its own record first, and each ends up receiving. -/
theorem simultaneous_requests : ¬ ∀ (pair : Pair) (files : ℕ → SecretFiles) (es : List Event)
    (s : State), Meets (step pair) Gated (State.initial files) es →
      run (step pair) (State.initial files) es = some s → s.Quiet → s.docs.Complementary := by
  intro claim
  let es : List Event := [.add .a ⟨23, 5, by decide⟩ 6, .add .b ⟨23, 5, by decide⟩ 15,
    .land .a, .land .a, .land .b, .land .b, .land .a, .land .b]
  have broken : (run (step (.ofClients .ios .ios)) (State.initial fun _ _ => none) es).any
      (fun s => decide s.Quiet && !decide s.docs.Complementary) = true := by
    decide +kernel
  obtain ⟨s, reached, checked⟩ := (Option.any_eq_true _ _).mp broken
  simp only [Bool.and_eq_true, decide_eq_true_eq, Bool.not_eq_true', decide_eq_false_iff_not] at checked
  have gated : Meets (step (.ofClients .ios .ios)) Gated (State.initial fun _ _ => none) es := by
    decide +kernel
  exact checked.2 (claim _ _ es s gated reached checked.1)

end PetClump
