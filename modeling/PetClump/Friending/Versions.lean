import PetClump.Friending.System

/-! # Versions of the chat-room document

A version is a room document that is stored, queued, or held by a callback that
may still write it back. A step only moves versions around, except that a sent
request and an acceptance each make one; device files only ever grow.
-/

namespace PetClump

open Runs

variable {pair : Pair} {s s' : State}

inductive Version (s : State) (data : Data) : Prop where
  | stored (h : s.docs.room = some data)
  | queued (x : Side) (i : Issued) (mem : i ∈ s.queue x) (h : i.write = .setRoom data)
  | read (x : Side) (op : Operation) (mem : Task.gotRoom op (some data) ∈ s.waiting x)

namespace Version

variable {data : Data} {x : Side}

theorem of_view (seen : (s.view x).room = some data) : Version s data := by
  cases State.view_room seen with
  | inl now => exact .stored now
  | inr later =>
      obtain ⟨i, mem, written⟩ := later
      exact .queued x i mem written

theorem of_issue {writes : List Issued} (h : Version (s.issue x writes) data) :
    Version s data ∨ ∃ i ∈ writes, i.write = .setRoom data := by
  cases h with
  | stored h => exact .inl (.stored h)
  | queued y i mem written =>
      cases State.mem_queue_issue.mp mem with
      | inl old => exact .inl (.queued y i old written)
      | inr new => exact .inr ⟨i, new.2, written⟩
  | read y op mem => exact .inl (.read y op mem)

theorem of_await {tasks : List Task} (h : Version (s.await x tasks) data) :
    Version s data ∨ ∃ op, Task.gotRoom op (some data) ∈ tasks := by
  cases h with
  | stored h => exact .inl (.stored h)
  | queued y i mem written => exact .inl (.queued y i mem written)
  | read y op mem =>
      cases State.mem_waiting_await.mp mem with
      | inl old => exact .inl (.read y op old)
      | inr new => exact .inr ⟨op, new.2⟩

theorem of_issue_other {writes : List Issued} (h : Version (s.issue x writes) data)
    (other : ∀ i ∈ writes, i.write ≠ .setRoom data) : Version s data := by
  cases of_issue h with
  | inl old => exact old
  | inr new =>
      obtain ⟨i, mem, written⟩ := new
      exact absurd written (other i mem)

theorem of_await_other {tasks : List Task} (h : Version (s.await x tasks) data)
    (other : ∀ op, Task.gotRoom op (some data) ∉ tasks) : Version s data := by
  cases of_await h with
  | inl old => exact old
  | inr new =>
      obtain ⟨op, mem⟩ := new
      exact absurd mem (other op)

theorem of_parts (h : Version s' data) (docs : s'.docs = s.docs) (queue : s'.queue = s.queue)
    (waiting : s'.waiting = s.waiting) : Version s data := by
  cases h with
  | stored h => exact .stored (docs ▸ h)
  | queued y i mem written => exact .queued y i (queue ▸ mem) written
  | read y op mem => exact .read y op (waiting ▸ mem)

theorem of_dismiss {i : ℕ} (h : Version (s.dismiss x i) data) : Version s data := by
  cases h with
  | stored h => exact .stored h
  | queued y j mem written => exact .queued y j mem written
  | read y op mem => exact .read y op (State.mem_waiting_of_dismiss mem)

end Version

/-- How a step makes a version that was not there before. -/
inductive Made (pair : Pair) (s s' : State) : Data → Prop where
  | sent (x : Side) (primes : PublicPrimes) (random : ℕ) (k : KeyExchanger)
      (created : KeyExchanger.create (pair.client x) (s.files (pair.device x)) (pair.exchangerId x)
        primes random = (k, s'.files (pair.device x))) :
      Made pair s s' (k.generateSenderData (pair.id x) (pair.id x.other))
  | joined (x : Side) (old : Data) (random : ℕ) (k : KeyExchanger) (version : Version s old)
      (created : KeyExchanger.ofData (pair.client x) (s.files (pair.device x)) (pair.exchangerId x)
        old random = some (k, s'.files (pair.device x))) :
      Made pair s s' (old.put (pair.id x) (Nat.repr k.getMyPublic))

theorem start_version {x : Side} {kind : Kind} {primes : PublicPrimes} {random : ℕ} {data : Data}
    (h : Version (start pair x kind primes random s) data) :
    Version s data ∨ Made pair s (start pair x kind primes random s) data := by
  cases client : pair.client x with
  | ios =>
      cases kind with
      | add =>
          simp only [start, client] at h ⊢
          cases Version.of_issue h with
          | inl old => exact .inl (Version.of_parts old rfl rfl rfl)
          | inr new =>
              obtain ⟨i, mem, written⟩ := new
              simp only [List.mem_cons, List.not_mem_nil, or_false] at mem
              obtain rfl | rfl | rfl := mem
              · cases written
                refine .inr (.sent x primes random _ ?_)
                simp [addFriend, client, Pair.exchangerId]
              · cases written
              · cases written
      | accept =>
          simp only [start, client] at h
          have before := Version.of_await_other (Version.of_issue_other h (by simp)) (by simp)
          exact .inl (Version.of_parts before rfl rfl rfl)
      | reject =>
          simp only [start, client] at h
          exact .inl (Version.of_parts (Version.of_issue_other h (by simp)) rfl rfl rfl)
  | android =>
      cases kind with
      | add =>
          simp only [start, client, newFriendChange, updateFriendKey] at h ⊢
          cases Version.of_issue (Version.of_issue_other h (by simp)) with
          | inl old => exact .inl (Version.of_parts old rfl rfl rfl)
          | inr new =>
              obtain ⟨i, mem, written⟩ := new
              obtain rfl := List.mem_singleton.mp mem
              cases written
              refine .inr (.sent x primes random _ ?_)
              simp [client, Pair.exchangerId]
      | accept =>
          simp only [start, client, newFriendChange, updateFriendKey] at h
          have before := Version.of_await_other (Version.of_issue_other h (by simp)) (by simp)
          exact .inl (Version.of_parts before rfl rfl rfl)
      | reject =>
          simp only [start, client, friendDelete] at h
          exact .inl (Version.of_parts (Version.of_await_other h (by simp)) rfl rfl rfl)

theorem callback_version {x : Side} {i random : ℕ} {task : Task} {data : Data}
    (waits : task ∈ s.waiting x)
    (h : callback pair x random (s.dismiss x i) task = some s')
    (version : Version s' data) : Version s data ∨ Made pair s s' data := by
  cases task with
  | getRoom | getSender | getReceiver | getChatRoom => simp [callback] at h
  | gotRoom op snap =>
      cases snap with
      | none =>
          cases h
          exact .inl (Version.of_dismiss version)
      | some old =>
          simp only [callback] at h
          split at h
          · rename_i k files created
            cases h
            cases Version.of_issue version with
            | inl kept => exact .inl (Version.of_dismiss (Version.of_parts kept rfl rfl rfl))
            | inr new =>
                obtain ⟨j, mem, written⟩ := new
                obtain rfl := List.mem_singleton.mp mem
                cases written
                refine .inr (.joined x old random k (.read x op waits) ?_)
                simpa using created
          · cases h
            exact .inl (Version.of_dismiss version)
  | setReceiverList op owner pending =>
      cases h
      exact .inl (Version.of_dismiss (Version.of_issue_other version (by simp)))
  | gotSender op found | gotReceiver op found =>
      cases found with
      | false =>
          cases h
          exact .inl (Version.of_dismiss version)
      | true =>
          cases h
          have kept := Version.of_issue_other (Version.of_await_other version (by simp)) (by simp)
          exact .inl (Version.of_dismiss kept)
  | gotChatRoom op found =>
      cases found with
      | false =>
          cases h
          exact .inl (Version.of_dismiss version)
      | true =>
          cases h
          exact .inl (Version.of_dismiss (Version.of_issue_other version (by simp)))

/-- Answering a read copies a version out of the reader's view. -/
theorem answer_version {x : Side} {task answered : Task} {op : Operation} {data : Data}
    (h : answer (s.view x) x task = some answered) (holds : answered = .gotRoom op (some data)) :
    Version s data := by
  subst holds
  cases task with
  | getRoom =>
      simp only [answer, Option.some.injEq, Task.gotRoom.injEq] at h
      exact .of_view h.2
  | getSender | getReceiver | getChatRoom => simp [answer] at h
  | gotRoom | gotSender | gotReceiver | gotChatRoom | setReceiverList => simp [answer] at h

theorem Issued.gotRoom_not_mem_onComplete (i : Issued) {op : Operation} {snap : Option Data} :
    Task.gotRoom op snap ∉ i.onComplete := by
  unfold Issued.onComplete
  split <;> simp

/-- Landing moves the version at the head of a queue into the store. -/
theorem version_land {x : Side} {i : Issued} {rest : List Issued} {data : Data}
    (queued : s.queue x = i :: rest)
    (h : Version { s with docs := s.docs.apply i.write, queue := Function.update s.queue x rest }
      data) : Version s data := by
  have head : i ∈ s.queue x := queued ▸ List.mem_cons_self
  cases h with
  | stored stored =>
      cases write : i.write with
      | setRoom new =>
          simp only [write, Documents.apply, Option.some.injEq] at stored
          exact .queued x i head (stored ▸ write)
      | deleteRoom => simp [write, Documents.apply] at stored
      | setRecord owner pending => exact .stored (by simpa only [write, Documents.apply] using stored)
      | deleteRecord owner => exact .stored (by simpa only [write, Documents.apply] using stored)
  | queued y j mem written =>
      by_cases same : y = x
      · subst same
        have mem : j ∈ rest := by simpa using mem
        exact .queued y j (queued ▸ List.mem_cons_of_mem _ mem) written
      · exact .queued y j (by simpa [same] using mem) written
  | read y op mem => exact .read y op mem

theorem step_version {e : Event} {data : Data} (h : step pair s e = some s')
    (version : Version s' data) : Version s data ∨ Made pair s s' data := by
  cases step_cases h with
  | add | accept | reject => exact start_version version
  | fetch waits fetched =>
      cases Version.of_await version with
      | inl kept => exact .inl (Version.of_dismiss kept)
      | inr new =>
          obtain ⟨op, mem⟩ := new
          exact .inl (answer_version fetched (List.mem_singleton.mp mem).symm)
  | resume waits done => exact callback_version (List.mem_of_getElem? waits) done version
  | @land x head rest queued =>
      cases Version.of_await version with
      | inl kept => exact .inl (version_land queued kept)
      | inr new =>
          obtain ⟨op, mem⟩ := new
          exact absurd mem (Issued.gotRoom_not_mem_onComplete head)
  | observe x => exact .inl (Version.of_parts version rfl rfl rfl)

theorem extends_store {device : ℕ} {files : SecretFiles} (more : (s.files device).Extends files)
    (d : ℕ) : (s.files d).Extends ((s.store device files).files d) := by
  by_cases same : d = device
  · subst same
    simpa using more
  · simpa [same] using SecretFiles.Extends.refl (s.files d)

theorem start_files (x : Side) (kind : Kind) (primes : PublicPrimes) (random : ℕ) (d : ℕ) :
    (s.files d).Extends ((start pair x kind primes random s).files d) := by
  have same : (s.files d).Extends (s.files d) := .refl _
  have created (client : Client) (id : String) (d : ℕ) := extends_store (s := s)
    (KeyExchanger.loadOrGenerateSecret_extends client (s.files (pair.device x)) id random) d
  cases client : pair.client x with
  | ios =>
      cases kind with
      | add =>
          simp only [start, client]
          exact created .ios (pair.id x.other) d
      | accept | reject =>
          simp only [start, client]
          exact same
  | android =>
      cases kind with
      | add =>
          simp only [start, client]
          exact created .android (pair.id x) d
      | accept | reject =>
          simp only [start, client]
          exact same

theorem callback_files {x : Side} {random : ℕ} {task : Task}
    (h : callback pair x random s task = some s') (d : ℕ) :
    (s.files d).Extends (s'.files d) := by
  have same : (s.files d).Extends (s.files d) := .refl _
  cases task with
  | getRoom | getSender | getReceiver | getChatRoom => simp [callback] at h
  | gotRoom op snap =>
      cases snap with
      | none => cases h; exact same
      | some old =>
          simp only [callback] at h
          split at h
          · rename_i k files created
            cases h
            exact extends_store (KeyExchanger.ofData_spec created).2.2.2 d
          · cases h; exact same
  | setReceiverList op owner pending => cases h; exact same
  | gotSender op found | gotReceiver op found | gotChatRoom op found =>
      cases found <;> (cases h; exact same)

theorem step_files {e : Event} (h : step pair s e = some s') (d : ℕ) :
    (s.files d).Extends (s'.files d) := by
  have same : (s.files d).Extends (s.files d) := .refl _
  cases step_cases h with
  | add | accept | reject => exact start_files _ _ _ _ d
  | resume waits done => exact callback_files done d
  | fetch | land | observe => exact same

theorem files_run {es : List Event} (h : run (step pair) s es = some s') (d : ℕ) :
    (s.files d).Extends (s'.files d) :=
  @run_invariant State Event (step pair) (fun t => (s.files d).Extends (t.files d))
    (fun _ _ _ more taken => more.trans (step_files taken d)) s s' es (.refl _) h

end PetClump
