import PetClump.KeyExchanger
import PetClump.Library.Runs

/-! # Secret files that fail

`loadOrGenerateSecret` of both clients, one file step at a time. A step can
succeed, fail, or be the one at which the process is killed, and a step that
does not succeed may have got some way on disk.
-/

namespace PetClump.SecretFile

open Runs

/-- How a file step ends; `reached` says how far it got on disk. -/
inductive Outcome where
  | ok
  | fail (reached : ℕ)
  | kill (reached : ℕ)
  deriving Repr, DecidableEq

/-- The file of one id: absent, or holding some text. -/
abbrev File := Option String

structure Faults where
  existence : Outcome
  create : Outcome
  write : Outcome
  close : Outcome
  read : Outcome
  deriving Repr, DecidableEq

def Faults.none : Faults := ⟨.ok, .ok, .ok, .ok, .ok⟩

/-- How a construction ends. `returned none` is an exchanger without a secret (Android's `null`). -/
inductive Result where
  | returned (mySecret : Option ℕ)
  | thrown
  | killed
  deriving Repr, DecidableEq

/-- One file step: what is on disk if it stops there, how the code goes on after catching its
failure, and the rest. -/
def fileStep (outcome : Outcome) (partly : ℕ → File) (caught : Result) (rest : File × Result) :
    File × Result :=
  match outcome with
  | .ok => rest
  | .fail reached => (partly reached, caught)
  | .kill reached => (partly reached, .killed)

/-- The part of a text that has reached the disk. -/
def cut (text : String) (reached : ℕ) : File := some (String.ofList (text.toList.take reached))

section Android

/-- `new BigInteger(br.readLine())`, for the texts that these files can hold. An empty file has no
line, and `BigInteger` throws on `null`. -/
def parseLine (text : String) : Option ℕ := Decimal.parse text

variable (faults : Faults) (file : File)

def androidRead (text : String) : File × Result :=
  fileStep faults.read (fun _ => file) (.returned none) <|
    match parseLine text with
    | none => (file, .thrown)
    | some secret =>
        fileStep faults.close (fun _ => file) (.returned (some secret)) (file, .returned (some secret))

/-- `createNewFile` leaves an existing file alone, `new FileWriter` truncates it, and the text
stays in the writer's buffer until it is closed. -/
def androidWrite (random : ℕ) : File × Result :=
  let created : File := some (file.getD "")
  let caught := Result.returned (some random)
  fileStep faults.create (fun reached => if reached = 0 then file else created) caught <|
    fileStep faults.write (fun reached => if reached = 0 then created else some "") caught <|
      fileStep faults.close (cut (Nat.repr random)) caught (some (Nat.repr random), caught)

end Android

section IOS

/-- `BigInt(secrectString)!`, for the texts that these files can hold. The empty text is zero. -/
def parseContents (text : String) : Option ℕ := if text = "" then some 0 else Decimal.parse text

variable (faults : Faults) (file : File)

/-- After a failed read the exchanger keeps its initial secret. -/
def iosRead (text : String) : File × Result :=
  fileStep faults.read (fun _ => file) (.returned (some 0)) <|
    match parseContents text with
    | none => (file, .thrown)
    | some secret => (file, .returned (some secret))

/-- `write(to:atomically:encoding:)` opens the file for truncation, writes and closes. -/
def iosWrite (random : ℕ) : File × Result :=
  let caught := Result.returned (some random)
  fileStep faults.create (fun reached => if reached = 0 then file else some "") caught <|
    fileStep faults.write (cut (Nat.repr random)) caught <|
      fileStep faults.close (fun _ => some (Nat.repr random)) caught
        (some (Nat.repr random), caught)

end IOS

def readSecret : Client → Faults → File → String → File × Result
  | .android => androidRead
  | .ios => iosRead

def writeSecret : Client → Faults → File → ℕ → File × Result
  | .android => androidWrite
  | .ios => iosWrite

/-- What one construction leaves on disk and how it ends. A failing existence check reports that
the file is absent. -/
def loadOrGenerateSecret (client : Client) (faults : Faults) (file : File) (random : ℕ) :
    File × Result :=
  match faults.existence, file with
  | .kill _, _ => (file, .killed)
  | .ok, some text => readSecret client faults file text
  | .ok, none | .fail _, _ => writeSecret client faults file random

/-- One construction: what fails in it and what it draws. The numbers of exact width that iOS
draws are not zero. -/
structure Construction (client : Client) where
  faults : Faults
  random : ℕ
  nonzero : client = .ios → random ≠ 0

structure State where
  file : File
  /-- the secrets of the constructions that returned, oldest first -/
  returned : List (Option ℕ)
  deriving Repr, DecidableEq

def State.record (s : State) (outcome : File × Result) : State :=
  match outcome.2 with
  | .returned secret => ⟨outcome.1, s.returned ++ [secret]⟩
  | .thrown | .killed => ⟨outcome.1, s.returned⟩

def step (client : Client) (s : State) (c : Construction client) : Option State :=
  some (s.record (loadOrGenerateSecret client c.faults s.file c.random))

/-- A construction in which nothing fails returns a secret, every construction that has returned so
far had the same one, and it is not the initial zero of iOS. -/
def Durable (client : Client) (s : State) : Prop :=
  ∀ random, (client = .ios → random ≠ 0) → ∃ secret,
    (loadOrGenerateSecret client .none s.file random).2 = .returned (some secret) ∧
    (∀ v ∈ s.returned, v = some secret) ∧ (client = .ios → secret ≠ 0)

def Outcome.Fails : Outcome → Prop
  | .fail _ => True
  | .ok | .kill _ => False

/-- The text got to the disk in full, or in part by a process that was killed. -/
def Outcome.Keeps (text : String) : Outcome → Prop
  | .ok => True
  | .fail reached => text.length ≤ reached
  | .kill reached => 0 < reached

/-- The file is not created at all, or the step that puts the text on disk keeps it. -/
def Faults.Stores (client : Client) (text : String) (faults : Faults) : Prop :=
  faults.create = .kill 0 ∨ faults.create = .ok ∧
    match client with
    | .android => faults.write = .ok ∧ faults.close.Keeps text
    | .ios => faults.write.Keeps text

/-- A stored secret is found and read, and a missing one is stored before it is returned. -/
def Sound (client : Client) (s : State) (c : Construction client) : Prop :=
  match c.faults.existence, s.file with
  | .kill _, _ => True
  | .ok, some _ => ¬ c.faults.read.Fails
  | .fail _, some _ => False
  | _, none => c.faults.Stores client (Nat.repr c.random)

/-- The invariant: the file holds the one secret there is, or there is none yet. -/
def Stored (client : Client) (s : State) : Prop :=
  (s.file = none ∧ s.returned = []) ∨
    ∃ secret, s.file = some (Nat.repr secret) ∧ (∀ v ∈ s.returned, v = some secret) ∧
      (client = .ios → secret ≠ 0)

@[simp] theorem parseLine_repr (n : ℕ) : parseLine (Nat.repr n) = some n := Decimal.parse_repr n

@[simp] theorem parseContents_repr (n : ℕ) : parseContents (Nat.repr n) = some n := by
  have nonempty : Nat.repr n ≠ "" := by
    intro empty
    have length := congrArg String.toList empty
    rw [Nat.toList_repr] at length
    exact Nat.toDigits_ne_nil length
  simp [parseContents, nonempty]

theorem Stored.durable {client : Client} {s : State} (h : Stored client s) : Durable client s := by
  intro random nonzero
  cases h with
  | inl fresh =>
      refine ⟨random, ?_, by simp [fresh.2], nonzero⟩
      cases client <;> simp [loadOrGenerateSecret, Faults.none, fresh.1, writeSecret, androidWrite,
        iosWrite, fileStep]
  | inr kept =>
      obtain ⟨secret, file, same, notZero⟩ := kept
      refine ⟨secret, ?_, same, notZero⟩
      cases client <;> simp [loadOrGenerateSecret, Faults.none, file, readSecret, androidRead, iosRead,
        fileStep]

/-- Without faults the file steps come to what `KeyExchanger.loadOrGenerateSecret` says. -/
theorem loadOrGenerateSecret_reliable (client : Client) (files : SecretFiles) (id : String)
    (random : ℕ) :
    let slot := KeyExchanger.secretFile client id
    let loaded := KeyExchanger.loadOrGenerateSecret client files id random
    loadOrGenerateSecret client .none ((files slot).map Nat.repr) random =
      ((loaded.2 slot).map Nat.repr, .returned (some loaded.1)) := by
  intro slot loaded
  have stored : loaded.2 slot = some loaded.1 :=
    KeyExchanger.loadOrGenerateSecret_stored client files id random
  rw [stored]
  cases present : files slot with
  | none =>
      have drawn : loaded.1 = random := by
        simp only [loaded, KeyExchanger.loadOrGenerateSecret, slot] at present ⊢
        rw [present]
      cases client <;> simp [loadOrGenerateSecret, Faults.none, writeSecret, androidWrite, iosWrite,
        fileStep, drawn]
  | some secret =>
      have kept : loaded.1 = secret :=
        congrArg Prod.fst (KeyExchanger.loadOrGenerateSecret_of_stored present random)
      cases client <;> simp [loadOrGenerateSecret, Faults.none, readSecret, androidRead, iosRead,
        fileStep, kept]

theorem cut_of_length_le {text : String} {reached : ℕ} (h : text.length ≤ reached) :
    cut text reached = some text := by
  have whole : text.toList.length ≤ reached := by
    rw [String.length_toList]
    exact h
  rw [cut, List.take_of_length_le whole, String.ofList_toList]

/-- How a construction ends that leaves this secret on disk and returns no other. -/
def LeavesSecret (secret : ℕ) (outcome : File × Result) : Prop :=
  outcome.1 = some (Nat.repr secret) ∧
    (outcome.2 = .returned (some secret) ∨ outcome.2 = .killed)

theorem Stored.record {client : Client} {s : State} {secret : ℕ} {outcome : File × Result}
    (leaves : LeavesSecret secret outcome) (same : ∀ v ∈ s.returned, v = some secret)
    (nonzero : client = .ios → secret ≠ 0) : Stored client (s.record outcome) := by
  obtain ⟨file, result⟩ := outcome
  obtain ⟨stored, ended⟩ := leaves
  cases ended with
  | inl returned =>
      simp only at stored returned
      refine .inr ⟨secret, ?_, ?_, nonzero⟩
      · simpa [State.record, returned] using stored
      · intro v mem
        simp only [State.record, returned, List.mem_append, List.mem_singleton] at mem
        cases mem with
        | inl old => exact same v old
        | inr new => exact new
  | inr killed =>
      simp only at stored killed
      refine .inr ⟨secret, ?_, ?_, nonzero⟩
      · simpa [State.record, killed] using stored
      · simpa [State.record, killed] using same

/-- The step that puts the text on disk leaves a secret if it keeps the text. -/
theorem fileStep_keeps {outcome : Outcome} {random : ℕ} {rest : File × Result}
    (keeps : outcome.Keeps (Nat.repr random)) (after : LeavesSecret random rest) :
    ∃ secret, (random ≠ 0 → secret ≠ 0) ∧ LeavesSecret secret
      (fileStep outcome (cut (Nat.repr random)) (.returned (some random)) rest) := by
  cases outcome with
  | ok => exact ⟨random, id, after⟩
  | fail reached => exact ⟨random, id, cut_of_length_le keeps, .inl rfl⟩
  | kill reached =>
      obtain ⟨secret, part, notZero⟩ := Decimal.take_repr random keeps
      exact ⟨secret, notZero, congrArg some part, .inr rfl⟩

/-- A construction that finds no file and stores is killed before there is one, or leaves a
secret. -/
theorem writeSecret_stores {client : Client} {faults : Faults} {random : ℕ}
    (stores : faults.Stores client (Nat.repr random)) :
    writeSecret client faults none random = (none, .killed) ∨
      ∃ secret, (random ≠ 0 → secret ≠ 0) ∧
        LeavesSecret secret (writeSecret client faults none random) := by
  cases stores with
  | inl never =>
      left
      cases client <;> simp [writeSecret, androidWrite, iosWrite, fileStep, never]
  | inr stores =>
      right
      obtain ⟨created, stores⟩ := stores
      cases client with
      | android =>
          obtain ⟨opened, keeps⟩ := stores
          simp only [writeSecret, androidWrite, created, opened]
          exact fileStep_keeps keeps ⟨rfl, .inl rfl⟩
      | ios =>
          simp only [writeSecret, iosWrite, created]
          apply fileStep_keeps stores
          cases faults.close with
          | ok | fail => exact ⟨rfl, .inl rfl⟩
          | kill => exact ⟨rfl, .inr rfl⟩

/-- A construction that finds its file and does not fail to read it leaves it as it is. -/
theorem readSecret_leaves (client : Client) {faults : Faults} (secret : ℕ)
    (read : ¬ faults.read.Fails) : LeavesSecret secret
      (readSecret client faults (some (Nat.repr secret)) (Nat.repr secret)) := by
  cases outcome : faults.read with
  | fail => exact absurd (by simp [outcome, Outcome.Fails]) read
  | kill => cases client <;> simp [LeavesSecret, readSecret, androidRead, iosRead, fileStep, outcome]
  | ok =>
      cases client with
      | ios => simp [LeavesSecret, readSecret, iosRead, fileStep, outcome]
      | android =>
          cases close : faults.close <;>
            simp [LeavesSecret, readSecret, androidRead, fileStep, outcome, close]

theorem stored_step {client : Client} {s s' : State} {c : Construction client}
    (inv : Stored client s) (sound : Sound client s c) (h : step client s c = some s') :
    Stored client s' := by
  cases h
  have killed : (loadOrGenerateSecret client c.faults s.file c.random) = (s.file, .killed) →
      Stored client (s.record (loadOrGenerateSecret client c.faults s.file c.random)) := by
    intro same
    rw [same]
    exact inv
  unfold Sound at sound
  cases inv with
  | inl fresh =>
      simp only [fresh.1] at sound killed ⊢
      cases existence : c.faults.existence with
      | kill => exact killed (by simp [loadOrGenerateSecret, existence])
      | ok | fail =>
          simp only [existence] at sound
          simp only [loadOrGenerateSecret, existence] at killed ⊢
          cases writeSecret_stores sound with
          | inl never => exact killed never
          | inr stored =>
              obtain ⟨secret, notZero, leaves⟩ := stored
              exact Stored.record leaves (by simp [fresh.2]) fun ios => notZero (c.nonzero ios)
  | inr kept =>
      obtain ⟨secret, file, same, notZero⟩ := kept
      cases existence : c.faults.existence with
      | kill => exact killed (by simp [loadOrGenerateSecret, existence])
      | fail => simp [existence, file] at sound
      | ok =>
          simp only [existence, file] at sound
          simp only [file, loadOrGenerateSecret, existence]
          exact Stored.record (readSecret_leaves client secret sound) same notZero

/-- With sound constructions the secret of an id is durable. -/
theorem secret_is_durable (client : Client) (cs : List (Construction client))
    (sound : Meets (step client) (Sound client) ⟨none, []⟩ cs) :
    Always (step client) (Durable client) ⟨none, []⟩ cs :=
  always_of_meets (fun _ _ _ => stored_step) (fun _ => Stored.durable) (.inl ⟨rfl, rfl⟩) sound

theorem secret_is_durable_on_android :
    Always (step .android) (Durable .android) ⟨none, []⟩
      [⟨⟨.ok, .ok, .ok, .kill 1, .ok⟩, 15, nofun⟩, ⟨.none, 7, nofun⟩] := by
  apply secret_is_durable .android
  intro s taken
  refine ⟨.inr ⟨rfl, rfl, Nat.one_pos⟩, ?_⟩
  cases taken
  intro s taken
  exact ⟨id, trivial⟩

/-- The disk is full when the writer is closed: the secret is returned, the file stays empty, and
every later construction throws on it. -/
theorem failed_write_is_fatal : ¬ ∀ (client : Client) (cs : List (Construction client)),
    Always (step client) (Durable client) ⟨none, []⟩ cs := by
  intro claim
  have durable := always_iff_prefixes.mp
    (claim .android [⟨⟨.ok, .ok, .ok, .fail 0, .ok⟩, 15, nofun⟩]) _ (List.prefix_refl _)
    ⟨some "", [some 15]⟩ (by decide +kernel)
  obtain ⟨secret, returned, _⟩ := durable 7 nofun
  have throws : (loadOrGenerateSecret .android .none (some "") 7).2 = .thrown := by decide
  rw [throws] at returned
  cases returned

end PetClump.SecretFile
