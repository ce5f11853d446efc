import Mathlib.Data.List.Nodup
import PetClump.Library.Runs

/-! # The Android chat screen and its listener

The list on screen is fed from two sides: a tap on the send button appends an
echo of its own, and the snapshot listener appends what it is told about. A
document is told once, in the first event after it became visible.
-/

namespace PetClump.Listener

open Runs

/-- A document of the room's message collection; `time` in milliseconds, as `Date` reads it. -/
structure Document where
  senderId : String
  iv : String
  text : String
  time : ℕ
  deriving Repr, DecidableEq

structure BaseMessage where
  whichSide : ℕ
  message : String
  time : ℕ
  deriving Repr, DecidableEq

def BaseMessage.equals (m c : BaseMessage) : Bool := m.time == c.time

/-- A message on screen, with the place of the document it stands for. -/
structure Shown extends BaseMessage where
  document : ℕ
  deriving Repr, DecidableEq

/-- A document change: the document and its place in the collection. -/
abbrev Change := Document × ℕ

structure Screen where
  documents : List Document
  /-- places of this client's writes that the server has not acknowledged -/
  unacknowledged : List ℕ
  undelivered : List Change
  baseMessageList : List Shown
  deriving Repr, DecidableEq

/-- The screen when the listener is attached. Writes of an earlier visit may still be pending. -/
def opened (existing : List Document) (pending : List ℕ) : Screen :=
  ⟨existing, pending, existing.zipIdx, []⟩

inductive Event where
  /-- the send button; the clock is read for the upload and again for the echo -/
  | send (iv cipher plaintext : String) (uploaded echoed : ℕ)
  /-- a message that this screen did not send -/
  | arrive (d : Document)
  | acknowledge (n : ℕ)
  | event

section Screen

variable (decodeString : String → String → String) (myId : String)

def sender (senderId : String) : ℕ := if senderId = myId then 1 else 2

/-- One change in `onEvent`: the message it makes, unless the list contains an equal one. -/
def unseen (toAppend : List Shown) (x : Change) : Option Shown :=
  let temp : BaseMessage := ⟨sender myId x.1.senderId, decodeString x.1.iv x.1.text, x.1.time⟩
  if toAppend.any (fun m => temp.equals m.toBaseMessage) then none else some ⟨temp, x.2⟩

/-- `onEvent` of `listenToRoom` -/
def onEvent (hasPendingWrites : Bool) (changes : List Change) (toAppend : List Shown) : List Shown :=
  if hasPendingWrites then toAppend
  else toAppend ++ changes.filterMap (unseen decodeString myId toAppend)

def step (s : Screen) : Event → Option Screen
  | .send iv cipher plaintext uploaded echoed =>
      let d : Document := ⟨myId, iv, cipher, uploaded⟩
      let n := s.documents.length
      some ⟨s.documents ++ [d], s.unacknowledged ++ [n], s.undelivered ++ [(d, n)],
        s.baseMessageList ++ [⟨⟨1, plaintext, echoed⟩, n⟩]⟩
  | .arrive d =>
      some { s with
        documents := s.documents ++ [d]
        undelivered := s.undelivered ++ [(d, s.documents.length)] }
  | .acknowledge n =>
      if n ∈ s.unacknowledged then some { s with unacknowledged := s.unacknowledged.erase n } else none
  | .event =>
      some { s with
        undelivered := []
        baseMessageList := onEvent decodeString myId (s.unacknowledged ≠ []) s.undelivered
          s.baseMessageList }

end Screen

namespace Screen

variable (s : Screen)

/-- How often a document is on screen. -/
def times (n : ℕ) : ℕ := s.baseMessageList.countP (·.document = n)

def ShowsEachOnce : Prop := ∀ n < s.documents.length, s.times n = 1

/-- All local writes are acknowledged and all events are delivered. -/
def Complete : Prop := s.unacknowledged = [] ∧ s.undelivered = []

instance : Decidable s.ShowsEachOnce := inferInstanceAs (Decidable (∀ n < _, _))

instance : Decidable s.Complete := inferInstanceAs (Decidable (_ ∧ _))

end Screen

/-- An event tells about exactly the echoed messages while a local write is pending or the list
already holds a message of the same time, and about the others while neither is so. -/
def Timely (s : Screen) : Event → Prop
  | .event => ∀ x ∈ s.undelivered, (∃ m ∈ s.baseMessageList, m.document = x.2) ↔
      s.unacknowledged ≠ [] ∨ ∃ m ∈ s.baseMessageList, m.time = x.1.time
  | _ => True

instance (s : Screen) : ∀ e, Decidable (Timely s e)
  | .event => inferInstanceAs (Decidable (∀ x ∈ s.undelivered,
      (∃ m ∈ s.baseMessageList, m.document = x.2) ↔
        s.unacknowledged ≠ [] ∨ ∃ m ∈ s.baseMessageList, m.time = x.1.time))
  | .send .. | .arrive _ | .acknowledge _ => .isTrue trivial

variable {decodeString : String → String → String} {myId : String} {s s' : Screen}

/-- What every run preserves: a change that is still to be told belongs to a document that is on
screen at most once, as an echo. -/
structure Told (s : Screen) : Prop where
  nodup : (s.undelivered.map Prod.snd).Nodup
  undelivered : ∀ x ∈ s.undelivered, x.2 < s.documents.length ∧ s.times x.2 ≤ 1
  listed : ∀ m ∈ s.baseMessageList, m.document < s.documents.length

/-- Every message that has been told about is on screen once. -/
def ToldOnce (s : Screen) : Prop :=
  ∀ n < s.documents.length, n ∉ s.undelivered.map Prod.snd → s.times n = 1

theorem times_eq_zero {n : ℕ} (absent : ∀ m ∈ s.baseMessageList, m.document ≠ n) : s.times n = 0 := by
  simp only [Screen.times, List.countP_eq_zero, decide_eq_true_eq]
  exact absent

theorem times_next (listed : ∀ m ∈ s.baseMessageList, m.document < s.documents.length) :
    s.times s.documents.length = 0 :=
  times_eq_zero fun m mem same => absurd (listed m mem) (by omega)

theorem told_opened (existing : List Document) (pending : List ℕ) :
    Told (opened existing pending) where
  nodup := by simp [opened, List.nodup_range']
  undelivered x mem := by
    have place := List.snd_lt_of_mem_zipIdx mem
    exact ⟨by simpa [opened] using place, by simp [opened, Screen.times]⟩
  listed := nofun

theorem toldOnce_opened (existing : List Document) (pending : List ℕ) :
    ToldOnce (opened existing pending) := by
  intro n bound untold
  simp [opened, List.mem_range'] at bound untold
  omega

section Event

variable {toAppend : List Shown} {changes : List Change}

theorem unseen_document {x : Change} {m : Shown}
    (h : unseen decodeString myId toAppend x = some m) : m.document = x.2 := by
  simp only [unseen] at h
  split at h
  · cases h
  · cases h
    rfl

theorem unseen_eq_none {x : Change} :
    unseen decodeString myId toAppend x = none ↔ ∃ m ∈ toAppend, m.time = x.1.time := by
  simp [unseen, BaseMessage.equals, @eq_comm ℕ x.1.time]

theorem count_unseen_of_notMem {n : ℕ} (absent : n ∉ changes.map Prod.snd) :
    (changes.filterMap (unseen decodeString myId toAppend)).countP (·.document = n) = 0 := by
  simp only [List.countP_eq_zero, List.mem_filterMap, decide_eq_true_eq]
  rintro m ⟨x, mem, made⟩ same
  exact absent (List.mem_map.mpr ⟨x, mem, (unseen_document made).symm.trans same⟩)

/-- A change adds its message once, or not at all when its time is taken. -/
theorem count_unseen (nodup : (changes.map Prod.snd).Nodup) {x : Change} (mem : x ∈ changes) :
    (changes.filterMap (unseen decodeString myId toAppend)).countP (·.document = x.2) =
      if ∃ m ∈ toAppend, m.time = x.1.time then 0 else 1 := by
  induction changes with
  | nil => cases mem
  | cons y rest ih =>
      simp only [List.map_cons, List.nodup_cons] at nodup
      cases List.mem_cons.mp mem with
      | inl head =>
          subst head
          have tail : (rest.filterMap (unseen decodeString myId toAppend)).countP
              (·.document = x.2) = 0 := count_unseen_of_notMem nodup.1
          cases made : unseen decodeString myId toAppend x with
          | none =>
              rw [List.filterMap_cons_none made, tail, if_pos (unseen_eq_none.mp made)]
          | some m =>
              have fresh : ¬ ∃ m ∈ toAppend, m.time = x.1.time := by
                rw [← unseen_eq_none, made]
                simp
              rw [List.filterMap_cons_some made, List.countP_cons, tail, if_neg fresh]
              simp [unseen_document made]
      | inr tail =>
          have apart : y.2 ≠ x.2 := fun same => nodup.1 (same ▸ List.mem_map_of_mem tail)
          rw [← ih nodup.2 tail]
          cases made : unseen decodeString myId toAppend y with
          | none => rw [List.filterMap_cons_none made]
          | some m =>
              rw [List.filterMap_cons_some made, List.countP_cons]
              simp [unseen_document made, apart]

end Event

/-- The screen after a tap on the send button. -/
def Screen.sent (s : Screen) (d : Document) (echo : BaseMessage) : Screen :=
  ⟨s.documents ++ [d], s.unacknowledged ++ [s.documents.length],
    s.undelivered ++ [(d, s.documents.length)], s.baseMessageList ++ [⟨echo, s.documents.length⟩]⟩

theorem times_sent (d : Document) (echo : BaseMessage) (n : ℕ) :
    (s.sent d echo).times n = s.times n + if s.documents.length = n then 1 else 0 := by
  simp [Screen.times, Screen.sent, List.countP_append, List.countP_singleton]

theorem notMem_of_told (inv : Told s) : s.documents.length ∉ s.undelivered.map Prod.snd := by
  intro mem
  obtain ⟨x, undelivered, place⟩ := List.mem_map.mp mem
  have bound := (inv.undelivered x undelivered).1
  omega

theorem nodup_next (inv : Told s) (d : Document) :
    ((s.undelivered ++ [(d, s.documents.length)]).map Prod.snd).Nodup := by
  rw [List.map_append, List.nodup_append]
  refine ⟨inv.nodup, by simp, ?_⟩
  rintro n old m new rfl
  obtain rfl : n = s.documents.length := by simpa using new
  exact notMem_of_told inv old

theorem told_step {e : Event} (inv : Told s) (h : step decodeString myId s e = some s') : Told s' := by
  cases e with
  | send iv cipher plaintext uploaded echoed =>
      cases h
      change Told (s.sent ⟨myId, iv, cipher, uploaded⟩ ⟨1, plaintext, echoed⟩)
      have next := times_next inv.listed
      refine ⟨nodup_next inv _, ?_, ?_⟩
      · intro x mem
        rw [times_sent]
        simp only [Screen.sent, List.length_append, List.length_singleton] at mem ⊢
        cases List.mem_append.mp mem with
        | inl old =>
            obtain ⟨bound, once⟩ := inv.undelivered x old
            rw [if_neg (by omega)]
            omega
        | inr new =>
            obtain rfl := List.mem_singleton.mp new
            simp [next]
      · intro m mem
        simp only [Screen.sent, List.length_append, List.length_singleton] at mem ⊢
        cases List.mem_append.mp mem with
        | inl old =>
            have bound := inv.listed m old
            omega
        | inr new =>
            obtain rfl := List.mem_singleton.mp new
            exact Nat.lt_succ_self _
  | arrive d =>
      cases h
      refine ⟨nodup_next inv _, ?_, ?_⟩
      · intro x mem
        simp only [List.length_append, List.length_singleton]
        cases List.mem_append.mp mem with
        | inl old =>
            obtain ⟨bound, once⟩ := inv.undelivered x old
            exact ⟨by omega, once⟩
        | inr new =>
            obtain rfl := List.mem_singleton.mp new
            have next := times_next inv.listed
            exact ⟨Nat.lt_succ_self _, Nat.le_trans (Nat.le_of_eq next) (Nat.zero_le 1)⟩
      · intro m mem
        have bound := inv.listed m mem
        simp only [List.length_append, List.length_singleton]
        omega
  | acknowledge n =>
      simp only [step] at h
      split at h
      · cases h
        exact ⟨inv.nodup, inv.undelivered, inv.listed⟩
      · cases h
  | event =>
      cases h
      refine ⟨List.nodup_nil, nofun, ?_⟩
      intro m mem
      simp only [onEvent] at mem
      split at mem
      · exact inv.listed m mem
      · cases List.mem_append.mp mem with
        | inl old => exact inv.listed m old
        | inr new =>
            obtain ⟨x, change, made⟩ := List.mem_filterMap.mp new
            rw [unseen_document made]
            exact (inv.undelivered x change).1

/-- How an event changes the number of times a document is on screen. -/
theorem times_event (n : ℕ) (h : step decodeString myId s .event = some s') :
    s'.times n = s.times n + if s.unacknowledged = [] then
      (s.undelivered.filterMap (unseen decodeString myId s.baseMessageList)).countP
        (·.document = n) else 0 := by
  cases h
  by_cases idle : s.unacknowledged = []
  · simp [Screen.times, onEvent, idle, List.countP_append]
  · simp [Screen.times, onEvent, idle]

theorem echoed_iff {n : ℕ} : (∃ m ∈ s.baseMessageList, m.document = n) ↔ s.times n ≠ 0 := by
  simp [Screen.times, List.countP_eq_zero]

theorem times_told {x : Change} (inv : Told s) (change : x ∈ s.undelivered)
    (h : step decodeString myId s .event = some s') :
    s'.times x.2 = 1 ↔ ((∃ m ∈ s.baseMessageList, m.document = x.2) ↔
      s.unacknowledged ≠ [] ∨ ∃ m ∈ s.baseMessageList, m.time = x.1.time) := by
  have once := (inv.undelivered x change).2
  rw [times_event x.2 h, count_unseen inv.nodup change, echoed_iff]
  by_cases idle : s.unacknowledged = []
  · by_cases taken : ∃ m ∈ s.baseMessageList, m.time = x.1.time
    · simp only [idle, taken, if_true, ne_eq, not_true_eq_false, or_true, iff_true]
      omega
    · simp only [idle, taken, if_true, if_false, ne_eq, not_true_eq_false, or_false, iff_false]
      omega
  · simp only [idle, if_false, ne_eq, not_false_eq_true, true_or, iff_true]
    omega

theorem toldOnce_step {e : Event} (inv : Told s) (h : step decodeString myId s e = some s') :
    ToldOnce s' ↔ ToldOnce s ∧ Timely s e := by
  cases e with
  | send iv cipher plaintext uploaded echoed =>
      cases h
      change ToldOnce (s.sent ⟨myId, iv, cipher, uploaded⟩ ⟨1, plaintext, echoed⟩) ↔ _
      simp only [ToldOnce, times_sent, Timely, and_true]
      simp only [Screen.sent, List.length_append, List.length_singleton, List.map_append,
        List.map_singleton, List.mem_append, List.mem_singleton, not_or]
      constructor
      · intro told n bound old
        have once := told n (by omega) ⟨old, by omega⟩
        rwa [if_neg (by omega), Nat.add_zero] at once
      · intro told n bound old
        rw [if_neg (by omega), Nat.add_zero]
        exact told n (by omega) old.1
  | arrive d =>
      cases h
      simp only [ToldOnce, Timely, and_true, List.length_append, List.length_singleton,
        List.map_append, List.map_singleton, List.mem_append, List.mem_singleton, not_or]
      constructor
      · intro told n bound old
        exact told n (by omega) ⟨old, by omega⟩
      · intro told n bound old
        exact told n (by omega) old.1
  | acknowledge n =>
      simp only [step] at h
      split at h
      · cases h
        simp only [ToldOnce, Timely, and_true]
        exact Iff.rfl
      · cases h
  | event =>
      have documents : s'.documents = s.documents ∧ s'.undelivered = [] := by
        cases h
        exact ⟨rfl, rfl⟩
      simp only [ToldOnce, documents, List.map_nil, List.not_mem_nil, not_false_eq_true,
        forall_const, Timely]
      constructor
      · intro told
        refine ⟨fun n bound old => ?_, fun x change => ?_⟩
        · have once := told n bound
          rwa [times_event n h, count_unseen_of_notMem old, ite_self, Nat.add_zero] at once
        · exact (times_told inv change h).mp (told x.2 (inv.undelivered x change).1)
      · rintro ⟨told, timely⟩ n bound
        by_cases old : n ∈ s.undelivered.map Prod.snd
        · obtain ⟨x, change, rfl⟩ := List.mem_map.mp old
          exact (times_told inv change h).mpr (timely x change)
        · rw [times_event n h, count_unseen_of_notMem old, ite_self, Nat.add_zero]
          exact told n bound old

/-- Once everything is acknowledged and told, the screen shows every message exactly once if and
only if all its events came at the right time. -/
theorem shows_each_once_iff (decodeString : String → String → String) (myId : String)
    (existing : List Document) (pending : List ℕ) (es : List Event) (s : Screen)
    (reached : run (step decodeString myId) (opened existing pending) es = some s)
    (complete : s.Complete) :
    s.ShowsEachOnce ↔ Meets (step decodeString myId) Timely (opened existing pending) es := by
  have last := last_iff_meets (fun _ _ _ => told_step) (fun _ _ _ => toldOnce_step)
    (told_opened existing pending) reached
  have told : ToldOnce s ↔ s.ShowsEachOnce := by
    simp [ToldOnce, Screen.ShowsEachOnce, complete.2]
  rw [← told, last]
  exact and_iff_right (toldOnce_opened existing pending)

theorem shows_each_once_of_echo :
    (⟨[⟨"A0", "[1]", "hi", 100⟩, ⟨"B0", "[2]", "hello", 200⟩], [], [],
      [⟨⟨1, "hi", 101⟩, 0⟩, ⟨⟨2, "hello", 200⟩, 1⟩]⟩ : Screen).ShowsEachOnce :=
  (shows_each_once_iff (fun _ text => text) "A0" [] []
    [.send "[1]" "hi" "hi" 100 101, .event, .acknowledge 0, .arrive ⟨"B0", "[2]", "hello", 200⟩,
      .event] _ (by decide) (by decide)).mpr (by decide)

/-- A friend's message becomes visible while an own write is pending: its event is skipped, and no
later event tells about it again. -/
theorem message_never_shown : ¬ ∀ (decodeString : String → String → String) (myId : String)
    (existing : List Document) (es : List Event) (s : Screen),
      run (step decodeString myId) (opened existing []) es = some s → s.Complete →
        s.ShowsEachOnce := by
  intro claim
  have shown := claim (fun _ text => text) "A0" []
    [.send "[1]" "hi" "hi" 100 101, .event, .arrive ⟨"B0", "[2]", "hello", 200⟩, .event,
      .acknowledge 0, .event]
    ⟨[⟨"A0", "[1]", "hi", 100⟩, ⟨"B0", "[2]", "hello", 200⟩], [], [], [⟨⟨1, "hi", 101⟩, 0⟩]⟩
    (by decide) (by decide)
  exact absurd shown (by decide)

end PetClump.Listener
