import Mathlib.Data.List.Induction
import Mathlib.Data.List.Sort
import Mathlib.Data.Prod.Lex
import Mathlib.Data.String.Basic
import PetClump.Chat.Listener

/-! # The order of the messages on screen

iOS rebuilds its list from the ordered query on every event. Android's query is
ordered too, but only the documents that an event adds are looked at, and they go to
the end of the list.
-/

namespace PetClump.Listener

/-- A document of the message collection; `time` in microseconds, as Firestore keeps it. -/
structure Message where
  id : String
  senderId : String
  iv : String
  text : String
  time : ℕ
  deriving Repr, DecidableEq

/-- A `Date` has milliseconds. -/
def Message.document (m : Message) : Document := ⟨m.senderId, m.iv, m.text, m.time / 1000⟩

/-- The order of `orderBy("time")`; documents of one time come by their names. -/
def Before (a b : Message × ℕ) : Prop := toLex (a.1.time, a.1.id) ≤ toLex (b.1.time, b.1.id)

instance : DecidableRel Before := fun a b =>
  inferInstanceAs (Decidable (toLex (a.1.time, a.1.id) ≤ toLex (b.1.time, b.1.id)))

instance : Std.Total Before := ⟨fun _ _ => le_total _ _⟩

instance : IsTrans (Message × ℕ) Before := ⟨fun _ _ _ => le_trans⟩

/-- `startListen` on iOS: the documents, each with the place at which it arrived -/
def startListen (arrivals : List Message) : List (Message × ℕ) :=
  arrivals.zipIdx.mergeSort (Before · ·)

/-- Android's list after the messages were told one by one, in the order in which they arrived -/
def listened (decodeString : String → String → String) (myId : String) (arrivals : List Message) :
    List Shown :=
  arrivals.zipIdx.foldl
    (fun toAppend x => onEvent decodeString myId false [(x.1.document, x.2)] toAppend) []

/-- Both clients list the same messages one after another. -/
def SameOrder (decodeString : String → String → String) (myId : String) (arrivals : List Message) : Prop :=
  (listened decodeString myId arrivals).map Shown.document = (startListen arrivals).map Prod.snd

section Order

variable (decodeString : String → String → String) (myId : String) {arrivals : List Message}

theorem listened_concat (m : Message) : listened decodeString myId (arrivals ++ [m]) =
    onEvent decodeString myId false [(m.document, arrivals.length)]
      (listened decodeString myId arrivals) := by
  simp [listened, List.zipIdx_append]

/-- A message goes to the end of the list, unless one of the same millisecond is in it. -/
theorem onEvent_single (m : Message) (n : ℕ) (toAppend : List Shown) :
    (∃ shown ∈ toAppend, shown.time = m.time / 1000) ∧
        onEvent decodeString myId false [(m.document, n)] toAppend = toAppend ∨
      (¬ ∃ shown ∈ toAppend, shown.time = m.time / 1000) ∧ ∃ shown : Shown, shown.document = n ∧
        shown.time = m.time / 1000 ∧
        onEvent decodeString myId false [(m.document, n)] toAppend = toAppend ++ [shown] := by
  cases made : unseen decodeString myId toAppend (m.document, n) with
  | none =>
      refine .inl ⟨unseen_eq_none.mp made, ?_⟩
      simp [onEvent, made]
  | some shown =>
      have fresh : ¬ ∃ shown ∈ toAppend, shown.time = m.time / 1000 := fun taken => by
        rw [unseen_eq_none.mpr taken] at made
        cases made
      refine .inr ⟨fresh, shown, unseen_document made, ?_, by simp [onEvent, made]⟩
      simp only [unseen] at made
      split at made
      · cases made
      · cases made
        rfl

/-- The list holds messages in the order in which they came. -/
theorem listened_sublist : ((listened decodeString myId arrivals).map Shown.document).Sublist
    (List.range arrivals.length) := by
  induction arrivals using List.reverseRecOn with
  | nil => exact List.Sublist.slnil
  | append_singleton arrivals m ih =>
      rw [listened_concat, List.length_append, List.length_singleton, List.range_succ]
      obtain ⟨_, same⟩ | ⟨_, shown, place, _, added⟩ := onEvent_single decodeString myId m
        arrivals.length (listened decodeString myId arrivals)
      · rw [same]
        exact ih.trans (List.sublist_append_left _ _)
      · rw [added, List.map_append, List.map_singleton, place]
        exact ih.append (List.Sublist.refl _)

theorem mem_times_listened (t : ℕ) : (∃ shown ∈ listened decodeString myId arrivals, shown.time = t) ↔
    t ∈ arrivals.map fun m => m.time / 1000 := by
  induction arrivals using List.reverseRecOn with
  | nil => simp [listened]
  | append_singleton arrivals m ih =>
      rw [listened_concat, List.map_append, List.mem_append, ← ih, List.map_singleton, List.mem_singleton]
      obtain ⟨taken, same⟩ | ⟨_, shown, _, time, added⟩ := onEvent_single decodeString myId m
        arrivals.length (listened decodeString myId arrivals)
      · rw [same]
        exact ⟨.inl, fun h => h.elim id fun now => now ▸ taken⟩
      · rw [added]
        simp [or_and_right, exists_or, time, @eq_comm ℕ t]

/-- Every message is in the list exactly when no two are of one millisecond. -/
theorem length_listened : (listened decodeString myId arrivals).length = arrivals.length ↔
    (arrivals.map fun m => m.time / 1000).Nodup := by
  induction arrivals using List.reverseRecOn with
  | nil => simp [listened]
  | append_singleton arrivals m ih =>
      have most : (listened decodeString myId arrivals).length ≤ arrivals.length := by
        simpa using (listened_sublist decodeString myId).length_le
      rw [listened_concat, List.map_append, List.map_singleton, List.nodup_append_comm,
        List.singleton_append, List.nodup_cons, ← ih, ← mem_times_listened decodeString myId]
      obtain ⟨taken, same⟩ | ⟨fresh, _, _, _, added⟩ := onEvent_single decodeString myId m
        arrivals.length (listened decodeString myId arrivals)
      · rw [same, List.length_append, List.length_singleton]
        exact iff_of_false (by omega) fun h => h.1 taken
      · rw [added]
        simp only [List.length_append, List.length_singleton]
        exact ⟨fun h => ⟨fresh, by omega⟩, fun h => by omega⟩

theorem mem_startListen {x : Message × ℕ} (mem : x ∈ startListen arrivals) :
    arrivals[x.2]? = some x.1 :=
  List.mem_zipIdx_iff_getElem?.mp (List.mem_mergeSort.mp mem)

theorem length_startListen : (startListen arrivals).length = arrivals.length := by
  simp [startListen]

/-- iOS lists the messages as they came exactly when they came in the order of the query. -/
theorem startListen_places : (startListen arrivals).map Prod.snd = List.range arrivals.length ↔
    arrivals.zipIdx.Pairwise Before := by
  constructor
  · intro places
    have sorted : (startListen arrivals).Pairwise Before := List.pairwise_mergeSort' Before _
    have same : startListen arrivals = arrivals.zipIdx := by
      refine List.ext_getElem (by simp [length_startListen]) fun i here _ => ?_
      have place : (startListen arrivals)[i].2 = i := by
        have each := congrArg (fun l => l[i]?) places
        rw [length_startListen] at here
        simpa [here, length_startListen] using each
      have message := mem_startListen (List.getElem_mem here)
      rw [place, List.getElem?_eq_getElem (length_startListen ▸ here), Option.some_inj] at message
      rw [List.getElem_zipIdx, message]
      exact Prod.ext rfl (by simpa using place)
    rwa [same] at sorted
  · intro sorted
    have same : startListen arrivals = arrivals.zipIdx :=
      List.mergeSort_of_pairwise (by simpa using sorted)
    rw [same, List.zipIdx_map_snd, List.range_eq_range']

theorem pairwise_zipIdx : arrivals.zipIdx.Pairwise Before ↔
    arrivals.Pairwise fun a b => toLex (a.time, a.id) ≤ toLex (b.time, b.id) := by
  have unzipped : arrivals.zipIdx.map Prod.fst = arrivals := List.zipIdx_map_fst 0 arrivals
  nth_rewrite 2 [← unzipped]
  rw [List.pairwise_map]
  rfl

theorem sameOrder_of_pairwise (increasing : arrivals.Pairwise fun a b => a.time / 1000 < b.time / 1000) :
    SameOrder decodeString myId arrivals := by
  have apart : (arrivals.map fun m => m.time / 1000).Nodup :=
    List.pairwise_map.mpr (increasing.imp Nat.ne_of_lt)
  have inOrder : arrivals.Pairwise fun a b => toLex (a.time, a.id) ≤ toLex (b.time, b.id) :=
    increasing.imp fun {a b} less => Prod.Lex.toLex_le_toLex.mpr (.inl (lt_of_not_ge fun ge =>
      absurd (Nat.div_le_div_right (c := 1000) ge) (Nat.not_le.mpr less)))
  have all := @listened_sublist decodeString myId arrivals
  rw [SameOrder, startListen_places.mpr (pairwise_zipIdx.mpr inOrder)]
  exact all.eq_of_length (by simpa using (length_listened decodeString myId).mpr apart)

theorem pairwise_of_sameOrder (same : SameOrder decodeString myId arrivals) :
    arrivals.Pairwise fun a b => a.time / 1000 < b.time / 1000 := by
  have length : (listened decodeString myId arrivals).length = arrivals.length := by
    simpa [length_startListen] using congrArg List.length same
  have all : (listened decodeString myId arrivals).map Shown.document = List.range arrivals.length :=
    (listened_sublist decodeString myId).eq_of_length (by simpa using length)
  have inOrder := pairwise_zipIdx.mp (startListen_places.mp (same.symm.trans all))
  have apart := List.pairwise_map.mp ((length_listened decodeString myId).mp length)
  refine (inOrder.and apart).imp fun {a b} ⟨before, different⟩ => Nat.lt_of_le_of_ne ?_ different
  obtain less | ⟨equal, _⟩ := Prod.Lex.toLex_le_toLex.mp before
  · exact Nat.div_le_div_right (Nat.le_of_lt less)
  · exact Nat.div_le_div_right (Nat.le_of_eq equal)

/-- The clients agree exactly when the messages came in the order of their times, no
two of them of one millisecond. -/
theorem sameOrder_iff (decodeString : String → String → String) (myId : String)
    (arrivals : List Message) : SameOrder decodeString myId arrivals ↔
      arrivals.Pairwise fun a b => a.time / 1000 < b.time / 1000 :=
  ⟨pairwise_of_sameOrder decodeString myId, sameOrder_of_pairwise decodeString myId⟩

/-- A message from a slow clock comes after one with a later time. -/
theorem not_sameOrder_slow_clock :
    ([⟨"m1", "a1", "", "hi", 200000⟩, ⟨"m2", "b1", "", "hello", 100000⟩].map Message.time).Nodup ∧
      ¬ SameOrder (fun _ text => text) "a1"
        [⟨"m1", "a1", "", "hi", 200000⟩, ⟨"m2", "b1", "", "hello", 100000⟩] :=
  ⟨by decide, fun same => absurd (pairwise_of_sameOrder _ _ same) (by decide)⟩

end Order

end PetClump.Listener
