import PetClump.Friending.Agreement

/-! # When a friend can open the chat room

The readers of a chat room look up both public numbers as soon as a record says
that the pets are friends. Records and room are written separately, so this is
about the order in which the writes land.
-/

namespace PetClump

open Runs

variable {pair : Pair} {s s' : State}

/-- A record that reads `friending` promises a room whose readers succeed on both sides. -/
def FriendingIsReady (pair : Pair) (s : State) : Prop :=
  ∀ x, s.docs.record x = some .friending → ∃ data, s.docs.room = some data ∧
    (∀ y, (data.number (pair.id y)).isSome) ∧
    ∀ y random, (roomKey (pair.client y) (s.files (pair.device y)) (pair.id y) (pair.id y.other) data
      random).isSome

/-- Nobody is still waited for: no entry is the placeholder of a request. -/
def Joined (pair : Pair) (data : Data) : Prop := ∀ x, data (pair.id x) ≠ some "?"

/-- A status `friending` lands over a joined room, and nothing replaces a joined room by an
unjoined one, or deletes it, under a record that reads `friending`. -/
def Write.Orderly (pair : Pair) (docs : Documents) : Write → Prop
  | .setRecord _ .friending => ∃ data, docs.room = some data ∧ Joined pair data
  | .setRoom data => (∀ x, docs.record x ≠ some .friending) ∨ Joined pair data
  | .deleteRoom => ∀ x, docs.record x ≠ some .friending
  | _ => True

/-- The order of landings that keeps the readers safe. -/
def Orderly (pair : Pair) (s : State) : Event → Prop
  | .land x => ∀ i ∈ (s.queue x).head?, i.write.Orderly pair s.docs
  | _ => True

/-- The property as the stored documents show it. -/
def Documents.Ready (pair : Pair) (docs : Documents) : Prop :=
  ∀ x, docs.record x = some .friending → ∃ data, docs.room = some data ∧ Joined pair data

theorem Fair.joined_iff {files : ℕ → SecretFiles} {data : Data} {primes : PublicPrimes}
    (h : Fair pair files data primes) :
    Joined pair data ↔ ∀ x, (data.number (pair.id x)).isSome := by
  constructor
  · intro joined x
    cases h.entry x with
    | inl unset => exact absurd unset (joined x)
    | inr made =>
        obtain ⟨secret, _, entry⟩ := made
        simp [Data.number, entry]
  · intro numbers x unset
    obtain ⟨secret, _, entry⟩ := h.secrets x (numbers x)
    have notNumeral : Decimal.parse "?" = none := by decide
    simp [Data.number, unset, notNumeral] at entry

/-- The readers trap on a missing or malformed number and on nothing else. -/
theorem roomKey_isSome {client : Client} {files : SecretFiles} {myId friendId : String} {data : Data}
    (random : ℕ) (mine : (data.number myId).isSome) (theirs : (data.number friendId).isSome)
    (prime : (data.number "bigPrime").isSome) (root : (data.number "priPrime").isSome) :
    (roomKey client files myId friendId data random).isSome := by
  obtain ⟨m, mine⟩ := Option.isSome_iff_exists.mp mine
  obtain ⟨f, theirs⟩ := Option.isSome_iff_exists.mp theirs
  obtain ⟨p, prime⟩ := Option.isSome_iff_exists.mp prime
  obtain ⟨g, root⟩ := Option.isSome_iff_exists.mp root
  cases client with
  | ios => simp [roomKey, openRoom, theirs, KeyExchanger.ofData, prime, root]
  | android => simp [roomKey, openRoom, mine, theirs, prime, root]

/-- For fair versions the property is one about the stored documents alone. -/
theorem friendingIsReady_iff (inv : AllFair pair s) :
    FriendingIsReady pair s ↔ s.docs.Ready pair := by
  constructor
  · intro ready x friending
    obtain ⟨data, room, numbers, _⟩ := ready x friending
    obtain ⟨primes, fair⟩ := inv data (.stored room)
    exact ⟨data, room, fair.joined_iff.mpr numbers⟩
  · intro joined x friending
    obtain ⟨data, room, joined⟩ := joined x friending
    obtain ⟨primes, fair⟩ := inv data (.stored room)
    have numbers := fair.joined_iff.mp joined
    refine ⟨data, room, numbers, fun y random => ?_⟩
    apply roomKey_isSome random (numbers y) (numbers y.other)
    · simp [Data.number, fair.bigPrime]
    · simp [Data.number, fair.priPrime]

theorem ready_setRecord {docs : Documents} (ready : docs.Ready pair) (owner : Side)
    (pending : Status) : (docs.apply (.setRecord owner pending)).Ready pair ↔
      (Write.setRecord owner pending).Orderly pair docs := by
  cases pending with
  | friending =>
      constructor
      · intro h
        exact h owner (by simp [Documents.apply])
      · intro joined x _
        exact joined
  | sending | receiving | blocking =>
      refine ⟨fun _ => trivial, fun _ x friending => ready x ?_⟩
      by_cases own : x = owner
      · simp [Documents.apply, own] at friending
      · simpa [Documents.apply, own] using friending

theorem ready_deleteRecord {docs : Documents} (ready : docs.Ready pair) (owner : Side) :
    (docs.apply (.deleteRecord owner)).Ready pair := by
  intro x friending
  by_cases own : x = owner
  · simp [Documents.apply, own] at friending
  · exact ready x (by simpa [Documents.apply, own] using friending)

/-- What one landing write does to the property. -/
theorem ready_apply {docs : Documents} (ready : docs.Ready pair) (write : Write) :
    (docs.apply write).Ready pair ↔ write.Orderly pair docs := by
  cases write with
  | setRecord owner pending => exact ready_setRecord ready owner pending
  | deleteRecord owner => exact ⟨fun _ => trivial, fun _ => ready_deleteRecord ready owner⟩
  | setRoom data =>
      constructor
      · intro h
        by_cases friends : ∃ x, docs.record x = some .friending
        · obtain ⟨x, friending⟩ := friends
          obtain ⟨new, room, joined⟩ := h x friending
          cases room
          exact .inr joined
        · exact .inl (not_exists.mp friends)
      · intro orderly x friending
        cases orderly with
        | inl none => exact absurd friending (none x)
        | inr joined => exact ⟨data, rfl, joined⟩
  | deleteRoom =>
      constructor
      · intro h x friending
        obtain ⟨new, room, _⟩ := h x friending
        cases room
      · intro none x friending
        exact absurd friending (none x)

theorem ready_step {e : Event} (ready : s.docs.Ready pair) (h : step pair s e = some s') :
    s'.docs.Ready pair ↔ Orderly pair s e := by
  cases step_docs h with
  | inl still =>
      obtain ⟨notLand, same⟩ := still
      rw [same]
      refine ⟨fun _ => ?_, fun _ => ready⟩
      cases e with
      | land x => exact absurd rfl (notLand x)
      | add | accept | reject | fetch | resume | observe => trivial
  | inr landed =>
      obtain ⟨x, i, rest, rfl, queued, after⟩ := landed
      rw [after, ready_apply ready]
      simp [Orderly, queued]

/-- A run shows a usable room to every friend exactly when its writes land in order. -/
theorem friending_ready_iff_orderly (pair : Pair) (files : ℕ → SecretFiles) (es : List Event) :
    Always (step pair) (FriendingIsReady pair) (State.initial files) es ↔
      Meets (step pair) (Orderly pair) (State.initial files) es := by
  refine always_iff_meets (fun _ _ _ => allFair_step) ?_ (allFair_initial files) ?_
  · intro s e s' inv ready taken
    rw [friendingIsReady_iff (allFair_step inv taken)]
    exact ready_step ((friendingIsReady_iff inv).mp ready) taken
  · intro x friending
    cases friending

/-- A request is stored, the friend accepts, and the acceptance marks the records before it has
even read the room. -/
theorem friending_before_room : ¬ ∀ (pair : Pair) (files : ℕ → SecretFiles) (es : List Event),
    Always (step pair) (FriendingIsReady pair) (State.initial files) es := by
  intro claim
  let pair := Pair.ofClients .ios .ios
  let es : List Event :=
    [.add .a ⟨23, 5, by decide⟩ 6, .land .a, .land .a, .land .a, .observe .b, .accept .b, .land .b]
  have trap : (run (step pair) (State.initial fun _ _ => none) es).any (fun s =>
      s.docs.record .b == some .friending && s.docs.room.any fun data =>
        (data.number (pair.id .b)).isNone) = true := by
    decide +kernel
  obtain ⟨s, reached, bad⟩ := (Option.any_eq_true _ _).mp trap
  obtain ⟨friending, room⟩ := Bool.and_eq_true_iff.mp bad
  obtain ⟨data, stored, missing⟩ := (Option.any_eq_true _ _).mp room
  have ready := always_iff_prefixes.mp (claim pair (fun _ _ => none) es) es (List.prefix_refl _) s
    reached
  obtain ⟨data', stored', numbers, _⟩ := ready .b (by simpa using friending)
  have same : data = data' := Option.some.inj (stored.symm.trans stored')
  subst same
  have present := numbers .b
  rw [Option.isNone_iff_eq_none.mp missing] at present
  cases present

end PetClump
