import Mathlib.Order.Nat

/-! # One stored value written back from copies

A client holds copies of a stored value, changes them and writes them back
whole. Its writes are queued and land or fail in order; a read sees the queue.
Some writes are commits, whose value later ones have to extend. They do as long
as no write comes from a copy that was read before the latest commits were made.
-/

namespace Copies

structure Commit (δ : Type*) where
  id : ℕ
  value : δ

inductive Write (δ : Type*) where
  /-- a commit carries its number -/
  | set (value : δ) (commit : Option ℕ)
  | delete

namespace Write

variable {δ : Type*}

def result : Write δ → Option δ
  | set value _ => some value
  | delete => none

def commit? : Write δ → Option (Commit δ)
  | set value (some id) => some ⟨id, value⟩
  | set _ none | delete => none

end Write

structure Register (δ : Type*) where
  stored : Option δ
  queue : List (Write δ)
  /-- how many commits have been made -/
  issued : ℕ
  /-- the commits that have landed since the value was last deleted -/
  kept : List (Commit δ)

namespace Register

variable {δ : Type*} (r : Register δ)

/-- What a read gives: the value as it will be when all writes have landed. -/
def view : Option δ :=
  match r.queue.getLast? with
  | some w => w.result
  | none => r.stored

/-- The commits that have landed or may still land. -/
def live : List (Commit δ) := r.kept ++ r.queue.filterMap Write.commit?

def put (value : δ) : Register δ := { r with queue := r.queue ++ [.set value none] }

def commit (value : δ) : Register δ :=
  { r with queue := r.queue ++ [.set value (some (r.issued + 1))], issued := r.issued + 1 }

def delete : Register δ := { r with queue := r.queue ++ [.delete] }

def keptAfter : Write δ → List (Commit δ)
  | .set value commit => r.kept ++ (Write.set value commit).commit?.toList
  | .delete => []

def land : Option (Register δ) :=
  match r.queue with
  | [] => none
  | w :: rest => some { r with stored := w.result, queue := rest, kept := r.keptAfter w }

def fail : Option (Register δ) :=
  match r.queue with
  | [] => none
  | _ :: rest => some { r with queue := rest }

variable {r} {r' : Register δ}

@[simp] theorem issued_put (value : δ) : (r.put value).issued = r.issued := rfl

@[simp] theorem issued_delete : r.delete.issued = r.issued := rfl

@[simp] theorem live_put (value : δ) : (r.put value).live = r.live := by
  simp [live, put, Write.commit?]

@[simp] theorem live_delete : r.delete.live = r.live := by
  simp [live, delete, Write.commit?]

@[simp] theorem live_commit (value : δ) :
    (r.commit value).live = r.live ++ [⟨r.issued + 1, value⟩] := by
  simp [live, commit, Write.commit?]

theorem land_eq_some : r.land = some r' ↔ ∃ w rest, r.queue = w :: rest ∧
    r' = { r with stored := w.result, queue := rest, kept := r.keptAfter w } := by
  rw [land]
  cases r.queue with
  | nil => simp
  | cons w rest =>
      constructor
      · rintro ⟨⟩
        exact ⟨w, rest, rfl, rfl⟩
      · rintro ⟨_, _, ⟨⟩, rfl⟩
        rfl

theorem fail_eq_some : r.fail = some r' ↔ ∃ w rest, r.queue = w :: rest ∧
    r' = { r with queue := rest } := by
  rw [fail]
  cases r.queue with
  | nil => simp
  | cons w rest =>
      constructor
      · rintro ⟨⟩
        exact ⟨w, rest, rfl, rfl⟩
      · rintro ⟨_, _, ⟨⟩, rfl⟩
        rfl

theorem keptAfter_subset {w : Write δ} {rest : List (Write δ)} (first : r.queue = w :: rest) :
    ∀ c ∈ r.keptAfter w, c ∈ r.live := by
  intro c mem
  cases w with
  | delete => cases mem
  | set value commit =>
      rw [live, first]
      cases commit with
      | none => simp_all [keptAfter, Write.commit?]
      | some id =>
          simp only [keptAfter, Write.commit?, Option.toList_some, List.mem_append,
            List.mem_singleton] at mem
          cases mem with
          | inl kept => exact List.mem_append_left _ kept
          | inr new => simp [new, Write.commit?]

theorem live_land (landed : r.land = some r') : ∀ c ∈ r'.live, c ∈ r.live := by
  obtain ⟨w, rest, first, rfl⟩ := land_eq_some.mp landed
  intro c mem
  cases List.mem_append.mp mem with
  | inl kept => exact keptAfter_subset first c kept
  | inr queued =>
      obtain ⟨w', inside, commit⟩ := List.mem_filterMap.mp queued
      exact List.mem_append_right _ (List.mem_filterMap.mpr ⟨w', by simp_all, commit⟩)

theorem live_fail (failed : r.fail = some r') : ∀ c ∈ r'.live, c ∈ r.live := by
  obtain ⟨w, rest, first, rfl⟩ := fail_eq_some.mp failed
  intro c mem
  cases List.mem_append.mp mem with
  | inl kept => exact List.mem_append_left _ kept
  | inr queued =>
      obtain ⟨w', inside, commit⟩ := List.mem_filterMap.mp queued
      exact List.mem_append_right _ (List.mem_filterMap.mpr ⟨w', by simp_all, commit⟩)

end Register

section Order

variable {δ : Type*} (le : δ → δ → Prop)

/-- What is stored, and every value that may come to be stored, extends the commits before it. -/
structure Sound (r : Register δ) : Prop where
  stored : ∀ c ∈ r.kept, ∃ v, r.stored = some v ∧ le c.value v
  queued : ∀ c ∈ r.kept, ∀ w ∈ r.queue, ∀ v, w.result = some v → le c.value v
  ordered : r.queue.Pairwise fun w w' =>
    ∀ c, w.commit? = some c → ∀ v, w'.result = some v → le c.value v
  numbered : ∀ c ∈ r.live, 0 < c.id ∧ c.id ≤ r.issued

/-- A copy that was read when `readAt` commits had been made. -/
structure Covers (r : Register δ) (readAt : ℕ) (copy : δ) : Prop where
  past : readAt ≤ r.issued
  above : ∀ c ∈ r.live, c.id ≤ readAt → le c.value copy

/-- No commit that landed or may still land was made after the copy was read. -/
def Fresh (r : Register δ) (readAt : ℕ) : Prop := ∀ c ∈ r.live, c.id ≤ readAt

instance (r : Register δ) (readAt : ℕ) : Decidable (Fresh r readAt) :=
  inferInstanceAs (Decidable (∀ c ∈ r.live, c.id ≤ readAt))

variable {le} {r r' : Register δ} {readAt : ℕ} {copy value : δ}

theorem sound_start (stored : Option δ) : Sound le ⟨stored, [], 0, []⟩ where
  stored := by simp
  queued := by simp
  ordered := .nil
  numbered := by simp [Register.live]

theorem Covers.mono (h : Covers le r readAt copy) (issued : r.issued ≤ r'.issued)
    (live : ∀ c ∈ r'.live, c ∈ r.live ∨ r.issued < c.id) : Covers le r' readAt copy where
  past := h.past.trans issued
  above c mem known := by
    cases live c mem with
    | inl old => exact h.above c old known
    | inr new =>
        have past := h.past
        omega

theorem Covers.put (h : Covers le r readAt copy) (value : δ) : Covers le (r.put value) readAt copy :=
  h.mono le_rfl fun c mem => .inl (by simpa using mem)

theorem Covers.delete (h : Covers le r readAt copy) : Covers le r.delete readAt copy :=
  h.mono le_rfl fun c mem => .inl (by simpa using mem)

theorem Covers.commit (h : Covers le r readAt copy) (value : δ) :
    Covers le (r.commit value) readAt copy := by
  refine h.mono (Nat.le_succ _) fun c mem => ?_
  rw [Register.live_commit, List.mem_append, List.mem_singleton] at mem
  cases mem with
  | inl old => exact .inl old
  | inr new => exact .inr (new ▸ Nat.lt_succ_self _)

theorem Covers.land (h : Covers le r readAt copy) (landed : r.land = some r') :
    Covers le r' readAt copy := by
  have same : r'.issued = r.issued := by
    obtain ⟨w, rest, first, rfl⟩ := Register.land_eq_some.mp landed
    rfl
  exact h.mono same.ge fun c mem => .inl (Register.live_land landed c mem)

theorem Covers.fail (h : Covers le r readAt copy) (failed : r.fail = some r') :
    Covers le r' readAt copy := by
  have same : r'.issued = r.issued := by
    obtain ⟨w, rest, first, rfl⟩ := Register.fail_eq_some.mp failed
    rfl
  exact h.mono same.ge fun c mem => .inl (Register.live_fail failed c mem)

/-- A copy that nobody read covers the commits made before the first, which are none. -/
theorem Sound.covers_zero (sound : Sound le r) (copy : δ) : Covers le r 0 copy where
  past := Nat.zero_le _
  above c mem known := by
    have positive := (sound.numbered c mem).1
    omega

theorem Covers.extend (trans : ∀ a b c, le a b → le b c → le a c) (h : Covers le r readAt copy)
    (more : le copy value) : Covers le r readAt value where
  past := h.past
  above c mem known := trans _ _ _ (h.above c mem known) more

theorem Covers.of_fresh (h : Covers le r readAt copy) (fresh : Fresh r readAt) :
    ∀ c ∈ r.live, le c.value copy :=
  fun c mem => h.above c mem (fresh c mem)

/-- What a read gives extends all commits made so far. -/
theorem Sound.covers_view (refl : ∀ a, le a a) (sound : Sound le r) (read : r.view = some value) :
    Covers le r r.issued value where
  past := le_rfl
  above c mem _ := by
    rw [Register.view] at read
    cases List.eq_nil_or_concat r.queue with
    | inl empty =>
        rw [empty, List.getLast?_nil] at read
        have kept : c ∈ r.kept := by simpa [Register.live, empty] using mem
        obtain ⟨v, stored, above⟩ := sound.stored c kept
        obtain rfl := Option.some.inj (stored.symm.trans read)
        exact above
    | inr split =>
        obtain ⟨before, last, queue⟩ := split
        rw [List.concat_eq_append] at queue
        rw [queue, List.getLast?_concat] at read
        cases List.mem_append.mp mem with
        | inl kept => exact sound.queued c kept last (by simp [queue]) value read
        | inr queued =>
            obtain ⟨w, inside, commit⟩ := List.mem_filterMap.mp queued
            have ordered := sound.ordered
            rw [queue, List.pairwise_append] at ordered
            rw [queue, List.mem_append, List.mem_singleton] at inside
            cases inside with
            | inl earlier =>
                exact ordered.2.2 w earlier last (List.mem_singleton_self last) c commit value read
            | inr same =>
                subst same
                cases w with
                | delete => cases commit
                | set v id =>
                    cases id with
                    | none => cases commit
                    | some id =>
                        cases commit
                        cases read
                        exact refl _

/-- A write whose value extends all live commits may be queued. -/
theorem Sound.append (sound : Sound le r) (w : Write δ)
    (above : ∀ v, w.result = some v → ∀ c ∈ r.live, le c.value v) :
    (∀ c ∈ r.kept, ∀ w' ∈ r.queue ++ [w], ∀ v, w'.result = some v → le c.value v) ∧
      (r.queue ++ [w]).Pairwise fun w w' =>
        ∀ c, w.commit? = some c → ∀ v, w'.result = some v → le c.value v := by
  constructor
  · intro c kept w' mem v result
    rw [List.mem_append, List.mem_singleton] at mem
    cases mem with
    | inl old => exact sound.queued c kept w' old v result
    | inr new => exact above v (new ▸ result) c (List.mem_append_left _ kept)
  · rw [List.pairwise_append]
    refine ⟨sound.ordered, List.pairwise_singleton _ _, fun w' mem w'' last c commit v result => ?_⟩
    obtain rfl := List.mem_singleton.mp last
    exact above v result c (List.mem_append_right _ (List.mem_filterMap.mpr ⟨w', mem, commit⟩))

theorem Sound.put (sound : Sound le r) (above : ∀ c ∈ r.live, le c.value value) :
    Sound le (r.put value) := by
  obtain ⟨queued, ordered⟩ := sound.append (.set value none) fun v result => by
    cases result
    exact above
  exact ⟨sound.stored, queued, ordered, by simpa using sound.numbered⟩

theorem Sound.delete (sound : Sound le r) : Sound le r.delete := by
  obtain ⟨queued, ordered⟩ := sound.append .delete fun v result => by cases result
  exact ⟨sound.stored, queued, ordered, by simpa using sound.numbered⟩

theorem Sound.commit (sound : Sound le r) (above : ∀ c ∈ r.live, le c.value value) :
    Sound le (r.commit value) := by
  obtain ⟨queued, ordered⟩ := sound.append (.set value (some (r.issued + 1))) fun v result => by
    cases result
    exact above
  refine ⟨sound.stored, queued, ordered, fun c mem => ?_⟩
  rw [Register.live_commit, List.mem_append, List.mem_singleton] at mem
  have count : (r.commit value).issued = r.issued + 1 := rfl
  cases mem with
  | inl old =>
      have numbered := sound.numbered c old
      omega
  | inr new =>
      subst new
      dsimp only
      omega

theorem Sound.land (refl : ∀ a, le a a) (sound : Sound le r) (landed : r.land = some r') :
    Sound le r' := by
  have live := Register.live_land landed
  obtain ⟨w, rest, first, rfl⟩ := Register.land_eq_some.mp landed
  have ordered := sound.ordered
  rw [first, List.pairwise_cons] at ordered
  have inside : w ∈ r.queue := by simp [first]
  have numbered := fun c mem => sound.numbered c (live c mem)
  cases w with
  | delete => exact ⟨by simp [Register.keptAfter], by simp [Register.keptAfter], ordered.2, numbered⟩
  | set value id =>
      refine ⟨fun c mem => ⟨value, rfl, ?_⟩, fun c mem w' later v result => ?_, ordered.2, numbered⟩
      · cases List.mem_append.mp mem with
        | inl kept => exact sound.queued c kept _ inside value rfl
        | inr new =>
            cases id with
            | none => cases new
            | some id =>
                obtain rfl := List.mem_singleton.mp new
                exact refl value
      · cases List.mem_append.mp mem with
        | inl kept => exact sound.queued c kept w' (by simp [first, later]) v result
        | inr new => exact ordered.1 w' later c (Option.mem_toList.mp new) v result

theorem Sound.fail (sound : Sound le r) (failed : r.fail = some r') : Sound le r' := by
  have live := Register.live_fail failed
  obtain ⟨w, rest, first, rfl⟩ := Register.fail_eq_some.mp failed
  have ordered := sound.ordered
  rw [first, List.pairwise_cons] at ordered
  exact ⟨sound.stored, fun c kept w' later => sound.queued c kept w' (by simp [first, later]),
    ordered.2, fun c mem => sound.numbered c (live c mem)⟩

end Order

end Copies
