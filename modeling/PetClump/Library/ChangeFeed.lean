import Mathlib.Data.Finmap

/-! # Change feeds

A listener to a table gets the changes between the version it saw last and a
later one, each key at most once and in any order. Replaying them on a copy of
the old version gives the new one.
-/

namespace ChangeFeed

variable {κ ν : Type*} [DecidableEq κ]

abbrev Table (κ ν : Type*) := Finmap fun _ : κ => ν

inductive Kind where
  | added
  | modified
  | removed
  deriving DecidableEq

/-- A removed entry comes with the value it had. -/
structure Change (κ ν : Type*) where
  kind : Kind
  key : κ
  value : ν
  deriving DecidableEq

def Change.Fits (old new : Table κ ν) (c : Change κ ν) : Prop :=
  match c.kind with
  | .added => old.lookup c.key = none ∧ new.lookup c.key = some c.value
  | .modified => (old.lookup c.key).isSome ∧ new.lookup c.key = some c.value
  | .removed => old.lookup c.key = some c.value ∧ new.lookup c.key = none

/-- The changes that lead from one version to another. -/
structure Between (old new : Table κ ν) (changes : List (Change κ ν)) : Prop where
  distinct : (changes.map Change.key).Nodup
  fits : ∀ c ∈ changes, c.Fits old new
  complete : ∀ key ∈ old.keys ∪ new.keys, old.lookup key ≠ new.lookup key → key ∈ changes.map Change.key

instance [DecidableEq ν] (old new : Table κ ν) : ∀ c : Change κ ν, Decidable (c.Fits old new)
  | ⟨.added, key, value⟩ =>
      inferInstanceAs (Decidable (old.lookup key = none ∧ new.lookup key = some value))
  | ⟨.modified, key, value⟩ =>
      inferInstanceAs (Decidable ((old.lookup key).isSome ∧ new.lookup key = some value))
  | ⟨.removed, key, value⟩ =>
      inferInstanceAs (Decidable (old.lookup key = some value ∧ new.lookup key = none))

instance [DecidableEq ν] (old new : Table κ ν) (changes : List (Change κ ν)) :
    Decidable (Between old new changes) :=
  decidable_of_iff ((changes.map Change.key).Nodup ∧ (∀ c ∈ changes, c.Fits old new) ∧
      ∀ key ∈ old.keys ∪ new.keys, old.lookup key ≠ new.lookup key → key ∈ changes.map Change.key)
    ⟨fun ⟨distinct, fits, complete⟩ => ⟨distinct, fits, complete⟩,
      fun ⟨distinct, fits, complete⟩ => ⟨distinct, fits, complete⟩⟩

def Change.apply (table : Table κ ν) (c : Change κ ν) : Table κ ν :=
  match c.kind with
  | .added | .modified => table.insert c.key c.value
  | .removed => table.erase c.key

/-- What the new version holds under the key of a change. -/
def Change.after (c : Change κ ν) : Option ν :=
  match c.kind with
  | .added | .modified => some c.value
  | .removed => none

def replay (table : Table κ ν) (changes : List (Change κ ν)) : Table κ ν :=
  changes.foldl Change.apply table

theorem lookup_apply_self (table : Table κ ν) (c : Change κ ν) :
    (c.apply table).lookup c.key = c.after := by
  cases kind : c.kind with
  | added | modified | removed => simp [Change.apply, Change.after, kind]

theorem lookup_apply_of_ne (table : Table κ ν) {c : Change κ ν} {key : κ} (other : key ≠ c.key) :
    (c.apply table).lookup key = table.lookup key := by
  cases kind : c.kind with
  | added | modified => simp [Change.apply, kind, Finmap.lookup_insert_of_ne _ other]
  | removed => simp [Change.apply, kind, Finmap.lookup_erase_ne other]

theorem lookup_replay_of_notMem (table : Table κ ν) {changes : List (Change κ ν)} {key : κ}
    (untouched : key ∉ changes.map Change.key) :
    (replay table changes).lookup key = table.lookup key := by
  induction changes generalizing table with
  | nil => rfl
  | cons c changes ih =>
      rw [List.map_cons, List.mem_cons, not_or] at untouched
      rw [replay, List.foldl_cons]
      exact (ih (c.apply table) untouched.2).trans (lookup_apply_of_ne table untouched.1)

theorem lookup_replay_of_mem (table : Table κ ν) {changes : List (Change κ ν)} {c : Change κ ν}
    (distinct : (changes.map Change.key).Nodup) (mem : c ∈ changes) :
    (replay table changes).lookup c.key = c.after := by
  induction changes generalizing table with
  | nil => cases mem
  | cons first changes ih =>
      rw [List.map_cons, List.nodup_cons] at distinct
      rw [replay, List.foldl_cons]
      cases mem with
      | head =>
          exact (lookup_replay_of_notMem (c.apply table) distinct.1).trans (lookup_apply_self table c)
      | tail _ mem => exact ih (first.apply table) distinct.2 mem

theorem Change.Fits.after_eq {old new : Table κ ν} {c : Change κ ν} (fits : c.Fits old new) :
    c.after = new.lookup c.key := by
  cases kind : c.kind with
  | added | modified | removed =>
      simp only [Change.Fits, kind] at fits
      simp [Change.after, kind, fits.2]

theorem lookup_eq_of_notMem {old new : Table κ ν} {changes : List (Change κ ν)}
    (between : Between old new changes) {key : κ} (untouched : key ∉ changes.map Change.key) :
    old.lookup key = new.lookup key := by
  by_contra differs
  by_cases known : key ∈ old.keys ∪ new.keys
  · exact untouched (between.complete key known differs)
  · rw [Finset.mem_union, not_or, Finmap.mem_keys, Finmap.mem_keys] at known
    rw [Finmap.lookup_eq_none.mpr known.1, Finmap.lookup_eq_none.mpr known.2] at differs
    exact differs rfl

theorem replay_between {old new : Table κ ν} {changes : List (Change κ ν)}
    (between : Between old new changes) : replay old changes = new := by
  refine Finmap.ext_lookup fun key => ?_
  by_cases touched : key ∈ changes.map Change.key
  · obtain ⟨c, mem, rfl⟩ := List.mem_map.mp touched
    rw [lookup_replay_of_mem old between.distinct mem, (between.fits c mem).after_eq]
  · rw [lookup_replay_of_notMem old touched, lookup_eq_of_notMem between touched]

/-- The changes that build a table up do nothing to the table they have built. -/
theorem replay_again {table : Table κ ν} {changes : List (Change κ ν)}
    (between : Between ∅ table changes) : replay table changes = table := by
  refine Finmap.ext_lookup fun key => ?_
  by_cases touched : key ∈ changes.map Change.key
  · obtain ⟨c, mem, rfl⟩ := List.mem_map.mp touched
    rw [lookup_replay_of_mem table between.distinct mem, (between.fits c mem).after_eq]
  · rw [lookup_replay_of_notMem table touched]

/-- A listener's first event adds every entry. -/
theorem exists_between_empty (table : Table κ ν) : ∃ changes, Between ∅ table changes := by
  let entry : {key // key ∈ table} → Change κ ν := fun key =>
    ⟨.added, key.val, (table.lookup key.val).get (Finmap.lookup_isSome.mpr key.property)⟩
  let keys : List {key // key ∈ table} := table.keys.toList.pmap Subtype.mk fun key mem =>
    Finmap.mem_keys.mp (Finset.mem_toList.mp mem)
  have listed : (keys.map entry).map Change.key = table.keys.toList := by
    simp [keys, entry, List.map_pmap]
  refine ⟨keys.map entry, ?_, ?_, ?_⟩
  · rw [listed]
    exact table.keys.nodup_toList
  · intro c mem
    obtain ⟨key, -, rfl⟩ := List.mem_map.mp mem
    exact ⟨Finmap.lookup_empty key.val, (Option.some_get _).symm⟩
  · intro key known _
    rw [listed, Finset.mem_toList]
    simpa using known

end ChangeFeed
