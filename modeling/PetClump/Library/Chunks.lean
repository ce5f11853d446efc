import Mathlib.Data.List.Defs
import Mathlib.Data.Nat.Notation

/-! # Lists in chunks of one length

`List.toChunks` gives back the blocks a list was put together from, and every
list of the right length is put together from blocks.
-/

namespace Chunks

variable {α : Type*} {n : ℕ}

theorem go_append {xs ys : List α} {current : Array α} {done : Array (List α)}
    (fits : current.size + xs.length ≤ n) :
    List.toChunks.go n (xs ++ ys) current done =
      List.toChunks.go n ys (current ++ xs.toArray) done := by
  induction xs generalizing current with
  | nil => simp
  | cons x xs ih =>
      rw [List.length_cons] at fits
      have room : (current.size == n) = false := by
        rw [beq_eq_false_iff_ne]
        omega
      have fits' : (current.push x).size + xs.length ≤ n := by
        rw [Array.size_push]
        omega
      rw [List.cons_append, List.toChunks.go, room]
      simp only [Bool.false_eq_true, if_false, ih fits']
      simp

theorem go_done {xs : List α} {current : Array α} {done : Array (List α)} :
    List.toChunks.go n xs current done = done.toList ++ List.toChunks.go n xs current #[] := by
  induction xs generalizing current done with
  | nil => simp [List.toChunks.go]
  | cons x xs ih =>
      rw [List.toChunks.go, List.toChunks.go]
      split
      · rw [ih, @ih _ (#[].push current.toList)]
        simp
      · exact ih

theorem toChunks_cons {x : α} {xs : List α} (positive : 0 < n) :
    (x :: xs).toChunks n = List.toChunks.go n xs #[x] #[] := by
  obtain ⟨m, rfl⟩ := Nat.exists_eq_succ_of_ne_zero (Nat.ne_of_gt positive)
  rfl

theorem toChunks_append {block rest : List α} (positive : 0 < n) (full : block.length = n) :
    (block ++ rest).toChunks n = block :: rest.toChunks n := by
  cases block with
  | nil =>
      rw [List.length_nil] at full
      omega
  | cons x xs =>
      rw [List.length_cons] at full
      have fits : (#[x] : Array α).size + xs.length ≤ n := by
        simp
        omega
      rw [List.cons_append, toChunks_cons positive, go_append fits]
      cases rest with
      | nil => simp [List.toChunks.go, List.toChunks]
      | cons y ys =>
          have filled : ((#[x] ++ xs.toArray).size == n) = true := by
            simp
            omega
          rw [List.toChunks.go, if_pos filled, go_done, toChunks_cons positive]
          simp

theorem toChunks_flatten {blocks : List (List α)} (positive : 0 < n)
    (full : ∀ block ∈ blocks, block.length = n) : blocks.flatten.toChunks n = blocks := by
  induction blocks with
  | nil => simp [List.toChunks]
  | cons block blocks ih =>
      rw [List.flatten_cons, toChunks_append positive (full block List.mem_cons_self),
        ih fun other mem => full other (List.mem_cons_of_mem block mem)]

theorem toChunks_flatten_append {blocks : List (List α)} (positive : 0 < n)
    (full : ∀ block ∈ blocks, block.length = n) (rest : List α) :
    (blocks.flatten ++ rest).toChunks n = blocks ++ rest.toChunks n := by
  induction blocks with
  | nil => rfl
  | cons block blocks ih =>
      rw [List.flatten_cons, List.append_assoc, toChunks_append positive (full block List.mem_cons_self),
        ih fun other mem => full other (List.mem_cons_of_mem block mem), List.cons_append]

theorem flatten_go (xs : List α) (current : Array α) (done : Array (List α)) :
    (List.toChunks.go n xs current done).flatten = done.toList.flatten ++ current.toList ++ xs := by
  induction xs generalizing current done with
  | nil => simp [List.toChunks.go]
  | cons x xs ih =>
      rw [List.toChunks.go]
      split
      · simp [ih]
      · simp [ih]

theorem flatten_toChunks (xs : List α) : (xs.toChunks n).flatten = xs := by
  cases xs with
  | nil => simp [List.toChunks]
  | cons x xs =>
      cases n with
      | zero => simp [List.toChunks]
      | succ n => simp [List.toChunks, flatten_go]

/-- What is too short to be cut is one chunk. -/
theorem toChunks_short {xs : List α} (nonempty : xs ≠ []) (short : xs.length < n) :
    xs.toChunks n = [xs] := by
  cases xs with
  | nil => exact absurd rfl nonempty
  | cons x xs =>
      have positive : 0 < n := Nat.zero_lt_of_lt short
      have fits : (#[x] : Array α).size + xs.length ≤ n := by
        rw [List.length_cons] at short
        simp
        omega
      rw [toChunks_cons positive, ← List.append_nil xs, go_append fits]
      simp [List.toChunks.go]

theorem length_flatten {blocks : List (List α)} (full : ∀ block ∈ blocks, block.length = n) :
    blocks.flatten.length = blocks.length * n := by
  induction blocks with
  | nil => simp
  | cons block blocks ih =>
      rw [List.flatten_cons, List.length_append, full block List.mem_cons_self,
        ih fun other mem => full other (List.mem_cons_of_mem block mem), List.length_cons,
        Nat.succ_mul, Nat.add_comm]

/-- A list whose length is a multiple of `n` consists of blocks of `n`. -/
theorem exists_blocks (count : ℕ) {l : List α} (length : l.length = count * n) :
    ∃ blocks : List (List α), blocks.length = count ∧ (∀ block ∈ blocks, block.length = n) ∧
      blocks.flatten = l := by
  induction count generalizing l with
  | zero =>
      rw [Nat.zero_mul, List.length_eq_zero_iff] at length
      exact ⟨[], rfl, nofun, length.symm⟩
  | succ count ih =>
      rw [Nat.succ_mul] at length
      have shorter : (l.drop n).length = count * n := by
        rw [List.length_drop]
        omega
      obtain ⟨blocks, number, full, flat⟩ := ih shorter
      have first : (l.take n).length = n := by
        rw [List.length_take]
        omega
      refine ⟨l.take n :: blocks, by rw [List.length_cons, number], ?_, ?_⟩
      · exact List.forall_mem_cons.mpr ⟨first, full⟩
      · rw [List.flatten_cons, flat, List.take_append_drop]

end Chunks
