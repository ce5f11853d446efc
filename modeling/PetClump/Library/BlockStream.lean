import PetClump.Library.Chunks

/-! # Block functions over a stream

A function of states and blocks is run over the whole blocks of a stream that comes in
pieces. What is short of a block is kept for the next piece, so that it does not matter
how the stream was cut.
-/

namespace BlockStream

open Chunks

variable {α σ : Type*}

/-- The state after the blocks so far, and the elements that are short of a block. -/
structure Progress (α σ : Type*) where
  state : σ
  kept : List α

variable (n : ℕ) (f : σ → List α → σ)

def whole (xs : List α) : List (List α) := (xs.take (xs.length / n * n)).toChunks n

def short (xs : List α) : List α := xs.drop (xs.length / n * n)

def absorb (p : Progress α σ) (piece : List α) : Progress α σ :=
  ⟨(whole n (p.kept ++ piece)).foldl f p.state, short n (p.kept ++ piece)⟩

variable {n f}

/-- A list is its whole blocks and what is short of one. -/
theorem exists_split (positive : 0 < n) (xs : List α) :
    ∃ (blocks : List (List α)) (kept : List α), (∀ block ∈ blocks, block.length = n) ∧ kept.length < n ∧
      xs = blocks.flatten ++ kept := by
  have length : (xs.take (xs.length / n * n)).length = xs.length / n * n := by
    rw [List.length_take]
    exact Nat.min_eq_left (Nat.div_mul_le_self xs.length n)
  obtain ⟨blocks, _, full, flat⟩ := exists_blocks (xs.length / n) length
  refine ⟨blocks, short n xs, full, ?_, ?_⟩
  · have remainder := Nat.mod_lt xs.length positive
    rw [Nat.mod_eq_sub_div_mul] at remainder
    simpa only [short, List.length_drop] using remainder
  · rw [flat, short, List.take_append_drop]

section Split

variable {blocks : List (List α)} {kept : List α}

theorem blocks_taken (full : ∀ block ∈ blocks, block.length = n) (less : kept.length < n) :
    (blocks.flatten ++ kept).length / n * n = blocks.flatten.length := by
  rw [List.length_append, length_flatten full, Nat.add_comm, Nat.add_mul_div_right _ _ (Nat.zero_lt_of_lt less),
    Nat.div_eq_of_lt less, Nat.zero_add]

theorem whole_split (full : ∀ block ∈ blocks, block.length = n) (less : kept.length < n) :
    whole n (blocks.flatten ++ kept) = blocks := by
  rw [whole, blocks_taken full less, List.take_left, toChunks_flatten (Nat.zero_lt_of_lt less) full]

theorem short_split (full : ∀ block ∈ blocks, block.length = n) (less : kept.length < n) :
    short n (blocks.flatten ++ kept) = kept := by
  rw [short, blocks_taken full less, List.drop_left]

theorem absorb_split {p : Progress α σ} {piece : List α} (full : ∀ block ∈ blocks, block.length = n)
    (less : kept.length < n) (split : p.kept ++ piece = blocks.flatten ++ kept) :
    absorb n f p piece = ⟨blocks.foldl f p.state, kept⟩ := by
  rw [absorb, split, whole_split full less, short_split full less]

end Split

theorem length_kept (p : Progress α σ) (piece : List α) :
    (absorb n f p piece).kept.length = (p.kept.length + piece.length) % n := by
  rw [absorb, short, List.length_drop, List.length_append, Nat.mod_eq_sub_div_mul]

theorem absorb_nil {p : Progress α σ} (less : p.kept.length < n) : absorb n f p [] = p := by
  have full : ∀ block ∈ ([] : List (List α)), block.length = n := nofun
  have split : p.kept ++ [] = ([] : List (List α)).flatten ++ p.kept := by simp
  rw [absorb_split full less split]
  rfl

theorem absorb_append (positive : 0 < n) (p : Progress α σ) (xs ys : List α) :
    absorb n f (absorb n f p xs) ys = absorb n f p (xs ++ ys) := by
  obtain ⟨blocks, kept, full, less, split⟩ := exists_split positive (p.kept ++ xs)
  obtain ⟨blocks', kept', full', less', split'⟩ := exists_split positive (kept ++ ys)
  have fulls : ∀ block ∈ blocks ++ blocks', block.length = n := by
    intro block mem
    cases List.mem_append.mp mem with
    | inl mem => exact full block mem
    | inr mem => exact full' block mem
  have splits : p.kept ++ (xs ++ ys) = (blocks ++ blocks').flatten ++ kept' := by
    rw [← List.append_assoc, split, List.append_assoc, split', List.flatten_append, List.append_assoc]
  rw [absorb_split full less split, absorb_split full' less' split', absorb_split fulls less' splits,
    List.foldl_append]

end BlockStream
