import Mathlib.Data.Nat.Basic

/-! # A table filled row by row

A table of fixed size is filled from a list of values with two counters: the column
rolls over, and the row moves on when it does. `none` is an index outside the table
or a value that cannot be read.
-/

namespace RowMajor

abbrev Table (rows cols : ℕ) (α : Type*) := Fin rows → Fin cols → α

variable {rows cols : ℕ} {α : Type*}

namespace Table

def get (t : Table rows cols α) (row col : ℤ) : Option α :=
  if h : (0 ≤ row ∧ row < rows) ∧ 0 ≤ col ∧ col < cols then
    some (t ⟨row.toNat, by omega⟩ ⟨col.toNat, by omega⟩)
  else none

def set (t : Table rows cols α) (row col : ℕ) (v : α) : Option (Table rows cols α) :=
  if row < rows ∧ col < cols then
    some fun i j => if i.val = row ∧ j.val = col then v else t i j
  else none

theorem get_eq (t : Table rows cols α) {row col : ℤ} (rowInside : 0 ≤ row ∧ row < rows)
    (colInside : 0 ≤ col ∧ col < cols) :
    t.get row col = some (t ⟨row.toNat, by omega⟩ ⟨col.toNat, by omega⟩) := by
  rw [get, dif_pos ⟨rowInside, colInside⟩]

end Table

/-- The loop: each value goes to the next cell. -/
def fill (t : Table rows cols α) : List (Option α) → ℕ → ℕ → Option (Table rows cols α)
  | [], _, _ => some t
  | v :: vs, row, col => do
      let t ← t.set row col (← v)
      let col := (col + 1) % cols
      fill t vs (if col = 0 then row + 1 else row) col

/-- The table after the cells from number `k` on took the values of the list. -/
def written (t : Table rows cols α) (k : ℕ) (vs : List α) : Table rows cols α := fun i j =>
  if k ≤ i.val * cols + j.val then (vs[i.val * cols + j.val - k]?).getD (t i j) else t i j

/-- Row and column are the quotient and the remainder of the cell's number. -/
theorem number_eq_iff (i : Fin rows) (j : Fin cols) (k : ℕ) :
    i.val * cols + j.val = k ↔ i.val = k / cols ∧ j.val = k % cols := by
  have pos : 0 < cols := Nat.lt_of_le_of_lt (Nat.zero_le _) j.isLt
  constructor
  · rintro rfl
    constructor
    · rw [Nat.add_comm, Nat.add_mul_div_right _ _ pos, Nat.div_eq_of_lt j.isLt, Nat.zero_add]
    · rw [Nat.add_comm, Nat.add_mul_mod_self_right, Nat.mod_eq_of_lt j.isLt]
  · rintro ⟨row, col⟩
    rw [row, col, Nat.mul_comm, Nat.div_add_mod]

/-- The counters of the loop after one step are those of the next number. -/
theorem next_counters (cols k : ℕ) :
    (k % cols + 1) % cols = (k + 1) % cols ∧
      (if (k + 1) % cols = 0 then k / cols + 1 else k / cols) = (k + 1) / cols := by
  refine ⟨Nat.mod_add_mod k cols 1, ?_⟩
  split
  case isTrue rolls => exact (Nat.succ_div_of_mod_eq_zero rolls).symm
  case isFalse stays => exact (Nat.succ_div_of_mod_ne_zero stays).symm

theorem set_isSome (t : Table rows cols α) (k : ℕ) (v : α) :
    (t.set (k / cols) (k % cols) v).isSome ↔ k < rows * cols := by
  rw [Table.set]
  split
  case isTrue inside =>
    refine iff_of_true rfl ((Nat.div_lt_iff_lt_mul ?_).mp inside.1)
    exact Nat.lt_of_le_of_lt (Nat.zero_le _) inside.2
  case isFalse outside =>
    refine iff_of_false (by simp) fun room => outside ?_
    have pos : 0 < cols := Nat.pos_of_ne_zero fun zero => by simp [zero] at room
    exact ⟨(Nat.div_lt_iff_lt_mul pos).mpr room, Nat.mod_lt k pos⟩

theorem written_cons (t : Table rows cols α) (k : ℕ) (v : α) (vs : List α) :
    written (fun i j => if i.val = k / cols ∧ j.val = k % cols then v else t i j) (k + 1) vs =
      written t k (v :: vs) := by
  funext i j
  simp only [written, ← number_eq_iff]
  rcases Nat.lt_trichotomy (i.val * cols + j.val) k with before | here | after
  · rw [if_neg (by omega), if_neg (by omega), if_neg (by omega)]
  · rw [if_neg (by omega), if_pos here, if_pos (by omega), here, Nat.sub_self]
    rfl
  · obtain ⟨d, hd⟩ := Nat.exists_eq_add_of_lt after
    rw [if_pos (by omega), if_neg (by omega), if_pos (by omega), hd]
    simp only [Nat.add_assoc, Nat.add_sub_cancel_left, List.getElem?_cons_succ,
      show k + (d + 1) - (k + 1) = d by omega]

theorem written_nil (t : Table rows cols α) (k : ℕ) : written t k [] = t := by
  funext i j
  simp [written]

/-- Values that fit are written one after another. -/
theorem fill_of_le (t : Table rows cols α) (k : ℕ) (vs : List α) (room : k + vs.length ≤ rows * cols) :
    fill t (vs.map some) (k / cols) (k % cols) = some (written t k vs) := by
  induction vs generalizing t k with
  | nil => rw [written_nil]; rfl
  | cons v vs ih =>
      rw [List.length_cons] at room
      have inside : k / cols < rows ∧ k % cols < cols := by
        have isSome := (set_isSome t k v).mpr (by omega)
        rw [Table.set] at isSome
        by_contra outside
        simp [if_neg outside] at isSome
      obtain ⟨col, row⟩ := next_counters cols k
      simp only [List.map_cons, fill, Table.set, if_pos inside, Option.bind_eq_bind, Option.bind_some,
        col, row]
      rw [ih _ (k + 1) (by omega), written_cons]

/-- The loop leaves the table when there are more values than cells. -/
theorem fill_of_lt (t : Table rows cols α) (k : ℕ) (vs : List (Option α))
    (nonempty : vs ≠ []) (full : rows * cols < k + vs.length) :
    fill t vs (k / cols) (k % cols) = none := by
  induction vs generalizing t k with
  | nil => exact absurd rfl nonempty
  | cons v vs ih =>
      rw [List.length_cons] at full
      cases v with
      | none => rfl
      | some v =>
          obtain ⟨col, row⟩ := next_counters cols k
          simp only [fill, Option.bind_eq_bind, Option.bind_some, col, row]
          cases taken : t.set (k / cols) (k % cols) v with
          | none => rfl
          | some u =>
              have room : k < rows * cols := (set_isSome t k v).mp (by rw [taken]; rfl)
              exact ih u (k + 1) (by rintro rfl; simp at full; omega) (by omega)

/-- From the first cell on, a cell has the value of its number, or keeps its own. -/
theorem fill_from_first (t : Table rows cols α) (vs : List α) (room : vs.length ≤ rows * cols) :
    ∃ u, fill t (vs.map some) 0 0 = some u ∧
      ∀ (i : Fin rows) (j : Fin cols), u i j = (vs[i.val * cols + j.val]?).getD (t i j) := by
  have result := fill_of_le t 0 vs (by omega)
  rw [Nat.zero_div, Nat.zero_mod] at result
  refine ⟨written t 0 vs, result, fun i j => ?_⟩
  rw [written, if_pos (Nat.zero_le _), Nat.sub_zero]

end RowMajor
