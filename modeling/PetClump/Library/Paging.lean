import Mathlib.Data.List.Nodup

/-! # Reading a list in pages

A page starts after the last entry of an earlier one. In a list without
duplicates that is where the earlier page ended.
-/

namespace Paging

variable {α : Type*} [DecidableEq α] {l : List α}

def after (l : List α) : Option α → List α
  | none => l
  | some last => (l.dropWhile (· ≠ last)).tail

def page (l : List α) (cursor : Option α) (limit : ℕ) : List α := (after l cursor).take limit

theorem after_suffix (cursor : Option α) : after l cursor <:+ l := by
  cases cursor with
  | none => exact List.suffix_refl l
  | some last => exact (List.tail_suffix _).trans (List.dropWhile_suffix _)

theorem after_split {first rest : List α} {last : α} (new : last ∉ first) :
    after (first ++ last :: rest) (some last) = rest := by
  induction first with
  | nil => simp [after]
  | cons x first ih =>
      rw [List.mem_cons, not_or] at new
      have other : decide (x ≠ last) = true := decide_eq_true (Ne.symm new.1)
      have skipped := ih new.2
      rw [after] at skipped ⊢
      rw [List.cons_append, List.dropWhile_cons, if_pos other, skipped]

/-- After the last entry of a page comes what the page left over. -/
theorem after_last (distinct : l.Nodup) {cursor : Option α} {limit : ℕ} {last : α}
    (ends : (page l cursor limit).getLast? = some last) :
    after l (some last) = (after l cursor).drop limit := by
  obtain ⟨skipped, whole⟩ := @after_suffix α _ l cursor
  obtain ⟨first, taken⟩ := List.getLast?_eq_some_iff.mp ends
  have parts : first ++ [last] ++ (after l cursor).drop limit = after l cursor := by
    rw [← taken, page, List.take_append_drop]
  have split : l = (skipped ++ first) ++ last :: (after l cursor).drop limit :=
    calc
      l = skipped ++ after l cursor := whole.symm
      _ = skipped ++ (first ++ [last] ++ (after l cursor).drop limit) := by rw [parts]
      _ = (skipped ++ first) ++ last :: (after l cursor).drop limit := by simp only [List.append_assoc,
        List.singleton_append]
  have new : last ∉ skipped ++ first := by
    rw [split] at distinct
    intro mem
    exact (List.nodup_append.mp distinct).2.2 last mem last List.mem_cons_self rfl
  conv_lhs => rw [split]
  exact after_split new

omit [DecidableEq α] in
/-- A page more -/
theorem take_succ_mul (l : List α) (limit k : ℕ) :
    l.take ((k + 1) * limit) = l.take (k * limit) ++ (l.drop (k * limit)).take limit := by
  rw [Nat.succ_mul, List.take_add]

theorem page_subset {cursor : Option α} {limit : ℕ} {x : α} (mem : x ∈ page l cursor limit) :
    x ∈ after l cursor :=
  List.mem_of_mem_take mem

/-- What is on a page is not left over. -/
theorem notMem_drop_of_mem_page (distinct : l.Nodup) {cursor : Option α} {limit : ℕ} {x : α}
    (mem : x ∈ page l cursor limit) : x ∉ (after l cursor).drop limit := by
  intro later
  have nodup := distinct.sublist (after_suffix cursor).sublist
  rw [← List.take_append_drop limit (after l cursor)] at nodup
  exact (List.nodup_append.mp nodup).2.2 x mem x later rfl

end Paging
