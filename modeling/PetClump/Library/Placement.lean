import Mathlib.Data.List.Basic

/-! # Marks put in their places

A list is written once for each item, at the item's place. What stands at a place in the
end is the mark of the only item that belongs there.
-/

namespace Placement

variable {α β : Type*} {place : α → ℕ} {mark : α → β} {items : List α}

theorem foldl_set_length (marks : List β) :
    (items.foldl (fun marks item => marks.set (place item) (mark item)) marks).length = marks.length := by
  induction items generalizing marks with
  | nil => rfl
  | cons item items ih => rw [List.foldl_cons, ih, List.length_set]

theorem foldl_set_other {n : ℕ} (other : ∀ item ∈ items, place item ≠ n) (marks : List β) :
    (items.foldl (fun marks item => marks.set (place item) (mark item)) marks)[n]? = marks[n]? := by
  induction items generalizing marks with
  | nil => rfl
  | cons item items ih =>
      obtain ⟨first, later⟩ := List.forall_mem_cons.mp other
      rw [List.foldl_cons, ih later, List.getElem?_set_ne first]

/-- An item that has a place of its own finds its mark there. -/
theorem foldl_set_own {item : α} (mem : item ∈ items)
    (own : ∀ other ∈ items, place other = place item → other = item) (marks : List β)
    (inside : place item < marks.length) :
    (items.foldl (fun marks item => marks.set (place item) (mark item)) marks)[place item]? = some (mark item) := by
  induction items generalizing marks with
  | nil => cases mem
  | cons first items ih =>
      obtain ⟨_, later⟩ := List.forall_mem_cons.mp own
      rw [List.foldl_cons]
      by_cases again : item ∈ items
      · exact ih again later _ (by rwa [List.length_set])
      · have here : first = item := ((List.mem_cons.mp mem).resolve_right again).symm
        subst here
        have others : ∀ other ∈ items, place other ≠ place first :=
          fun other mem same => again (later other mem same ▸ mem)
        rw [foldl_set_other others, List.getElem?_set_self inside]

end Placement
