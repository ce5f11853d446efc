import Mathlib.Data.List.Basic

/-! # A partial function over a list

The list of the values, when every one of them is there.
-/

namespace PartialMap

variable {α β : Type*} {f : α → Option β} {l : List α}

theorem mapM_eq_some {r : List β} : l.mapM f = some r ↔ l.map f = r.map some := by
  induction l generalizing r with
  | nil => cases r <;> simp
  | cons a l ih =>
      rw [List.mapM_cons, List.map_cons]
      cases value : f a with
      | none => cases r <;> simp
      | some b =>
          cases r with
          | nil => simp [Option.bind_eq_some_iff]
          | cons c r => simp [Option.bind_eq_some_iff, ← ih, and_comm]

theorem isSome_mapM_iff : (l.mapM f).isSome ↔ ∀ x ∈ l, (f x).isSome := by
  induction l with
  | nil => simp
  | cons x l ih =>
      rw [List.forall_mem_cons, ← ih, List.mapM_cons]
      cases f x with
      | none => simp
      | some y =>
          cases l.mapM f with
          | none => simp
          | some ys => simp

end PartialMap
