import Mathlib.Logic.Basic

/-! # Partial updates

An update has a new value for every cell of a store, and only some of them are
carried out.
-/

namespace PartialUpdate

variable {κ : Type*} {ν : κ → Type*}

def partialUpdate (carried : κ → Bool) (old new : ∀ k, ν k) : ∀ k, ν k :=
  fun k => if carried k then new k else old k

variable {carried : κ → Bool} {old new : ∀ k, ν k}

theorem eq_old_iff : partialUpdate carried old new = old ↔ ∀ k, carried k → old k = new k := by
  simp only [funext_iff, partialUpdate]
  refine forall_congr' fun k => ?_
  split
  · rename_i done
    simp [done, eq_comm]
  · rename_i failed
    simp [failed]

theorem eq_new_iff : partialUpdate carried old new = new ↔ ∀ k, old k ≠ new k → carried k := by
  simp only [funext_iff, partialUpdate]
  refine forall_congr' fun k => ?_
  split
  · rename_i done
    simp [done]
  · rename_i failed
    simp [failed]

/-- The store is as before or fully updated exactly when the cells that change share one fate. -/
theorem eq_old_or_new_iff :
    partialUpdate carried old new = old ∨ partialUpdate carried old new = new ↔
      ∀ j k, old j ≠ new j → old k ≠ new k → (carried j ↔ carried k) := by
  rw [eq_old_iff, eq_new_iff]
  constructor
  · rintro (none | all) j k changesJ changesK
    · exact iff_of_false (fun done => changesJ (none j done)) fun done => changesK (none k done)
    · exact iff_of_true (all j changesJ) (all k changesK)
  · intro together
    refine or_iff_not_imp_right.mpr fun missed j done => ?_
    obtain ⟨k, missed⟩ := not_forall.mp missed
    obtain ⟨changesK, failed⟩ := Classical.not_imp.mp missed
    exact Classical.byContradiction fun changesJ => failed ((together j k changesJ changesK).mp done)

end PartialUpdate
