import Mathlib.Data.List.Induction
import Mathlib.Logic.Function.Basic

/-! # Operations that overwrite several cells

A log lists which operation overwrote which cell, in the order in which the
writes took effect. Two operations cross when they overwrote two cells in
opposite orders. Without crossings, operations that overwrite all cells leave
the same last writer everywhere, however they interleave.
-/

namespace PairedWrites

open List

variable {ω κ : Type*}

/-- No two operations of the log overwrote a pair of cells in opposite orders. -/
def Uncrossed (log : List (ω × κ)) : Prop :=
  ∀ t ∈ log, ∀ u ∈ log, t.1 ≠ u.1 → ¬ ([t, (u.1, t.2)] <+ log ∧ [u, (t.1, u.2)] <+ log)

instance [DecidableEq ω] [DecidableEq κ] (log : List (ω × κ)) : Decidable (Uncrossed log) :=
  inferInstanceAs (Decidable (∀ t ∈ log, ∀ u ∈ log, t.1 ≠ u.1 →
    ¬ ([t, (u.1, t.2)] <+ log ∧ [u, (t.1, u.2)] <+ log)))

/-- Every operation that overwrote one cell overwrote them all. -/
def Complete (log : List (ω × κ)) : Prop := ∀ o k k', (o, k) ∈ log → (o, k') ∈ log

variable [DecidableEq κ]

def lastWriter (log : List (ω × κ)) : κ → Option ω :=
  log.foldl (fun last t => Function.update last t.2 (some t.1)) fun _ => none

@[simp] theorem lastWriter_nil (k : κ) : lastWriter ([] : List (ω × κ)) k = none := rfl

theorem lastWriter_append (log : List (ω × κ)) (o : ω) (k : κ) :
    lastWriter (log ++ [(o, k)]) = Function.update (lastWriter log) k (some o) := by
  simp [lastWriter]

theorem lastWriter_eq_none {log : List (ω × κ)} {k : κ} (h : lastWriter log k = none) (o : ω) :
    (o, k) ∉ log := by
  induction log using List.reverseRecOn with
  | nil => simp
  | append_singleton log t ih =>
      obtain ⟨o', k'⟩ := t
      rw [lastWriter_append] at h
      have other : k ≠ k' := by
        rintro rfl
        simp at h
      rw [Function.update_of_ne other] at h
      simp [ih h, other]

/-- After the last writer of a cell nobody overwrote it. -/
theorem lastWriter_split {log : List (ω × κ)} {o : ω} {k : κ} (h : lastWriter log k = some o) :
    ∃ before after, log = before ++ (o, k) :: after ∧ ∀ t ∈ after, t.2 ≠ k := by
  induction log using List.reverseRecOn with
  | nil => cases h
  | append_singleton log t ih =>
      obtain ⟨o', k'⟩ := t
      rw [lastWriter_append] at h
      by_cases same : k = k'
      · subst same
        rw [Function.update_self, Option.some.injEq] at h
        subst h
        exact ⟨log, [], rfl, by simp⟩
      · rw [Function.update_of_ne same] at h
        obtain ⟨before, after, rfl, silent⟩ := ih h
        refine ⟨before, after ++ [(o', k')], by simp, ?_⟩
        intro t mem
        cases List.mem_append.mp mem with
        | inl old => exact silent t old
        | inr new =>
            obtain rfl := List.mem_singleton.mp new
            exact fun eq => same eq.symm

/-- Whoever else overwrote a cell did so before its last writer. -/
theorem before_lastWriter {log : List (ω × κ)} {o o' : ω} {k : κ} (last : lastWriter log k = some o)
    (other : o' ≠ o) (wrote : (o', k) ∈ log) : [(o', k), (o, k)] <+ log := by
  obtain ⟨before, after, rfl, silent⟩ := lastWriter_split last
  have early : (o', k) ∈ before := by
    cases List.mem_append.mp wrote with
    | inl early => exact early
    | inr late =>
        cases List.mem_cons.mp late with
        | inl same => exact absurd (congrArg Prod.fst same) other
        | inr late => exact absurd rfl (silent _ late)
  have first : [(o', k)] <+ before := List.singleton_sublist.mpr early
  have second : [(o, k)] <+ (o, k) :: after := List.singleton_sublist.mpr List.mem_cons_self
  exact first.append second

theorem lastWriter_mem {log : List (ω × κ)} {o : ω} {k : κ} (last : lastWriter log k = some o) :
    (o, k) ∈ log := by
  obtain ⟨before, after, rfl, _⟩ := lastWriter_split last
  simp

/-- Uncrossed operations that overwrite every cell have one last writer. -/
theorem lastWriter_agree {log : List (ω × κ)} (uncrossed : Uncrossed log) (complete : Complete log)
    (k k' : κ) : lastWriter log k = lastWriter log k' := by
  cases last : lastWriter log k with
  | none =>
      cases last' : lastWriter log k' with
      | none => rfl
      | some o' =>
          have wrote := complete o' k' k (lastWriter_mem last')
          exact absurd wrote (lastWriter_eq_none last o')
  | some o =>
      cases last' : lastWriter log k' with
      | none =>
          have wrote := complete o k k' (lastWriter_mem last)
          exact absurd wrote (lastWriter_eq_none last' o)
      | some o' =>
          by_contra differ
          have apart : o' ≠ o := fun eq => differ (congrArg some eq.symm)
          have wrote := complete o' k' k (lastWriter_mem last')
          have wrote' := complete o k k' (lastWriter_mem last)
          exact uncrossed (o', k) wrote (o, k') wrote' apart
            ⟨before_lastWriter last apart wrote, before_lastWriter last' apart.symm wrote'⟩

end PairedWrites
