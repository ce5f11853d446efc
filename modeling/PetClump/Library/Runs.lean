import Mathlib.Logic.Basic

/-! # Runs of an executable machine

A machine is a partial step function: an event that cannot happen in a state
yields `none`. Interleavings are not modelled separately: a list of events is one
interleaving, so a statement about every list of events is about all of them.
-/

namespace Runs

variable {σ ε : Type*} (step : σ → ε → Option σ)

/-- The state after a list of events, when every one of them can happen. -/
def run : σ → List ε → Option σ
  | s, [] => some s
  | s, e :: es => (step s e).bind fun s' => run s' es

/-- `P` holds in the first state and in every state the events lead through. -/
def Always (P : σ → Prop) : σ → List ε → Prop
  | s, [] => P s
  | s, e :: es => P s ∧ ∀ s', step s e = some s' → Always P s' es

/-- Every step that is taken meets `C` in the state before it. -/
def Meets (C : σ → ε → Prop) : σ → List ε → Prop
  | _, [] => True
  | s, e :: es => ∀ s', step s e = some s' → C s e ∧ Meets C s' es

/-- A step that is taken in a run. -/
structure Transition (σ ε : Type*) where
  before : σ
  event : ε
  after : σ

/-- The steps of a run, up to an event that cannot happen. -/
def transitions : σ → List ε → List (Transition σ ε)
  | _, [] => []
  | s, e :: es =>
      match step s e with
      | none => []
      | some s' => ⟨s, e, s'⟩ :: transitions s' es

/-- The machine with a log beside its state, which it does not look at. -/
def recorded {L : Type*} (note : σ → ε → L → L) (s : σ × L) (e : ε) : Option (σ × L) :=
  (step s.1 e).map fun s' => (s', note s.1 e s.2)

variable {step}

instance decidableMeets {C : σ → ε → Prop} [∀ s e, Decidable (C s e)] :
    ∀ s es, Decidable (Meets step C s es)
  | _, [] => .isTrue trivial
  | s, e :: es =>
      match taken : step s e with
      | none => .isTrue fun _ h => by simp [taken] at h
      | some s' =>
          have : Decidable (Meets step C s' es) := decidableMeets s' es
          decidable_of_iff (C s e ∧ Meets step C s' es) <| by simp [Meets, taken]

instance decidableAlways {P : σ → Prop} [∀ s, Decidable (P s)] : ∀ s es, Decidable (Always step P s es)
  | s, [] => inferInstanceAs (Decidable (P s))
  | s, e :: es =>
      match taken : step s e with
      | none => decidable_of_iff (P s) <| by simp [Always, taken]
      | some s' =>
          have : Decidable (Always step P s' es) := decidableAlways s' es
          decidable_of_iff (P s ∧ Always step P s' es) <| by simp [Always, taken]

@[simp] theorem run_nil (s : σ) : run step s [] = some s := rfl

theorem run_cons {s s' : σ} {e : ε} {es : List ε} :
    run step s (e :: es) = some s' ↔ ∃ t, step s e = some t ∧ run step t es = some s' := by
  simp only [run, Option.bind_eq_some_iff]

theorem run_append {s s' : σ} {es fs : List ε} :
    run step s (es ++ fs) = some s' ↔
      ∃ t, run step s es = some t ∧ run step t fs = some s' := by
  induction es generalizing s with
  | nil => simp
  | cons e es ih =>
      simp only [List.cons_append, run_cons, ih]
      constructor
      · rintro ⟨t, ht, u, hu, hs⟩
        exact ⟨u, ⟨t, ht, hu⟩, hs⟩
      · rintro ⟨u, ⟨t, ht, hu⟩, hs⟩
        exact ⟨t, ht, u, hu, hs⟩

/-- What every step of a kind preserves, every run of such steps preserves. -/
theorem run_invariant_of {Inv : σ → Prop} {Kind : ε → Prop}
    (preserves : ∀ s e s', Inv s → Kind e → step s e = some s' → Inv s')
    {s s' : σ} {es : List ε} (inv : Inv s) (kind : ∀ e ∈ es, Kind e) (h : run step s es = some s') :
    Inv s' := by
  induction es generalizing s with
  | nil => cases h; exact inv
  | cons e es ih =>
      obtain ⟨t, taken, rest⟩ := run_cons.mp h
      obtain ⟨first, later⟩ := List.forall_mem_cons.mp kind
      exact ih (preserves s e t inv first taken) later rest

/-- What every step preserves, every run preserves. -/
theorem run_invariant {Inv : σ → Prop}
    (preserves : ∀ s e s', Inv s → step s e = some s' → Inv s')
    {s s' : σ} {es : List ε} (inv : Inv s) (h : run step s es = some s') : Inv s' :=
  run_invariant_of (fun s e s' now (_ : True) => preserves s e s' now) inv (fun _ _ => trivial) h

/-- The same for an invariant that speaks of the events so far. -/
theorem run_history {Inv : σ → List ε → Prop}
    (preserves : ∀ s past e s', Inv s past → step s e = some s' → Inv s' (past ++ [e]))
    {s s' : σ} {past es : List ε} (inv : Inv s past) (h : run step s es = some s') :
    Inv s' (past ++ es) := by
  induction es generalizing s past with
  | nil =>
      cases h
      rwa [List.append_nil]
  | cons e es ih =>
      obtain ⟨t, taken, rest⟩ := run_cons.mp h
      have later := ih (preserves s past e t inv taken) rest
      rwa [List.append_assoc] at later

theorem transitions_cons {s s' : σ} {e : ε} (taken : step s e = some s') (es : List ε) :
    transitions step s (e :: es) = ⟨s, e, s'⟩ :: transitions step s' es := by
  rw [transitions, taken]

theorem transitions_concat {s t t' : σ} {e : ε} {es : List ε} (ran : run step s es = some t)
    (taken : step t e = some t') :
    transitions step s (es ++ [e]) = transitions step s es ++ [⟨t, e, t'⟩] := by
  induction es generalizing s with
  | nil =>
      cases ran
      exact transitions_cons taken []
  | cons e' es ih =>
      obtain ⟨u, first, rest⟩ := run_cons.mp ran
      rw [List.cons_append, transitions_cons first, ih rest, transitions_cons first, List.cons_append]

/-- What every step preserves holds before every step of a run. -/
theorem transitions_invariant {Inv : σ → Prop}
    (preserves : ∀ s e s', Inv s → step s e = some s' → Inv s')
    {s : σ} {es : List ε} (inv : Inv s) :
    ∀ x ∈ transitions step s es, Inv x.before ∧ step x.before x.event = some x.after := by
  induction es generalizing s with
  | nil => nofun
  | cons e es ih =>
      cases taken : step s e with
      | none => simp [transitions, taken]
      | some t =>
          rw [transitions_cons taken]
          exact List.forall_mem_cons.mpr ⟨⟨inv, taken⟩, ih (preserves s e t inv taken)⟩

theorem always_head {P : σ → Prop} {s : σ} {es : List ε} (h : Always step P s es) : P s := by
  cases es with
  | nil => exact h
  | cons e es => exact h.1

theorem recorded_eq_some {L : Type*} {note : σ → ε → L → L} {x x' : σ × L} {e : ε} :
    recorded step note x e = some x' ↔ ∃ s', step x.1 e = some s' ∧ (s', note x.1 e x.2) = x' :=
  Option.map_eq_some_iff

/-- What holds of the states of a machine does not depend on a log that is kept of it. -/
theorem always_recorded {L : Type*} (note : σ → ε → L → L) (log : L) {P : σ → Prop} {s : σ} {es : List ε} :
    Always (recorded step note) (fun s => P s.1) (s, log) es ↔ Always step P s es := by
  induction es generalizing s log with
  | nil => rfl
  | cons e es ih =>
      constructor
      · rintro ⟨now, later⟩
        exact ⟨now, fun t taken => (ih _).mp (later _ (recorded_eq_some.mpr ⟨t, taken, rfl⟩))⟩
      · rintro ⟨now, later⟩
        refine ⟨now, fun x taken => ?_⟩
        obtain ⟨t, stepped, rfl⟩ := recorded_eq_some.mp taken
        exact (ih _).mpr (later t stepped)

/-- When steps that meet `C` preserve `Inv` and meet `D`, a run of such steps keeps all that `Inv` gives
and meets `D` throughout. -/
theorem always_and_meets_of_meets {Inv P : σ → Prop} {C D : σ → ε → Prop}
    (preserves : ∀ s e s', Inv s → C s e → step s e = some s' → Inv s' ∧ D s e)
    (gives : ∀ s, Inv s → P s) {s : σ} {es : List ε} (inv : Inv s) (meets : Meets step C s es) :
    Always step P s es ∧ Meets step D s es := by
  induction es generalizing s with
  | nil => exact ⟨gives s inv, trivial⟩
  | cons e es ih =>
      have each : ∀ t, step s e = some t → (Always step P t es ∧ Meets step D t es) ∧ D s e := by
        intro t taken
        obtain ⟨ok, later⟩ := meets t taken
        obtain ⟨now, asked⟩ := preserves s e t inv ok taken
        exact ⟨ih now later, asked⟩
      exact ⟨⟨gives s inv, fun t taken => (each t taken).1.1⟩,
        fun t taken => ⟨(each t taken).2, (each t taken).1.2⟩⟩

theorem always_of_meets {Inv P : σ → Prop} {C : σ → ε → Prop}
    (preserves : ∀ s e s', Inv s → C s e → step s e = some s' → Inv s')
    (gives : ∀ s, Inv s → P s) {s : σ} {es : List ε} (inv : Inv s) (meets : Meets step C s es) :
    Always step P s es :=
  (@always_and_meets_of_meets _ _ step Inv P C (fun _ _ => True)
    (fun s e t now ok taken => ⟨preserves s e t now ok taken, trivial⟩) gives s es inv meets).1

theorem meets_append {C : σ → ε → Prop} {s : σ} {es fs : List ε} (h : Meets step C s es)
    (h' : ∀ t, run step s es = some t → Meets step C t fs) : Meets step C s (es ++ fs) := by
  induction es generalizing s with
  | nil => exact h' s rfl
  | cons e es ih =>
      intro s' taken
      obtain ⟨ok, later⟩ := h s' taken
      exact ⟨ok, ih later fun t rest => h' t (run_cons.mpr ⟨s', taken, rest⟩)⟩

/-- `Meets` is about exactly the steps that the run takes after its prefixes. -/
theorem meets_iff_splits {C : σ → ε → Prop} {s : σ} {es : List ε} :
    Meets step C s es ↔ ∀ before e after, es = before ++ e :: after →
      ∀ t t', run step s before = some t → step t e = some t' → C t e := by
  induction es generalizing s with
  | nil =>
      refine iff_of_true trivial fun before e after split => ?_
      cases before <;> cases split
  | cons e es ih =>
      constructor
      · intro meets before e' after split t t' ran taken
        cases before with
        | nil =>
            cases split
            cases ran
            exact (meets t' taken).1
        | cons f before =>
            obtain ⟨rfl, tail⟩ := List.cons.inj split
            obtain ⟨u, first, rest⟩ := run_cons.mp ran
            exact ih.mp (meets u first).2 before e' after tail t t' rest taken
      · intro each u taken
        refine ⟨each [] e es rfl s u rfl taken, ih.mpr ?_⟩
        intro before e' after split t t' ran later
        exact each (e :: before) e' after (congrArg (e :: ·) split) t t' (run_cons.mpr ⟨u, taken, ran⟩) later

/-- Where `C` gives `D` in every state that is reached, a run that meets `C` meets `D`. -/
theorem meets_imp {Inv : σ → Prop} {C D : σ → ε → Prop}
    (preserves : ∀ s e s', Inv s → step s e = some s' → Inv s')
    (gives : ∀ s e, Inv s → C s e → D s e) {s : σ} {es : List ε} (inv : Inv s)
    (meets : Meets step C s es) : Meets step D s es := by
  induction es generalizing s with
  | nil => trivial
  | cons e es ih =>
      intro t taken
      obtain ⟨ok, later⟩ := meets t taken
      exact ⟨gives s e inv ok, ih (preserves s e t inv taken) later⟩

/-- `Always` is about exactly the states that the prefixes of the run reach. -/
theorem always_iff_prefixes {P : σ → Prop} {s : σ} {es : List ε} :
    Always step P s es ↔ ∀ fs, fs <+: es → ∀ t, run step s fs = some t → P t := by
  induction es generalizing s with
  | nil =>
      constructor
      · intro h fs pre t ht
        obtain rfl := List.prefix_nil.mp pre
        cases ht
        exact h
      · intro h
        exact h [] List.nil_prefix s rfl
  | cons e es ih =>
      constructor
      · rintro ⟨now, later⟩ fs pre t ht
        cases fs with
        | nil => cases ht; exact now
        | cons f fs =>
            obtain ⟨rfl, tail⟩ := List.cons_prefix_cons.mp pre
            obtain ⟨u, taken, rest⟩ := run_cons.mp ht
            exact ih.mp (later u taken) fs tail t rest
      · intro h
        refine ⟨h [] List.nil_prefix s rfl, fun u taken => ih.mpr ?_⟩
        intro fs tail t ht
        exact h (e :: fs) (List.cons_prefix_cons.mpr ⟨rfl, tail⟩) t (run_cons.mpr ⟨u, taken, ht⟩)

/-- When `P` is lost for good by exactly the steps that do not meet `C`, the last state of a run
tells whether all its steps met `C`. -/
theorem last_iff_meets {Inv P : σ → Prop} {C : σ → ε → Prop}
    (preserves : ∀ s e s', Inv s → step s e = some s' → Inv s')
    (exact_step : ∀ s e s', Inv s → step s e = some s' → (P s' ↔ P s ∧ C s e))
    {s s' : σ} {es : List ε} (inv : Inv s) (h : run step s es = some s') :
    P s' ↔ P s ∧ Meets step C s es := by
  induction es generalizing s with
  | nil =>
      cases h
      exact ⟨fun now => ⟨now, trivial⟩, fun now => now.1⟩
  | cons e es ih =>
      obtain ⟨t, taken, rest⟩ := run_cons.mp h
      rw [ih (preserves s e t inv taken) rest, exact_step s e t inv taken]
      constructor
      · rintro ⟨⟨now, ok⟩, later⟩
        refine ⟨now, fun t' taken' => ?_⟩
        obtain rfl := Option.some.inj (taken.symm.trans taken')
        exact ⟨ok, later⟩
      · rintro ⟨now, meets⟩
        obtain ⟨ok, later⟩ := meets t taken
        exact ⟨⟨now, ok⟩, later⟩

/-- When `C` says exactly which steps keep `P` and meet `D`, a run does both throughout exactly
when all its steps meet `C`. `Inv` collects what holds in any case. -/
theorem always_and_meets_iff {Inv P : σ → Prop} {C D : σ → ε → Prop}
    (preserves : ∀ s e s', Inv s → step s e = some s' → Inv s')
    (exact_step : ∀ s e s', Inv s → P s → step s e = some s' → (P s' ∧ D s e ↔ C s e))
    {s : σ} {es : List ε} (inv : Inv s) (start : P s) :
    Always step P s es ∧ Meets step D s es ↔ Meets step C s es := by
  constructor
  · intro both
    induction es generalizing s with
    | nil => trivial
    | cons e es ih =>
        obtain ⟨⟨_, later⟩, asked⟩ := both
        intro t taken
        have now : P t := always_head (later t taken)
        obtain ⟨answered, rest⟩ := asked t taken
        exact ⟨(exact_step s e t inv start taken).mp ⟨now, answered⟩,
          ih (preserves s e t inv taken) now ⟨later t taken, rest⟩⟩
  · have both : Inv s ∧ P s := ⟨inv, start⟩
    refine @always_and_meets_of_meets _ _ _ (fun s => Inv s ∧ P s) _ _ _ (fun s e t now ok taken => ?_)
      (fun _ now => now.2) s es both
    obtain ⟨kept, answered⟩ := (exact_step s e t now.1 now.2 taken).mpr ok
    exact ⟨⟨preserves s e t now.1 taken, kept⟩, answered⟩

theorem meets_true {s : σ} {es : List ε} : Meets step (fun _ _ => True) s es := by
  induction es generalizing s with
  | nil => trivial
  | cons e es ih => exact fun t _ => ⟨trivial, ih⟩

/-- When `C` says exactly which steps keep `P`, a run keeps `P` throughout
exactly when all its steps meet `C`. -/
theorem always_iff_meets {Inv P : σ → Prop} {C : σ → ε → Prop}
    (preserves : ∀ s e s', Inv s → step s e = some s' → Inv s')
    (exact_step : ∀ s e s', Inv s → P s → step s e = some s' → (P s' ↔ C s e))
    {s : σ} {es : List ε} (inv : Inv s) (start : P s) :
    Always step P s es ↔ Meets step C s es := by
  have both := @always_and_meets_iff _ _ step Inv P C (fun _ _ => True) preserves
    (fun s e t now kept taken => by rw [and_true]; exact exact_step s e t now kept taken) s es inv start
  rw [← both, and_iff_left meets_true]

end Runs
