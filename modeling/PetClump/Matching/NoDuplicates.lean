import PetClump.Matching.Downloader

/-! # No pet twice in the match list

Two runs of the callback that load the same page list its pets twice. A page that
is fresh when it comes, with no other page still waiting, keeps the list free of
duplicates.
-/

namespace PetClump.Matching

open Runs

variable {c : Setting} {α : Type} {s s' : State α}

/-- When a page with an eligible pet on it comes, the cursor is where the query started and no
other page waits for its owners. -/
def FreshPage (c : Setting) (s : State α) : Event α → Prop
  | .page k => ∀ a ∈ (s.asked[k]?).toList, c.validDocuments a ≠ [] →
      a.cursor = s.petProfileQuery ∧ ∀ l ∈ s.loaded, l.waiting = []
  | _ => True

instance (s : State α) : ∀ e, Decidable (FreshPage c s e)
  | .page k => inferInstanceAs (Decidable (∀ a ∈ (s.asked[k]?).toList, c.validDocuments a ≠ [] →
      a.cursor = s.petProfileQuery ∧ ∀ l ∈ s.loaded, l.waiting = []))
  | .downloadMore | .read _ | .opened _ | .changed _ | .owner .. => .isTrue trivial

/-- A page that waits for its owners is the one at the cursor. -/
structure Active (c : Setting) (cursor : Option String) (l : Loaded α) : Prop where
  ends : (Paging.page c.pets cursor c.downloadLimit).getLast? = some l.lastVisible
  valid : l.validDocument.Sublist (Paging.page c.pets cursor c.downloadLimit)
  collected : (l.waiting ++ ids l.profiles).Perm l.validDocument

structure Orderly (c : Setting) (s : State α) : Prop where
  distinct : s.Distinct
  passed : ∀ id ∈ ids s.toAppend, id ∉ Paging.after c.pets s.petProfileQuery
  active : ∀ (k : ℕ) (l : Loaded α), s.loaded[k]? = some l → l.waiting ≠ [] →
    Active c s.petProfileQuery l
  alone : ∀ (k k' : ℕ) (l l' : Loaded α), s.loaded[k]? = some l → s.loaded[k']? = some l' →
    l.waiting ≠ [] → l'.waiting ≠ [] → k = k'

theorem ids_append (xs ys : List (MatchingProfile α)) : ids (xs ++ ys) = ids xs ++ ids ys :=
  List.map_append

theorem orderly_initial : Orderly c (State.initial α) where
  distinct := List.nodup_nil
  passed := nofun
  active := nofun
  alone := nofun

/-- Only the list, the cursor and the loaded pages matter. -/
theorem Orderly.of_eq (inv : Orderly c s) (list : s'.toAppend = s.toAppend)
    (cursor : s'.petProfileQuery = s.petProfileQuery) (loaded : s'.loaded = s.loaded) :
    Orderly c s' where
  distinct := by rw [State.Distinct, list]; exact inv.distinct
  passed := by rw [list, cursor]; exact inv.passed
  active := by rw [cursor, loaded]; exact inv.active
  alone := by rw [loaded]; exact inv.alone

theorem active_of_asked {a : Asked} {lastVisible : String}
    (ends : (c.page a).getLast? = some lastVisible) :
    Active c a.cursor (⟨lastVisible, c.validDocuments a, c.validDocuments a, []⟩ : Loaded α) where
  ends := ends
  valid := List.filter_sublist
  collected := by simp [ids]

theorem getElem?_append_cases {loaded : List (Loaded α)} {k : ℕ} {l found : Loaded α}
    (at_k : (loaded ++ [l])[k]? = some found) :
    loaded[k]? = some found ∨ (k = loaded.length ∧ found = l) := by
  rw [List.getElem?_append] at at_k
  split at at_k
  · exact .inl at_k
  · rw [List.getElem?_singleton] at at_k
    split at at_k
    · cases at_k
      exact .inr ⟨by omega, rfl⟩
    · cases at_k

/-- The other pages are left alone when one is updated. -/
theorem getElem?_set_cases {loaded : List (Loaded α)} {k k' : ℕ} {l found : Loaded α}
    (at_k' : (loaded.set k l)[k']? = some found) :
    (k' = k ∧ found = l) ∨ (k' ≠ k ∧ loaded[k']? = some found) := by
  rw [List.getElem?_set] at at_k'
  split at at_k'
  · rename_i same
    split at at_k'
    · cases at_k'
      exact .inl ⟨same.symm, rfl⟩
    · cases at_k'
  · rename_i other
    exact .inr ⟨fun same => other same.symm, at_k'⟩

theorem Orderly.receive (inv : Orderly c s) {a : Asked}
    (fresh : c.validDocuments a ≠ [] → a.cursor = s.petProfileQuery ∧ ∀ l ∈ s.loaded, l.waiting = []) :
    Orderly c (s.receive c a) := by
  rw [State.receive]
  cases ends : (c.page a).getLast? with
  | none => exact inv
  | some lastVisible =>
      have current : ∀ k l, (s.loaded ++ [⟨lastVisible, c.validDocuments a, c.validDocuments a, []⟩])[k]? =
          some l → l.waiting ≠ [] → s.loaded[k]? = some l ∨
            (k = s.loaded.length ∧ c.validDocuments a ≠ [] ∧
              l = ⟨lastVisible, c.validDocuments a, c.validDocuments a, []⟩) := by
        intro k l found busy
        cases getElem?_append_cases found with
        | inl old => exact .inl old
        | inr new =>
            obtain ⟨last, rfl⟩ := new
            exact .inr ⟨last, busy, rfl⟩
      refine ⟨inv.distinct, inv.passed, ?_, ?_⟩
      · intro k l found busy
        cases current k l found busy with
        | inl old => exact inv.active k l old busy
        | inr new =>
            obtain ⟨-, some_valid, rfl⟩ := new
            exact (fresh some_valid).1 ▸ active_of_asked ends
      · intro k k' l l' found found' busy busy'
        cases current k l found busy with
        | inl old =>
            cases current k' l' found' busy' with
            | inl old' => exact inv.alone k k' l l' old old' busy busy'
            | inr new' => exact absurd ((fresh new'.2.1).2 l (List.mem_of_getElem? old)) busy
        | inr new =>
            cases current k' l' found' busy' with
            | inl old' => exact absurd ((fresh new.2.1).2 l' (List.mem_of_getElem? old')) busy'
            | inr new' => exact new.1.trans new'.1.symm

/-- One of the waiting owners is downloaded. -/
theorem Active.owner {cursor : Option String} {l : Loaded α} (active : Active c cursor l) {i : ℕ}
    {petId : String} (waits : l.waiting[i]? = some petId) (percent : α) :
    Active c cursor { l with
      waiting := l.waiting.eraseIdx i
      profiles := l.profiles ++ [⟨petId, percent⟩] } where
  ends := active.ends
  valid := active.valid
  collected := by
    obtain ⟨bound, rfl⟩ := List.getElem?_eq_some_iff.mp waits
    have moved := (List.getElem_cons_eraseIdx_perm bound).append_right (ids l.profiles)
    refine List.Perm.trans ?_ (moved.trans active.collected)
    rw [ids_append, ← List.append_assoc]
    exact List.perm_append_comm

/-- A page is complete when as many profiles have come as it has eligible pets, which is when
no owner is waited for. -/
theorem Active.waiting_eq_nil {cursor : Option String} {l : Loaded α} (active : Active c cursor l)
    (complete : l.validDocument.length ≤ l.profiles.length) : l.waiting = [] := by
  have lengths := active.collected.length_eq
  rw [List.length_append, ids, List.length_map] at lengths
  exact List.eq_nil_of_length_eq_zero (by omega)

theorem Orderly.update (inv : Orderly c s) {k : ℕ} {old l : Loaded α} (here : s.loaded[k]? = some old)
    (busy : old.waiting ≠ []) (active : Active c s.petProfileQuery l) :
    Orderly c { s with loaded := s.loaded.set k l } where
  distinct := inv.distinct
  passed := inv.passed
  active := by
    intro k' found at_k' waits
    cases getElem?_set_cases at_k' with
    | inl same => exact same.2 ▸ active
    | inr other => exact inv.active k' found other.2 waits
  alone := by
    have only : ∀ (k' : ℕ) (found : Loaded α), (s.loaded.set k l)[k']? = some found →
        found.waiting ≠ [] → k' = k := by
      intro k' found at_k' waits
      cases getElem?_set_cases at_k' with
      | inl same => exact same.1
      | inr other => exact inv.alone k' k found old other.2 here waits busy
    intro k' k'' found found' at_k' at_k'' waits waits'
    exact (only k' found at_k' waits).trans (only k'' found' at_k'' waits').symm

variable [LE α] [DecidableLE α]

theorem ids_sort (profiles : List (MatchingProfile α)) : (ids (sort profiles)).Perm (ids profiles) :=
  (List.perm_insertionSort _ profiles).map MatchingProfile.petId

theorem Orderly.complete (inv : Orderly c s) {k : ℕ} {old l : Loaded α} (here : s.loaded[k]? = some old)
    (busy : old.waiting ≠ []) (active : Active c s.petProfileQuery l)
    (complete : l.validDocument.length ≤ l.profiles.length) :
    Orderly c { s with
      petProfileQuery := some l.lastVisible
      toAppend := s.toAppend ++ sort l.profiles
      loaded := s.loaded.set k { l with profiles := [] } } := by
  have finished := active.waiting_eq_nil complete
  have left : Paging.after c.pets (some l.lastVisible) =
      (Paging.after c.pets s.petProfileQuery).drop c.downloadLimit :=
    Paging.after_last c.distinct active.ends
  have listed : (ids (sort l.profiles)).Perm l.validDocument := by
    have collected := active.collected
    rw [finished, List.nil_append] at collected
    exact (ids_sort l.profiles).trans collected
  have onPage : ∀ id ∈ ids (sort l.profiles),
      id ∈ Paging.page c.pets s.petProfileQuery c.downloadLimit :=
    fun id mem => active.valid.subset (listed.mem_iff.mp mem)
  -- the only download that waited has come to its end
  have settled : ∀ (k' : ℕ) (found : Loaded α), (s.loaded.set k { l with profiles := [] })[k']? = some found →
      found.waiting ≠ [] → False := by
    intro k' found at_k' waits
    cases getElem?_set_cases at_k' with
    | inl same =>
        obtain ⟨-, rfl⟩ := same
        exact waits finished
    | inr other => exact other.1 (inv.alone k' k found old other.2 here waits busy)
  refine ⟨?_, ?_, ?_, ?_⟩
  · rw [State.Distinct, ids_append]
    refine List.nodup_append.mpr ⟨inv.distinct, ?_, ?_⟩
    · have page : (Paging.page c.pets s.petProfileQuery c.downloadLimit).Nodup :=
        c.distinct.sublist ((List.take_sublist _ _).trans (Paging.after_suffix _).sublist)
      exact listed.nodup_iff.mpr (page.sublist active.valid)
    · rintro id mem _ mem' rfl
      exact inv.passed id mem (Paging.page_subset (onPage id mem'))
  · intro id mem
    rw [ids_append] at mem
    rw [left]
    cases List.mem_append.mp mem with
    | inl before => exact fun later => inv.passed id before (List.mem_of_mem_drop later)
    | inr now => exact Paging.notMem_drop_of_mem_page c.distinct (onPage id now)
  · intro k' found at_k' waits
    exact (settled k' found at_k' waits).elim
  · intro k' _ found _ at_k' _ waits _
    exact (settled k' found at_k' waits).elim

theorem Orderly.inserted (inv : Orderly c s) {k : ℕ} {old l : Loaded α} (here : s.loaded[k]? = some old)
    (busy : old.waiting ≠ []) (active : Active c s.petProfileQuery l) : Orderly c (s.inserted k l) := by
  rw [State.inserted]
  split
  · rename_i complete
    exact inv.complete here busy active complete
  · exact inv.update here busy active

theorem orderly_step {e : Event α} (inv : Orderly c s) (fresh : FreshPage c s e)
    (taken : step c s e = some s') : Orderly c s' := by
  cases e with
  | downloadMore =>
      cases taken
      exact inv.of_eq rfl rfl rfl
  | read found =>
      simp only [step] at taken
      split_ifs at taken with none_left here
      · cases taken
        exact inv.of_eq rfl rfl rfl
      · cases taken
        exact inv.of_eq rfl rfl rfl
  | opened changes =>
      simp only [step] at taken
      split_ifs at taken with none_left
      cases taken
      exact inv.of_eq rfl rfl rfl
  | changed changes =>
      simp only [step] at taken
      split_ifs at taken with none_left
      cases taken
      exact inv.of_eq rfl rfl rfl
  | page k =>
      obtain ⟨a, asked, rfl⟩ := Option.map_eq_some_iff.mp taken
      have removed : Orderly c { s with asked := s.asked.eraseIdx k } := inv.of_eq rfl rfl rfl
      exact removed.receive (fresh a (by rw [asked]; exact List.mem_singleton_self a))
  | owner k i percent =>
      simp only [step, Option.bind_eq_bind, Option.bind_eq_some_iff, Option.pure_def,
        Option.some.injEq] at taken
      obtain ⟨l, here, petId, waits, rfl⟩ := taken
      have busy : l.waiting ≠ [] := List.ne_nil_of_mem (List.mem_of_getElem? waits)
      exact inv.inserted here busy ((inv.active k l here busy).owner waits percent)

/-- No pet is listed twice in a run whose pages are fresh. -/
theorem no_pet_twice (c : Setting) (es : List (Event α))
    (fresh : Meets (step c) (FreshPage c) (State.initial α) es) :
    Always (step c) State.Distinct (State.initial α) es :=
  always_of_meets (fun _ _ _ => orderly_step) (fun _ inv => inv.distinct) orderly_initial fresh

/-- Three strangers, a pet of the user and one that sends a request while the list is read. -/
def sampleSetting : Setting := ⟨["f0", "u0", "v0", "w0", "x0"], by decide, 2, "u"⟩

/-- The first page has only pets that are left out, so it is asked for again. -/
def samplePages : List (Event ℕ) :=
  [.downloadMore, .read true, .opened [⟨.added, "f0", "friending"⟩], .page 0,
    .changed [⟨.removed, "f0", "friending"⟩], .page 0, .owner 1 0 30, .downloadMore, .read false,
    .page 0, .owner 2 1 50, .owner 2 0 40, .changed [⟨.added, "x0", "receiving"⟩], .page 0]

theorem no_pet_twice_in_pages : Always (step sampleSetting) State.Distinct (State.initial ℕ) samplePages ∧
    (run (step sampleSetting) (State.initial ℕ) samplePages).map (fun s => ids s.toAppend) =
      some ["f0", "w0", "v0"] :=
  ⟨no_pet_twice sampleSetting samplePages (by decide +kernel), by decide +kernel⟩

/-- A friend record changes while the first page is loaded, and the page is loaded again. -/
theorem pet_listed_twice : ¬ ∀ (c : Setting) (es : List (Event ℕ)),
    Always (step c) State.Distinct (State.initial ℕ) es := by
  intro claim
  have trace : (run (step ⟨["x0"], by decide, 30, "u"⟩) (State.initial ℕ)
      [.downloadMore, .read true, .opened [⟨.added, "f0", "sending"⟩],
        .changed [⟨.modified, "f0", "friending"⟩], .page 0, .page 0, .owner 0 0 30,
        .owner 1 0 30]).map (fun s => decide s.Distinct) = some false := by
    decide +kernel
  obtain ⟨s, reached, twice⟩ := Option.map_eq_some_iff.mp trace
  exact of_decide_eq_false twice
    (always_iff_prefixes.mp (claim _ _) _ (List.prefix_refl _) s reached)

end PetClump.Matching
