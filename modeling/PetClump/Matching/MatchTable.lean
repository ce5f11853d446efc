import Mathlib.Algebra.Order.Floor.Ring
import Mathlib.Data.Rat.Floor
import PetClump.Library.Paging
import PetClump.Matching.MatchBest

/-! # The table of best matches on iOS

Two matches share a row, and more are downloaded when the row is displayed whose number is
half the number of matches. An even number of matches has no such row. The collection and
the friends stay as they are here, so that a listener gets its page once.
-/

namespace PetClump.Matching.IOS

open Runs

/-- The pets in the order of a query, the page size, the user, and who is a friend -/
structure Collection where
  pets : List PetId
  distinct : pets.Nodup
  downloadLimit : ℕ
  uid : String
  friends : PetId → Bool

namespace Collection

variable (c : Collection)

def page (query : Option PetId) : List PetId := Paging.page c.pets query c.downloadLimit

/-- The pets that are not the user's or a friend's -/
def Stranger (pet : PetId) : Prop := pet.ownerId ≠ c.uid ∧ c.friends pet = false

instance : DecidablePred c.Stranger := fun _ => inferInstanceAs (Decidable (_ ∧ _))

def strangers (documents : List PetId) : List PetId := IOS.strangers c.uid c.friends documents

/-- The `k`-th page of the collection -/
def chunk (k : ℕ) : List PetId := (c.pets.drop (k * c.downloadLimit)).take c.downloadLimit

end Collection

/-- `listeners` have the queries whose pages have not come yet. -/
structure MatchBestVC (α : Type) where
  list : State α
  listeners : List (Option PetId)

namespace MatchBestVC

variable {α : Type}

def downloadMore (s : MatchBestVC α) : MatchBestVC α := { s with listeners := s.listeners ++ [s.list.query] }

def viewDidLoad (α : Type) : MatchBestVC α := downloadMore ⟨State.initial α, []⟩

def numberOfRows (s : MatchBestVC α) : ℕ := ⌈(s.list.element.length : ℚ) / 2⌉.toNat

def willDisplay (s : MatchBestVC α) (row : ℕ) : MatchBestVC α :=
  let last := s.list.element.length / 2
  if row = last then s.downloadMore else s

end MatchBestVC

inductive TableEvent (α : Type) where
  | willDisplay (row : ℕ)
  /-- the page comes that a listener waits for -/
  | page (listener : ℕ)
  | callback (e : Event α)

variable {α : Type} [LinearOrder α]

def tableStep (c : Collection) (s : MatchBestVC α) : TableEvent α → Option (MatchBestVC α)
  | .willDisplay row => if row < s.numberOfRows then some (s.willDisplay row) else none
  | .page k => do
      let query ← s.listeners[k]?
      let list ← step c.uid (fun _ => c.friends) s.list (.snapshot (c.page query))
      some ⟨list, s.listeners.eraseIdx k⟩
  | .callback (.snapshot _) => none
  | .callback e => (step c.uid (fun _ => c.friends) s.list e).map (⟨·, s.listeners⟩)

section Pages

variable {c : Collection} {k : ℕ}

omit [LinearOrder α] in
theorem numberOfRows_eq (s : MatchBestVC α) : s.numberOfRows = (s.list.element.length + 1) / 2 := by
  have rows := Rat.ceil_natCast_div_natCast s.list.element.length 2
  rw [Nat.cast_ofNat] at rows
  unfold MatchBestVC.numberOfRows
  rw [rows]
  omega

omit [LinearOrder α] in
/-- The last row of an odd number of matches is the only one that asks for more. -/
theorem asks_iff {s : MatchBestVC α} {row : ℕ} (displayed : row < s.numberOfRows) :
    row = s.list.element.length / 2 → Odd s.list.element.length := by
  intro last
  rw [numberOfRows_eq] at displayed
  rw [Nat.odd_iff]
  omega

theorem strangers_eq_filter (c : Collection) (documents : List PetId) :
    c.strangers documents = documents.filter fun pet => decide (c.Stranger pet) := by
  refine List.filter_congr fun pet _ => ?_
  rw [Bool.eq_iff_iff, decide_eq_true_eq]
  simp [Collection.Stranger]

theorem strangers_append (c : Collection) (first second : List PetId) :
    c.strangers (first ++ second) = c.strangers first ++ c.strangers second :=
  List.filter_append ..

theorem mem_strangers {documents : List PetId} {pet : PetId} :
    pet ∈ c.strangers documents ↔ pet ∈ documents ∧ c.Stranger pet := by
  rw [strangers_eq_filter, List.mem_filter, decide_eq_true_eq]

/-- The pages up to the `k`-th -/
theorem flatMap_chunks (c : Collection) (k : ℕ) :
    (List.range k).flatMap (fun i => c.strangers (c.chunk i)) = c.strangers (c.pets.take (k * c.downloadLimit)) := by
  induction k with
  | zero => simp [Collection.strangers, IOS.strangers]
  | succ k ih =>
      rw [List.range_succ, List.flatMap_append, ih, Paging.take_succ_mul, strangers_append,
        List.flatMap_singleton, Collection.chunk]

/-- The query starts with the `k`-th page. -/
def AtPage (c : Collection) (query : Option PetId) (k : ℕ) : Prop :=
  Paging.after c.pets query = c.pets.drop (k * c.downloadLimit)

theorem page_eq {query : Option PetId} (here : AtPage c query k) : c.page query = c.chunk k := by
  unfold Collection.page Collection.chunk Paging.page
  rw [here]

theorem atPage_next {query : Option PetId} {last : PetId} (here : AtPage c query k)
    (ends : (c.page query).getLast? = some last) : AtPage c (some last) (k + 1) := by
  unfold AtPage
  rw [Paging.after_last c.distinct ends, here, List.drop_drop, Nat.succ_mul]

end Pages

section Earned

variable {c : Collection} {s s' : MatchBestVC α} {done : List ℕ}

/-- What has to come before the `k`-th page is asked for: all pages before it are listed, and the
number of matches was odd, unless some are listed twice. -/
structure Earned (c : Collection) (done : List ℕ) (distinct : Prop) (k : ℕ) : Prop where
  before : ∀ i < k, i ∈ done
  odd : distinct → ∀ i, k = i + 1 → Odd (c.strangers (c.pets.take (k * c.downloadLimit))).length

/-- A page that waits for its checks and owners -/
def Loading (c : Collection) (k : ℕ) (d : Delivery α) : Prop :=
  AtPage c (some d.last) (k + 1) ∧ Counted c.uid c.friends (c.chunk k) d

/-- `done` has the pages that are listed, each as often as it is. -/
structure Paged (c : Collection) (done : List ℕ) (s : MatchBestVC α) : Prop where
  listed : (pets s.list.element).Perm (done.flatMap fun k => c.strangers (c.chunk k))
  some_stranger : ∀ k ∈ done, c.strangers (c.chunk k) ≠ []
  earned : ∀ k ∈ done, Earned c done (pets s.list.element).Nodup k
  query : ∃ k, AtPage c s.list.query k ∧ ∀ i < k, i ∈ done
  listeners : ∀ query ∈ s.listeners, ∃ k, AtPage c query k ∧ Earned c done (pets s.list.element).Nodup k
  deliveries : ∀ d ∈ s.list.deliveries, ∃ k, Loading c k d ∧ Earned c done (pets s.list.element).Nodup k

theorem Earned.mono {done' : List ℕ} {distinct distinct' : Prop} {k : ℕ} (earned : Earned c done distinct k)
    (more : done ⊆ done') (less : distinct' → distinct) : Earned c done' distinct' k where
  before := fun i before => more (earned.before i before)
  odd := fun still => earned.odd (less still)

omit [LinearOrder α] in
theorem paged_start : Paged c [] (MatchBestVC.viewDidLoad α) where
  listed := .refl _
  some_stranger := by simp
  earned := by simp
  query :=
    ⟨0, by simp [AtPage, MatchBestVC.viewDidLoad, MatchBestVC.downloadMore, State.initial, Paging.after], by simp⟩
  listeners := by
    intro query mem
    obtain rfl : query = none := by simpa [MatchBestVC.viewDidLoad, MatchBestVC.downloadMore, State.initial] using mem
    exact ⟨0, by simp [AtPage, Paging.after], by simp, fun _ i next => absurd next (by omega)⟩
  deliveries := by simp [MatchBestVC.viewDidLoad, MatchBestVC.downloadMore, State.initial]

omit [LinearOrder α] in
/-- Without duplicates on the list every page is there once. -/
theorem nodup_done (paged : Paged c done s) (distinct : (pets s.list.element).Nodup) : done.Nodup := by
  have parts := (List.nodup_flatMap.mp (paged.listed.nodup_iff.mp distinct)).2
  refine parts.imp_of_mem fun {i j} mem _ disjoint same => ?_
  obtain ⟨pet, here⟩ := List.exists_mem_of_ne_nil _ (paged.some_stranger i mem)
  exact disjoint here (same ▸ here)

omit [LinearOrder α] in
/-- A call is made for a page that is earned. -/
theorem Paged.earns (paged : Paged c done s) {k : ℕ} (before : ∀ i < k, i ∈ done)
    (odd : Odd s.list.element.length) : Earned c done (pets s.list.element).Nodup k := by
  refine ⟨before, fun distinct i next => ?_⟩
  by_cases later : ∃ j ∈ done, k ≤ j
  · -- the page is listed already
    obtain ⟨j, mem, le⟩ := later
    have known : k ∈ done := by
      rcases Nat.eq_or_lt_of_le le with same | less
      · exact same ▸ mem
      · exact (paged.earned j mem).before k less
    exact (paged.earned k known).odd distinct i next
  · have same : done.Perm (List.range k) := by
      rw [List.perm_ext_iff_of_nodup (nodup_done paged distinct) List.nodup_range]
      intro j
      rw [List.mem_range]
      exact ⟨fun mem => Nat.lt_of_not_le fun le => later ⟨j, mem, le⟩, before j⟩
    have lengths := (paged.listed.trans (same.flatMap_right _)).length_eq
    rw [flatMap_chunks, pets, List.length_map] at lengths
    rwa [← lengths]

omit [LinearOrder α] in
/-- Nothing is listed, and listeners may have got their pages. -/
theorem Paged.update (paged : Paged c done s) (element : s'.list.element = s.list.element)
    (query : s'.list.query = s.list.query) (listeners : s'.listeners ⊆ s.listeners)
    (deliveries : ∀ d ∈ s'.list.deliveries, ∃ k, Loading c k d ∧ Earned c done (pets s.list.element).Nodup k) :
    Paged c done s' where
  listed := element ▸ paged.listed
  some_stranger := paged.some_stranger
  earned := element ▸ paged.earned
  query := query ▸ paged.query
  listeners := element ▸ fun query mem => paged.listeners query (listeners mem)
  deliveries := element ▸ deliveries

omit [LinearOrder α] in
theorem loading_receive {k : ℕ} {query : Option PetId} {last : PetId} (here : AtPage c query k)
    (ends : (c.page query).getLast? = some last) : Loading c k (receive c.uid last (c.page query) : Delivery α) := by
  refine ⟨?_, page_eq here ▸ counted_receive last⟩
  have same : (receive c.uid last (c.page query) : Delivery α).last = last := by rw [receive, foldl_documents]
  exact same.symm ▸ atPage_next here ends

omit [LinearOrder α] in
theorem Loading.checked {k i : ℕ} {d : Delivery α} {pet : PetId} (loading : Loading c k d)
    (waits : d.checks[i]? = some pet) :
    Loading c k ({ d with checks := d.checks.eraseIdx i }.checked c.friends pet) := by
  refine ⟨?_, loading.2.checked waits⟩
  unfold Delivery.checked
  split
  · exact loading.1
  · exact loading.1

omit [LinearOrder α] in
theorem Loading.owner {k i : ℕ} {d : Delivery α} {pet : PetId} (loading : Loading c k d)
    (waits : d.owners[i]? = some pet) (percent : α) :
    Loading c k { d with owners := d.owners.eraseIdx i, toSort := d.toSort ++ [⟨pet, percent⟩] } :=
  ⟨loading.1, loading.2.owner waits percent⟩

theorem Loading.collected {k : ℕ} {d : Delivery α} (loading : Loading c k d) (finished : d.Finished) :
    (pets (sort d.toSort)).Perm (c.strangers (c.chunk k)) := by
  have collected := loading.2.sort.collected
  rw [finished.1, finished.2, List.filter_nil, List.append_nil, List.append_nil] at collected
  exact collected

/-- The last owner of a page is downloaded. -/
theorem Paged.complete (paged : Paged c done s) {k n : ℕ} {d : Delivery α} (loading : Loading c k d)
    (earned : Earned c done (pets s.list.element).Nodup k) (finished : d.Finished) (some_match : d.toSort ≠ []) :
    Paged c (done ++ [k]) { s with list := { s.list with
      element := s.list.element ++ sort d.toSort
      query := some d.last
      deliveries := s.list.deliveries.set n { d with toSort := sort d.toSort } } } := by
  have collected := loading.collected finished
  have more : done ⊆ done ++ [k] := List.subset_append_left _ _
  have grown : pets (s.list.element ++ sort d.toSort) = pets s.list.element ++ pets (sort d.toSort) := List.map_append
  have less : (pets (s.list.element ++ sort d.toSort)).Nodup → (pets s.list.element).Nodup := by
    rw [grown]
    exact List.Nodup.of_append_left
  refine ⟨?_, ?_, ?_, ?_, ?_, ?_⟩
  · rw [List.flatMap_append, List.flatMap_singleton]
    exact grown ▸ paged.listed.append collected
  · refine List.forall_mem_append.mpr ⟨paged.some_stranger, List.forall_mem_singleton.mpr fun none_left => ?_⟩
    have lengths := collected.length_eq
    rw [pets, List.length_map, sort, List.length_insertionSort, none_left, List.length_nil] at lengths
    exact some_match (List.eq_nil_of_length_eq_zero lengths)
  · refine List.forall_mem_append.mpr ⟨fun j mem => (paged.earned j mem).mono more less, ?_⟩
    exact List.forall_mem_singleton.mpr (earned.mono more less)
  · refine ⟨k + 1, loading.1, fun i before => ?_⟩
    rw [List.mem_append, List.mem_singleton]
    exact (Nat.lt_succ_iff_lt_or_eq.mp before).imp_left (earned.before i)
  · intro query mem
    obtain ⟨j, here, earned⟩ := paged.listeners query mem
    exact ⟨j, here, earned.mono more less⟩
  · intro d' mem
    rcases List.mem_or_eq_of_mem_set mem with old | rfl
    · obtain ⟨j, here, earned⟩ := paged.deliveries d' old
      exact ⟨j, here, earned.mono more less⟩
    · exact ⟨k, ⟨loading.1, loading.2.sort⟩, earned.mono more less⟩

theorem Paged.step {e : TableEvent α} (paged : Paged c done s) (taken : tableStep c s e = some s') :
    ∃ done', Paged c done' s' := by
  cases e with
  | willDisplay row =>
      obtain ⟨displayed, ⟨⟩⟩ := Option.ite_none_right_eq_some.mp taken
      unfold MatchBestVC.willDisplay
      dsimp only
      split
      · rename_i last
        obtain ⟨k, here, before⟩ := paged.query
        refine ⟨done, paged.listed, paged.some_stranger, paged.earned, paged.query, ?_, paged.deliveries⟩
        refine List.forall_mem_append.mpr ⟨paged.listeners, List.forall_mem_singleton.mpr ?_⟩
        exact ⟨k, here, paged.earns before (asks_iff displayed last)⟩
      · exact ⟨done, paged⟩
  | page k =>
      simp only [tableStep, Option.bind_eq_bind, Option.bind_eq_some_iff, Option.some.injEq] at taken
      obtain ⟨query, waits, list, stepped, rfl⟩ := taken
      have fewer : s.listeners.eraseIdx k ⊆ s.listeners := fun _ => List.mem_of_mem_eraseIdx
      simp only [IOS.step] at stepped
      split at stepped
      · cases stepped
        exact ⟨done, paged.update rfl rfl fewer paged.deliveries⟩
      · rename_i last ends
        cases stepped
        obtain ⟨j, here, earned⟩ := paged.listeners query (List.mem_of_getElem? waits)
        refine ⟨done, paged.update rfl rfl fewer (List.forall_mem_append.mpr ⟨paged.deliveries, ?_⟩)⟩
        exact List.forall_mem_singleton.mpr ⟨j, loading_receive here ends, earned⟩
  | callback e =>
      cases e with
      | snapshot documents => cases taken
      | checked n i =>
          obtain ⟨list, stepped, rfl⟩ := Option.map_eq_some_iff.mp taken
          simp only [IOS.step, Option.bind_eq_bind, Option.bind_eq_some_iff, Option.pure_def,
            Option.some.injEq] at stepped
          obtain ⟨d, at_n, pet, waits, rfl⟩ := stepped
          obtain ⟨j, loading, earned⟩ := paged.deliveries d (List.mem_of_getElem? at_n)
          refine ⟨done, paged.update rfl rfl (List.Subset.refl _) fun d' mem => ?_⟩
          rcases List.mem_or_eq_of_mem_set mem with old | rfl
          · exact paged.deliveries d' old
          · exact ⟨j, loading.checked waits, earned⟩
      | owner n i percent =>
          obtain ⟨list, stepped, rfl⟩ := Option.map_eq_some_iff.mp taken
          simp only [IOS.step, Option.bind_eq_bind, Option.bind_eq_some_iff, Option.pure_def,
            Option.some.injEq] at stepped
          obtain ⟨d, at_n, pet, waits, rfl⟩ := stepped
          obtain ⟨j, loading, earned⟩ := paged.deliveries d (List.mem_of_getElem? at_n)
          have next := loading.owner waits percent
          unfold State.append
          dsimp only
          split
          · rename_i complete
            exact ⟨done ++ [j], paged.complete next earned (next.2.finished_iff.mp complete) (by simp)⟩
          · refine ⟨done, paged.update rfl rfl (List.Subset.refl _) fun d' mem => ?_⟩
            rcases List.mem_or_eq_of_mem_set mem with old | rfl
            · exact paged.deliveries d' old
            · exact ⟨j, next, earned⟩

theorem paged_of_run {es : List (TableEvent α)} (ran : run (tableStep c) (MatchBestVC.viewDidLoad α) es = some s) :
    ∃ done, Paged c done s := by
  refine run_invariant (fun s e s' (now : ∃ done, Paged c done s) taken => ?_) ⟨[], paged_start⟩ ran
  obtain ⟨done, paged⟩ := now
  exact paged.step taken

omit [LinearOrder α] in
/-- When the strangers are listed once each, the pages before the last of them have been earned. -/
theorem Paged.earned_of_all (paged : Paged c done s) (all : (pets s.list.element).Perm (c.strangers c.pets)) {k : ℕ}
    (later : ∃ pet ∈ c.pets.drop ((k + 1) * c.downloadLimit), c.Stranger pet) :
    (∃ pet ∈ c.chunk k, c.Stranger pet) ∧ Odd (c.strangers (c.pets.take ((k + 1) * c.downloadLimit))).length := by
  obtain ⟨pet, after, stranger⟩ := later
  have distinct : (pets s.list.element).Nodup := by
    rw [all.nodup_iff, strangers_eq_filter]
    exact c.distinct.filter _
  have listed : pet ∈ pets s.list.element :=
    all.mem_iff.mpr (mem_strangers.mpr ⟨List.mem_of_mem_drop after, stranger⟩)
  obtain ⟨j, mem, here⟩ := List.mem_flatMap.mp (paged.listed.mem_iff.mp listed)
  have beyond : k + 1 ≤ j := by
    by_contra short
    have early : pet ∈ c.pets.take ((k + 1) * c.downloadLimit) := by
      have within : (j + 1) * c.downloadLimit ≤ (k + 1) * c.downloadLimit := Nat.mul_le_mul_right _ (by omega)
      apply List.take_subset_take_left _ within
      rw [Paging.take_succ_mul]
      exact List.mem_append_right _ (mem_strangers.mp here).1
    have apart := c.distinct
    rw [← List.take_append_drop ((k + 1) * c.downloadLimit) c.pets, List.nodup_append] at apart
    exact apart.2.2 pet early pet after rfl
  have next : Earned c done (pets s.list.element).Nodup (k + 1) := by
    rcases Nat.eq_or_lt_of_le beyond with same | less
    · exact same ▸ paged.earned j mem
    · exact paged.earned (k + 1) ((paged.earned j mem).before _ less)
  refine ⟨?_, next.odd distinct k rfl⟩
  obtain ⟨first, found⟩ := List.exists_mem_of_ne_nil _ (paged.some_stranger k (next.before k (Nat.lt_succ_self k)))
  exact ⟨first, mem_strangers.mp found⟩

end Earned

section Loads

variable {c : Collection} {s : MatchBestVC α} {k n : ℕ} {d : Delivery α}

omit [LinearOrder α] in
theorem checked_frame (d : Delivery α) (friends : PetId → Bool) (pet : PetId) :
    (d.checked friends pet).checks = d.checks ∧ (d.checked friends pet).toSort = d.toSort := by
  unfold Delivery.checked
  split
  · exact ⟨rfl, rfl⟩
  · exact ⟨rfl, rfl⟩

/-- All checks of a page come back. -/
theorem run_checks (loading : Loading c k d) (here : s.list.deliveries[n]? = some d) :
    ∃ es s' d', run (tableStep c) s es = some s' ∧ s'.list.element = s.list.element ∧
      s'.listeners = s.listeners ∧ s'.list.deliveries[n]? = some d' ∧ d'.checks = [] ∧
      d'.toSort = d.toSort ∧ Loading c k d' := by
  induction left : d.checks.length generalizing s d with
  | zero => exact ⟨[], s, d, rfl, rfl, rfl, here, List.eq_nil_of_length_eq_zero left, rfl, loading⟩
  | succ m ih =>
      have bound : 0 < d.checks.length := by omega
      have waits : d.checks[0]? = some d.checks[0] := List.getElem?_eq_getElem bound
      let next := ({ d with checks := d.checks.eraseIdx 0 } : Delivery α).checked c.friends d.checks[0]
      have stepped : tableStep c s (.callback (.checked n 0)) =
          some ⟨{ s.list with deliveries := s.list.deliveries.set n next }, s.listeners⟩ := by
        simp only [tableStep, IOS.step, here, waits, Option.bind_eq_bind, Option.bind_some, Option.pure_def,
          Option.map_some]
        rfl
      have fewer : next.checks.length = m := by
        rw [(checked_frame _ _ _).1]
        dsimp only
        rw [List.length_eraseIdx_of_lt bound, left, Nat.add_sub_cancel]
      obtain ⟨es, s', d', ran, element, listeners, there, none_left, same, loading'⟩ := ih (loading.checked waits)
        (s := ⟨{ s.list with deliveries := s.list.deliveries.set n next }, s.listeners⟩)
        (List.getElem?_set_self (List.getElem?_eq_some_iff.mp here).1) fewer
      exact ⟨.callback (.checked n 0) :: es, s', d', run_cons.mpr ⟨_, stepped, ran⟩, element, listeners, there,
        none_left, same.trans (checked_frame _ _ _).2, loading'⟩

/-- All owners of a page are downloaded. -/
theorem run_owners (percent : α) (loading : Loading c k d) (here : s.list.deliveries[n]? = some d)
    (checked : d.checks = []) (busy : d.owners ≠ []) :
    ∃ es s', run (tableStep c) s es = some s' ∧ s'.listeners = s.listeners ∧ AtPage c s'.list.query (k + 1) ∧
      (pets s'.list.element).Perm (pets s.list.element ++ c.strangers (c.chunk k)) := by
  induction left : d.owners.length generalizing s d with
  | zero => exact absurd (List.eq_nil_of_length_eq_zero left) busy
  | succ m ih =>
      have bound : 0 < d.owners.length := by omega
      have waits : d.owners[0]? = some d.owners[0] := List.getElem?_eq_getElem bound
      let next : Delivery α := { d with
        owners := d.owners.eraseIdx 0
        toSort := d.toSort ++ [⟨d.owners[0], percent⟩] }
      have stepped : tableStep c s (.callback (.owner n 0 percent)) =
          some ⟨s.list.append n { d with owners := d.owners.eraseIdx 0 } ⟨d.owners[0], percent⟩,
            s.listeners⟩ := by
        simp only [tableStep, IOS.step, here, waits, Option.bind_eq_bind, Option.bind_some, Option.pure_def,
          Option.map_some]
      have loading' : Loading c k next := loading.owner waits percent
      have fewer : next.owners.length = m := by
        dsimp only [next]
        rw [List.length_eraseIdx_of_lt bound, left, Nat.add_sub_cancel]
      have complete : d.downloadSize = next.toSort.length ↔ next.Finished := loading'.2.finished_iff
      have appended : s.list.append n { d with owners := d.owners.eraseIdx 0 } ⟨d.owners[0], percent⟩ =
          if d.downloadSize = next.toSort.length then
            { element := s.list.element ++ sort next.toSort
              query := some d.last
              deliveries := s.list.deliveries.set n { next with toSort := sort next.toSort } }
          else { s.list with deliveries := s.list.deliveries.set n next } := rfl
      by_cases last : next.owners = []
      · have finished : next.Finished := ⟨checked, last⟩
        rw [appended, if_pos (complete.mpr finished)] at stepped
        refine ⟨[.callback (.owner n 0 percent)], _, run_cons.mpr ⟨_, stepped, rfl⟩, rfl, loading.1, ?_⟩
        rw [pets, List.map_append]
        exact (loading'.collected finished).append_left _
      · rw [appended, if_neg fun all => last (complete.mp all).2] at stepped
        obtain ⟨es, s', ran, rest⟩ := ih loading'
          (s := ⟨{ s.list with deliveries := s.list.deliveries.set n next }, s.listeners⟩)
          (List.getElem?_set_self (List.getElem?_eq_some_iff.mp here).1) checked last fewer
        exact ⟨.callback (.owner n 0 percent) :: es, s', run_cons.mpr ⟨_, stepped, ran⟩, rest⟩

omit [LinearOrder α] in
/-- No stranger comes after the first pages. -/
theorem strangers_all (none_left : ¬ ∃ pet ∈ c.pets.drop (k * c.downloadLimit), c.Stranger pet) :
    (c.strangers (c.pets.take (k * c.downloadLimit))).Perm (c.strangers c.pets) := by
  have rest : c.strangers (c.pets.drop (k * c.downloadLimit)) = [] := by
    apply List.eq_nil_iff_forall_not_mem.mpr
    exact fun pet mem => none_left ⟨pet, mem_strangers.mp mem⟩
  have whole := strangers_append c (c.pets.take (k * c.downloadLimit)) (c.pets.drop (k * c.downloadLimit))
  rw [List.take_append_drop, rest, List.append_nil] at whole
  exact whole ▸ .refl _

omit [LinearOrder α] in
theorem mem_drop_cases {pet : PetId} (mem : pet ∈ c.pets.drop (k * c.downloadLimit)) :
    pet ∈ c.chunk k ∨ pet ∈ c.pets.drop ((k + 1) * c.downloadLimit) := by
  rw [← List.take_append_drop c.downloadLimit (c.pets.drop _), List.drop_drop, ← Nat.succ_mul] at mem
  exact List.mem_append.mp mem

/-- The strangers of the first pages are listed once each, and a listener waits for the next page. -/
structure Ready (c : Collection) (k : ℕ) (s : MatchBestVC α) : Prop where
  listeners : ∃ query, s.listeners = [query] ∧ AtPage c query k
  listed : (pets s.list.element).Perm (c.strangers (c.pets.take (k * c.downloadLimit)))

/-- A page with a stranger is listed when its listener gets it. -/
theorem Ready.load (ready : Ready c k s) (percent : α) (some_stranger : ∃ pet ∈ c.chunk k, c.Stranger pet) :
    ∃ es s', run (tableStep c) s es = some s' ∧ s'.listeners = [] ∧ AtPage c s'.list.query (k + 1) ∧
      (pets s'.list.element).Perm (c.strangers (c.pets.take ((k + 1) * c.downloadLimit))) := by
  obtain ⟨query, waits, here⟩ := ready.listeners
  obtain ⟨pet, mem, stranger⟩ := some_stranger
  have nonempty : c.page query ≠ [] := by
    rw [page_eq here]
    exact List.ne_nil_of_mem mem
  have ends := List.getLast?_eq_some_getLast nonempty
  let first : Delivery α := receive c.uid ((c.page query).getLast nonempty) (c.page query)
  let t : MatchBestVC α := ⟨{ s.list with deliveries := s.list.deliveries ++ [first] }, []⟩
  have came : tableStep c s (.page 0) = some t := by
    simp only [tableStep, waits, List.getElem?_cons_zero, Option.bind_eq_bind, Option.bind_some, step_snapshot ends]
    rfl
  obtain ⟨es, u, d, ran, element, listeners, there, checked, same, loading⟩ :=
    run_checks (s := t) (loading_receive (α := α) here ends) List.getElem?_concat_length
  have busy : d.owners ≠ [] := by
    intro none_left
    have empty : d.toSort = [] := by rw [same, receive, foldl_documents]
    have collected := loading.2.collected
    rw [empty, none_left, checked] at collected
    exact List.not_mem_nil (collected.mem_iff.mpr (mem_strangers.mpr ⟨mem, stranger⟩))
  obtain ⟨es', s', rest, listeners', query', listed⟩ := run_owners percent loading there checked busy
  refine ⟨.page 0 :: (es ++ es'), s', run_cons.mpr ⟨t, came, run_append.mpr ⟨u, ran, rest⟩⟩, ?_, query', ?_⟩
  · rw [listeners', listeners]
  · rw [Paging.take_succ_mul, strangers_append]
    rw [element] at listed
    exact listed.trans (ready.listed.append_right _)

/-- With an odd number of matches the last row asks for the next page. -/
theorem exists_ready (waits : s.listeners = []) (here : AtPage c s.list.query k)
    (listed : (pets s.list.element).Perm (c.strangers (c.pets.take (k * c.downloadLimit))))
    (odd : Odd (c.strangers (c.pets.take (k * c.downloadLimit))).length) :
    ∃ e s', tableStep c s e = some s' ∧ Ready c k s' := by
  have lengths := listed.length_eq
  rw [pets, List.length_map] at lengths
  rw [← lengths, Nat.odd_iff] at odd
  have displayed : s.list.element.length / 2 < s.numberOfRows := by
    rw [numberOfRows_eq]
    omega
  refine ⟨.willDisplay (s.list.element.length / 2), s.downloadMore, ?_, ⟨s.list.query, ?_, here⟩, listed⟩
  · simp only [tableStep, if_pos displayed, MatchBestVC.willDisplay, if_pos]
  · rw [MatchBestVC.downloadMore, waits, List.nil_append]

theorem Ready.all (ready : Ready c k s) (positive : 1 ≤ c.downloadLimit) (percent : α)
    (earned : ∀ k, (∃ pet ∈ c.pets.drop ((k + 1) * c.downloadLimit), c.Stranger pet) →
      (∃ pet ∈ c.chunk k, c.Stranger pet) ∧ Odd (c.strangers (c.pets.take ((k + 1) * c.downloadLimit))).length) :
    ∃ es s', run (tableStep c) s es = some s' ∧ (pets s'.list.element).Perm (c.strangers c.pets) := by
  induction left : c.pets.length - k using Nat.strongRecOn generalizing s k with
  | ind left ih =>
      by_cases here : ∃ pet ∈ c.chunk k, c.Stranger pet
      · obtain ⟨es, t, ran, waits, query, listed⟩ := ready.load percent here
        by_cases later : ∃ pet ∈ c.pets.drop ((k + 1) * c.downloadLimit), c.Stranger pet
        · obtain ⟨e, u, asked, next⟩ := exists_ready waits query listed (earned k later).2
          have more : k + 1 < c.pets.length := by
            obtain ⟨pet, mem, -⟩ := later
            have beyond := List.length_pos_of_mem mem
            rw [List.length_drop] at beyond
            have pages : k + 1 ≤ (k + 1) * c.downloadLimit := Nat.le_mul_of_pos_right _ positive
            omega
          obtain ⟨es', s', rest, all⟩ := ih (c.pets.length - (k + 1)) (by omega) next rfl
          exact ⟨es ++ e :: es', s', run_append.mpr ⟨t, ran, run_cons.mpr ⟨u, asked, rest⟩⟩, all⟩
        · exact ⟨es, t, ran, listed.trans (strangers_all later)⟩
      · refine ⟨[], s, rfl, ready.listed.trans (strangers_all ?_)⟩
        rintro ⟨pet, mem, stranger⟩
        cases mem_drop_cases mem with
        | inl now => exact here ⟨pet, now, stranger⟩
        | inr later => exact here (earned k ⟨pet, later, stranger⟩).1

end Loads

/-- Some run lists every stranger once exactly when each page that has a stranger after it has one itself, and
the number of strangers up to its end is odd. -/
theorem lists_each_once_iff [Inhabited α] (c : Collection) (positive : 1 ≤ c.downloadLimit) :
    (∃ es, ∃ s : MatchBestVC α, run (tableStep c) (MatchBestVC.viewDidLoad α) es = some s ∧
      (pets s.list.element).Perm (c.strangers c.pets)) ↔
      ∀ k, (∃ pet ∈ c.pets.drop ((k + 1) * c.downloadLimit), c.Stranger pet) →
        (∃ pet ∈ c.chunk k, c.Stranger pet) ∧
          Odd (c.strangers (c.pets.take ((k + 1) * c.downloadLimit))).length := by
  constructor
  · rintro ⟨es, s, ran, all⟩ k later
    obtain ⟨done, paged⟩ := paged_of_run ran
    exact paged.earned_of_all all later
  · intro earned
    have ready : Ready c 0 (MatchBestVC.viewDidLoad α) := by
      refine ⟨⟨none, rfl, by simp [AtPage, Paging.after]⟩, ?_⟩
      rw [Nat.zero_mul, List.take_zero]
      exact .refl _
    exact ready.all positive default earned

/-- Three pages with one, two and one strangers -/
theorem lists_each_once_three_pages : ∃ es, ∃ s : MatchBestVC ℕ,
    run (tableStep ⟨[⟨"u", 0⟩, ⟨"x", 0⟩, ⟨"y", 0⟩, ⟨"z", 0⟩, ⟨"v", 0⟩], by decide, 2, "u", fun _ => false⟩)
      (MatchBestVC.viewDidLoad ℕ) es = some s ∧
    (pets s.list.element).Perm (Collection.strangers
      ⟨[⟨"u", 0⟩, ⟨"x", 0⟩, ⟨"y", 0⟩, ⟨"z", 0⟩, ⟨"v", 0⟩], by decide, 2, "u", fun _ => false⟩
      [⟨"u", 0⟩, ⟨"x", 0⟩, ⟨"y", 0⟩, ⟨"z", 0⟩, ⟨"v", 0⟩]) := by
  refine (lists_each_once_iff _ (by decide)).mpr fun k later => ?_
  match k with
  | 0 => decide +kernel
  | 1 => decide +kernel
  | k + 2 =>
      obtain ⟨pet, mem, -⟩ := later
      have beyond := List.length_pos_of_mem mem
      rw [List.length_drop] at beyond
      simp only [List.length_cons, List.length_nil] at beyond
      omega

section FirstPage

variable {c : Collection} {s s' : MatchBestVC α}

/-- Only the first page has been asked for, and it has been listed once at most. -/
structure OnePage (c : Collection) (s : MatchBestVC α) : Prop where
  calls : s.listeners.length + s.list.deliveries.length ≤ 1
  listeners : ∀ query ∈ s.listeners, AtPage c query 0
  deliveries : ∀ d ∈ s.list.deliveries, Loading c 0 d
  listed : s.list.element = [] ∨ s.listeners = [] ∧ (pets s.list.element).Perm (c.strangers (c.chunk 0)) ∧
    ∀ d ∈ s.list.deliveries, d.Finished

omit [LinearOrder α] in
theorem OnePage.not_odd (one : OnePage c s) (even : Even (c.strangers (c.chunk 0)).length) :
    ¬ Odd s.list.element.length := by
  rw [Nat.not_odd_iff_even]
  cases one.listed with
  | inl none_listed => simp [none_listed]
  | inr all =>
      have lengths := all.2.1.length_eq
      rw [pets, List.length_map] at lengths
      rwa [lengths]

omit [LinearOrder α] in
/-- A page that waits has not been listed, and no other one is asked for. -/
theorem OnePage.unlisted (one : OnePage c s) {n : ℕ} {d : Delivery α} (here : s.list.deliveries[n]? = some d)
    (waits : ¬ d.Finished) : s.list.element = [] ∧ s.listeners = [] ∧ s.list.deliveries = [d] ∧ n = 0 := by
  have mem := List.mem_of_getElem? here
  have calls := one.calls
  have bound := (List.getElem?_eq_some_iff.mp here).1
  refine ⟨one.listed.resolve_right fun all => waits (all.2.2 d mem), ?_, ?_, by omega⟩
  · exact List.eq_nil_of_length_eq_zero (by omega)
  · have single : s.list.deliveries.length = 1 := by omega
    obtain ⟨d', alone⟩ := List.length_eq_one_iff.mp single
    rw [alone, List.mem_singleton] at mem
    rw [alone, mem]

theorem OnePage.step {e : TableEvent α} (even : Even (c.strangers (c.chunk 0)).length) (one : OnePage c s)
    (taken : tableStep c s e = some s') : OnePage c s' := by
  cases e with
  | willDisplay row =>
      obtain ⟨displayed, ⟨⟩⟩ := Option.ite_none_right_eq_some.mp taken
      have stays : row ≠ s.list.element.length / 2 := fun last => one.not_odd even (asks_iff displayed last)
      unfold MatchBestVC.willDisplay
      rwa [if_neg stays]
  | page k =>
      simp only [tableStep, Option.bind_eq_bind, Option.bind_eq_some_iff, Option.some.injEq] at taken
      obtain ⟨query, waits, list, stepped, rfl⟩ := taken
      have bound := (List.getElem?_eq_some_iff.mp waits).1
      have calls := one.calls
      have fewer : (s.listeners.eraseIdx k).length = 0 := by
        rw [List.length_eraseIdx_of_lt bound]
        omega
      have alone : s.list.deliveries = [] := List.eq_nil_of_length_eq_zero (by omega)
      have none_listed : s.list.element = [] := one.listed.resolve_right fun all => by
        rw [all.1] at waits
        cases waits
      have gone : ∀ query ∈ s.listeners.eraseIdx k, AtPage c query 0 := fun query mem =>
        one.listeners query (List.mem_of_mem_eraseIdx mem)
      simp only [IOS.step] at stepped
      split at stepped
      · cases stepped
        exact ⟨by simp [fewer, alone], gone, one.deliveries, .inl none_listed⟩
      · rename_i last ends
        cases stepped
        have here := one.listeners query (List.mem_of_getElem? waits)
        refine ⟨by simp [fewer, alone], gone, ?_, .inl none_listed⟩
        rw [alone]
        exact List.forall_mem_singleton.mpr (loading_receive here ends)
  | callback e =>
      cases e with
      | snapshot documents => cases taken
      | checked n i =>
          obtain ⟨list, stepped, rfl⟩ := Option.map_eq_some_iff.mp taken
          simp only [IOS.step, Option.bind_eq_bind, Option.bind_eq_some_iff, Option.pure_def,
            Option.some.injEq] at stepped
          obtain ⟨d, at_n, pet, waits, rfl⟩ := stepped
          obtain ⟨none_listed, no_listeners, alone, rfl⟩ := one.unlisted at_n fun finished => by
            rw [finished.1] at waits
            cases waits
          refine ⟨by simp [no_listeners, alone], by simp [no_listeners], ?_, .inl none_listed⟩
          rw [alone]
          exact List.forall_mem_singleton.mpr ((one.deliveries d (List.mem_of_getElem? at_n)).checked waits)
      | owner n i percent =>
          obtain ⟨list, stepped, rfl⟩ := Option.map_eq_some_iff.mp taken
          simp only [IOS.step, Option.bind_eq_bind, Option.bind_eq_some_iff, Option.pure_def,
            Option.some.injEq] at stepped
          obtain ⟨d, at_n, pet, waits, rfl⟩ := stepped
          obtain ⟨none_listed, no_listeners, alone, rfl⟩ := one.unlisted at_n fun finished => by
            rw [finished.2] at waits
            cases waits
          have next := (one.deliveries d (List.mem_of_getElem? at_n)).owner waits percent
          unfold State.append
          dsimp only
          split
          · rename_i complete
            have finished := next.2.finished_iff.mp complete
            refine ⟨by simp [no_listeners, alone], by simp [no_listeners], ?_, .inr ⟨no_listeners, ?_, ?_⟩⟩
            · rw [alone]
              exact List.forall_mem_singleton.mpr ⟨next.1, next.2.sort⟩
            · rw [none_listed]
              exact next.collected finished
            · rw [alone]
              exact List.forall_mem_singleton.mpr finished
          · refine ⟨by simp [no_listeners, alone], by simp [no_listeners], ?_, .inl none_listed⟩
            rw [alone]
            exact List.forall_mem_singleton.mpr next

/-- An even number of strangers on the first page is all that the table ever shows. -/
theorem even_first_page_is_all (c : Collection) (even : Even (c.strangers (c.chunk 0)).length)
    (es : List (TableEvent α)) :
    Always (tableStep c) (fun s => pets s.list.element = [] ∨ (pets s.list.element).Perm (c.strangers (c.chunk 0)))
      (MatchBestVC.viewDidLoad α) es := by
  have first : OnePage c (MatchBestVC.viewDidLoad α) := by
    refine ⟨by simp [MatchBestVC.viewDidLoad, MatchBestVC.downloadMore, State.initial], fun query mem => ?_, nofun,
      .inl rfl⟩
    obtain rfl : query = none := by simpa [MatchBestVC.viewDidLoad, MatchBestVC.downloadMore, State.initial] using mem
    simp [AtPage, Paging.after]
  refine always_of_meets (fun s e s' one _ => one.step even) (fun s one => ?_) first meets_true
  cases one.listed with
  | inl none_listed => exact .inl (by rw [none_listed]; rfl)
  | inr all => exact .inr all.2.1

end FirstPage

/-- The third stranger is on the second page. -/
theorem even_first_page_two_strangers :
    let c : Collection := ⟨[⟨"x", 0⟩, ⟨"y", 0⟩, ⟨"z", 0⟩], by decide, 2, "u", fun _ => false⟩
    let es : List (TableEvent ℕ) := [.page 0, .callback (.checked 0 1), .callback (.checked 0 0),
      .callback (.owner 0 0 30), .callback (.owner 0 0 70), .willDisplay 0, .page 0]
    Always (tableStep c) (fun s => pets s.list.element = [] ∨ (pets s.list.element).Perm (c.strangers (c.chunk 0)))
        (MatchBestVC.viewDidLoad ℕ) es ∧
      (run (tableStep c) (MatchBestVC.viewDidLoad ℕ) es).isNone ∧
      (run (tableStep c) (MatchBestVC.viewDidLoad ℕ) (es.take 6)).map (fun s => pets s.list.element) =
        some [⟨"x", 0⟩, ⟨"y", 0⟩] :=
  ⟨even_first_page_is_all _ (by decide) _, by decide +kernel, by decide +kernel⟩

end PetClump.Matching.IOS
