import PetClump.Matching.Coverage

/-! # The endless list of best matches on Android

`BestMatchFragment` asks for the first page itself and for every later one when its list is
scrolled: the scroll listener compares the number of listed pets with what it has seen of
it. While the friend records stay as they are, this keeps one page under way at a time.
-/

namespace PetClump.BestMatch

open Matching Runs
open Friends (Relations)

/-- `EndlessRecyclerViewScrollListener` -/
structure ScrollListener where
  visibleThreshold : ℕ
  currentPage : ℕ
  previousTotalItemCount : ℕ
  loading : Bool

namespace ScrollListener

def startingPageIndex : ℕ := 0

/-- The constructor for a grid of `spanCount` columns -/
def ofGrid (spanCount : ℕ) : ScrollListener := ⟨6 * spanCount, 0, 0, true⟩

/-- A list with fewer items than before is taken for a new one. -/
def reset (l : ScrollListener) (totalItemCount : ℕ) : ScrollListener :=
  if totalItemCount < l.previousTotalItemCount then
    { l with
      currentPage := startingPageIndex
      previousTotalItemCount := totalItemCount
      loading := if totalItemCount = 0 then true else l.loading }
  else l

def finishLoading (l : ScrollListener) (totalItemCount : ℕ) : ScrollListener :=
  if l.loading ∧ totalItemCount > l.previousTotalItemCount then
    { l with loading := false, previousTotalItemCount := totalItemCount }
  else l

/-- The listener after a scroll, and whether it has called `onLoadMore` -/
def onScrolled (l : ScrollListener) (lastVisibleItemPosition : ℤ) (totalItemCount : ℕ) : ScrollListener × Bool :=
  let l := (l.reset totalItemCount).finishLoading totalItemCount
  if ¬ l.loading ∧ lastVisibleItemPosition + l.visibleThreshold > totalItemCount then
    ({ l with currentPage := l.currentPage + 1, loading := true }, true)
  else (l, false)

end ScrollListener

structure BestMatchFragment (α : Type) where
  md : State α
  scrollListener : ScrollListener

/-- `setRecyclerView`, with the call of `downloadMore` in it -/
def setRecyclerView (α : Type) : BestMatchFragment α :=
  ⟨{ State.initial α with reads := 1 }, .ofGrid 2⟩

/-- The list is scrolled, or something that `downloadMore` has asked for is answered. -/
inductive Event (α : Type) where
  | scrolled (lastVisibleItemPosition : ℤ)
  | answer (e : Matching.Event α)

/-- While the friend records stay as they are -/
def Calm {α : Type} (friends : Relations) : Event α → Prop
  | .scrolled _ => True
  | .answer e => Undisturbed friends e

variable {α : Type} [LE α] [DecidableLE α]

def step (c : Setting) (s : BestMatchFragment α) : Event α → Option (BestMatchFragment α)
  | .scrolled lastVisibleItemPosition =>
      match s.scrollListener.onScrolled lastVisibleItemPosition s.md.toAppend.length with
      | (scrollListener, true) => (Matching.step c s.md .downloadMore).map (⟨·, scrollListener⟩)
      | (scrollListener, false) => some ⟨s.md, scrollListener⟩
  | .answer .downloadMore => none
  | .answer e => (Matching.step c s.md e).map (⟨·, s.scrollListener⟩)

section Calls

variable {c : Setting} {friends : Relations} {start s s' : State α}

omit [LE α] [DecidableLE α] in
/-- A page that comes during a call is the one at the cursor. -/
theorem fresh_of_phase {n : ℕ} {e : Matching.Event α} (phase : Phase c friends start n s)
    (undisturbed : Undisturbed friends e) : FreshPage c s e := by
  cases e with
  | downloadMore | changed => exact undisturbed.elim
  | read | opened | owner => trivial
  | page k =>
      intro a mem _
      cases phase with
      | asked _ _ asked _ same =>
          rw [asked, List.getElem?_singleton] at mem
          split at mem
          · obtain rfl := Option.mem_toList.mp mem |> Option.some.inj
            exact ⟨same.cursor.symm, same.loaded⟩
          · cases mem
      | reading _ _ asked | opening _ _ asked | loaded _ _ asked | done _ _ asked =>
          rw [asked] at mem
          cases mem

omit [LE α] [DecidableLE α] in
/-- The list changes only as the call ends. -/
theorem idle_of_longer {n : ℕ} (phase : Phase c friends start n s)
    (longer : start.toAppend.length < s.toAppend.length) : Idle s ∧ n = 0 := by
  cases phase with
  | reading _ _ _ _ same | opening _ _ _ _ same | asked _ _ _ _ same =>
      rw [same.list] at longer
      exact absurd longer (Nat.lt_irrefl _)
  | loaded _ _ _ _ _ list =>
      rw [list] at longer
      exact absurd longer (Nat.lt_irrefl _)
  | done reads opened asked _ loaded => exact ⟨⟨reads, opened, asked, loaded⟩, rfl⟩

omit [LE α] [DecidableLE α] in
theorem length_of_extended (extended : Extended c friends start s) :
    s.toAppend.length = start.toAppend.length + (found c friends start).length := by
  unfold Extended at extended
  split at extended
  · rename_i nothing
    simp [extended.2, nothing]
  · have lengths := extended.2.length_eq
    simpa only [ids, List.length_map, List.length_append] using lengths

omit [LE α] [DecidableLE α] in
/-- A page without an eligible pet is past all of them. -/
theorem covers_of_nothing {j : ℕ} (none_gap : ∀ k, ¬ Gap c friends k)
    (listed : ∀ id, c.Eligible friends id → (id ∈ ids s.toAppend ↔ id ∈ c.pets.take (j * c.downloadLimit)))
    (nothing : ¬ ∃ id ∈ c.chunk j, c.Eligible friends id) : Covers c friends s := by
  intro id mem ok
  have parts := List.take_append_drop ((j + 1) * c.downloadLimit) c.pets
  rw [← parts, List.mem_append, Paging.take_succ_mul, ← Setting.chunk, List.mem_append] at mem
  rcases mem with (taken | page) | later
  · exact (listed id ok).mpr taken
  · exact absurd ⟨id, page, ok⟩ nothing
  · exact absurd ⟨⟨id, later, ok⟩, nothing⟩ (none_gap j)

omit [LE α] [DecidableLE α] in
theorem length_le {n : ℕ} (phase : Phase c friends start n s) : start.toAppend.length ≤ s.toAppend.length := by
  cases phase with
  | reading _ _ _ _ same | opening _ _ _ _ same | asked _ _ _ _ same => rw [same.list]
  | loaded _ _ _ _ _ list => rw [list]
  | done _ _ _ _ _ extended =>
      rw [length_of_extended extended]
      exact Nat.le_add_right _ _

theorem exists_phase {es : List (Matching.Event α)} (known : start.relationList = ∅ ∨ start.relationList = friends)
    (idle : Idle start) (undisturbed : ∀ e ∈ es, Undisturbed friends e)
    (ran : run (Matching.step c) start (.downloadMore :: es) = some s) : ∃ n, Phase c friends start n s := by
  obtain ⟨t, taken, rest⟩ := run_cons.mp ran
  cases taken
  refine run_invariant_of (fun t e t' (now : ∃ n, Phase c friends start n t) calm taken => ?_)
    ⟨_, phase_start idle⟩ undisturbed rest
  obtain ⟨n, phase⟩ := now
  obtain ⟨m, _, next⟩ := phase.step known calm taken
  exact ⟨m, next⟩

end Calls

section Listener

/-- What the listener knows while a call from a list of `before` pets is the last one -/
def Watches (l : ScrollListener) (before now : ℕ) : Prop :=
  l.visibleThreshold = 12 ∧
    if l.loading then l.previousTotalItemCount = before
    else l.previousTotalItemCount = now ∧ before < now

theorem Watches.reset {l : ScrollListener} {before now : ℕ} (watches : Watches l before now)
    (more : before ≤ now) : l.reset now = l := by
  have known : ¬ now < l.previousTotalItemCount := by
    have known := watches.2
    split at known
    · exact Nat.not_lt.mpr (known ▸ more)
    · exact known.1 ▸ Nat.lt_irrefl now
  exact if_neg known

theorem Watches.finishLoading {l : ScrollListener} {before now : ℕ} (watches : Watches l before now) :
    Watches (l.finishLoading now) before now ∧ ((l.finishLoading now).loading = false ↔ before < now) := by
  obtain ⟨threshold, known⟩ := watches
  unfold ScrollListener.finishLoading
  cases loading : l.loading with
  | true =>
      rw [loading, if_pos rfl] at known
      by_cases longer : before < now
      · rw [if_pos ⟨rfl, known ▸ longer⟩]
        exact ⟨⟨threshold, rfl, longer⟩, iff_of_true rfl longer⟩
      · rw [if_neg fun taken => longer (known ▸ taken.2)]
        refine ⟨⟨threshold, ?_⟩, iff_of_false (by rw [loading]; nofun) longer⟩
        rw [if_pos loading]
        exact known
  | false =>
      rw [loading, if_neg nofun] at known
      rw [if_neg nofun]
      refine ⟨⟨threshold, ?_⟩, iff_of_true loading known.2⟩
      rw [if_neg (by rw [loading]; nofun)]
      exact known

/-- The listener calls for more at the end of a list that is longer than at the last call. -/
theorem Watches.scrolled {l : ScrollListener} {before now : ℕ} (watches : Watches l before now)
    (more : before ≤ now) (last : ℤ) :
    ((l.onScrolled last now).2 = true ↔ before < now ∧ last + 12 > now) ∧
      Watches (l.onScrolled last now).1 (if (l.onScrolled last now).2 then now else before) now := by
  obtain ⟨watches', loading⟩ := watches.finishLoading
  have condition : (¬ (l.finishLoading now).loading = true ∧
      last + (l.finishLoading now).visibleThreshold > now) ↔ before < now ∧ last + 12 > (now : ℤ) := by
    rw [Bool.not_eq_true, loading, watches'.1]
    rfl
  unfold ScrollListener.onScrolled
  rw [watches.reset more]
  by_cases called : before < now ∧ last + 12 > (now : ℤ)
  · simp only [if_pos (condition.mpr called)]
    have known := watches'.2
    rw [if_neg (condition.mpr called).1] at known
    exact ⟨iff_of_true trivial called, watches'.1, known.1⟩
  · simp only [if_neg (condition.not.mpr called)]
    exact ⟨iff_of_false nofun called, watches'⟩

end Listener

/-- After `n` complete calls from the empty list, another one is under way or complete, and the
listener knows how long the list was before it. -/
structure Paged (c : Setting) (friends : Relations) (n : ℕ) (s : BestMatchFragment α) (start : State α) : Prop where
  orderly : Orderly c s.md
  calls : Calls c friends n (State.initial α) start
  idle : Idle start
  ran : ∃ es, (∀ e ∈ es, Undisturbed friends e) ∧
    run (Matching.step c) start (.downloadMore :: es) = some s.md
  watches : Watches s.scrollListener start.toAppend.length s.md.toAppend.length

/-- The scroll makes the listener call `onLoadMore`. -/
def LoadsMore (s : BestMatchFragment α) : Event α → Prop
  | .scrolled last => (s.scrollListener.onScrolled last s.md.toAppend.length).2 = true
  | .answer _ => False

section Steps

variable {c : Setting} {friends : Relations} {n : ℕ} {s s' : BestMatchFragment α} {start : State α}

theorem paged_start : Paged c friends 0 (setRecyclerView α) (State.initial α) where
  orderly := orderly_initial.of_eq rfl rfl rfl
  calls := rfl
  idle := ⟨rfl, rfl, rfl, nofun⟩
  ran := ⟨[], nofun, rfl⟩
  watches := ⟨rfl, rfl⟩

theorem Paged.phase (paged : Paged c friends n s start) : ∃ m, Phase c friends start m s.md := by
  obtain ⟨es, undisturbed, ran⟩ := paged.ran
  exact exists_phase paged.calls.reached.relations paged.idle undisturbed ran

theorem Paged.more (paged : Paged c friends n s start) : start.toAppend.length ≤ s.md.toAppend.length := by
  obtain ⟨m, phase⟩ := paged.phase
  exact length_le phase

/-- Once nothing is outstanding, there is one more complete call. -/
theorem Paged.complete (paged : Paged c friends n s start) (idle : Idle s.md) :
    Calls c friends (n + 1) (State.initial α) s.md :=
  ⟨start, paged.calls, paged.idle, idle, paged.ran⟩

theorem Paged.idle_of_longer (paged : Paged c friends n s start)
    (longer : start.toAppend.length < s.md.toAppend.length) : Idle s.md := by
  obtain ⟨m, phase⟩ := paged.phase
  exact (BestMatch.idle_of_longer phase longer).1

theorem Paged.answer {e : Matching.Event α} (paged : Paged c friends n s start)
    (undisturbed : Undisturbed friends e) (taken : step c s (.answer e) = some s') :
    Paged c friends n s' start := by
  have answered : ∃ t, Matching.step c s.md e = some t ∧
      (⟨t, s.scrollListener⟩ : BestMatchFragment α) = s' := by
    cases e with
    | downloadMore => cases taken
    | read | opened | changed | page | owner => exact Option.map_eq_some_iff.mp taken
  obtain ⟨t, stepped, rfl⟩ := answered
  obtain ⟨m, phase⟩ := paged.phase
  obtain ⟨es, calm, ran⟩ := paged.ran
  have further : run (Matching.step c) start ((.downloadMore :: es) ++ [e]) = some t :=
    run_append.mpr ⟨s.md, ran, run_cons.mpr ⟨t, stepped, rfl⟩⟩
  refine ⟨orderly_step paged.orderly (fresh_of_phase phase undisturbed) stepped, paged.calls, paged.idle,
    ⟨es ++ [e], ?_, further⟩, paged.watches.1, ?_⟩
  · exact List.forall_mem_append.mpr ⟨calm, List.forall_mem_singleton.mpr undisturbed⟩
  · have known := paged.watches.2
    cases loading : s.scrollListener.loading with
    | true => simpa only [loading, if_true] using known
    | false =>
        -- the call is complete, so that nothing can be answered
        simp only [loading, Bool.false_eq_true, if_false] at known
        obtain ⟨-, rfl⟩ := BestMatch.idle_of_longer phase known.2
        obtain ⟨_, impossible, -⟩ := phase.step paged.calls.reached.relations undisturbed stepped
        cases impossible

theorem Paged.scrolled {last : ℤ} (paged : Paged c friends n s start)
    (taken : step c s (.scrolled last) = some s') :
    (LoadsMore s (.scrolled last) → Idle s.md ∧ Paged c friends (n + 1) s' s.md) ∧
      (¬ LoadsMore s (.scrolled last) → Paged c friends n s' start) := by
  obtain ⟨called, watches⟩ := paged.watches.scrolled paged.more last
  simp only [step] at taken
  change ((s.scrollListener.onScrolled last s.md.toAppend.length).2 = true → _) ∧
    (¬ (s.scrollListener.onScrolled last s.md.toAppend.length).2 = true → _)
  cases answer : s.scrollListener.onScrolled last s.md.toAppend.length with
  | mk scrollListener loads =>
      rw [answer] at taken called watches
      cases loads with
      | true =>
          cases taken
          have idle := paged.idle_of_longer (called.mp rfl).1
          exact ⟨fun _ => ⟨idle, paged.orderly.of_eq rfl rfl rfl, paged.complete idle, idle, ⟨[], nofun, rfl⟩,
            watches⟩, fun not => absurd rfl not⟩
      | false =>
          cases taken
          exact ⟨nofun, fun _ => ⟨paged.orderly, paged.calls, paged.idle, paged.ran, watches⟩⟩

theorem exists_scrolled (c : Setting) (s : BestMatchFragment α) (last : ℤ) :
    ∃ s', BestMatch.step c s (.scrolled last) = some s' := by
  simp only [BestMatch.step]
  split
  · exact ⟨_, rfl⟩
  · exact ⟨_, rfl⟩

theorem Paged.step {e : Event α} (paged : Paged c friends n s start) (calm : Calm friends e)
    (taken : step c s e = some s') : ∃ n start, Paged c friends n s' start := by
  cases e with
  | answer e => exact ⟨n, start, paged.answer calm taken⟩
  | scrolled last =>
      by_cases loads : LoadsMore s (.scrolled last)
      · exact ⟨n + 1, s.md, ((paged.scrolled taken).1 loads).2⟩
      · exact ⟨n, start, (paged.scrolled taken).2 loads⟩

theorem paged_of_run {es : List (Event α)} (calm : ∀ e ∈ es, Calm friends e)
    (ran : run (step c) (setRecyclerView α) es = some s) : ∃ n start, Paged c friends n s start := by
  refine run_invariant_of (fun s e s' (now : ∃ n start, Paged c friends n s start) calm taken => ?_)
    ⟨0, State.initial α, paged_start⟩ calm ran
  obtain ⟨n, start, paged⟩ := now
  exact paged.step calm taken

theorem run_answers {es : List (Matching.Event α)} {t : State α} (undisturbed : ∀ e ∈ es, Undisturbed friends e)
    (ran : run (Matching.step c) s.md es = some t) :
    run (step c) s (es.map .answer) = some ⟨t, s.scrollListener⟩ := by
  induction es generalizing s with
  | nil =>
      cases ran
      rfl
  | cons e es ih =>
      obtain ⟨u, taken, rest⟩ := run_cons.mp ran
      obtain ⟨first, later⟩ := List.forall_mem_cons.mp undisturbed
      refine run_cons.mpr ⟨⟨u, s.scrollListener⟩, ?_, ih later rest⟩
      cases e with
      | downloadMore => exact first.elim
      | read | opened | changed | page | owner => exact Option.map_eq_some_iff.mpr ⟨u, taken, rfl⟩

/-- The call that is under way can come to its end. -/
theorem Paged.finish (paged : Paged c friends n s start) (percent : α) : ∃ es s', (∀ e ∈ es, Calm friends e) ∧
    run (BestMatch.step c) s es = some s' ∧ Idle s'.md ∧ Paged c friends n s' start := by
  obtain ⟨m, phase⟩ := paged.phase
  obtain ⟨es, t, undisturbed, ran, idle⟩ := phase.finish paged.calls.reached.relations percent
  have calm : ∀ e ∈ es.map Event.answer, Calm friends e := List.forall_mem_map.mpr undisturbed
  have answers : ∀ e ∈ es.map Event.answer, ∃ e', Undisturbed friends e' ∧ e = .answer e' :=
    List.forall_mem_map.mpr fun e mem => ⟨e, undisturbed e mem, rfl⟩
  have kept : ∀ (s : BestMatchFragment α) (e : Event α) (s' : BestMatchFragment α), Paged c friends n s start →
      (∃ e', Undisturbed friends e' ∧ e = .answer e') → BestMatch.step c s e = some s' →
      Paged c friends n s' start := by
    rintro s _ s' paged ⟨e, undisturbed, rfl⟩ taken
    exact paged.answer undisturbed taken
  have ended := run_answers undisturbed ran
  exact ⟨es.map .answer, _, calm, ended, idle, run_invariant_of kept paged answers ended⟩

/-- With no gap, the list is complete or has grown with the last call. -/
theorem Paged.covers_or_longer (paged : Paged c friends n s start) (positive : 1 ≤ c.downloadLimit)
    (none_gap : ∀ k, ¬ Gap c friends k) (idle : Idle s.md) :
    Covers c friends s.md ∨
      n + 1 < c.pets.length ∧ start.toAppend.length < s.md.toAppend.length := by
  by_cases covers : Covers c friends s.md
  · exact .inl covers
  refine .inr ⟨?_, ?_⟩
  · obtain ⟨j, -, listed, -, here⟩ := (paged.complete idle).reached.place
    cases here with
    | inl all =>
        by_contra few
        have enough : c.pets.length ≤ j * c.downloadLimit :=
          (Nat.not_lt.mp few).trans (all ▸ Nat.le_mul_of_pos_right _ positive)
        refine covers fun id mem ok => (listed id ok).mpr ?_
        rwa [List.take_of_length_le enough]
    | inr nothing => exact absurd (covers_of_nothing none_gap listed nothing) covers
  · obtain ⟨m, phase⟩ := paged.phase
    obtain ⟨-, extended⟩ := phase.extended idle
    rw [length_of_extended extended]
    refine Nat.lt_add_of_pos_right (List.length_pos_iff.mpr fun nothing => covers ?_)
    rw [Extended, if_pos nothing] at extended
    unfold Covers
    rw [extended.2]
    obtain ⟨j, cursor, listed, -, -⟩ := paged.calls.reached.place
    refine covers_of_nothing none_gap listed ?_
    rw [found_eq_filter, Paging.page, cursor, List.filter_eq_nil_iff] at nothing
    rintro ⟨id, mem, ok⟩
    exact nothing id mem (decide_eq_true ok)

/-- While the list is not complete, scrolling to its end goes on with it. -/
theorem Paged.cover (positive : 1 ≤ c.downloadLimit) (none_gap : ∀ k, ¬ Gap c friends k) (percent : α)
    (paged : Paged c friends n s start) : ∃ es s', (∀ e ∈ es, Calm friends e) ∧
      run (BestMatch.step c) s es = some s' ∧ Covers c friends s'.md := by
  induction left : c.pets.length - n using Nat.strongRecOn generalizing n s start with
  | ind left ih =>
      obtain ⟨es, t, calm, ran, idle, paged⟩ := paged.finish percent
      cases paged.covers_or_longer positive none_gap idle with
      | inl covers => exact ⟨es, t, calm, ran, covers⟩
      | inr more =>
          obtain ⟨few, longer⟩ := more
          have loads : LoadsMore t (.scrolled (t.md.toAppend.length - 1)) :=
            (paged.watches.scrolled paged.more _).1.mpr ⟨longer, by omega⟩
          obtain ⟨u, taken⟩ := exists_scrolled c t (t.md.toAppend.length - 1)
          obtain ⟨-, next⟩ := (paged.scrolled taken).1 loads
          obtain ⟨es', s', calm', rest, covers⟩ := ih (c.pets.length - (n + 1)) (by omega) next rfl
          refine ⟨es ++ .scrolled (t.md.toAppend.length - 1) :: es', s', ?_, ?_, covers⟩
          · exact List.forall_mem_append.mpr ⟨calm, List.forall_mem_cons.mpr ⟨trivial, calm'⟩⟩
          · exact run_append.mpr ⟨t, ran, run_cons.mpr ⟨u, taken, rest⟩⟩

theorem Paged.not_covers {k : ℕ} (paged : Paged c friends n s start) (gap : Gap c friends k) :
    ¬ Covers c friends s.md := by
  have before : s.md.toAppend = start.toAppend → ¬ Covers c friends s.md := by
    intro same
    unfold Covers
    rw [same]
    exact gap.not_covers paged.calls
  obtain ⟨m, phase⟩ := paged.phase
  cases phase with
  | reading _ _ _ _ same | opening _ _ _ _ same | asked _ _ _ _ same => exact before same.list
  | loaded _ _ _ _ _ list => exact before list
  | done reads opened asked _ loaded =>
      exact gap.not_covers (paged.complete ⟨reads, opened, asked, loaded⟩)

end Steps

/-- While the friend records stay as they are, a call waits until nothing of the one before is
outstanding, and no pet is listed twice. -/
theorem one_page_at_a_time (c : Setting) (friends : Relations) (es : List (Event α))
    (calm : ∀ e ∈ es, Calm friends e) :
    Always (step c) (fun s => s.md.Distinct) (setRecyclerView α) es ∧
      Meets (step c) (fun s e => LoadsMore s e → Idle s.md) (setRecyclerView α) es := by
  constructor
  · refine always_iff_prefixes.mpr fun fs pre s ran => ?_
    obtain ⟨_, _, paged⟩ := paged_of_run (fun e mem => calm e (pre.subset mem)) ran
    exact paged.orderly.distinct
  · refine meets_iff_splits.mpr fun before e after parts s s' ran taken loads => ?_
    rw [parts, List.forall_mem_append] at calm
    obtain ⟨_, _, paged⟩ := paged_of_run calm.1 ran
    cases e with
    | scrolled last => exact ((paged.scrolled taken).1 loads).1
    | answer e => exact loads.elim

theorem two_pages_at_a_time :
    let c : Setting := ⟨["v0", "w0", "x0"], by decide, 2, "u"⟩
    let es : List (Event ℕ) := [.scrolled (-1), .answer (.read false), .answer (.page 0), .answer (.owner 0 0 30),
      .answer (.owner 0 0 50), .scrolled 1, .scrolled 1, .answer (.read false), .answer (.page 0),
      .answer (.owner 1 0 40)]
    (Always (step c) (fun s => s.md.Distinct) (setRecyclerView ℕ) es ∧
      Meets (step c) (fun s e => LoadsMore s e → Idle s.md) (setRecyclerView ℕ) es) ∧
      (run (step c) (setRecyclerView ℕ) es).map (fun s => ids s.md.toAppend) = some ["w0", "v0", "x0"] :=
  ⟨one_page_at_a_time _ ∅ _ (by simp [Calm, Undisturbed]), by decide +kernel⟩

/-- The list can be completed from every state of the screen exactly when no page without an
eligible pet comes before the last eligible pet. -/
theorem scrolling_covers_iff [Inhabited α] (c : Setting) (friends : Relations)
    (positive : 1 ≤ c.downloadLimit) :
    (∀ (es : List (Event α)) (s : BestMatchFragment α), (∀ e ∈ es, Calm friends e) →
      run (step c) (setRecyclerView α) es = some s → ∃ es' s', (∀ e ∈ es', Calm friends e) ∧
        run (step c) s es' = some s' ∧ Covers c friends s'.md) ↔
      ∀ k, (∃ id ∈ c.pets.drop ((k + 1) * c.downloadLimit), c.Eligible friends id) →
        ∃ id ∈ c.chunk k, c.Eligible friends id := by
  constructor
  · intro completed k later
    by_contra nothing
    obtain ⟨es, s, calm, ran, covers⟩ := completed [] _ nofun rfl
    obtain ⟨_, _, paged⟩ := paged_of_run calm ran
    exact paged.not_covers ⟨later, nothing⟩ covers
  · intro pages es s calm ran
    obtain ⟨_, _, paged⟩ := paged_of_run calm ran
    exact paged.cover positive (fun k gap => gap.2 (pages k gap.1)) default

theorem scrolling_covers_two_pages :
    let c : Setting := ⟨["f0", "v0", "w0", "x0", "u0"], by decide, 2, "u"⟩
    let friends : Relations := (∅ : Relations).insert "f0" "friending"
    ∀ (es : List (Event ℕ)) (s : BestMatchFragment ℕ), (∀ e ∈ es, Calm friends e) →
      run (step c) (setRecyclerView ℕ) es = some s → ∃ es' s', (∀ e ∈ es', Calm friends e) ∧
        run (step c) s es' = some s' ∧ Covers c friends s'.md := by
  refine (scrolling_covers_iff _ _ (by decide)).mpr fun k later => ?_
  match k with
  | 0 => decide +kernel
  | 1 => decide +kernel
  | k + 2 =>
      obtain ⟨id, mem, -⟩ := later
      have short : ["f0", "v0", "w0", "x0", "u0"].length ≤ (k + 2 + 1) * 2 := by
        simp only [List.length_cons, List.length_nil]
        omega
      rw [List.drop_eq_nil_of_le short] at mem
      cases mem

end PetClump.BestMatch
