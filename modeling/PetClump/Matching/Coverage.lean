import PetClump.Matching.NoDuplicates

/-! # How far paging gets

The cursor only moves when the last owner of a page has been downloaded, and a page
without an eligible pet has no owners to download. Calls that wait for each other
therefore stop for good at the first page without an eligible pet.
-/

namespace PetClump.Matching

open ChangeFeed Runs
open Friends (Relations onEvent onEvent_between)

variable {c : Setting} {friends : Relations} {α : Type} {s s' start : State α}

/-- Neither owned by the user nor in the relation list. -/
def Setting.Eligible (c : Setting) (friends : Relations) (petId : String) : Prop :=
  ¬ c.userPets petId ∧ petId ∉ friends

instance (petId : String) : Decidable (c.Eligible friends petId) :=
  inferInstanceAs (Decidable (_ ∧ _))

/-- Nothing that a call has started is outstanding. -/
structure Idle (s : State α) : Prop where
  reads : s.reads = 0
  opened : s.opened = 0
  asked : s.asked = []
  loaded : ∀ l ∈ s.loaded, l.waiting = []

/-- What happens during a call while the friend records stay as they are. -/
def Undisturbed (friends : Relations) : Event α → Prop
  | .read found => found = decide (friends ≠ ∅)
  | .opened changes => Between ∅ friends changes
  | .page _ | .owner .. => True
  | .downloadMore | .changed _ => False

section Calls

variable [LE α] [DecidableLE α]

/-- A call of `downloadMore` that is made when nothing is outstanding, up to the state in which
everything it started has completed. -/
def CompleteCall (c : Setting) (friends : Relations) (s s' : State α) : Prop :=
  Idle s ∧ Idle s' ∧ ∃ es : List (Event α), (∀ e ∈ es, Undisturbed friends e) ∧
    run (step c) s (.downloadMore :: es) = some s'

/-- That many complete calls one after the other. -/
def Calls (c : Setting) (friends : Relations) : ℕ → State α → State α → Prop
  | 0, s, s' => s = s'
  | n + 1, s, s' => ∃ t, Calls c friends n s t ∧ CompleteCall c friends t s'

end Calls

/-- Every eligible pet of the collection is listed. -/
def Covers (c : Setting) (friends : Relations) (s : State α) : Prop :=
  ∀ id ∈ c.pets, c.Eligible friends id → id ∈ ids s.toAppend

/-- The `k`-th page of the collection. -/
def Setting.chunk (c : Setting) (k : ℕ) : List String :=
  (c.pets.drop (k * c.downloadLimit)).take c.downloadLimit

/-- The list and the cursor are as they were, and no page waits. -/
structure Untouched (start s : State α) : Prop where
  cursor : s.petProfileQuery = start.petProfileQuery
  list : s.toAppend = start.toAppend
  loaded : ∀ l ∈ s.loaded, l.waiting = []

/-- The eligible pets of the page at the cursor. -/
def found (c : Setting) (friends : Relations) (start : State α) : List String :=
  c.validDocuments ⟨friends, start.petProfileQuery⟩

/-- The list and the cursor after a complete call. -/
def Extended (c : Setting) (friends : Relations) (start s : State α) : Prop :=
  if found c friends start = [] then
    s.petProfileQuery = start.petProfileQuery ∧ s.toAppend = start.toAppend
  else
    s.petProfileQuery =
      (Paging.page c.pets start.petProfileQuery c.downloadLimit).getLast? ∧
    (ids s.toAppend).Perm (ids start.toAppend ++ found c friends start)

/-- Where a call is, with the number of events that are left of it. -/
inductive Phase (c : Setting) (friends : Relations) (start : State α) : ℕ → State α → Prop where
  | reading {s : State α} (reads : s.reads = 1) (opened : s.opened = 0) (asked : s.asked = [])
      (relations : s.relationList = start.relationList) (same : Untouched start s) :
      Phase c friends start
        ((found c friends start).length + 2 + if friends = ∅ then 0 else 1) s
  | opening {s : State α} (reads : s.reads = 0) (opened : s.opened = 1) (asked : s.asked = [])
      (relations : s.relationList = start.relationList) (same : Untouched start s) :
      Phase c friends start ((found c friends start).length + 2) s
  | asked {s : State α} (reads : s.reads = 0) (opened : s.opened = 0)
      (asked : s.asked = [⟨friends, start.petProfileQuery⟩]) (relations : s.relationList = friends)
      (same : Untouched start s) : Phase c friends start ((found c friends start).length + 1) s
  | loaded {s : State α} {k : ℕ} {l : Loaded α} (reads : s.reads = 0) (opened : s.opened = 0)
      (asked : s.asked = []) (relations : s.relationList = friends)
      (cursor : s.petProfileQuery = start.petProfileQuery) (list : s.toAppend = start.toAppend)
      (here : s.loaded[k]? = some l) (active : Active c start.petProfileQuery l)
      (valid : l.validDocument = found c friends start) (busy : l.waiting ≠ [])
      (others : ∀ k' l', s.loaded[k']? = some l' → l'.waiting ≠ [] → k' = k) :
      Phase c friends start l.waiting.length s
  | done {s : State α} (reads : s.reads = 0) (opened : s.opened = 0) (asked : s.asked = [])
      (relations : s.relationList = friends) (loaded : ∀ l ∈ s.loaded, l.waiting = [])
      (extended : Extended c friends start s) : Phase c friends start 0 s

theorem found_eq_filter (c : Setting) (friends : Relations) (start : State α) :
    found c friends start = (Paging.page c.pets start.petProfileQuery c.downloadLimit).filter
      fun id => decide (c.Eligible friends id) := by
  refine List.filter_congr fun id _ => ?_
  simp [Setting.Eligible]

theorem Phase.extended {n : ℕ} (phase : Phase c friends start n s) (idle : Idle s) :
    s.relationList = friends ∧ Extended c friends start s := by
  cases phase with
  | reading reads =>
      rw [idle.reads] at reads
      cases reads
  | opening _ opened =>
      rw [idle.opened] at opened
      cases opened
  | asked _ _ asked =>
      rw [idle.asked] at asked
      cases asked
  | loaded _ _ _ _ _ _ here _ _ busy =>
      exact absurd (idle.loaded _ (List.mem_of_getElem? here)) busy
  | done _ _ _ relations _ extended => exact ⟨relations, extended⟩

/-- The page of a call comes. -/
theorem Phase.receive (same : Untouched start s) (reads : s.reads = 0) (opened : s.opened = 0)
    (asked : s.asked = []) (relations : s.relationList = friends) :
    Phase c friends start (found c friends start).length
      (s.receive c ⟨friends, start.petProfileQuery⟩) := by
  rw [State.receive]
  cases ends : (c.page ⟨friends, start.petProfileQuery⟩).getLast? with
  | none =>
      have nothing : found c friends start = [] := by
        have page : c.page ⟨friends, start.petProfileQuery⟩ = [] := List.getLast?_eq_none_iff.mp ends
        rw [found, Setting.validDocuments, page]
        rfl
      rw [nothing]
      refine .done reads opened asked relations same.loaded ?_
      rw [Extended, if_pos nothing]
      exact ⟨same.cursor, same.list⟩
  | some lastVisible =>
      by_cases nothing : found c friends start = []
      · rw [nothing]
        refine .done reads opened asked relations ?_ ?_
        · intro l mem
          cases List.mem_append.mp mem with
          | inl old => exact same.loaded l old
          | inr new =>
              obtain rfl := List.mem_singleton.mp new
              exact nothing
        · rw [Extended, if_pos nothing]
          exact ⟨same.cursor, same.list⟩
      · refine .loaded reads opened asked relations same.cursor same.list
          (k := s.loaded.length) (l := ⟨lastVisible, found c friends start, found c friends start, []⟩)
          ?_ (active_of_asked ends) rfl nothing ?_
        · simp [found]
        · intro k l at_k busy
          cases getElem?_append_cases at_k with
          | inl old => exact absurd (same.loaded l (List.mem_of_getElem? old)) busy
          | inr new => exact new.1

theorem Phase.idle (phase : Phase c friends start 0 s) : Idle s := by
  generalize left : 0 = m at phase
  cases phase with
  | reading | opening | asked => omega
  | loaded _ _ _ _ _ _ _ _ _ busy => exact absurd (List.eq_nil_of_length_eq_zero left.symm) busy
  | done reads opened asked _ loaded => exact ⟨reads, opened, asked, loaded⟩

theorem phase_start (idle : Idle s) : Phase c friends s
    ((found c friends s).length + 2 + if friends = ∅ then 0 else 1) { s with reads := s.reads + 1 } :=
  .reading (by simp [idle.reads]) idle.opened idle.asked rfl ⟨rfl, rfl, idle.loaded⟩

/-- After that many calls the cursor is at the end of a page, up to which all eligible pets are
listed. Every page before has one, and the next has none if calls were lost on it. -/
structure Reached (c : Setting) (friends : Relations) (calls : ℕ) (s : State α) : Prop where
  relations : s.relationList = ∅ ∨ s.relationList = friends
  place : ∃ j, Paging.after c.pets s.petProfileQuery = c.pets.drop (j * c.downloadLimit) ∧
    (∀ id, c.Eligible friends id →
      (id ∈ ids s.toAppend ↔ id ∈ c.pets.take (j * c.downloadLimit))) ∧
    (∀ i < j, ∃ id ∈ c.chunk i, c.Eligible friends id) ∧
    (j = calls ∨ ¬ ∃ id ∈ c.chunk j, c.Eligible friends id)

theorem reached_initial : Reached c friends 0 (State.initial α) where
  relations := .inl rfl
  place := ⟨0, by simp [State.initial, Paging.after], by simp [State.initial, ids], nofun, .inl rfl⟩

variable [LE α] [DecidableLE α]

/-- An owner of the page is downloaded. -/
theorem Phase.owner {k i : ℕ} {l : Loaded α} {petId : String} (reads : s.reads = 0)
    (opened : s.opened = 0) (asked : s.asked = []) (relations : s.relationList = friends)
    (cursor : s.petProfileQuery = start.petProfileQuery) (list : s.toAppend = start.toAppend)
    (here : s.loaded[k]? = some l) (active : Active c start.petProfileQuery l)
    (valid : l.validDocument = found c friends start) (waits : l.waiting[i]? = some petId)
    (others : ∀ k' l', s.loaded[k']? = some l' → l'.waiting ≠ [] → k' = k) (percent : α) :
    ∃ n, l.waiting.length = n + 1 ∧ Phase c friends start n (s.inserted k { l with
      waiting := l.waiting.eraseIdx i
      profiles := l.profiles ++ [⟨petId, percent⟩] }) := by
  obtain ⟨bound, -⟩ := List.getElem?_eq_some_iff.mp waits
  have next := active.owner waits percent
  have fewer : (l.waiting.eraseIdx i).length = l.waiting.length - 1 := List.length_eraseIdx_of_lt bound
  have lengths := next.collected.length_eq
  rw [List.length_append, ids, List.length_map, fewer] at lengths
  refine ⟨l.waiting.length - 1, by omega, ?_⟩
  rw [State.inserted]
  split
  · rename_i complete
    have finished : l.waiting.eraseIdx i = [] := next.waiting_eq_nil complete
    have last : l.waiting.length - 1 = 0 := by rw [← fewer, finished, List.length_nil]
    rw [last]
    refine .done reads opened asked relations ?_ ?_
    · intro l' mem
      obtain ⟨k', at_k'⟩ := List.mem_iff_getElem?.mp mem
      cases getElem?_set_cases at_k' with
      | inl same => exact same.2 ▸ finished
      | inr other =>
          by_contra busy
          exact other.1 (others k' l' other.2 busy)
    · have some_found : found c friends start ≠ [] := by
        intro nothing
        rw [← valid] at nothing
        have empty := active.collected.length_eq
        rw [nothing, List.length_append, List.length_nil] at empty
        omega
      have collected := next.collected
      rw [finished, List.nil_append, valid] at collected
      rw [Extended, if_neg some_found]
      refine ⟨active.ends.symm, ?_⟩
      rw [ids_append, list]
      exact ((ids_sort _).trans collected).append_left _
  · rename_i incomplete
    have busy : l.waiting.eraseIdx i ≠ [] := by
      rw [← List.length_pos_iff]
      simp only [not_le, List.length_append, List.length_singleton] at incomplete lengths
      omega
    rw [← fewer]
    refine .loaded (s := { s with loaded := s.loaded.set k _ }) reads opened asked relations cursor list
      (k := k) ?_ next valid busy ?_
    · exact List.getElem?_set_self (List.getElem?_eq_some_iff.mp here).1
    · intro k' l' at_k' busy'
      cases getElem?_set_cases at_k' with
      | inl same => exact same.1
      | inr other => exact others k' l' other.2 busy'

theorem owner_cases {k i : ℕ} {percent : α} (taken : step c s (.owner k i percent) = some s') :
    ∃ l petId, s.loaded[k]? = some l ∧ l.waiting[i]? = some petId ∧
      s' = s.inserted k { l with
        waiting := l.waiting.eraseIdx i
        profiles := l.profiles ++ [⟨petId, percent⟩] } := by
  simp only [step, Option.bind_eq_bind, Option.bind_eq_some_iff, Option.pure_def,
    Option.some.injEq] at taken
  obtain ⟨l, here, petId, waits, rfl⟩ := taken
  exact ⟨l, petId, here, waits, rfl⟩

theorem no_owner {k i : ℕ} {percent : α} (idle : ∀ l ∈ s.loaded, l.waiting = []) :
    step c s (.owner k i percent) ≠ some s' := by
  intro taken
  obtain ⟨l, petId, here, waits, -⟩ := owner_cases taken
  rw [idle l (List.mem_of_getElem? here)] at waits
  cases waits

theorem onEvent_first {relations : Relations} {changes : List (Change String String)}
    (known : relations = ∅ ∨ relations = friends) (first : Between ∅ friends changes) :
    onEvent relations changes = friends := by
  cases known with
  | inl empty => exact empty ▸ onEvent_between first
  | inr same => exact same ▸ (Friends.onEvent_eq_replay _ _).trans (replay_again (same ▸ first))

/-- Every event of a call brings it one step on. -/
theorem Phase.step {n : ℕ} {e : Event α} (known : start.relationList = ∅ ∨ start.relationList = friends)
    (phase : Phase c friends start n s) (undisturbed : Undisturbed friends e)
    (taken : step c s e = some s') : ∃ m, n = m + 1 ∧ Phase c friends start m s' := by
  cases e with
  | downloadMore | changed => exact undisturbed.elim
  | read answer =>
      cases phase with
      | reading reads opened asked relations same =>
          obtain rfl : answer = decide (friends ≠ ∅) := undisturbed
          by_cases none_found : friends = ∅
          · have mirrored : s.relationList = friends := by
              rw [relations, none_found]
              exact known.elim id fun same => same.trans none_found
            simp only [Matching.step, reads, one_ne_zero, if_false, none_found, ne_eq, not_true,
              decide_false, Bool.false_eq_true, Option.some.injEq] at taken
            subst taken
            refine ⟨_, by rw [if_pos none_found],
              .asked rfl opened ?_ mirrored ⟨same.cursor, same.list, same.loaded⟩⟩
            simp [State.runCallback, asked, mirrored, same.cursor]
          · simp only [Matching.step, reads, one_ne_zero, if_false, none_found, ne_eq, not_false_eq_true,
              decide_true, if_true, opened, Option.some.injEq] at taken
            subst taken
            exact ⟨_, by rw [if_neg none_found],
              .opening rfl rfl asked relations ⟨same.cursor, same.list, same.loaded⟩⟩
      | opening reads | asked reads | loaded reads | done reads => simp [Matching.step, reads] at taken
  | opened changes =>
      cases phase with
      | opening reads opened asked relations same =>
          have mirrored := onEvent_first (relations ▸ known) undisturbed
          simp only [Matching.step, opened, one_ne_zero, if_false, Option.some.injEq] at taken
          subst taken
          refine ⟨_, rfl, .asked reads rfl ?_ mirrored ⟨same.cursor, same.list, same.loaded⟩⟩
          simp [State.runCallback, asked, mirrored, same.cursor]
      | reading _ opened | asked _ opened | loaded _ opened | done _ opened =>
          simp [Matching.step, opened] at taken
  | page k =>
      obtain ⟨a, at_k, rfl⟩ := Option.map_eq_some_iff.mp taken
      cases phase with
      | asked reads opened asked relations same =>
          rw [asked, List.getElem?_singleton] at at_k
          split at at_k
          · rename_i first
            cases at_k
            refine ⟨_, rfl, .receive (s := { s with asked := s.asked.eraseIdx k }) ⟨same.cursor,
              same.list, same.loaded⟩ reads opened ?_ relations⟩
            simp [asked, first]
          · cases at_k
      | reading _ _ asked | opening _ _ asked | loaded _ _ asked | done _ _ asked =>
          rw [asked] at at_k
          cases at_k
  | owner k i percent =>
      cases phase with
      | loaded reads opened asked relations cursor list here active valid busy others =>
          obtain ⟨l, petId, at_k, waits, rfl⟩ := owner_cases taken
          obtain rfl := others k l at_k (List.ne_nil_of_mem (List.mem_of_getElem? waits))
          obtain rfl := Option.some.inj (here.symm.trans at_k)
          exact Phase.owner reads opened asked relations cursor list here active valid waits others percent
      | reading _ _ _ _ same | opening _ _ _ _ same | asked _ _ _ _ same =>
          exact absurd taken (no_owner same.loaded)
      | done _ _ _ _ idle => exact absurd taken (no_owner idle)

/-- A call that is not complete can go on. -/
theorem Phase.progress {n : ℕ} (percent : α) (phase : Phase c friends start (n + 1) s) :
    ∃ (e : Event α) (s' : State α), Undisturbed friends e ∧ Matching.step c s e = some s' := by
  generalize left : n + 1 = m at phase
  cases phase with
  | reading reads =>
      refine ⟨.read (decide (friends ≠ ∅)), ?_⟩
      by_cases none_found : friends = ∅
      · exact ⟨_, rfl, by simp [Matching.step, reads, none_found]; rfl⟩
      · exact ⟨_, rfl, by simp [Matching.step, reads, none_found]; rfl⟩
  | opening _ opened =>
      obtain ⟨changes, first⟩ := exists_between_empty friends
      exact ⟨.opened changes, _, first, by simp [Matching.step, opened]; rfl⟩
  | asked _ _ asked => exact ⟨.page 0, _, trivial, by simp [Matching.step, asked]; rfl⟩
  | @loaded _ k l _ _ _ _ _ _ here _ _ busy =>
      obtain ⟨petId, others, waiting⟩ := List.exists_cons_of_ne_nil busy
      exact ⟨.owner k 0 percent, _, trivial, by simp [Matching.step, here, waiting]; rfl⟩
  | done => cases left

theorem Phase.finish {n : ℕ} (known : start.relationList = ∅ ∨ start.relationList = friends)
    (percent : α) (phase : Phase c friends start n s) :
    ∃ (es : List (Event α)) (s' : State α), (∀ e ∈ es, Undisturbed friends e) ∧
      run (Matching.step c) s es = some s' ∧ Idle s' := by
  induction n generalizing s with
  | zero => exact ⟨[], s, nofun, rfl, phase.idle⟩
  | succ n ih =>
      obtain ⟨e, t, undisturbed, taken⟩ := phase.progress percent
      obtain ⟨m, left, next⟩ := phase.step known undisturbed taken
      obtain rfl := Nat.succ.inj left
      obtain ⟨es, s', others, rest, idle⟩ := ih next
      exact ⟨e :: es, s', List.forall_mem_cons.mpr ⟨undisturbed, others⟩,
        run_cons.mpr ⟨t, taken, rest⟩, idle⟩

theorem exists_call (known : s.relationList = ∅ ∨ s.relationList = friends) (percent : α)
    (idle : Idle s) : ∃ s', CompleteCall c friends s s' := by
  obtain ⟨es, s', undisturbed, rest, idle'⟩ := (phase_start (c := c) idle).finish known percent
  exact ⟨s', idle, idle', es, undisturbed, run_cons.mpr ⟨_, rfl, rest⟩⟩

theorem CompleteCall.extended (known : s.relationList = ∅ ∨ s.relationList = friends)
    (call : CompleteCall c friends s s') : s'.relationList = friends ∧ Extended c friends s s' := by
  obtain ⟨idle, idle', es, undisturbed, ran⟩ := call
  obtain ⟨t, taken, rest⟩ := run_cons.mp ran
  cases taken
  have phase : ∃ n, Phase c friends s n s' :=
    run_invariant_of (fun t e t' (now : ∃ n, Phase c friends s n t) (calm : Undisturbed friends e)
        taken =>
      have ⟨_, phase⟩ := now
      have ⟨m, _, next⟩ := phase.step known calm taken
      ⟨m, next⟩) ⟨_, phase_start idle⟩ undisturbed rest
  obtain ⟨n, phase⟩ := phase
  exact phase.extended idle'

theorem Reached.call {n : ℕ} (reached : Reached c friends n s) (call : CompleteCall c friends s s') :
    Reached c friends (n + 1) s' := by
  obtain ⟨relations, extended⟩ := call.extended reached.relations
  obtain ⟨j, cursor, listed, before, here⟩ := reached.place
  have page : Paging.page c.pets s.petProfileQuery c.downloadLimit = c.chunk j := by
    rw [Paging.page, cursor, Setting.chunk]
  have eligible : ∀ id, id ∈ found c friends s ↔ id ∈ c.chunk j ∧ c.Eligible friends id := by
    intro id
    rw [found_eq_filter, page, List.mem_filter, decide_eq_true_eq]
  refine ⟨.inr relations, ?_⟩
  rw [Extended] at extended
  split at extended
  · rename_i nothing
    refine ⟨j, extended.1 ▸ cursor, fun id ok => extended.2 ▸ listed id ok, before, .inr ?_⟩
    rintro ⟨id, mem, ok⟩
    rw [List.eq_nil_iff_forall_not_mem] at nothing
    exact nothing id ((eligible id).mpr ⟨mem, ok⟩)
  · rename_i something
    obtain ⟨first, mem⟩ := List.exists_mem_of_ne_nil _ something
    have some_here : ∃ id ∈ c.chunk j, c.Eligible friends id := ⟨first, (eligible first).mp mem⟩
    refine ⟨j + 1, ?_, ?_, ?_, .inl ?_⟩
    · have nonempty : Paging.page c.pets s.petProfileQuery c.downloadLimit ≠ [] := by
        rw [page]
        exact List.ne_nil_of_mem ((eligible first).mp mem).1
      have ends := List.getLast?_eq_some_getLast nonempty
      rw [extended.1, ends, Paging.after_last c.distinct ends, cursor, List.drop_drop, Nat.succ_mul]
    · intro id ok
      rw [extended.2.mem_iff, List.mem_append, listed id ok, Paging.take_succ_mul, ← Setting.chunk,
        List.mem_append, eligible, and_iff_left ok]
    · intro i earlier
      cases Nat.lt_succ_iff_lt_or_eq.mp earlier with
      | inl less => exact before i less
      | inr same => exact same ▸ some_here
    · cases here with
      | inl same => rw [same]
      | inr nothing => exact absurd some_here nothing

theorem Calls.reached {n : ℕ} (calls : Calls c friends n (State.initial α) s) :
    Reached c friends n s := by
  induction n generalizing s with
  | zero =>
      cases calls
      exact reached_initial
  | succ n ih =>
      obtain ⟨t, earlier, call⟩ := calls
      exact (ih earlier).call call

/-- Calls can be made one after the other without end. -/
theorem exists_calls (percent : α) (n : ℕ) :
    ∃ s, Calls c friends n (State.initial α) s ∧ Idle s := by
  induction n with
  | zero => exact ⟨State.initial α, rfl, rfl, rfl, rfl, nofun⟩
  | succ n ih =>
      obtain ⟨s, calls, idle⟩ := ih
      obtain ⟨s', call⟩ := exists_call (c := c) calls.reached.relations percent idle
      exact ⟨s', ⟨s, calls, call⟩, call.2.1⟩

/-- A page without an eligible pet, and an eligible pet after it. -/
def Gap (c : Setting) (friends : Relations) (k : ℕ) : Prop :=
  (∃ id ∈ c.pets.drop ((k + 1) * c.downloadLimit), c.Eligible friends id) ∧
    ¬ ∃ id ∈ c.chunk k, c.Eligible friends id

theorem Gap.not_covers {k n : ℕ} (gap : Gap c friends k) (calls : Calls c friends n (State.initial α) s) :
    ¬ Covers c friends s := by
  intro covers
  obtain ⟨⟨id, later, ok⟩, nothing⟩ := gap
  obtain ⟨j, -, listed, before, -⟩ := calls.reached.place
  have early : j ≤ k := by
    by_contra beyond
    exact nothing (before k (by omega))
  have whole := List.take_append_drop ((k + 1) * c.downloadLimit) c.pets
  have split := c.distinct
  rw [← whole, List.nodup_append] at split
  have taken := (listed id ok).mp (covers id (List.mem_of_mem_drop later) ok)
  have more : j * c.downloadLimit ≤ (k + 1) * c.downloadLimit := Nat.mul_le_mul_right _ (by omega)
  exact split.2.2 id (List.take_subset_take_left _ more taken) id later rfl

theorem covers_of_no_gap (positive : 1 ≤ c.downloadLimit) (none_gap : ∀ k, ¬ Gap c friends k)
    (calls : Calls c friends c.pets.length (State.initial α) s) : Covers c friends s := by
  intro id mem ok
  obtain ⟨j, -, listed, -, here⟩ := calls.reached.place
  rw [listed id ok]
  cases here with
  | inl all =>
      have enough : c.pets.length ≤ j * c.downloadLimit := all ▸ Nat.le_mul_of_pos_right _ positive
      rwa [List.take_of_length_le enough]
  | inr nothing =>
      have parts := List.take_append_drop ((j + 1) * c.downloadLimit) c.pets
      rw [← parts, List.mem_append, Paging.take_succ_mul, ← Setting.chunk, List.mem_append] at mem
      rcases mem with (taken | page) | later
      · exact taken
      · exact absurd ⟨id, page, ok⟩ nothing
      · exact absurd ⟨⟨id, later, ok⟩, nothing⟩ (none_gap j)

/-- Repeated calls list every eligible pet in the end exactly when no page without one comes before
the last of them. -/
theorem paging_covers_iff [Inhabited α] (c : Setting) (friends : Relations)
    (positive : 1 ≤ c.downloadLimit) :
    (∃ n, ∀ s : State α, Calls c friends n (State.initial α) s → Covers c friends s) ↔
      ∀ k, (∃ id ∈ c.pets.drop ((k + 1) * c.downloadLimit), c.Eligible friends id) →
        ∃ id ∈ c.chunk k, c.Eligible friends id := by
  constructor
  · rintro ⟨n, covers⟩ k later
    by_contra nothing
    obtain ⟨s, calls, -⟩ := @exists_calls c friends α _ _ default n
    exact Gap.not_covers ⟨later, nothing⟩ calls (covers s calls)
  · intro pages
    exact ⟨c.pets.length, fun s => covers_of_no_gap positive fun k gap => gap.2 (pages k gap.1)⟩

theorem paging_covers_two_pages :
    ∃ n, ∀ s : State ℕ, Calls ⟨["f0", "v0", "w0", "x0", "u0"], by decide, 2, "u"⟩
        ((∅ : Relations).insert "f0" "friending") n (State.initial ℕ) s →
      Covers ⟨["f0", "v0", "w0", "x0", "u0"], by decide, 2, "u"⟩
        ((∅ : Relations).insert "f0" "friending") s := by
  refine (paging_covers_iff _ _ (by decide)).mpr fun k later => ?_
  match k with
  | 0 => decide +kernel
  | 1 => decide +kernel
  | k + 2 =>
      obtain ⟨id, mem, -⟩ := later
      have short : ["f0", "v0", "w0", "x0", "u0"].length ≤ (k + 2 + 1) * 2 := by
        simp only [List.length_cons, List.length_nil]
        omega
      rw [List.drop_eq_nil_of_le short] at mem
      cases mem

/-- A user whose own pet fills the first page never sees another. -/
theorem own_pet_stops_paging : ¬ ∀ (c : Setting) (friends : Relations), 1 ≤ c.downloadLimit →
    ∃ n, ∀ s : State ℕ, Calls c friends n (State.initial ℕ) s → Covers c friends s := by
  intro claim
  obtain ⟨n, covers⟩ := claim ⟨["u0", "x0"], by decide, 1, "u"⟩ ∅ le_rfl
  obtain ⟨s, calls, -⟩ := @exists_calls ⟨["u0", "x0"], by decide, 1, "u"⟩ ∅ ℕ _ _ 0 n
  have gap : Gap ⟨["u0", "x0"], by decide, 1, "u"⟩ ∅ 0 := by
    unfold Gap
    decide +kernel
  exact gap.not_covers calls (covers s calls)

end PetClump.Matching
