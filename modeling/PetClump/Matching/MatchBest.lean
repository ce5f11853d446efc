import PetClump.Library.Runs
import PetClump.PetId
import Mathlib.Data.List.Sort

/-! # The match list on iOS

`MatchBestVC.downloadMore` counts the documents of a page down by the user's own
pets and by friends, and compares the count with the matches collected so far
when a match is added. The comparison succeeds when that leaves nothing to wait
for. The listener stays registered and processes a page again when it is
delivered again, whatever else is under way.
-/

namespace PetClump.Matching.IOS

open Runs

structure MatchingProfile (α : Type) where
  thatPet : PetId
  matchingPercent : α
  deriving DecidableEq

/-- The local variables of one delivery, and what it waits for. -/
structure Delivery (α : Type) where
  last : PetId
  downloadSize : ℤ
  toSort : List (MatchingProfile α)
  checks : List PetId
  owners : List PetId

/-- `query` is the document that the next page starts after. -/
structure State (α : Type) where
  element : List (MatchingProfile α)
  query : Option PetId
  deliveries : List (Delivery α)

def State.initial (α : Type) : State α := ⟨[], none, []⟩

/-- Friend checks and owner downloads complete in any order. -/
inductive Event (α : Type) where
  | snapshot (documents : List PetId)
  | checked (k i : ℕ)
  | owner (k i : ℕ) (percent : α)

/-- The delivery that a callback belongs to. -/
def Event.delivery {α : Type} : Event α → Option ℕ
  | .snapshot _ => none
  | .checked k _ | .owner k _ _ => some k

def Event.isOwner {α : Type} : Event α → Bool
  | .snapshot _ | .checked .. => false
  | .owner .. => true

variable (uid : String) {α : Type}

/-- The loop over the documents; the checks it starts come back later. -/
def receive (last : PetId) (documents : List PetId) : Delivery α :=
  documents.foldl
    (fun d thatPet =>
      if thatPet.ownerId = uid then { d with downloadSize := d.downloadSize - 1 }
      else { d with checks := d.checks ++ [thatPet] })
    ⟨last, documents.length, [], [], []⟩

/-- The callbacks of `isFriending` -/
def Delivery.checked (friending : PetId → Bool) (d : Delivery α) (thatPet : PetId) : Delivery α :=
  if friending thatPet then { d with downloadSize := d.downloadSize - 1 }
  else { d with owners := d.owners ++ [thatPet] }

def Delivery.Finished (d : Delivery α) : Prop := d.checks = [] ∧ d.owners = []

/-- One owner is all that it waits for. -/
def Delivery.AwaitsOne (d : Delivery α) : Prop := d.checks = [] ∧ d.owners.length = 1

instance (d : Delivery α) : Decidable d.Finished := inferInstanceAs (Decidable (_ ∧ _))

instance (d : Delivery α) : Decidable d.AwaitsOne := inferInstanceAs (Decidable (_ ∧ _))

def strangers (friending : PetId → Bool) (documents : List PetId) : List PetId :=
  documents.filter fun pet => decide (pet.ownerId ≠ uid) && !friending pet

def pets (profiles : List (MatchingProfile α)) : List PetId := profiles.map MatchingProfile.thatPet

section Order

variable (friending : ℕ → PetId → Bool) [LinearOrder α]

/-- `sort(by: matcherSorter)`. Swift leaves the order of equal matches open. -/
def sort (toSort : List (MatchingProfile α)) : List (MatchingProfile α) :=
  toSort.insertionSort fun this that => that.matchingPercent ≤ this.matchingPercent

/-- `toSort.append(match)` on the `k`-th delivery, and `didSet` after it. -/
def State.append (s : State α) (k : ℕ) (d : Delivery α) (profile : MatchingProfile α) : State α :=
  let toSort := d.toSort ++ [profile]
  if d.downloadSize = toSort.length then
    { element := s.element ++ sort toSort
      query := some d.last
      deliveries := s.deliveries.set k { d with toSort := sort toSort } }
  else { s with deliveries := s.deliveries.set k { d with toSort } }

/-- `friending k` is what the checks of the `k`-th delivery find. -/
def step (s : State α) : Event α → Option (State α)
  | .snapshot documents =>
      match documents.getLast? with
      | none => some s
      | some last => some { s with deliveries := s.deliveries ++ [receive uid last documents] }
  | .checked k i => do
      let d ← s.deliveries[k]?
      let thatPet ← d.checks[i]?
      pure { s with
        deliveries := s.deliveries.set k
          ({ d with checks := d.checks.eraseIdx i }.checked (friending k) thatPet) }
  | .owner k i percent => do
      let d ← s.deliveries[k]?
      let thatPet ← d.owners[i]?
      pure (s.append k { d with owners := d.owners.eraseIdx i } ⟨thatPet, percent⟩)

/-- The page is delivered, and all checks and downloads that come of it have completed. -/
def Processed (documents : List PetId) (s : State α) (es : List (Event α)) (s' : State α) : Prop :=
  run (step uid friending) s (.snapshot documents :: es) = some s' ∧
    ∀ d ∈ (s'.deliveries[s.deliveries.length]?).toList, documents ≠ [] → d.Finished

/-- The callbacks of the delivery of a page, which an empty page does not have. -/
def callbacks (documents : List PetId) (s : State α) (es : List (Event α)) :
    List (Transition (State α) (Event α)) :=
  (transitions (step uid friending) s (.snapshot documents :: es)).filter fun x =>
    decide (x.event.delivery = some s.deliveries.length) && !documents.isEmpty

/-- A callback that changes the list on screen or the query. -/
def Changes (x : Transition (State α) (Event α)) : Prop :=
  ¬ (x.after.element = x.before.element ∧ x.after.query = x.before.query)

instance (x : Transition (State α) (Event α)) : Decidable (Changes x) :=
  inferInstanceAs (Decidable (¬ (_ ∧ _)))

/-- One of the callbacks appends the pets once each, the best match first, and advances the query.
The others change nothing. -/
def ListsOnce (page : List PetId) (last : PetId) (callbacks : List (Transition (State α) (Event α))) : Prop :=
  ∃ x listed, callbacks.filter (fun x => decide (Changes x)) = [x] ∧
    x.after.element = x.before.element ++ listed ∧ (pets listed).Perm page ∧
    (listed.Pairwise fun a b => b.matchingPercent ≤ a.matchingPercent) ∧ x.after.query = some last

/-- The strangers of the page are listed. -/
def Listed (documents : List PetId) (s : State α) (es : List (Event α)) : Prop :=
  ∀ last ∈ documents.getLast?, ListsOnce (strangers uid (friending s.deliveries.length) documents) last
    (callbacks uid friending documents s es)

/-- No callback adds a pet that the list has already. -/
def NoneAgain (documents : List PetId) (s : State α) (es : List (Event α)) : Prop :=
  ∀ x ∈ callbacks uid friending documents s es, ∃ added, x.after.element = x.before.element ++ added ∧
    ∀ pet ∈ pets added, pet ∉ pets x.before.element

def EndsWithOwner (callbacks : List (Transition (State α) (Event α))) : Prop :=
  ∃ x ∈ callbacks.getLast?, x.event.isOwner = true

/-- The last callback to complete is an owner download. -/
def OwnerLast (documents : List PetId) (s : State α) (es : List (Event α)) : Prop :=
  EndsWithOwner (callbacks uid friending documents s es)

/-- None of the strangers is on the list when the owner is downloaded that is waited for last. -/
def AllNew (documents : List PetId) (s : State α) (es : List (Event α)) : Prop :=
  ∀ x ∈ callbacks uid friending documents s es, x.event.isOwner = true →
    ∀ d ∈ (x.before.deliveries[s.deliveries.length]?).toList, d.AwaitsOne →
      ∀ pet ∈ strangers uid (friending s.deliveries.length) documents, pet ∉ pets x.before.element

instance (documents : List PetId) (s : State α) (es : List (Event α)) :
    Decidable (OwnerLast uid friending documents s es) :=
  inferInstanceAs (Decidable (∃ x ∈ List.getLast? _, _ = true))

instance (documents : List PetId) (s : State α) (es : List (Event α)) :
    Decidable (AllNew uid friending documents s es) :=
  inferInstanceAs (Decidable (∀ x ∈ callbacks uid friending documents s es, x.event.isOwner = true →
    ∀ d ∈ (x.before.deliveries[s.deliveries.length]?).toList, d.AwaitsOne →
      ∀ pet ∈ strangers uid (friending s.deliveries.length) documents, pet ∉ pets x.before.element))

end Order

variable {uid} {friends : PetId → Bool} {friending : ℕ → PetId → Bool} {documents : List PetId}
  {s t t' s' : State α} {d : Delivery α}

/-- What the counter and the lists of a delivery add up to until it is complete. -/
structure Counted (uid : String) (friends : PetId → Bool) (documents : List PetId)
    (d : Delivery α) : Prop where
  size : d.downloadSize =
    (strangers uid friends documents).length + (d.checks.filter friends).length
  collected : (pets d.toSort ++ d.owners ++ d.checks.filter fun pet => !friends pet).Perm
    (strangers uid friends documents)

theorem foldl_documents (d : Delivery α) :
    documents.foldl
      (fun d thatPet =>
        if thatPet.ownerId = uid then { d with downloadSize := d.downloadSize - 1 }
        else { d with checks := d.checks ++ [thatPet] }) d =
    { d with
      downloadSize := d.downloadSize - (documents.filter fun pet => decide (pet.ownerId = uid)).length
      checks := d.checks ++ documents.filter fun pet => !decide (pet.ownerId = uid) } := by
  induction documents generalizing d with
  | nil => simp
  | cons pet documents ih =>
      by_cases own : pet.ownerId = uid
      · rw [List.foldl_cons, if_pos own, ih]
        simp only [own, decide_true, Bool.not_true, List.filter_cons_of_pos, List.length_cons,
          Bool.false_eq_true, not_false_eq_true, List.filter_cons_of_neg, Delivery.mk.injEq, true_and,
          and_true]
        omega
      · rw [List.foldl_cons, if_neg own, ih]
        simp [own]

theorem strangers_eq (uid : String) (friends : PetId → Bool) (documents : List PetId) :
    strangers uid friends documents =
      (documents.filter fun pet => !decide (pet.ownerId = uid)).filter fun pet => !friends pet := by
  rw [strangers, List.filter_filter]
  refine List.filter_congr fun pet _ => ?_
  simp [Bool.and_comm]

theorem counted_receive (last : PetId) :
    Counted uid friends documents (receive uid last documents : Delivery α) := by
  have own := documents.length_eq_length_filter_add fun pet => decide (pet.ownerId = uid)
  have known := (documents.filter fun pet => !decide (pet.ownerId = uid)).length_eq_length_filter_add
    friends
  rw [receive, foldl_documents]
  constructor
  · simp only [List.nil_append, strangers_eq]
    omega
  · simp [pets, strangers_eq]

theorem Counted.finished_iff (counted : Counted uid friends documents d) :
    d.downloadSize = d.toSort.length ↔ d.Finished := by
  have size := counted.size
  have total := counted.collected.length_eq
  have checks := d.checks.length_eq_length_filter_add friends
  rw [List.length_append, List.length_append, pets, List.length_map] at total
  rw [Delivery.Finished, ← List.length_eq_zero_iff, ← List.length_eq_zero_iff]
  omega

theorem Counted.checked (counted : Counted uid friends documents d) {i : ℕ} {pet : PetId}
    (waits : d.checks[i]? = some pet) : Counted uid friends documents
      ({ d with checks := d.checks.eraseIdx i }.checked friends pet) := by
  obtain ⟨bound, rfl⟩ := List.getElem?_eq_some_iff.mp waits
  have moved := List.getElem_cons_eraseIdx_perm bound
  rw [Delivery.checked]
  by_cases friend : friends d.checks[i]
  · have known := (moved.filter friends).length_eq
    have others := moved.filter fun pet => !friends pet
    simp only [List.filter_cons, friend, if_true, List.length_cons, Bool.not_true,
      Bool.false_eq_true, if_false] at known others
    rw [if_pos friend]
    constructor
    · have size := counted.size
      simp only
      omega
    · exact (others.append_left _).trans counted.collected
  · have known := (moved.filter friends).length_eq
    have others := moved.filter fun pet => !friends pet
    simp only [List.filter_cons, friend, if_true, Bool.not_false, Bool.false_eq_true, if_false]
      at known others
    rw [if_neg friend]
    constructor
    · have size := counted.size
      simp only
      omega
    · refine List.Perm.trans ?_ ((others.append_left _).trans counted.collected)
      simp

theorem Counted.owner (counted : Counted uid friends documents d) {i : ℕ} {pet : PetId}
    (waits : d.owners[i]? = some pet) (percent : α) : Counted uid friends documents
      { d with owners := d.owners.eraseIdx i, toSort := d.toSort ++ [⟨pet, percent⟩] } := by
  obtain ⟨bound, rfl⟩ := List.getElem?_eq_some_iff.mp waits
  refine ⟨counted.size, List.Perm.trans ?_ counted.collected⟩
  have moved := List.getElem_cons_eraseIdx_perm bound
  simpa [pets] using (moved.append_left (pets d.toSort)).append_right
    (d.checks.filter fun pet => !friends pet)

/-- The `k`-th delivery is one of the page. -/
def Delivered (uid : String) (friending : ℕ → PetId → Bool) (documents : List PetId) (last : PetId)
    (k : ℕ) (t : State α) : Prop :=
  ∃ d, t.deliveries[k]? = some d ∧ d.last = last ∧ Counted uid (friending k) documents d

theorem delivered_start (friending : ℕ → PetId → Bool) (documents : List PetId) (last : PetId) (s : State α) :
    Delivered uid friending documents last s.deliveries.length
      { s with deliveries := s.deliveries ++ [receive uid last documents] } :=
  ⟨receive uid last documents, by simp, by rw [receive, foldl_documents], counted_receive last⟩

theorem Delivery.awaitsOne_iff {i : ℕ} {pet : PetId} (waits : d.owners[i]? = some pet) :
    d.AwaitsOne ↔ { d with owners := d.owners.eraseIdx i }.Finished := by
  obtain ⟨bound, -⟩ := List.getElem?_eq_some_iff.mp waits
  rw [AwaitsOne, Finished]
  refine and_congr_right fun _ => ?_
  rw [← List.length_eq_zero_iff, List.length_eraseIdx_of_lt bound]
  omega

variable [LinearOrder α]

theorem Counted.sort (counted : Counted uid friends documents d) :
    Counted uid friends documents { d with toSort := IOS.sort d.toSort } where
  size := by simpa [IOS.sort] using counted.size
  collected := by
    have moved := (List.perm_insertionSort (fun this that : MatchingProfile α =>
      that.matchingPercent ≤ this.matchingPercent) d.toSort).map MatchingProfile.thatPet
    exact ((moved.append_right _).append_right _).trans counted.collected

/-- The callbacks of other deliveries leave a delivery alone. -/
theorem other_delivery {k : ℕ} {e : Event α} (here : t.deliveries[k]? = some d)
    (other : e.delivery ≠ some k) (taken : step uid friending t e = some t') :
    t'.deliveries[k]? = some d := by
  have bound := (List.getElem?_eq_some_iff.mp here).1
  cases e with
  | snapshot documents =>
      simp only [step] at taken
      split at taken
      · cases taken
        exact here
      · cases taken
        rw [List.getElem?_append_left bound, here]
  | checked k' i =>
      simp only [step, Option.bind_eq_bind, Option.bind_eq_some_iff, Option.pure_def,
        Option.some.injEq] at taken
      obtain ⟨d', -, pet, -, rfl⟩ := taken
      rw [List.getElem?_set_ne fun same => other (congrArg some same), here]
  | owner k' i percent =>
      simp only [step, Option.bind_eq_bind, Option.bind_eq_some_iff, Option.pure_def,
        Option.some.injEq] at taken
      obtain ⟨d', -, pet, -, rfl⟩ := taken
      rw [State.append]
      split
      · rw [List.getElem?_set_ne fun same => other (congrArg some same), here]
      · rw [List.getElem?_set_ne fun same => other (congrArg some same), here]

/-- What a callback of a delivery does. -/
inductive Does (page : List PetId) (last : PetId) (d d' : Delivery α)
    (x : Transition (State α) (Event α)) : Prop where
  | nothing (element : x.after.element = x.before.element) (query : x.after.query = x.before.query)
      (others : x.event.isOwner = true → ¬ d.AwaitsOne) (unfinished : x.event.isOwner = true → ¬ d'.Finished)
  | list (listed : List (MatchingProfile α)) (owner : x.event.isOwner = true) (one : d.AwaitsOne)
      (finished : d'.Finished) (element : x.after.element = x.before.element ++ listed)
      (all : (pets listed).Perm page)
      (sorted : listed.Pairwise fun a b => b.matchingPercent ≤ a.matchingPercent)
      (some_listed : listed ≠ []) (query : x.after.query = some last)

theorem callback_cases {k : ℕ} {e : Event α} (here : t.deliveries[k]? = some d)
    (counted : Counted uid (friending k) documents d) (own : e.delivery = some k)
    (taken : step uid friending t e = some t') :
    ¬ d.Finished ∧ ∃ d', t'.deliveries[k]? = some d' ∧ d'.last = d.last ∧
      Counted uid (friending k) documents d' ∧
      Does (strangers uid (friending k) documents) d.last d d' ⟨t, e, t'⟩ := by
  have bound := (List.getElem?_eq_some_iff.mp here).1
  cases e with
  | snapshot => cases own
  | checked k' i =>
      obtain rfl := Option.some.inj own
      simp only [step, Option.bind_eq_bind, Option.bind_eq_some_iff, Option.pure_def,
        Option.some.injEq] at taken
      obtain ⟨d', at_k, pet, waits, rfl⟩ := taken
      obtain rfl := Option.some.inj (here.symm.trans at_k)
      refine ⟨fun finished => by simp [finished.1] at waits, _, List.getElem?_set_self bound, ?_,
        counted.checked waits, .nothing rfl rfl nofun nofun⟩
      rw [Delivery.checked]
      split
      · rfl
      · rfl
  | owner k' i percent =>
      obtain rfl := Option.some.inj own
      simp only [step, Option.bind_eq_bind, Option.bind_eq_some_iff, Option.pure_def,
        Option.some.injEq] at taken
      obtain ⟨d', at_k, pet, waits, rfl⟩ := taken
      obtain rfl := Option.some.inj (here.symm.trans at_k)
      have next := counted.owner waits percent
      have one := Delivery.awaitsOne_iff waits
      refine ⟨fun finished => by simp [finished.2] at waits, ?_⟩
      rw [State.append]
      split
      · rename_i complete
        have finished := next.finished_iff.mp complete
        refine ⟨_, List.getElem?_set_self bound, rfl, next.sort, .list (sort (d.toSort ++ [⟨pet, percent⟩])) rfl
          (one.mpr finished) finished rfl ?_ (List.pairwise_insertionSort _ _) ?_ rfl⟩
        · have collected := next.sort.collected
          rwa [finished.1, finished.2, List.filter_nil, List.append_nil, List.append_nil] at collected
        · intro empty
          have length := congrArg List.length empty
          simp [sort] at length
      · rename_i incomplete
        have unfinished := mt next.finished_iff.mpr incomplete
        exact ⟨_, List.getElem?_set_self bound, rfl, next,
          .nothing rfl rfl (fun _ => mt one.mp unfinished) fun _ => unfinished⟩

theorem delivered_step {last : PetId} {k : ℕ} {e : Event α}
    (delivered : Delivered uid friending documents last k t) (taken : step uid friending t e = some t') :
    Delivered uid friending documents last k t' := by
  obtain ⟨d, here, ends, counted⟩ := delivered
  by_cases own : e.delivery = some k
  · obtain ⟨-, d', here', same, counted', -⟩ := callback_cases here counted own taken
    exact ⟨d', here', same.trans ends, counted'⟩
  · exact ⟨d, other_delivery here own taken, ends, counted⟩

theorem step_snapshot {last : PetId} (ends : documents.getLast? = some last) :
    step uid friending s (.snapshot documents) =
      some { s with deliveries := s.deliveries ++ [receive uid last documents] } := by
  simp only [step, ends]

theorem callbacks_eq {last : PetId} (ends : documents.getLast? = some last) (es : List (Event α)) :
    callbacks uid friending documents s es =
      (transitions (step uid friending)
        { s with deliveries := s.deliveries ++ [receive uid last documents] } es).filter
        fun x => decide (x.event.delivery = some s.deliveries.length) := by
  have nonempty : documents.isEmpty = false := by
    cases documents with
    | nil => cases ends
    | cons => rfl
  rw [callbacks, transitions_cons (step_snapshot ends)]
  simp [nonempty, Event.delivery]

/-- What the callbacks of a delivery have done so far. -/
def Progress (page : List PetId) (last : PetId) (callbacks : List (Transition (State α) (Event α)))
    (d : Delivery α) : Prop :=
  (callbacks.filter (fun x => decide (Changes x)) = [] ∧ (EndsWithOwner callbacks → ¬ d.Finished)) ∨
    (ListsOnce page last callbacks ∧ EndsWithOwner callbacks ∧ d.Finished)

theorem progress_concat {page : List PetId} {last : PetId}
    {callbacks : List (Transition (State α) (Event α))} {d d' : Delivery α}
    {x : Transition (State α) (Event α)} (progress : Progress page last callbacks d) (busy : ¬ d.Finished)
    (does : Does page last d d' x) : Progress page last (callbacks ++ [x]) d' := by
  have silent : callbacks.filter (fun x => decide (Changes x)) = [] := by
    cases progress with
    | inl before => exact before.1
    | inr before => exact absurd before.2.2 busy
  cases does with
  | nothing element query _ unfinished =>
      have same : ¬ Changes x := fun changes => changes ⟨element, query⟩
      refine .inl ⟨by simp [silent, same], ?_⟩
      rintro ⟨x', ends, owner⟩
      rw [List.getLast?_concat, Option.mem_some] at ends
      subst ends
      exact unfinished owner
  | list listed owner _ finished element all sorted some_listed query =>
      have changes : Changes x := by
        rintro ⟨same, -⟩
        rw [element, List.append_right_eq_self] at same
        exact some_listed same
      refine .inr ⟨⟨x, listed, by simp [silent, changes], element, all, sorted, query⟩, ?_, finished⟩
      exact ⟨x, List.getLast?_concat, owner⟩

theorem progress_run {last : PetId} (ends : documents.getLast? = some last) {es : List (Event α)}
    (ran : run (step uid friending)
      { s with deliveries := s.deliveries ++ [receive uid last documents] } es = some t) :
    ∃ d, t.deliveries[s.deliveries.length]? = some d ∧ d.last = last ∧
      Counted uid (friending s.deliveries.length) documents d ∧
      Progress (strangers uid (friending s.deliveries.length) documents) last
        (callbacks uid friending documents s es) d := by
  rw [callbacks_eq ends]
  induction es using List.reverseRecOn generalizing t with
  | nil =>
      cases ran
      obtain ⟨d, here, same, counted⟩ := delivered_start friending documents last s
      refine ⟨d, here, same, counted, .inl ⟨rfl, ?_⟩⟩
      rintro ⟨x, mem, -⟩
      cases mem
  | append_singleton es e ih =>
      obtain ⟨u, earlier, now⟩ := run_append.mp ran
      obtain ⟨u', taken, stopped⟩ := run_cons.mp now
      cases stopped
      obtain ⟨d, here, same, counted, progress⟩ := ih earlier
      rw [transitions_concat earlier taken, List.filter_append]
      by_cases own : e.delivery = some s.deliveries.length
      · obtain ⟨busy, d', here', same', counted', does⟩ := callback_cases here counted own taken
        simp only [List.filter_cons, List.filter_nil, own, decide_true, if_true]
        exact ⟨d', here', same'.trans same, counted', progress_concat progress busy (same ▸ does)⟩
      · simp only [List.filter_cons, List.filter_nil, own, decide_false, Bool.false_eq_true, if_false,
          List.append_nil]
        exact ⟨d, other_delivery here own taken, same, counted, progress⟩

theorem listed_iff {es : List (Event α)} (processed : Processed uid friending documents s es s') :
    Listed uid friending documents s es ↔ documents = [] ∨ OwnerLast uid friending documents s es := by
  obtain ⟨ran, finished⟩ := processed
  cases ends : documents.getLast? with
  | none => exact iff_of_true (by simp [Listed, ends]) (.inl (List.getLast?_eq_none_iff.mp ends))
  | some last =>
      have nonempty : documents ≠ [] := by
        rintro rfl
        cases ends
      obtain ⟨t, taken, rest⟩ := run_cons.mp ran
      obtain rfl := Option.some.inj ((step_snapshot ends).symm.trans taken)
      obtain ⟨d, here, -, -, progress⟩ := progress_run ends rest
      have complete : d.Finished := finished d (by simp [here]) nonempty
      rw [Listed, or_iff_right nonempty, OwnerLast, ends]
      cases progress with
      | inl missed =>
          refine iff_of_false ?_ fun owner => missed.2 owner complete
          intro listed
          obtain ⟨x, -, only, -⟩ := listed last rfl
          rw [missed.1] at only
          cases only
      | inr done =>
          refine iff_of_true ?_ done.2.1
          intro last' mem
          cases mem
          exact done.1

theorem noneAgain_iff (uid : String) (friending : ℕ → PetId → Bool) (documents : List PetId) (s : State α)
    (es : List (Event α)) :
    NoneAgain uid friending documents s es ↔ AllNew uid friending documents s es := by
  cases ends : documents.getLast? with
  | none =>
      obtain rfl := List.getLast?_eq_none_iff.mp ends
      simp [NoneAgain, AllNew, callbacks]
  | some last =>
      rw [NoneAgain, AllNew, callbacks_eq ends]
      refine forall₂_congr fun x mem => ?_
      obtain ⟨mem, own⟩ := List.mem_filter.mp mem
      obtain ⟨⟨d, here, -, counted⟩, taken⟩ := transitions_invariant (fun _ _ _ => delivered_step)
        (delivered_start friending documents last s) x mem
      obtain ⟨-, d', -, -, -, does⟩ := callback_cases here counted (of_decide_eq_true own) taken
      rw [here]
      cases does with
      | nothing element _ others =>
          refine iff_of_true ⟨[], by simpa using element, nofun⟩ fun owner d mem one => ?_
          obtain rfl := List.mem_singleton.mp mem
          exact absurd one (others owner)
      | list listed owner one _ element all =>
          constructor
          · rintro ⟨added, again, new⟩ - d - - pet mem
            obtain rfl := List.append_cancel_left (element.symm.trans again)
            exact new pet (all.mem_iff.mpr mem)
          · intro new
            exact ⟨listed, element, fun pet mem =>
              new owner d (List.mem_singleton_self d) one pet (all.mem_iff.mp mem)⟩

/-- A page is listed exactly when the last of its callbacks to complete is an owner download. When it
is delivered again, no pet is added again exactly when all its strangers are new at that point. -/
theorem page_listed_once_iff (uid : String) (friending : ℕ → PetId → Bool) (documents : List PetId)
    (s s' t : State α) (es es' : List (Event α)) (first : Processed uid friending documents s es s') :
    (Listed uid friending documents s es ∧ NoneAgain uid friending documents t es') ↔
      (documents = [] ∨ OwnerLast uid friending documents s es) ∧ AllNew uid friending documents t es' :=
  and_congr (listed_iff first) (noneAgain_iff uid friending documents t es')

/-- A pet of the user, a friend and two strangers. -/
def samplePage : List PetId := [⟨"u", 0⟩, ⟨"f", 0⟩, ⟨"x", 0⟩, ⟨"y", 0⟩]

def sampleFriending : ℕ → PetId → Bool := fun _ pet => pet == ⟨"f", 0⟩

/-- The strangers' owners come last the first time, while a second delivery is under way, and the
check of the friend the third time. -/
theorem page_listed_once_friend_last : ∃ es es' : List (Event ℕ), ∃ s',
    run (step "u" sampleFriending) (State.initial ℕ) (.snapshot samplePage :: es) = some s' ∧
      pets s'.element = [⟨"y", 0⟩, ⟨"x", 0⟩] ∧
      Listed "u" sampleFriending samplePage (State.initial ℕ) es ∧
      NoneAgain "u" sampleFriending samplePage s' es' := by
  let es : List (Event ℕ) := [.checked 0 1, .owner 0 0 30, .snapshot samplePage, .checked 1 1, .checked 0 0,
    .checked 0 0, .owner 0 0 70, .checked 1 0]
  let es' : List (Event ℕ) := [.checked 2 1, .owner 2 0 30, .checked 2 1, .owner 2 0 70, .checked 2 0]
  have trace : ((run (step "u" sampleFriending) (State.initial ℕ) (.snapshot samplePage :: es)).map fun s' =>
      decide (∀ d ∈ (s'.deliveries[0]?).toList, samplePage ≠ [] → d.Finished) &&
        decide (pets s'.element = [⟨"y", 0⟩, ⟨"x", 0⟩]) &&
        decide (AllNew "u" sampleFriending samplePage s' es')) = some true := by
    decide +kernel
  simp only [Option.map_eq_some_iff, Bool.and_eq_true, decide_eq_true_eq] at trace
  obtain ⟨s', ran, ⟨finished, listed⟩, new⟩ := trace
  have owner : OwnerLast "u" sampleFriending samplePage (State.initial ℕ) es := by
    decide +kernel
  exact ⟨es, es', s', ran, listed,
    (page_listed_once_iff "u" sampleFriending samplePage _ s' s' es es' ⟨ran, finished⟩).mpr ⟨.inr owner, new⟩⟩

/-- When the check of a friend comes back last, the page is never listed. -/
theorem friend_check_last : ¬ ∀ (uid : String) (friending : ℕ → PetId → Bool) (documents : List PetId)
    (s s' t : State ℕ) (es es' : List (Event ℕ)), Processed uid friending documents s es s' →
      Listed uid friending documents s es ∧ NoneAgain uid friending documents t es' := by
  intro claim
  let documents : List PetId := [⟨"f", 0⟩, ⟨"x", 0⟩]
  let es : List (Event ℕ) := [.checked 0 1, .owner 0 0 30, .checked 0 0]
  have trace : ((run (step "u" sampleFriending) (State.initial ℕ) (.snapshot documents :: es)).map fun s' =>
      decide (∀ d ∈ (s'.deliveries[0]?).toList, documents ≠ [] → d.Finished)) = some true := by
    decide +kernel
  simp only [Option.map_eq_some_iff, decide_eq_true_eq] at trace
  obtain ⟨s', ran, finished⟩ := trace
  have processed : Processed "u" sampleFriending documents (State.initial ℕ) es s' := ⟨ran, finished⟩
  have late : ¬ OwnerLast "u" sampleFriending documents (State.initial ℕ) es := by
    decide +kernel
  cases (listed_iff processed).mp (claim "u" _ documents _ s' s' es [] processed).1 with
  | inl empty => exact List.cons_ne_nil _ _ empty
  | inr owner => exact late owner

end PetClump.Matching.IOS
