import PetClump.Friends.FriendHandler

/-! # The friend list on iOS

Every appearance of the list empties its array and starts a wave of downloads, and the
waves of earlier appearances go on. A row keeps the place it had when it was drawn, and
a tap operates on what is in that place of the array by then.
-/

namespace PetClump.FriendList

open Runs Handler

inductive Button where
  | acceptButton
  | rejectButton
  deriving Repr, DecidableEq

section List

variable {F : Type*}

/-- A tap on a row: the friend that it shows and the one that it operates on, `none`
when the row is out of range, which traps. -/
structure Tap (F : Type*) where
  button : Button
  shown : F
  operatedOn : Option F
  deriving DecidableEq

/-- A handler is given by its friend. `collections`, `profiles` and `checks` are the reads
of friend records, of profiles and of pending values that have not been answered. -/
structure FriendListVC (F : Type*) where
  friendHandlers : List F
  displayed : List F
  collections : ℕ
  profiles : List F
  checks : List (Query × F)
  taps : List (Tap F)
  deriving DecidableEq

def start : FriendListVC F := ⟨[], [], 0, [], [], []⟩

inductive Event (F : Type*) where
  | viewWillAppear
  /-- the records of `downloadFriends`, which have different names, unless their read failed -/
  | collection (documents : Option (List F))
  | profile (friend : F)
  | check (query : Query) (friend : F) (myPending : String)
  /-- the table draws its rows; `reloadData` asks for it -/
  | reload
  | tap (button : Button) (row : ℕ)
  deriving DecidableEq

def step [DecidableEq F] (s : FriendListVC F) : Event F → Option (FriendListVC F)
  | .viewWillAppear => some { s with friendHandlers := [], collections := s.collections + 1 }
  | .collection documents =>
      if 0 < s.collections ∧ (documents.getD []).Nodup then
        some { s with collections := s.collections - 1, profiles := s.profiles ++ documents.getD [] }
      else none
  | .profile friend =>
      if friend ∈ s.profiles then
        some { s with
          profiles := s.profiles.erase friend
          checks := s.checks ++ [(.isFriending, friend), (.isReceiving, friend)] }
      else none
  | .check query friend myPending =>
      if (query, friend) ∈ s.checks then
        some { s with
          checks := s.checks.erase (query, friend)
          friendHandlers :=
            if query.isTrue myPending then s.friendHandlers ++ [friend] else s.friendHandlers }
      else none
  | .reload => some { s with displayed := s.friendHandlers }
  | .tap button row =>
      (s.displayed[row]?).map fun shown =>
        { s with taps := s.taps ++ [⟨button, shown, s.friendHandlers[row]?⟩] }

def FriendListVC.Quiet (s : FriendListVC F) : Prop :=
  s.collections = 0 ∧ s.profiles = [] ∧ s.checks = []

instance [DecidableEq F] (s : FriendListVC F) : Decidable s.Quiet := inferInstanceAs (Decidable (_ ∧ _ ∧ _))

/-- Every tap operated on the friend of its row. -/
def FriendListVC.TapsRight (s : FriendListVC F) : Prop := ∀ tap ∈ s.taps, tap.operatedOn = some tap.shown

instance [DecidableEq F] (s : FriendListVC F) : Decidable s.TapsRight := inferInstanceAs (Decidable (∀ _ ∈ _, _))

/-- What a status check found -/
structure Answer (F : Type*) where
  query : Query
  friend : F
  myPending : String
  deriving DecidableEq

/-- Whether the list has appeared since the table was drawn, and what was answered since it appeared -/
structure Log (F : Type*) where
  stale : Bool
  answered : List (Answer F)

def Log.start : Log F := ⟨false, []⟩

def note (_ : FriendListVC F) (e : Event F) (log : Log F) : Log F :=
  match e with
  | .viewWillAppear => ⟨true, []⟩
  | .check query friend myPending => { log with answered := log.answered ++ [⟨query, friend, myPending⟩] }
  | .reload => { log with stale := false }
  | .collection _ | .profile _ | .tap _ _ => log

/-- A request was accepted, or a friend made a new one, between two reads of a record. -/
def Changed (first second : String) : Prop :=
  first = "receiving" ∧ second = "friending" ∨ first = "friending" ∧ second = "receiving"

instance (first second : String) : Decidable (Changed first second) := inferInstanceAs (Decidable (_ ∨ _))

/-- The list appears when nothing is outstanding, no record changes from one check of its friend to the
other, and a row is tapped when the table has been drawn since the list appeared. -/
def Orderly (x : FriendListVC F × Log F) (e : Event F) : Prop :=
  match e with
  | .viewWillAppear => x.1.Quiet
  | .check _ friend myPending => ∀ old ∈ x.2.answered, old.friend = friend → ¬ Changed old.myPending myPending
  | .tap _ _ => x.2.stale = false
  | .collection _ | .profile _ | .reload => True

instance [DecidableEq F] (x : FriendListVC F × Log F) : ∀ e, Decidable (Orderly x e)
  | .viewWillAppear => inferInstanceAs (Decidable x.1.Quiet)
  | .check _ friend myPending =>
      inferInstanceAs (Decidable (∀ old ∈ x.2.answered, old.friend = friend → ¬ Changed old.myPending myPending))
  | .tap _ _ => inferInstanceAs (Decidable (x.2.stale = false))
  | .collection _ | .profile _ | .reload => .isTrue trivial

/-- What is outstanding comes from one appearance, and a friend is at one place of its wave: the profile
is awaited, or its two checks have been asked and are answered once each. -/
structure Wave (s : FriendListVC F) (answered : List (Answer F)) : Prop where
  first : s.collections = 0 ∨ s.collections = 1 ∧ s.profiles = [] ∧ s.checks = [] ∧ answered = []
  profiles : s.profiles.Nodup
  checks : s.checks.Nodup
  unasked : ∀ friend ∈ s.profiles,
    (∀ query, (query, friend) ∉ s.checks) ∧ ∀ old ∈ answered, old.friend ≠ friend
  once : ∀ old ∈ answered, (old.query, old.friend) ∉ s.checks
  asked : ∀ check ∈ s.checks, check.1 = .isFriending ∨ check.1 = .isReceiving
  queries : ∀ old ∈ answered, old.query = .isFriending ∨ old.query = .isReceiving
  confirmed : ∀ friend ∈ s.friendHandlers,
    ∃ old ∈ answered, old.friend = friend ∧ old.query.isTrue old.myPending
  handlers : s.friendHandlers.Nodup

/-- The rows are the first ones of the array, unless it has been emptied since. -/
structure Rows (s : FriendListVC F) (stale : Bool) : Prop where
  displayed : stale = false → s.displayed <+: s.friendHandlers
  taps : s.TapsRight

def Inv (x : FriendListVC F × Log F) : Prop := Wave x.1 x.2.answered ∧ Rows x.1 x.2.stale

theorem inv_start : Inv ((start, Log.start) : FriendListVC F × Log F) :=
  ⟨by constructor <;> simp [start, Log.start], fun _ => List.prefix_rfl, nofun⟩

section Wave

variable {s : FriendListVC F} {answered : List (Answer F)} {friend : F} {query : Query} {myPending : String}

theorem Wave.appear (quiet : s.Quiet) :
    Wave { s with friendHandlers := [], collections := s.collections + 1 } [] := by
  obtain ⟨none, profiles, checks⟩ := quiet
  constructor <;> simp [none, profiles, checks]

theorem Wave.collection (wave : Wave s answered) (waits : 0 < s.collections) {documents : List F}
    (distinct : documents.Nodup) :
    Wave { s with collections := s.collections - 1, profiles := s.profiles ++ documents } answered := by
  obtain ⟨one, profiles, checks, none⟩ := wave.first.resolve_left (by omega)
  have confirmed := wave.confirmed
  subst none
  constructor <;> simp_all [wave.handlers]

theorem Wave.table (wave : Wave s answered) (displayed : List F) (taps : List (Tap F)) :
    Wave { s with displayed, taps } answered :=
  ⟨wave.first, wave.profiles, wave.checks, wave.unasked, wave.once, wave.asked, wave.queries, wave.confirmed,
    wave.handlers⟩

/-- Two different checks do not both take their true branch. -/
theorem changed_of_isTrue {other : Query} {found : String} (asked : query = .isFriending ∨ query = .isReceiving)
    (asked' : other = .isFriending ∨ other = .isReceiving) (apart : other ≠ query)
    (now : query.isTrue myPending) (before : other.isTrue found) : Changed found myPending := by
  rcases asked with rfl | rfl <;> rcases asked' with rfl | rfl <;> simp_all [Query.isTrue, Changed]

variable [DecidableEq F]

theorem Wave.profile (wave : Wave s answered) (waits : friend ∈ s.profiles) :
    Wave { s with
      profiles := s.profiles.erase friend
      checks := s.checks ++ [(.isFriending, friend), (.isReceiving, friend)] } answered := by
  obtain ⟨noChecks, noAnswers⟩ := wave.unasked friend waits
  have asks {check : Query × F} (new : check ∈ [(Query.isFriending, friend), (.isReceiving, friend)]) :
      check.2 = friend ∧ (check.1 = .isFriending ∨ check.1 = .isReceiving) := by
    rcases List.mem_pair.mp new with rfl | rfl <;> simp
  refine ⟨?_, wave.profiles.erase friend, ?_, fun other mem => ?_, fun old mem => ?_, fun check mem => ?_,
    wave.queries, wave.confirmed, wave.handlers⟩
  · refine wave.first.imp_right fun one => ?_
    rw [one.2.1] at waits
    cases waits
  · refine List.nodup_append.mpr ⟨wave.checks, by simp, fun check old new mem same => ?_⟩
    have its := (asks mem).1
    rw [← same] at its
    exact noChecks check.1 (its ▸ old)
  · obtain ⟨apart, waiting⟩ := wave.profiles.mem_erase_iff.mp mem
    obtain ⟨unchecked, unanswered⟩ := wave.unasked other waiting
    refine ⟨fun query asked => ?_, unanswered⟩
    exact (List.mem_append.mp asked).elim (unchecked query) fun new => apart (asks new).1
  · intro asked
    exact (List.mem_append.mp asked).elim (wave.once old mem) fun new => noAnswers old mem (asks new).1
  · exact (List.mem_append.mp mem).elim (wave.asked check) fun new => (asks new).2

theorem Wave.check (wave : Wave s answered) (waits : (query, friend) ∈ s.checks)
    (steady : ∀ old ∈ answered, old.friend = friend → ¬ Changed old.myPending myPending) :
    Wave { s with
      checks := s.checks.erase (query, friend)
      friendHandlers := if query.isTrue myPending then s.friendHandlers ++ [friend] else s.friendHandlers }
      (answered ++ [⟨query, friend, myPending⟩]) := by
  have kind : query = .isFriending ∨ query = .isReceiving := wave.asked _ waits
  refine ⟨?_, wave.profiles, wave.checks.erase _, fun other mem => ?_, ?_, fun check mem => ?_, ?_, ?_, ?_⟩
  · refine wave.first.imp_right fun one => ?_
    rw [one.2.2.1] at waits
    cases waits
  · obtain ⟨unchecked, unanswered⟩ := wave.unasked other mem
    refine ⟨fun query asked => unchecked query (List.mem_of_mem_erase asked),
      List.forall_mem_append.mpr ⟨unanswered, ?_⟩⟩
    simp only [List.mem_singleton, forall_eq]
    rintro rfl
    exact unchecked query waits
  · refine List.forall_mem_append.mpr ⟨fun old mem asked => wave.once old mem (List.mem_of_mem_erase asked), ?_⟩
    simp only [List.mem_singleton, forall_eq]
    exact wave.checks.not_mem_erase
  · exact wave.asked check (List.mem_of_mem_erase mem)
  · refine List.forall_mem_append.mpr ⟨wave.queries, ?_⟩
    simp only [List.mem_singleton, forall_eq]
    exact kind
  · intro other mem
    split at mem
    · rename_i now
      cases List.mem_append.mp mem with
      | inl shown =>
          obtain ⟨old, answer, its⟩ := wave.confirmed other shown
          exact ⟨old, List.mem_append_left _ answer, its⟩
      | inr new =>
          obtain rfl := List.mem_singleton.mp new
          exact ⟨_, List.mem_append_right _ (List.mem_singleton_self _), rfl, now⟩
    · obtain ⟨old, answer, its⟩ := wave.confirmed other mem
      exact ⟨old, List.mem_append_left _ answer, its⟩
  · split
    · rename_i now
      refine List.nodup_append_comm.mp (List.nodup_cons.mpr ⟨fun shown => ?_, wave.handlers⟩)
      -- the other check of the friend would have found another record
      obtain ⟨old, answer, rfl, before⟩ := wave.confirmed friend shown
      have apart : old.query ≠ query := fun same => wave.once old answer (same ▸ waits)
      exact steady old answer rfl (changed_of_isTrue kind (wave.queries old answer) apart now before)
    · exact wave.handlers

end Wave

variable [DecidableEq F]

theorem inv_step {x x' : FriendListVC F × Log F} {e : Event F} (inv : Inv x) (orderly : Orderly x e)
    (taken : recorded step note x e = some x') : Inv x' := by
  obtain ⟨s', stepped, rfl⟩ := recorded_eq_some.mp taken
  obtain ⟨wave, rows⟩ := inv
  cases e with
  | viewWillAppear =>
      cases stepped
      exact ⟨.appear orderly, nofun, rows.taps⟩
  | collection documents =>
      obtain ⟨⟨waits, distinct⟩, done⟩ := Option.ite_none_right_eq_some.mp stepped
      cases done
      exact ⟨wave.collection waits distinct, rows.displayed, rows.taps⟩
  | profile friend =>
      obtain ⟨waits, done⟩ := Option.ite_none_right_eq_some.mp stepped
      cases done
      exact ⟨wave.profile waits, rows.displayed, rows.taps⟩
  | check query friend myPending =>
      obtain ⟨waits, done⟩ := Option.ite_none_right_eq_some.mp stepped
      cases done
      refine ⟨wave.check waits orderly, fun fresh => (rows.displayed fresh).trans ?_, rows.taps⟩
      dsimp only
      split
      · exact List.prefix_append _ _
      · exact List.prefix_rfl
  | reload =>
      cases stepped
      exact ⟨wave.table _ _, fun _ => List.prefix_rfl, rows.taps⟩
  | tap button row =>
      obtain ⟨shown, drawn, rfl⟩ := Option.map_eq_some_iff.mp stepped
      refine ⟨wave.table _ _, rows.displayed, List.forall_mem_append.mpr ⟨rows.taps, ?_⟩⟩
      simp only [List.mem_singleton, forall_eq]
      -- the rows that are drawn are still the first ones of the array
      obtain ⟨added, grown⟩ := rows.displayed orderly
      rw [← grown]
      exact List.getElem?_append_left (List.getElem?_eq_some_iff.mp drawn).1 ▸ drawn

/-- The list acts on what it shows, and shows no friend twice, in every run in which it appears when
nothing is outstanding, no record changes between the two checks of its friend, and no row is tapped
between an appearance and the next drawing of the table. -/
theorem acts_on_what_it_shows (es : List (Event F))
    (orderly : Meets (recorded step note) Orderly ((start, Log.start) : FriendListVC F × Log F) es) :
    Always (recorded step note) (fun x => x.1.TapsRight ∧ x.1.friendHandlers.Nodup)
      ((start, Log.start) : FriendListVC F × Log F) es :=
  always_of_meets (fun _ _ _ => inv_step) (fun _ inv => ⟨inv.2.taps, inv.1.handlers⟩) inv_start orderly

end List

/-- A friend and a request are shown, the request is accepted, and the list appears again. -/
theorem acts_after_reappearance :
    Always (recorded step note) (fun x => x.1.TapsRight ∧ x.1.friendHandlers.Nodup) (start, Log.start)
      [.viewWillAppear, .collection (some ["b0", "c0"]), .profile "c0", .profile "b0",
        .check .isReceiving "c0" "receiving", .check .isFriending "b0" "friending", .reload,
        .check .isFriending "c0" "receiving", .check .isReceiving "b0" "friending",
        .tap .acceptButton 0, .viewWillAppear, .collection (some ["b0"]), .profile "b0",
        .check .isFriending "b0" "friending", .check .isReceiving "b0" "friending", .reload] :=
  acts_on_what_it_shows _ (by decide +kernel)

/-- A second appearance before the first one's profiles have come lists a friend twice, and
a row that is tapped after an appearance, before the table is drawn again, is out of range. -/
theorem lists_twice_and_traps :
    (¬ ∀ (es : List (Event String)) (s : FriendListVC String), run step start es = some s →
      s.Quiet → s.friendHandlers.Nodup) ∧
    ¬ ∀ (es : List (Event String)) (s : FriendListVC String), run step start es = some s → s.TapsRight := by
  constructor
  · intro claim
    have twice : (run step start
        [.viewWillAppear, .collection (some ["b0"]), .viewWillAppear, .collection (some ["b0"]),
          .profile "b0", .profile "b0", .check .isFriending "b0" "friending",
          .check .isReceiving "b0" "friending", .check .isFriending "b0" "friending",
          .check .isReceiving "b0" "friending"]).any
        (fun s => decide (s.Quiet ∧ s.friendHandlers = ["b0", "b0"])) = true := by
      decide +kernel
    obtain ⟨s, reached, facts⟩ := (Option.any_eq_true _ _).mp twice
    obtain ⟨quiet, handlers⟩ := of_decide_eq_true facts
    have nodup := claim _ s reached quiet
    rw [handlers] at nodup
    simp at nodup
  · intro claim
    have out_of_range : (run step start
        [.viewWillAppear, .collection (some ["b0"]), .profile "b0", .check .isReceiving "b0" "receiving",
          .reload, .viewWillAppear, .tap .acceptButton 0]).any
        (fun s => decide (¬ s.TapsRight)) = true := by
      decide +kernel
    obtain ⟨s, reached, wrong⟩ := (Option.any_eq_true _ _).mp out_of_range
    exact of_decide_eq_true wrong (claim _ s reached)

end PetClump.FriendList
