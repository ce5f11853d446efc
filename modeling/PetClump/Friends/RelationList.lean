import PetClump.Library.ChangeFeed
import PetClump.Library.Runs

/-! # The relation list of a pet on Android

`PetProfile.listenToFriendList` reads the friends collection once. Only when it
finds records does it register a listener, whose events keep `relation_list`
up to date.
-/

namespace PetClump.Friends

open ChangeFeed Runs

/-- The `pending` field by document id: a friends collection, or the map that mirrors it. -/
abbrev Relations := Table String String

/-- One iteration of the loop over `getDocumentChanges`. -/
def onChange (relationList : Relations) (x : Change String String) : Relations :=
  match x.kind with
  | .removed => if x.key ∈ relationList then relationList.erase x.key else relationList
  | .added | .modified => relationList.insert x.key x.value

def onEvent (relationList : Relations) (changes : List (Change String String)) : Relations :=
  changes.foldl onChange relationList

/-- `behind` holds the versions of the collection the listener has had no event for, the oldest
first. -/
structure Mirror where
  friends : Relations
  listening : Bool
  seen : Relations
  behind : List Relations
  relationList : Relations

/-- `listenToFriendList` on a new profile, once its first read is answered. -/
def listenToFriendList (friends : Relations) : Mirror where
  friends := friends
  listening := 0 < friends.keys.card
  seen := ∅
  behind := [friends]
  relationList := ∅

/-- An event may cover several versions at once, those before the one it leads to are skipped. -/
inductive MirrorEvent where
  | put (id pending : String)
  | delete (id : String)
  | event (skipped : ℕ) (changes : List (Change String String))

def Mirror.write (m : Mirror) (friends : Relations) : Mirror :=
  { m with friends := friends, behind := m.behind ++ [friends] }

def mirrorStep (m : Mirror) : MirrorEvent → Option Mirror
  | .put id pending => some (m.write (m.friends.insert id pending))
  | .delete id => some (m.write (m.friends.erase id))
  | .event skipped changes =>
      match m.behind.drop skipped with
      | [] => none
      | version :: behind =>
          if m.listening ∧ Between m.seen version changes then
            some { m with seen := version, behind, relationList := onEvent m.relationList changes }
          else none

/-- Every event of the listener has been processed. -/
def Mirror.Settled (m : Mirror) : Prop := m.listening → m.behind = []

/-- The newest version is the stored one, and the list mirrors the version seen last. -/
structure Mirrors (m : Mirror) : Prop where
  newest : m.behind.getLast?.getD m.seen = m.friends
  mirrored : m.relationList = m.seen
  deaf : m.listening = false → m.seen = ∅

theorem onChange_eq_apply (relationList : Relations) (x : Change String String) :
    onChange relationList x = x.apply relationList := by
  cases kind : x.kind with
  | added | modified => simp [onChange, Change.apply, kind]
  | removed =>
      simp only [onChange, Change.apply, kind]
      split
      · rfl
      · rename_i missing
        refine Finmap.ext_lookup fun id => ?_
        by_cases same : id = x.key
        · rw [same, Finmap.lookup_erase, Finmap.lookup_eq_none.mpr missing]
        · rw [Finmap.lookup_erase_ne same]

theorem onEvent_eq_replay (relationList : Relations) (changes : List (Change String String)) :
    onEvent relationList changes = replay relationList changes := by
  have same : onChange = Change.apply := funext₂ onChange_eq_apply
  rw [onEvent, same]
  rfl

theorem onEvent_between {seen version : Relations} {changes : List (Change String String)}
    (between : Between seen version changes) : onEvent seen changes = version := by
  rw [onEvent_eq_replay]
  exact replay_between between

theorem mirrors_start (friends : Relations) : Mirrors (listenToFriendList friends) where
  newest := rfl
  mirrored := rfl
  deaf _ := rfl

theorem Mirrors.write {m : Mirror} (inv : Mirrors m) (friends : Relations) :
    Mirrors (m.write friends) where
  newest := by simp [Mirror.write]
  mirrored := inv.mirrored
  deaf := inv.deaf

theorem event_cases {m m' : Mirror} {skipped : ℕ} {changes : List (Change String String)}
    (taken : mirrorStep m (.event skipped changes) = some m') : ∃ version behind,
      m.behind.drop skipped = version :: behind ∧ m.listening = true ∧ Between m.seen version changes ∧
      m' = { m with seen := version, behind, relationList := onEvent m.relationList changes } := by
  simp only [mirrorStep] at taken
  split at taken
  · cases taken
  · rename_i version behind rest
    split at taken
    · rename_i delivered
      exact ⟨version, behind, rest, delivered.1, delivered.2, (Option.some.inj taken).symm⟩
    · cases taken

theorem Mirrors.event {m : Mirror} (inv : Mirrors m) {skipped : ℕ} {version : Relations}
    {behind : List Relations} {changes : List (Change String String)}
    (rest : m.behind.drop skipped = version :: behind) (listening : m.listening = true)
    (between : Between m.seen version changes) :
    Mirrors { m with seen := version, behind, relationList := onEvent m.relationList changes } where
  newest := by
    have whole := inv.newest
    rw [← List.take_append_drop skipped m.behind, rest, List.getLast?_append, List.getLast?_cons] at whole
    exact whole
  mirrored := (congrArg (onEvent · changes) inv.mirrored).trans (onEvent_between between)
  deaf silent := by
    rw [listening] at silent
    cases silent

theorem mirrors_step {m m' : Mirror} {e : MirrorEvent} (inv : Mirrors m)
    (taken : mirrorStep m e = some m') : Mirrors m' := by
  cases e with
  | put id pending =>
      cases taken
      exact inv.write _
  | delete id =>
      cases taken
      exact inv.write _
  | event skipped changes =>
      obtain ⟨version, behind, rest, listening, between, rfl⟩ := event_cases taken
      exact inv.event rest listening between

theorem listening_step {m m' : Mirror} {e : MirrorEvent} (taken : mirrorStep m e = some m') :
    m'.listening = m.listening := by
  cases e with
  | put id pending =>
      cases taken
      rfl
  | delete id =>
      cases taken
      rfl
  | event skipped changes =>
      obtain ⟨version, behind, -, -, -, rfl⟩ := event_cases taken
      rfl

theorem listening_iff (initial : Relations) :
    (listenToFriendList initial).listening = true ↔ initial ≠ ∅ := by
  rw [listenToFriendList, decide_eq_true_eq, Finset.card_pos, Finset.nonempty_iff_ne_empty, ne_eq,
    ne_eq, not_iff_not]
  constructor
  · intro empty
    refine Finmap.ext_lookup fun id => ?_
    rw [Finmap.lookup_empty, Finmap.lookup_eq_none, ← Finmap.mem_keys, empty]
    exact Finset.notMem_empty id
  · rintro rfl
    rfl

/-- Once all events have been processed the list is the collection, exactly when the first read
found a record or there is none in the end. -/
theorem relation_list_mirrors_iff (initial : Relations) (es : List MirrorEvent) (m : Mirror)
    (reached : run mirrorStep (listenToFriendList initial) es = some m) (settled : m.Settled) :
    m.relationList = m.friends ↔ initial ≠ ∅ ∨ m.friends = ∅ := by
  have inv : Mirrors m := run_invariant (fun _ _ _ => mirrors_step) (mirrors_start initial) reached
  have started : m.listening = (listenToFriendList initial).listening :=
    run_invariant (fun _ _ _ same taken => (listening_step taken).trans same) rfl reached
  rw [inv.mirrored]
  cases listening : m.listening with
  | true =>
      have found : initial ≠ ∅ := (listening_iff initial).mp (started.symm.trans listening)
      have newest := inv.newest
      rw [settled listening] at newest
      exact iff_of_true newest (.inl found)
  | false =>
      have found : ¬ initial ≠ ∅ := by
        rw [← listening_iff, ← started, listening]
        exact Bool.false_ne_true
      rw [inv.deaf listening, or_iff_right found, eq_comm]

theorem relation_list_mirrors_requests :
    ∃ m, run mirrorStep (listenToFriendList ((∅ : Relations).insert "b0" "sending"))
        [.event 0 [⟨.added, "b0", "sending"⟩], .put "b0" "friending", .put "c0" "receiving",
          .put "d0" "receiving", .delete "d0",
          .event 3 [⟨.added, "c0", "receiving"⟩, ⟨.modified, "b0", "friending"⟩]] = some m ∧
      m.friends.lookup "b0" = some "friending" ∧ m.relationList = m.friends := by
  have trace : ((run mirrorStep (listenToFriendList ((∅ : Relations).insert "b0" "sending"))
      [.event 0 [⟨.added, "b0", "sending"⟩], .put "b0" "friending", .put "c0" "receiving",
        .put "d0" "receiving", .delete "d0",
        .event 3 [⟨.added, "c0", "receiving"⟩, ⟨.modified, "b0", "friending"⟩]]).map fun m =>
      m.behind.isEmpty && decide (m.friends.lookup "b0" = some "friending")) = some true := by
    decide +kernel
  obtain ⟨m, reached, facts⟩ := Option.map_eq_some_iff.mp trace
  rw [Bool.and_eq_true, List.isEmpty_iff, decide_eq_true_eq] at facts
  have found : (∅ : Relations).insert "b0" "sending" ≠ ∅ := by decide +kernel
  exact ⟨m, reached, facts.2,
    (relation_list_mirrors_iff _ _ m reached fun _ => facts.1).mpr (.inl found)⟩

/-- The first request to a pet never reaches its list. -/
theorem first_request_is_missed : ¬ ∀ (initial : Relations) (es : List MirrorEvent) (m : Mirror),
    run mirrorStep (listenToFriendList initial) es = some m → m.Settled →
      m.relationList = m.friends := by
  intro claim
  have mirrored := claim ∅ [.put "b0" "receiving"] _ rfl nofun
  have looked := congrArg (Finmap.lookup "b0") mirrored
  simp [Mirror.write, listenToFriendList] at looked

end PetClump.Friends
