import PetClump.Friends.RelationList

/-! # The friend tab on Android

Every event of the friend list clears the list on screen and starts a wave of
reads, one chain for each entry. No wave is cancelled, so what an earlier one has
started may still report. A chain can end without a report, and an exception that
nothing catches ends the app.
-/

namespace PetClump.FriendTab

open ChangeFeed Friends Runs

structure FriendProfile where
  myId : String
  friendId : String
  name : String
  lastMessage : String
  time : String
  url : String
  status : String
  deriving DecidableEq

def FriendProfile.equals (t o : FriendProfile) : Bool := t.friendId == o.friendId && t.myId == o.myId

/-- The two entries of the relation list that are shown. -/
inductive Branch where
  | friending
  | receiving
  deriving DecidableEq

def Branch.of (pending : String) : Option Branch :=
  if pending = "friending" then some .friending
  else if pending = "receiving" then some .receiving
  else none

/-- What the tab waits for. A friend's room is read first, then its profile, then comes the first
event of the listener to its last message; a request waits for the profile only. -/
inductive Task where
  | room (friendId : String)
  | download (branch : Branch) (friendId : String)
  | lastMessage (t : FriendProfile)
  deriving DecidableEq

def Task.friendId : Task → String
  | room friendId | download _ friendId => friendId
  | lastMessage t => t.friendId

/-- Listeners that have had their first event stay registered in `listeners`. -/
structure Tab where
  relationList : Relations
  friendProfileList : List FriendProfile
  outstanding : Multiset Task
  listeners : Multiset FriendProfile
  crashed : Bool

def Tab.start : Tab := ⟨∅, [], 0, 0, false⟩

/-- The snapshot is the text and the time of each change, `none` when the listener fails. -/
def setlastMessage (base : FriendProfile) : Option (List (String × String)) → FriendProfile
  | none => { base with lastMessage := "", time := "" }
  | some changes => changes.foldl (fun base x => { base with lastMessage := x.1, time := x.2 }) base

/-- The callback of `setlastMessage`: an entry that is there is replaced in its place. -/
def place (friendProfileList : List FriendProfile) (t : FriendProfile) : List FriendProfile :=
  match friendProfileList.findIdx? t.equals with
  | some index => friendProfileList.set index t
  | none => friendProfileList ++ [t]

/-- The first task of the chain for an entry. -/
def firstTask (entry : (_ : String) × String) : Option Task :=
  (Branch.of entry.2).map fun
    | .friending => .room entry.1
    | .receiving => .download .receiving entry.1

inductive Event where
  | friendList (changes : List (Change String String))
  /-- the numbers of the room are read, and a key is made of them -/
  | room (friendId : String)
  /-- the exchanger or its key throws, which the callback of the room catches -/
  | noKey (friendId : String)
  | download (branch : Branch) (friendId name url : String)
  /-- nobody is signed in, or the read is not successful -/
  | noProfile (branch : Branch) (friendId : String)
  | lastMessage (t : FriendProfile) (snapshot : Option (List (String × String)))
  /-- a later event of a listener -/
  | message (t : FriendProfile) (snapshot : Option (List (String × String)))
  /-- A callback throws what nothing catches: the room cannot be read, a number in it is no number,
  a profile has no sequence, a message has no text. -/
  | crash
  deriving DecidableEq

def step (petId : String) (s : Tab) (e : Event) : Option Tab :=
  if s.crashed then none
  else
    match e with
    | .friendList changes =>
        let relationList := onEvent s.relationList changes
        some { s with
          relationList, friendProfileList := []
          outstanding := s.outstanding + relationList.entries.filterMap firstTask }
    | .room friendId =>
        if .room friendId ∈ s.outstanding then
          some { s with
            outstanding := .download .friending friendId ::ₘ s.outstanding.erase (.room friendId) }
        else none
    | .noKey friendId =>
        if .room friendId ∈ s.outstanding then
          some { s with outstanding := s.outstanding.erase (.room friendId) }
        else none
    | .download .friending friendId name url =>
        if .download .friending friendId ∈ s.outstanding then
          let t : FriendProfile := ⟨petId, friendId, name, "Added you", "", url, "friending"⟩
          some { s with
            outstanding := .lastMessage t ::ₘ s.outstanding.erase (.download .friending friendId) }
        else none
    | .download .receiving friendId name url =>
        if .download .receiving friendId ∈ s.outstanding then
          let t : FriendProfile := ⟨petId, friendId, name, "Added you", "", url, "receiving"⟩
          some { s with
            friendProfileList := s.friendProfileList ++ [t]
            outstanding := s.outstanding.erase (.download .receiving friendId) }
        else none
    | .noProfile branch friendId =>
        if .download branch friendId ∈ s.outstanding then
          some { s with outstanding := s.outstanding.erase (.download branch friendId) }
        else none
    | .lastMessage t snapshot =>
        if .lastMessage t ∈ s.outstanding then
          some { s with
            friendProfileList := place s.friendProfileList (setlastMessage t snapshot)
            outstanding := s.outstanding.erase (.lastMessage t)
            listeners := setlastMessage t snapshot ::ₘ s.listeners }
        else none
    | .message t snapshot =>
        if t ∈ s.listeners then
          some { s with
            friendProfileList := place s.friendProfileList (setlastMessage t snapshot)
            listeners := setlastMessage t snapshot ::ₘ s.listeners.erase t }
        else none
    | .crash => some { s with friendProfileList := [], outstanding := 0, listeners := 0, crashed := true }

/-- The status of the pet is one that is shown. -/
def Listed (relationList : Relations) (friendId : String) : Prop :=
  ((relationList.lookup friendId).bind Branch.of).isSome

instance (relationList : Relations) (friendId : String) : Decidable (Listed relationList friendId) :=
  inferInstanceAs (Decidable (_ = true))

def Tab.shown (s : Tab) : List String := s.friendProfileList.map FriendProfile.friendId

def Tab.ShowsEachOnce (s : Tab) : Prop :=
  ∀ friendId, s.shown.count friendId = if Listed s.relationList friendId then 1 else 0

/-- The callbacks that put an entry on the list, since the last event of the friend list. -/
def report (reports : List (String × Branch)) : Event → List (String × Branch)
  | .friendList _ | .crash => []
  | .room _ | .noKey _ | .noProfile _ _ | .download .friending _ _ _ => reports
  | .download .receiving friendId _ _ => reports ++ [(friendId, .receiving)]
  | .lastMessage t _ | .message t _ => reports ++ [(t.friendId, .friending)]

def reports (es : List Event) : List (String × Branch) := es.foldl report []

/-- The pets whose chains ended without a report, since the last event of the friend list -/
def ending (endings : List String) : Event → List String
  | .friendList _ | .crash => []
  | .noKey friendId | .noProfile _ friendId => endings ++ [friendId]
  | .room _ | .download _ _ _ _ | .lastMessage _ _ | .message _ _ => endings

def endings (es : List Event) : List String := es.foldl ending []

/-- A request reports before anything else does for its pet. -/
def RequestsFirst (reports : List (String × Branch)) : Prop :=
  reports.Pairwise fun earlier later => later.2 = .receiving → earlier.1 ≠ later.1

instance (reports : List (String × Branch)) : Decidable (RequestsFirst reports) :=
  inferInstanceAs (Decidable (List.Pairwise _ _))

/-- Nothing reports for a pet that is not shown any more, and no request reports late. -/
def InTime (relationList : Relations) (reports : List (String × Branch)) : Prop :=
  RequestsFirst reports ∧ ∀ report ∈ reports, Listed relationList report.1

instance (relationList : Relations) (reports : List (String × Branch)) :
    Decidable (InTime relationList reports) :=
  inferInstanceAs (Decidable (_ ∧ _))

/-- Where a chain ended without a report, another one has reported for its pet, and no crash has left
a pet to be shown. -/
def MadeUpFor (relationList : Relations) (es : List Event) : Prop :=
  (∀ friendId ∈ endings es, Listed relationList friendId → friendId ∈ (reports es).map Prod.fst) ∧
    (.crash ∈ es → ∀ friendId, ¬ Listed relationList friendId)

/-- What a step can be: a new wave, a read that leads to another one or to none, a report, or the end. -/
inductive Stepped (petId : String) (s : Tab) : Event → Tab → Prop where
  | friendList (changes : List (Change String String)) :
      Stepped petId s (.friendList changes) { s with
        relationList := onEvent s.relationList changes, friendProfileList := []
        outstanding := s.outstanding + (onEvent s.relationList changes).entries.filterMap firstTask }
  | read {e : Event} {task next : Task} (quiet : ∀ reports, report reports e = reports)
      (goesOn : ∀ endings, ending endings e = endings) (noCrash : e ≠ .crash)
      (waits : task ∈ s.outstanding) (same : next.friendId = task.friendId)
      (mine : ∀ t, next = .lastMessage t → t.myId = petId) :
      Stepped petId s e { s with outstanding := next ::ₘ s.outstanding.erase task }
  | ended {e : Event} {task : Task} (quiet : ∀ reports, report reports e = reports)
      (ends : ∀ endings, ending endings e = endings ++ [task.friendId]) (waits : task ∈ s.outstanding)
      (noCrash : e ≠ .crash) : Stepped petId s e { s with outstanding := s.outstanding.erase task }
  | request {friendId name url : String} (waits : .download .receiving friendId ∈ s.outstanding) :
      Stepped petId s (.download .receiving friendId name url) { s with
        friendProfileList :=
          s.friendProfileList ++ [⟨petId, friendId, name, "Added you", "", url, "receiving"⟩]
        outstanding := s.outstanding.erase (.download .receiving friendId) }
  | lastMessage {t : FriendProfile} (snapshot : Option (List (String × String)))
      (waits : .lastMessage t ∈ s.outstanding) :
      Stepped petId s (.lastMessage t snapshot) { s with
        friendProfileList := place s.friendProfileList (setlastMessage t snapshot)
        outstanding := s.outstanding.erase (.lastMessage t)
        listeners := setlastMessage t snapshot ::ₘ s.listeners }
  | message {t : FriendProfile} (snapshot : Option (List (String × String))) (listens : t ∈ s.listeners) :
      Stepped petId s (.message t snapshot) { s with
        friendProfileList := place s.friendProfileList (setlastMessage t snapshot)
        listeners := setlastMessage t snapshot ::ₘ s.listeners.erase t }
  | crash : Stepped petId s .crash
      { s with friendProfileList := [], outstanding := 0, listeners := 0, crashed := true }

theorem step_cases {petId : String} {s s' : Tab} {e : Event} (taken : step petId s e = some s') :
    s.crashed = false ∧ Stepped petId s e s' := by
  obtain ⟨alive, taken⟩ := Option.ite_none_left_eq_some.mp taken
  refine ⟨Bool.eq_false_iff.mpr alive, ?_⟩
  cases e with
  | friendList changes =>
      cases taken
      exact .friendList changes
  | room friendId =>
      obtain ⟨waits, done⟩ := Option.ite_none_right_eq_some.mp taken
      cases done
      exact .read (fun _ => rfl) (fun _ => rfl) nofun waits rfl nofun
  | noKey friendId =>
      obtain ⟨waits, done⟩ := Option.ite_none_right_eq_some.mp taken
      cases done
      exact .ended (fun _ => rfl) (fun _ => rfl) waits nofun
  | download branch friendId name url =>
      cases branch with
      | friending =>
          obtain ⟨waits, done⟩ := Option.ite_none_right_eq_some.mp taken
          cases done
          refine .read (fun _ => rfl) (fun _ => rfl) nofun waits rfl fun t same => ?_
          cases same
          rfl
      | receiving =>
          obtain ⟨waits, done⟩ := Option.ite_none_right_eq_some.mp taken
          cases done
          exact .request waits
  | noProfile branch friendId =>
      obtain ⟨waits, done⟩ := Option.ite_none_right_eq_some.mp taken
      cases done
      exact .ended (fun _ => rfl) (fun _ => rfl) waits nofun
  | lastMessage t snapshot =>
      obtain ⟨waits, done⟩ := Option.ite_none_right_eq_some.mp taken
      cases done
      exact .lastMessage snapshot waits
  | message t snapshot =>
      obtain ⟨listens, done⟩ := Option.ite_none_right_eq_some.mp taken
      cases done
      exact .message snapshot listens
  | crash =>
      cases taken
      exact .crash

theorem setlastMessage_ids (base : FriendProfile) (snapshot : Option (List (String × String))) :
    (setlastMessage base snapshot).friendId = base.friendId ∧
      (setlastMessage base snapshot).myId = base.myId := by
  cases snapshot with
  | none => exact ⟨rfl, rfl⟩
  | some changes =>
      rw [setlastMessage]
      induction changes generalizing base with
      | nil => exact ⟨rfl, rfl⟩
      | cons x changes ih => exact ih { base with lastMessage := x.1, time := x.2 }

theorem equals_iff {t o : FriendProfile} (mine : o.myId = t.myId) :
    t.equals o = true ↔ o.friendId = t.friendId := by
  rw [FriendProfile.equals, mine, Bool.and_eq_true, beq_iff_eq, beq_iff_eq, and_iff_left rfl, eq_comm]

/-- An entry of the same pet is replaced, so nobody appears twice or leaves. -/
theorem place_shown {friendProfileList : List FriendProfile} {t : FriendProfile}
    (mine : ∀ o ∈ friendProfileList, o.myId = t.myId) :
    (place friendProfileList t).map FriendProfile.friendId =
      if t.friendId ∈ friendProfileList.map FriendProfile.friendId then
        friendProfileList.map FriendProfile.friendId
      else friendProfileList.map FriendProfile.friendId ++ [t.friendId] := by
  cases found : friendProfileList.findIdx? t.equals with
  | none =>
      have missing : t.friendId ∉ friendProfileList.map FriendProfile.friendId := by
        intro mem
        obtain ⟨o, mem, same⟩ := List.mem_map.mp mem
        have differs := List.findIdx?_eq_none_iff.mp found o mem
        rw [(equals_iff (mine o mem)).mpr same] at differs
        cases differs
      simp [place, found, missing]
  | some index =>
      obtain ⟨bound, same, -⟩ := List.findIdx?_eq_some_iff_getElem.mp found
      have mem := List.getElem_mem bound
      have same := (equals_iff (mine _ mem)).mp same
      have listed : t.friendId ∈ friendProfileList.map FriendProfile.friendId :=
        List.mem_map.mpr ⟨_, mem, same⟩
      have unchanged : (friendProfileList.map FriendProfile.friendId).set index t.friendId =
          friendProfileList.map FriendProfile.friendId := by
        rw [← same, ← List.getElem_map FriendProfile.friendId (h := by simpa using bound)]
        exact List.set_getElem_self _
      rw [place, found, if_pos listed, List.map_set, unchanged]

theorem mem_of_mem_place {friendProfileList : List FriendProfile} {t o : FriendProfile}
    (mem : o ∈ place friendProfileList t) : o ∈ friendProfileList ∨ o = t := by
  rw [place] at mem
  split at mem
  · exact List.mem_or_eq_of_mem_set mem
  · simpa using mem

theorem mem_place_shown {friendProfileList : List FriendProfile} {t : FriendProfile}
    (mine : ∀ o ∈ friendProfileList, o.myId = t.myId) (friendId : String) :
    friendId ∈ (place friendProfileList t).map FriendProfile.friendId ↔
      friendId ∈ friendProfileList.map FriendProfile.friendId ∨ friendId = t.friendId := by
  rw [place_shown mine]
  split
  · rename_i listed
    exact ⟨.inl, fun mem => mem.elim id fun same => same ▸ listed⟩
  · rw [List.mem_append, List.mem_singleton]

theorem nodup_place_shown {friendProfileList : List FriendProfile} {t : FriendProfile}
    (mine : ∀ o ∈ friendProfileList, o.myId = t.myId) :
    ((place friendProfileList t).map FriendProfile.friendId).Nodup ↔
      (friendProfileList.map FriendProfile.friendId).Nodup := by
  rw [place_shown mine]
  split
  · rfl
  · rename_i missing
    rw [List.nodup_append_comm, List.singleton_append, List.nodup_cons, and_iff_right missing]

theorem reports_append (past : List Event) (e : Event) :
    reports (past ++ [e]) = report (reports past) e := by
  simp [reports]

theorem endings_append (past : List Event) (e : Event) :
    endings (past ++ [e]) = ending (endings past) e := by
  simp [endings]

theorem requestsFirst_append {reports : List (String × Branch)} {friendId : String} {branch : Branch} :
    RequestsFirst (reports ++ [(friendId, branch)]) ↔
      RequestsFirst reports ∧ (branch = .receiving → friendId ∉ reports.map Prod.fst) := by
  rw [RequestsFirst, RequestsFirst, List.pairwise_append, and_iff_right (List.pairwise_singleton _ _)]
  refine and_congr_right fun _ => ?_
  simp only [List.mem_singleton, forall_eq, List.mem_map, not_exists, not_and]
  constructor
  · intro apart late report mem
    exact apart report mem late
  · intro apart report mem late
    exact apart late report mem

/-- What holds of the tab after the events `past`. Only entries of the own pet are compared, so the
pets on the list are those that have reported, and the list repeats one exactly when a request was
not the first to report. -/
structure Inv (petId : String) (s : Tab) (past : List Event) : Prop where
  mine : ∀ t, t ∈ s.friendProfileList ∨ .lastMessage t ∈ s.outstanding ∨ t ∈ s.listeners →
    t.myId = petId
  reported : ∀ friendId, friendId ∈ s.shown ↔ friendId ∈ (reports past).map Prod.fst
  once : s.shown.Nodup ↔ RequestsFirst (reports past)
  started : s.crashed = false → ∀ friendId, Listed s.relationList friendId →
    (∃ task ∈ s.outstanding, task.friendId = friendId) ∨ friendId ∈ (reports past).map Prod.fst ∨
      friendId ∈ endings past
  crash : .crash ∈ past ↔ s.crashed = true

theorem inv_start (petId : String) : Inv petId .start [] where
  mine t known := by simp [Tab.start] at known
  reported friendId := by simp [Tab.start, Tab.shown, reports]
  once := by simp [Tab.start, Tab.shown, reports, RequestsFirst]
  started _ friendId listed := by simp [Tab.start, Listed] at listed
  crash := by simp [Tab.start]

theorem inv_crash (petId : String) (s : Tab) (past : List Event) :
    Inv petId { s with friendProfileList := [], outstanding := 0, listeners := 0, crashed := true }
      (past ++ [.crash]) where
  mine t known := by simp at known
  reported friendId := by simp [Tab.shown, reports_append, report]
  once := by simp [Tab.shown, reports_append, report, RequestsFirst]
  started alive := by cases alive
  crash := by simp

/-- The wave of an event has a task for every pet that is to be shown. -/
theorem exists_firstTask {relationList : Relations} {friendId : String}
    (listed : Listed relationList friendId) :
    ∃ task ∈ relationList.entries.filterMap firstTask, task.friendId = friendId := by
  obtain ⟨branch, shown⟩ := Option.isSome_iff_exists.mp listed
  obtain ⟨pending, stored, shown⟩ := Option.bind_eq_some_iff.mp shown
  have entry := Finmap.lookup_eq_some_iff.mp stored
  cases branch with
  | friending =>
      exact ⟨.room friendId, (Multiset.mem_filterMap _ _).mpr ⟨_, entry, by simp [firstTask, shown]⟩, rfl⟩
  | receiving =>
      exact ⟨.download .receiving friendId,
        (Multiset.mem_filterMap _ _).mpr ⟨_, entry, by simp [firstTask, shown]⟩, rfl⟩

theorem lastMessage_notMem_wave (relationList : Relations) (t : FriendProfile) :
    .lastMessage t ∉ relationList.entries.filterMap firstTask := by
  intro mem
  obtain ⟨entry, -, made⟩ := (Multiset.mem_filterMap _ _).mp mem
  obtain ⟨branch, -, made⟩ := Option.map_eq_some_iff.mp made
  cases branch with
  | friending | receiving => cases made

namespace Inv

variable {petId : String} {s : Tab} {past : List Event}

theorem crash_concat (inv : Inv petId s past) {e : Event} (goesOn : e ≠ .crash) :
    .crash ∈ past ++ [e] ↔ s.crashed = true := by
  rw [List.mem_append, List.mem_singleton, or_iff_left (Ne.symm goesOn)]
  exact inv.crash

theorem friendList (inv : Inv petId s past) (changes : List (Change String String)) :
    Inv petId { s with
        relationList := onEvent s.relationList changes, friendProfileList := []
        outstanding := s.outstanding + (onEvent s.relationList changes).entries.filterMap firstTask }
      (past ++ [.friendList changes]) where
  mine t known := by
    have new := lastMessage_notMem_wave (onEvent s.relationList changes) t
    apply inv.mine
    simp only [List.not_mem_nil, Multiset.mem_add, new, or_false, false_or] at known
    exact .inr known
  reported friendId := by simp [Tab.shown, reports_append, report]
  once := by simp [Tab.shown, reports_append, report, RequestsFirst]
  started _ friendId listed := by
    obtain ⟨task, mem, same⟩ := exists_firstTask listed
    exact .inl ⟨task, Multiset.mem_add.mpr (.inr mem), same⟩
  crash := inv.crash_concat nofun

/-- Nothing reports, and what was outstanding goes on or has ended. -/
theorem unreported (inv : Inv petId s past) {e : Event} (quiet : ∀ reports, report reports e = reports)
    (noCrash : e ≠ .crash) {outstanding : Multiset Task}
    (fresh : ∀ t, .lastMessage t ∈ outstanding → .lastMessage t ∈ s.outstanding ∨ t.myId = petId)
    (kept : ∀ task ∈ s.outstanding,
      (∃ next ∈ outstanding, next.friendId = task.friendId) ∨ task.friendId ∈ endings (past ++ [e]))
    (lost : ∀ friendId ∈ endings past, friendId ∈ endings (past ++ [e])) :
    Inv petId { s with outstanding } (past ++ [e]) where
  mine t known := by
    rcases known with shown | waiting | listens
    · exact inv.mine t (.inl shown)
    · exact (fresh t waiting).elim (fun old => inv.mine t (.inr (.inl old))) id
    · exact inv.mine t (.inr (.inr listens))
  reported friendId := by
    rw [reports_append, quiet]
    exact inv.reported friendId
  once := by
    rw [reports_append, quiet]
    exact inv.once
  started alive friendId listed := by
    rw [reports_append, quiet]
    rcases inv.started alive friendId listed with ⟨task, mem, rfl⟩ | reported | ended
    · exact (kept task mem).imp_right .inr
    · exact .inr (.inl reported)
    · exact .inr (.inr (lost friendId ended))
  crash := inv.crash_concat noCrash

/-- A read answered, and the next read of the chain under way. -/
theorem read (inv : Inv petId s past) {e : Event} {task next : Task}
    (quiet : ∀ reports, report reports e = reports) (goesOn : ∀ endings, ending endings e = endings)
    (noCrash : e ≠ .crash) (same : next.friendId = task.friendId)
    (mine : ∀ t, next = .lastMessage t → t.myId = petId) :
    Inv petId { s with outstanding := next ::ₘ s.outstanding.erase task } (past ++ [e]) := by
  refine inv.unreported quiet noCrash (fun t waiting => ?_) (fun other mem => ?_) (fun friendId ended => ?_)
  · cases Multiset.mem_cons.mp waiting with
    | inl new => exact .inr (mine t new.symm)
    | inr old => exact .inl (Multiset.mem_of_mem_erase old)
  · by_cases done : other = task
    · exact .inl ⟨next, Multiset.mem_cons_self _ _, done ▸ same⟩
    · exact .inl ⟨other, Multiset.mem_cons_of_mem ((Multiset.mem_erase_of_ne done).mpr mem), rfl⟩
  · rwa [endings_append, goesOn]

/-- A chain that ends without a report -/
theorem ended (inv : Inv petId s past) {e : Event} {task : Task} (quiet : ∀ reports, report reports e = reports)
    (ends : ∀ endings, ending endings e = endings ++ [task.friendId]) (noCrash : e ≠ .crash) :
    Inv petId { s with outstanding := s.outstanding.erase task } (past ++ [e]) := by
  refine inv.unreported quiet noCrash (fun t waiting => .inl (Multiset.mem_of_mem_erase waiting))
    (fun other mem => ?_) (fun friendId before => ?_)
  · by_cases done : other = task
    · rw [endings_append, ends, done]
      exact .inr (List.mem_append_right _ (List.mem_singleton_self _))
    · exact .inl ⟨other, (Multiset.mem_erase_of_ne done).mpr mem, rfl⟩
  · rw [endings_append, ends]
    exact List.mem_append_left _ before

theorem request (inv : Inv petId s past) (friendId name url : String) :
    Inv petId { s with
        friendProfileList :=
          s.friendProfileList ++ [⟨petId, friendId, name, "Added you", "", url, "receiving"⟩]
        outstanding := s.outstanding.erase (.download .receiving friendId) }
      (past ++ [.download .receiving friendId name url]) where
  mine t known := by
    rcases known with shown | waiting | listens
    · rcases List.mem_append.mp shown with old | new
      · exact inv.mine t (.inl old)
      · rw [List.mem_singleton.mp new]
    · exact inv.mine t (.inr (.inl (Multiset.mem_of_mem_erase waiting)))
    · exact inv.mine t (.inr (.inr listens))
  reported other := by
    have old := inv.reported other
    rw [reports_append]
    simp only [Tab.shown, report, List.map_append, List.mem_append] at old ⊢
    rw [old]
    simp
  once := by
    have old := inv.once
    have appended : (s.shown ++ [friendId]).Nodup ↔ s.shown.Nodup ∧ friendId ∉ s.shown := by
      rw [List.nodup_append_comm, List.singleton_append, List.nodup_cons, and_comm]
    rw [reports_append, report, requestsFirst_append, ← inv.reported friendId, ← old,
      forall_prop_of_true rfl, ← appended, Tab.shown, List.map_append]
    rfl
  started alive other listed := by
    rw [reports_append, report, List.map_append, List.mem_append, endings_append, ending]
    rcases inv.started alive other listed with ⟨task, mem, its⟩ | reported | lost
    · by_cases done : task = .download .receiving friendId
      · refine .inr (.inl (.inr ?_))
        rw [← its, done]
        exact List.mem_singleton_self _
      · exact .inl ⟨task, (Multiset.mem_erase_of_ne done).mpr mem, its⟩
    · exact .inr (.inl (.inl reported))
    · exact .inr (.inr lost)
  crash := inv.crash_concat nofun

/-- A last message puts its entry in place. -/
theorem placed (inv : Inv petId s past) {e : Event} {t : FriendProfile} (own : t.myId = petId)
    (reported : ∀ reports, report reports e = reports ++ [(t.friendId, .friending)])
    (goesOn : ∀ endings, ending endings e = endings) (noCrash : e ≠ .crash)
    {outstanding : Multiset Task} {listeners : Multiset FriendProfile}
    (waiting : ∀ task ∈ outstanding, task ∈ s.outstanding)
    (kept : ∀ task ∈ s.outstanding, task ∈ outstanding ∨ task.friendId = t.friendId)
    (listening : ∀ o ∈ listeners, o ∈ s.listeners ∨ o = t) :
    Inv petId { s with friendProfileList := place s.friendProfileList t, outstanding, listeners }
      (past ++ [e]) := by
  have mine : ∀ o ∈ s.friendProfileList, o.myId = t.myId := fun o mem =>
    (inv.mine o (.inl mem)).trans own.symm
  constructor
  · rintro o (shown | waits | listens)
    · cases mem_of_mem_place shown with
      | inl old => exact inv.mine o (.inl old)
      | inr new => exact new ▸ own
    · exact inv.mine o (.inr (.inl (waiting _ waits)))
    · cases listening o listens with
      | inl old => exact inv.mine o (.inr (.inr old))
      | inr new => exact new ▸ own
  · intro friendId
    rw [reports_append, reported, List.map_append, List.mem_append, ← inv.reported, Tab.shown,
      mem_place_shown mine]
    simp [Tab.shown]
  · rw [reports_append, reported, requestsFirst_append, ← inv.once, Tab.shown, nodup_place_shown mine]
    simp [Tab.shown]
  · intro alive friendId listed
    rw [reports_append, reported, List.map_append, List.mem_append, endings_append, goesOn]
    rcases inv.started alive friendId listed with ⟨task, mem, its⟩ | reported | lost
    · cases kept task mem with
      | inl waits => exact .inl ⟨task, waits, its⟩
      | inr same => exact .inr (.inl (.inr (List.mem_singleton.mpr (its.symm.trans same))))
    · exact .inr (.inl (.inl reported))
    · exact .inr (.inr lost)
  · exact inv.crash_concat noCrash

end Inv

theorem inv_step {petId : String} {s s' : Tab} {past : List Event} {e : Event} (inv : Inv petId s past)
    (taken : step petId s e = some s') : Inv petId s' (past ++ [e]) := by
  cases (step_cases taken).2 with
  | friendList changes => exact inv.friendList changes
  | read quiet goesOn noCrash waits same mine => exact inv.read quiet goesOn noCrash same mine
  | ended quiet ends waits noCrash => exact inv.ended quiet ends noCrash
  | request waits => exact inv.request _ _ _
  | @lastMessage t snapshot waits =>
      obtain ⟨ids, own⟩ := setlastMessage_ids t snapshot
      refine inv.placed (own.trans (inv.mine t (.inr (.inl waits)))) (fun _ => by rw [ids]; rfl)
        (fun _ => rfl) (by simp) (fun task => Multiset.mem_of_mem_erase) (fun task mem => ?_) (fun o mem => ?_)
      · by_cases done : task = .lastMessage t
        · exact .inr (by rw [done, ids]; rfl)
        · exact .inl ((Multiset.mem_erase_of_ne done).mpr mem)
      · exact (Multiset.mem_cons.mp mem).symm
  | @message t snapshot listens =>
      obtain ⟨ids, own⟩ := setlastMessage_ids t snapshot
      refine inv.placed (own.trans (inv.mine t (.inr (.inr listens)))) (fun _ => by rw [ids]; rfl)
        (fun _ => rfl) (by simp) (fun _ => id) (fun _ => .inl) (fun o mem => ?_)
      exact (Multiset.mem_cons.mp mem).symm.imp_left Multiset.mem_of_mem_erase
  | crash => exact inv_crash petId s past

/-- Nothing is shown after a crash. -/
theorem gone_step {petId : String} {s s' : Tab} {e : Event} (taken : step petId s e = some s')
    (crashed : s'.crashed = true) : s'.friendProfileList = [] := by
  obtain ⟨alive, stepped⟩ := step_cases taken
  cases stepped with
  | friendList | read | ended | request | lastMessage | message =>
      exact absurd (alive.symm.trans crashed) Bool.false_ne_true
  | crash => rfl

theorem count_eq_iff {ids : List String} {p : String → Prop} [DecidablePred p] :
    (∀ id, ids.count id = if p id then 1 else 0) ↔ ids.Nodup ∧ ∀ id, id ∈ ids ↔ p id := by
  constructor
  · intro counts
    refine ⟨List.nodup_iff_count_le_one.mpr fun id => ?_, fun id => ?_⟩
    · rw [counts]
      split <;> omega
    · rw [← List.count_pos_iff, counts]
      split <;> simp [*]
  · rintro ⟨nodup, mem⟩ id
    rw [nodup.count]
    exact if_congr (mem id) rfl rfl

/-- Once nothing is outstanding, the tab shows each friend once exactly when since the last event of
the friend list every report was for a pet that is shown, every request's came first, and chains that
ended without one were made up for. -/
theorem each_friend_once_iff (petId : String) (es : List Event) (s : Tab)
    (reached : run (step petId) .start es = some s) (settled : s.outstanding = 0) :
    s.ShowsEachOnce ↔ InTime s.relationList (reports es) ∧ MadeUpFor s.relationList es := by
  have inv : Inv petId s es := run_history (fun _ _ _ _ => inv_step) (inv_start petId) reached
  have gone : s.crashed = true → s.friendProfileList = [] :=
    run_invariant (fun _ _ _ _ taken => gone_step taken) (fun crashed => by cases crashed) reached
  rw [Tab.ShowsEachOnce, count_eq_iff, inv.once, InTime, and_assoc, and_congr_right_iff]
  intro _
  constructor
  · intro shown
    refine ⟨fun report mem => ?_, fun friendId _ listed => ?_, fun crash friendId listed => ?_⟩
    · rw [← shown, inv.reported]
      exact List.mem_map_of_mem mem
    · rw [← inv.reported, shown]
      exact listed
    · have none : s.friendProfileList = [] := gone (inv.crash.mp crash)
      have mem := (shown friendId).mpr listed
      rw [Tab.shown, none] at mem
      cases mem
  · rintro ⟨known, madeUp, dead⟩ friendId
    constructor
    · intro mem
      obtain ⟨report, reported, rfl⟩ := List.mem_map.mp ((inv.reported friendId).mp mem)
      exact known report reported
    · intro listed
      cases alive : s.crashed with
      | true => exact absurd listed (dead (inv.crash.mpr alive) friendId)
      | false =>
          rw [inv.reported]
          rcases inv.started alive friendId listed with ⟨task, mem, -⟩ | reported | lost
          · simp [settled] at mem
          · exact reported
          · exact madeUp friendId lost listed

/-- A request is accepted; of the two chains of the friend one ends without a key. -/
theorem each_friend_once_after_accept : ∃ s, run (step "a0") .start
      [.friendList [⟨.added, "b0", "friending"⟩, ⟨.added, "c0", "receiving"⟩],
        .download .receiving "c0" "Coco" "", .friendList [⟨.modified, "c0", "friending"⟩],
        .noKey "b0", .room "b0", .room "c0", .download .friending "c0" "Coco" "", .download .friending "b0" "Bo" "",
        .lastMessage ⟨"a0", "b0", "Bo", "Added you", "", "", "friending"⟩ (some [("hi", "09:30")]),
        .message ⟨"a0", "b0", "Bo", "hi", "09:30", "", "friending"⟩ (some [("bye", "09:31")]),
        .lastMessage ⟨"a0", "c0", "Coco", "Added you", "", "", "friending"⟩ (some [])] = some s ∧
      s.shown = ["b0", "c0"] ∧ s.ShowsEachOnce := by
  let es : List Event :=
    [.friendList [⟨.added, "b0", "friending"⟩, ⟨.added, "c0", "receiving"⟩],
      .download .receiving "c0" "Coco" "", .friendList [⟨.modified, "c0", "friending"⟩],
      .noKey "b0", .room "b0", .room "c0", .download .friending "c0" "Coco" "", .download .friending "b0" "Bo" "",
      .lastMessage ⟨"a0", "b0", "Bo", "Added you", "", "", "friending"⟩ (some [("hi", "09:30")]),
      .message ⟨"a0", "b0", "Bo", "hi", "09:30", "", "friending"⟩ (some [("bye", "09:31")]),
      .lastMessage ⟨"a0", "c0", "Coco", "Added you", "", "", "friending"⟩ (some [])]
  have trace : (run (step "a0") .start es).any (fun s => decide
      (s.outstanding = 0 ∧ s.shown = ["b0", "c0"] ∧ InTime s.relationList (reports es))) = true := by
    decide +kernel
  have replaced : ∀ friendId ∈ endings es, friendId ∈ (reports es).map Prod.fst := by decide +kernel
  have alive : .crash ∉ es := by decide
  obtain ⟨s, reached, facts⟩ := (Option.any_eq_true _ _).mp trace
  obtain ⟨settled, shown, inTime⟩ := of_decide_eq_true facts
  have madeUp : MadeUpFor s.relationList es :=
    ⟨fun friendId lost _ => replaced friendId lost, fun crash => absurd crash alive⟩
  exact ⟨s, reached, shown, (each_friend_once_iff _ es s reached settled).mpr ⟨inTime, madeUp⟩⟩

/-- A request that is still being downloaded when another pet's record changes is shown twice. -/
theorem request_is_shown_twice : ¬ ∀ (petId : String) (es : List Event) (s : Tab),
    run (step petId) .start es = some s → s.outstanding = 0 → s.ShowsEachOnce := by
  intro claim
  have twice : (run (step "a0") .start
      [.friendList [⟨.added, "b0", "receiving"⟩], .friendList [⟨.added, "c0", "sending"⟩],
        .download .receiving "b0" "Bo" "", .download .receiving "b0" "Bo" ""]).any
      (fun s => decide (s.outstanding = 0 ∧ s.shown.count "b0" = 2)) = true := by
    decide +kernel
  obtain ⟨s, reached, facts⟩ := (Option.any_eq_true _ _).mp twice
  obtain ⟨settled, twice⟩ := of_decide_eq_true facts
  have once := claim _ _ s reached settled "b0"
  rw [twice] at once
  split at once <;> cases once

end PetClump.FriendTab
