import PetClump.Owners.OwnerProfile

/-! # What the shared profile gives away

The coordinates in the object are those of the owner whose download completed last, unless
that was the entry screen's, which puts the place of the device over them. An upload or a
distance takes them as they are.
-/

namespace PetClump.Owner

open Runs

variable {K : Type}

/-- The user may go by this: it is from their own document, or from the device. -/
def Origin.Own (user : UserId) : Origin → Prop
  | .document id => id = user
  | .device => True
  | .initializer => False

instance (user : UserId) : DecidablePred (Origin.Own user)
  | .document id => inferInstanceAs (Decidable (id = user))
  | .device => .isTrue trivial
  | .initializer => .isFalse id

def Field.Own (user : UserId) : Field (Coordinate K) → Prop
  | .value a => a.origin.Own user
  | .absent | .other => False

instance (user : UserId) : DecidablePred (Field.Own user : Field (Coordinate K) → Prop)
  | .value a => inferInstanceAs (Decidable (a.origin.Own user))
  | .absent | .other => .isFalse id

/-- An upload for a user writes the user's own coordinates. -/
def Task.Private : Task K → Prop
  | .upload id dictionary _ => dictionary.lat.Own id ∧ dictionary.lon.Own id
  | .download _ _ | .pet _ _ | .calculatePercent _ => True

instance : DecidablePred (Task.Private : Task K → Prop)
  | .upload _ _ _ => inferInstanceAs (Decidable (_ ∧ _))
  | .download _ _ | .pet _ _ | .calculatePercent _ => .isTrue trivial

/-- A distance is from the own coordinates of the user who was signed in. -/
def Match.Private (m : Match K) : Prop :=
  ∃ user ∈ m.user, m.userlat.origin.Own user ∧ m.userlon.origin.Own user

instance : DecidablePred (Match.Private : Match K → Prop) := fun m =>
  inferInstanceAs (Decidable (∃ _ ∈ m.user, _))

def App.Private (s : App K) : Prop := (∀ task ∈ s.tasks, task.Private) ∧ ∀ m ∈ s.scored, m.Private

instance : DecidablePred (App.Private : App K → Prop) := fun _ => inferInstanceAs (Decidable (_ ∧ _))

/-- The download of an owner that completed last -/
inductive Completed where
  | saveGPS (located : Bool)
  /-- of another screen, for the document of this user -/
  | screen (id : UserId)
  deriving Repr, DecidableEq

/-- `none` when none has completed since the process started -/
abbrev Last := Option Completed

def note (s : App K) (e : Event K) (last : Last) : Last :=
  match e with
  | .complete i (.data (some _)) =>
      match s.tasks[i]? with
      | some (.download _ (.saveGPS main _ _)) => some (.saveGPS main.location.isSome)
      | some (.download id _) => some (.screen id)
      | some (.upload _ _ _) | some (.pet _ _) | some (.calculatePercent _) | none => last
  | .die _ => none
  | .openMain _ | .signIn _ | .signedIn _ | .signOut | .openUserInfo | .openEdit | .saveData _ _ | .openFriend _ _
  | .openBestMatch _ | .page _ | .complete _ _ => last

/-- The last download was of the user's document, or it put the place of the device over
what it found. -/
def Last.Own (user : UserId) (last : Last) : Prop :=
  last = some (.saveGPS true) ∨ last = some (.screen user)

/-- What is about to be saved or measured has been downloaded for this user, and the entry
screen knows a place. -/
def OwnLast (s : App K × Last) : Event K → Prop
  | .saveData i _ => ∀ user ∈ s.1.edits[i]?, s.2.Own user
  | .complete i (.data (some _)) =>
      match s.1.tasks[i]? with
      | some (.download _ (.saveGPS main _ _)) => main.location.isSome
      | some (.calculatePercent _) => ∃ user ∈ s.1.currentUser, s.2.Own user
      | some (.download _ _) | some (.upload _ _ _) | some (.pet _ _) | none => True
  | .openMain _ | .signIn _ | .signedIn _ | .signOut | .openUserInfo | .openEdit | .openFriend _ _ | .openBestMatch _
  | .page _ | .complete _ _ | .die _ => True

/-- Where coordinates are from when this download was the last one -/
def Last.origin : Last → Origin
  | none | some (.saveGPS false) => .initializer
  | some (.saveGPS true) => .device
  | some (.screen id) => .document id

theorem Last.own_origin (last : Last) (user : UserId) : last.origin.Own user ↔ last.Own user := by
  cases last with
  | none => simp [Last.origin, Origin.Own, Last.Own]
  | some completed =>
      cases completed with
      | saveGPS located => cases located <;> simp [Last.origin, Origin.Own, Last.Own]
      | screen id => simp [Last.origin, Origin.Own, Last.Own]

/-- The coordinates in the object are from where the last download put them. -/
def Inv (s : App K × Last) : Prop := s.1.owner.lat.origin = s.2.origin ∧ s.1.owner.lon.origin = s.2.origin

/-- Coordinates that are from where the last download puts them are the user's own exactly when that
download was. -/
theorem own_iff {lat lon : Coordinate K} {last : Last} {user : UserId} (lat_origin : lat.origin = last.origin)
    (lon_origin : lon.origin = last.origin) :
    lat.origin.Own user ∧ lon.origin.Own user ↔ last.Own user := by
  rw [lat_origin, lon_origin, and_self_iff, last.own_origin]

/-- Nothing is uploaded or measured, and the object stays as it is. -/
structure Quiet (s s' : App K) : Prop where
  tasks : ∀ task ∈ s'.tasks, task ∈ s.tasks ∨ task.Private
  scored : ∀ m ∈ s'.scored, m ∈ s.scored
  owner : s'.owner = s.owner

namespace Quiet

theorem refl (s : App K) : Quiet s s := ⟨fun _ => .inl, fun _ => id, rfl⟩

theorem trans {s t u : App K} (first : Quiet s t) (second : Quiet t u) : Quiet s u where
  tasks task mem := (second.tasks task mem).elim (first.tasks task) .inr
  scored m mem := first.scored m (second.scored m mem)
  owner := second.owner.trans first.owner

theorem kept {s s' : App K} (quiet : Quiet s s') (kept : s.Private) : s'.Private :=
  ⟨fun task mem => (quiet.tasks task mem).elim (kept.1 task) id, fun m mem => kept.2 m (quiet.scored m mem)⟩

theorem inv {s s' : App K} {last : Last} (quiet : Quiet s s') (inv : Inv (s, last)) : Inv (s', last) := by
  rw [Inv, quiet.owner]
  exact inv

theorem append {s : App K} {new : List (Task K)} (calm : ∀ task ∈ new, task.Private) :
    Quiet s { s with tasks := s.tasks ++ new } :=
  ⟨fun task mem => (List.mem_append.mp mem).imp id (calm task), fun _ => id, rfl⟩

theorem add (s : App K) {task : Task K} (calm : task.Private) : Quiet s (s.add task) :=
  append fun _ mem => List.mem_singleton.mp mem ▸ calm

theorem eraseIdx (s : App K) (i : ℕ) : Quiet s { s with tasks := s.tasks.eraseIdx i } :=
  ⟨fun _ mem => .inl (List.mem_of_mem_eraseIdx mem), fun _ => id, rfl⟩

theorem download (s : App K) (id : UserId) (c : DownloadCallback K) : Quiet s (s.download id c) := by
  unfold App.download
  split
  · exact add s trivial
  · exact refl s

theorem downloadPet (s : App K) (id : String) (c : PetCallback) : Quiet s (s.downloadPet id c) := by
  unfold App.downloadPet
  split
  · exact add s trivial
  · exact refl s

theorem checkLoggedIn (s : App K) (main : MainActivity K) : Quiet s (s.checkLoggedIn main) := by
  unfold App.checkLoggedIn
  split
  · exact download s _ _
  · exact refl s

theorem signedIn (s : App K) (main : MainActivity K) : Quiet s (s.signedIn main) := by
  unfold App.signedIn
  split
  · exact download s _ _
  · exact refl s

theorem didCompleteUpload (s : App K) (c : UploadCallback K) : Quiet s (s.didCompleteUpload c) := by
  cases c with
  | startMatching => exact refl s
  | checkLoggedIn main => exact checkLoggedIn s main
  | toast => exact refl s

theorem didCompletePet {s s' : App K} {ownerId : UserId} {c : PetCallback}
    (done : s.didCompletePet ownerId c = some s') : Quiet s s' := by
  cases c with
  | petProfile my_id =>
      cases done
      exact download s ownerId _
  | myProfile =>
      cases done
      exact download s ownerId _
  | bestMatch =>
      obtain ⟨user, _, done⟩ := Option.bind_eq_some_iff.mp done
      cases done
      exact download s user _

/-- Only the entry screen does more than to show what it was given. -/
theorem didCompleteDownload [Zero K] {s s' : App K} {c : DownloadCallback K}
    (shows : ∀ main cUser d, c ≠ .saveGPS main cUser d) (done : s.didCompleteDownload c = some s') :
    Quiet s s' := by
  cases c with
  | saveGPS main cUser d => exact absurd rfl (shows main cUser d)
  | userInfo =>
      obtain ⟨_, _, done⟩ := Option.bind_eq_some_iff.mp done
      cases done
      exact refl s
  | userInfoEdit =>
      obtain ⟨_, _, done⟩ := Option.bind_eq_some_iff.mp done
      obtain ⟨_, _, done⟩ := Option.bind_eq_some_iff.mp done
      cases done
      exact refl s
  | bestMatch =>
      cases done
      exact ⟨fun _ => .inl, fun _ => id, rfl⟩
  | ownerProfile my_id =>
      obtain ⟨_, _, done⟩ := Option.bind_eq_some_iff.mp done
      cases done
      exact downloadPet s my_id _
  | mySelf =>
      cases done
      exact refl s

end Quiet

/-- What a download assigns is from the document that it read. -/
theorem OwnerProfile.ofDocument_origin {id : UserId} {ref : Dictionary K} {owner : OwnerProfile K}
    (read : OwnerProfile.ofDocument id ref = some owner) :
    owner.lat.origin = .document id ∧ owner.lon.origin = .document id := by
  simp only [OwnerProfile.ofDocument, Option.bind_eq_bind, Option.bind_eq_some_iff, Option.some.injEq] at read
  obtain ⟨_, _, _, _, _, _, _, _, _, _, _, _, _, _, _, _, _, _, rfl⟩ := read
  exact ⟨rfl, rfl⟩

/-- The form has no coordinates. -/
theorem Form.set_coordinates {form : Form} {profile owner : OwnerProfile K} (set : form.set profile = some owner) :
    owner.lat = profile.lat ∧ owner.lon = profile.lon := by
  obtain ⟨freeTime, _, done⟩ := Option.bind_eq_some_iff.mp set
  cases done
  exact ⟨rfl, rfl⟩

theorem upload_private (s : App K) (id : UserId) (c : UploadCallback K) :
    (s.upload id c).Private ↔ s.Private ∧ s.owner.lat.origin.Own id ∧ s.owner.lon.origin.Own id := by
  simp only [App.Private, App.upload, App.add, List.forall_mem_append, List.forall_mem_singleton, Task.Private,
    OwnerProfile.generateDictionary, Field.Own]
  tauto

/-- `calculatePercent` takes the coordinates of the object for those of the user. -/
theorem calculatePercent_private {s s' : App K} {temp : Dictionary K} (done : s.calculatePercent temp = some s') :
    s'.owner = s.owner ∧ (s'.Private ↔ s.Private ∧
      ∃ user ∈ s.currentUser, s.owner.lat.origin.Own user ∧ s.owner.lon.origin.Own user) := by
  simp only [App.calculatePercent, Option.bind_eq_bind, Option.bind_eq_some_iff, Option.some.injEq] at done
  obtain ⟨_, _, _, _, _, _, rfl⟩ := done
  refine ⟨rfl, ?_⟩
  simp only [App.Private, List.forall_mem_append, List.forall_mem_singleton, Match.Private, and_assoc]

/-- The step keeps the object and the history together, and privacy exactly where the last
download was the user's own. -/
structure Exact (s s' : App K) (last : Last) (e : Event K) : Prop where
  inv : Inv (s', note s e last)
  kept : s.Private → (s'.Private ↔ OwnLast (s, last) e)

theorem Quiet.exact {s s' : App K} {last : Last} {e : Event K} (quiet : Quiet s s') (inv : Inv (s, last))
    (same : note s e last = last) (own : OwnLast (s, last) e) : Exact s s' last e where
  inv := by
    rw [same]
    exact quiet.inv inv
  kept kept := iff_of_true (quiet.kept kept) own

variable [Zero K]

theorem profile_origin (main : MainActivity K) :
    main.profile_lat.origin = Last.origin (some (.saveGPS main.location.isSome)) ∧
      main.profile_lon.origin = Last.origin (some (.saveGPS main.location.isSome)) := by
  unfold MainActivity.profile_lat MainActivity.profile_lon
  cases main.location <;> exact ⟨rfl, rfl⟩

variable {s s' : App K} {last : Last}

/-- The download of the entry screen completes: it puts the place of the device over what was
found, and uploads. -/
theorem saveGPS_exact {i : ℕ} {id cUser : UserId} {main : MainActivity K} {c : UploadCallback K}
    {ref : Dictionary K} (found : s.tasks[i]? = some (.download id (.saveGPS main cUser c)))
    (done : ({ s with tasks := s.tasks.eraseIdx i } : App K).answer (.download id (.saveGPS main cUser c))
      (.data (some ref)) = some s') :
    Exact s s' last (.complete i (.data (some ref))) := by
  obtain ⟨owner, read, done⟩ := Option.bind_eq_some_iff.mp done
  cases done
  have origins := profile_origin main
  refine ⟨?_, fun kept => ?_⟩
  · simp only [note, found]
    exact origins
  · refine (upload_private _ _ _).trans ((and_iff_right ((Quiet.eraseIdx s i).kept kept)).trans ?_)
    simp only [OwnLast, found]
    exact (own_iff origins.1 origins.2).trans (by cases main.location <;> simp [Last.Own])

theorem screen_exact {i : ℕ} {id : UserId} {c : DownloadCallback K} {ref : Dictionary K}
    (shows : ∀ main cUser d, c ≠ .saveGPS main cUser d) (found : s.tasks[i]? = some (.download id c))
    (done : ({ s with tasks := s.tasks.eraseIdx i } : App K).answer (.download id c) (.data (some ref)) = some s') :
    Exact s s' last (.complete i (.data (some ref))) := by
  obtain ⟨owner, read, done⟩ := Option.bind_eq_some_iff.mp done
  have quiet := Quiet.didCompleteDownload shows done
  have noted : note s (.complete i (.data (some ref))) last = some (.screen id) ∧
      OwnLast (s, last) (.complete i (.data (some ref))) := by
    cases c with
    | saveGPS main cUser d => exact absurd rfl (shows main cUser d)
    | _ => simp [note, OwnLast, found]
  refine ⟨?_, fun kept => iff_of_true (quiet.kept ((Quiet.eraseIdx s i).kept kept)) noted.2⟩
  rw [noted.1, Inv, quiet.owner]
  exact OwnerProfile.ofDocument_origin read

/-- A task ends. -/
theorem complete_exact {i : ℕ} {task : Task K} {answer : Answer K} (inv : Inv (s, last))
    (found : s.tasks[i]? = some task)
    (done : ({ s with tasks := s.tasks.eraseIdx i } : App K).answer task answer = some s') :
    Exact s s' last (.complete i answer) := by
  have rest := Quiet.eraseIdx s i
  cases task with
  | download id c =>
      cases answer with
      | data document =>
          cases document with
          | none => cases done
          | some ref =>
              by_cases saves : ∃ main cUser d, c = .saveGPS main cUser d
              · obtain ⟨main, cUser, d, rfl⟩ := saves
                exact saveGPS_exact found done
              · exact screen_exact (fun main cUser d same => saves ⟨main, cUser, d, same⟩) found done
      | failed =>
          cases done
          exact rest.exact inv rfl trivial
      | done => cases done
      | pet ownerId => cases done
  | upload id dictionary c =>
      cases answer with
      | failed =>
          cases done
          exact (rest.trans (.didCompleteUpload _ c)).exact inv rfl trivial
      | done =>
          cases done
          exact (rest.trans (.didCompleteUpload _ c)).exact inv rfl trivial
      | data document => cases done
      | pet ownerId => cases done
  | pet id c =>
      cases answer with
      | failed =>
          cases done
          exact rest.exact inv rfl trivial
      | pet ownerId => exact (rest.trans (.didCompletePet done)).exact inv rfl trivial
      | done => cases done
      | data document => cases done
  | calculatePercent ownerId =>
      cases answer with
      | data document =>
          cases document with
          | none => cases done
          | some temp =>
              obtain ⟨owner, kept_iff⟩ := calculatePercent_private done
              refine ⟨?_, fun kept => ?_⟩
              · simp only [note, found, Inv, owner]
                exact inv
              · rw [kept_iff, and_iff_right (rest.kept kept)]
                simp only [OwnLast, found]
                exact exists_congr fun user => and_congr_right fun _ => own_iff inv.1 inv.2
      | failed => cases done
      | done => cases done
      | pet ownerId => cases done

theorem step_exact {e : Event K} (inv : Inv (s, last)) (taken : step s e = some s') : Exact s s' last e := by
  cases e with
  | openMain providers =>
      cases taken
      have main : Quiet s { s with mains := s.mains ++ [.setGPS providers] } := ⟨fun _ => .inl, fun _ => id, rfl⟩
      exact (main.trans (.checkLoggedIn _ _)).exact inv rfl trivial
  | signIn user =>
      cases taken
      exact Quiet.exact ⟨fun _ => .inl, fun _ => id, rfl⟩ inv rfl trivial
  | signedIn i =>
      obtain ⟨main, _, taken⟩ := Option.bind_eq_some_iff.mp taken
      cases taken
      exact (Quiet.signedIn s main).exact inv rfl trivial
  | signOut =>
      cases taken
      exact Quiet.exact ⟨fun _ => .inl, fun _ => id, rfl⟩ inv rfl trivial
  | openUserInfo =>
      obtain ⟨user, _, taken⟩ := Option.bind_eq_some_iff.mp taken
      cases taken
      exact (Quiet.download s _ _).exact inv rfl trivial
  | openEdit =>
      obtain ⟨user, _, taken⟩ := Option.bind_eq_some_iff.mp taken
      cases taken
      have opened : Quiet s { s with edits := s.edits ++ [user] } := ⟨fun _ => .inl, fun _ => id, rfl⟩
      exact (opened.trans (.download _ _ _)).exact inv rfl trivial
  | saveData i form =>
      obtain ⟨user, found, taken⟩ := Option.bind_eq_some_iff.mp taken
      obtain ⟨owner, set, taken⟩ := Option.bind_eq_some_iff.mp taken
      cases taken
      obtain ⟨lat, lon⟩ := Form.set_coordinates set
      have origins : owner.lat.origin = last.origin ∧ owner.lon.origin = last.origin := by
        rw [lat, lon]
        exact inv
      refine ⟨origins, fun kept => ?_⟩
      have same : ({ s with owner } : App K).Private := kept
      rw [upload_private, and_iff_right same, own_iff origins.1 origins.2]
      simp [OwnLast, found]
  | openFriend friend_id my_id =>
      cases taken
      exact (Quiet.downloadPet s _ _).exact inv rfl trivial
  | openBestMatch petId =>
      cases taken
      exact (Quiet.downloadPet s _ _).exact inv rfl trivial
  | page ownerIds =>
      simp only [step] at taken
      split at taken
      · cases taken
        refine (Quiet.append fun task mem => ?_).exact inv rfl trivial
        obtain ⟨ownerId, _, rfl⟩ := List.mem_map.mp mem
        trivial
      · cases taken
  | complete i answer =>
      obtain ⟨task, found, done⟩ := Option.bind_eq_some_iff.mp taken
      exact complete_exact inv found done
  | die now =>
      cases taken
      exact ⟨⟨rfl, rfl⟩, fun _ => iff_of_true ⟨List.forall_mem_nil _, List.forall_mem_nil _⟩ trivial⟩

/-- A run gives nobody else's coordinates away exactly when every upload and every distance comes
after a download for the same user. -/
theorem stays_private_iff (user : Option UserId) (now : ℤ) (es : List (Event K)) :
    Always step App.Private (start user now) es ↔
      Meets (recorded step note) OwnLast (start user now, none) es := by
  rw [← always_recorded note none]
  refine @always_iff_meets _ _ _ Inv _ _ (fun s e s' inv taken => ?_) (fun s e s' inv kept taken => ?_) _ _
    ⟨rfl, rfl⟩ ⟨List.forall_mem_nil _, List.forall_mem_nil _⟩
  · obtain ⟨t, stepped, rfl⟩ := recorded_eq_some.mp taken
    exact (step_exact inv stepped).inv
  · obtain ⟨t, stepped, rfl⟩ := recorded_eq_some.mp taken
    exact (step_exact inv stepped).kept kept

section Leak

/-- The document of an owner at a place -/
def livesAt (lat lon : ℤ) : Dictionary ℤ :=
  ⟨.value lat, .value lon, .value "owner", .value "female", .value 0, .value "000000000000000000000", .value 20⟩

/-- The user comes in at the place 10, 20, and opens the list of best matches. -/
def entered : List (Event ℤ) :=
  [.openMain [some (10, 20)], .complete 0 (.data (some (livesAt 10 20))), .complete 0 .done,
    .openBestMatch "me0", .complete 0 (.pet "me"), .complete 0 (.data (some (livesAt 10 20)))]

/-- When every download succeeds, what is saved is the user's. -/
example : Always step App.Private (start (some "me") 0) (entered ++
    [.openEdit, .complete 0 (.data (some (livesAt 10 20))),
      .saveData 0 ⟨"me", "male", 0, 20, "000000000000000000000"⟩]) := by
  decide +kernel

/-- A friend's owner is shown, and the user's own pet cannot be read after that. -/
def visited : List (Event ℤ) :=
  [.openFriend "friend0" "me0", .complete 0 (.pet "friend"), .complete 0 (.data (some (livesAt 30 40))),
    .complete 0 .failed]

def saved : List (Event ℤ) :=
  [.openEdit, .complete 0 .failed, .saveData 0 ⟨"me", "male", 0, 20, "000000000000000000000"⟩]

def measured : List (Event ℤ) :=
  [.page ["stranger"], .complete 0 (.data (some (livesAt 50 60)))]

/-- The place of a friend's owner is uploaded as the user's, and distances are taken from it. -/
theorem friends_place_taken_for_own :
    ¬ Always step App.Private (start (some "me") 0) (entered ++ visited ++ saved) ∧
      ¬ Always step App.Private (start (some "me") 0) (entered ++ visited ++ measured) := by
  decide +kernel

end Leak

end PetClump.Owner
