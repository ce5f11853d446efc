import PetClump.Owners.OwnerSetting

/-! # The silent update of the welcome screen on iOS

Every welcome screen downloads the profile of the signed-in user into an object of its own.
When the answer comes, whatever object was made or saved last is uploaded for whoever is
signed in by then, so that their document gets the place of the device.
-/

namespace PetClump.Welcome

open FreeTime.IOS Graphemes OwnerSetting Runs

abbrev UserId := String

section Model

variable {K Date : Type}

structure Object (K Date : Type) where
  id : UserId
  profile : OwnerProfile K Date

/-- What Firestore has not answered yet -/
inductive Task where
  /-- for an object, with the version of the document that the answer brings once it is read -/
  | download (object : ℕ) (version : Option ℕ)
  /-- of a settings screen -/
  | upload (object : ℕ)

/-- `users` has every version of the documents, the current one last. -/
structure App (K Date : Type) where
  users : UserId → List (Option (Document K Date))
  currentUser : Option UserId
  objects : List (Object K Date)
  most_recent_owner : Option ℕ
  tasks : List Task

inductive Event (K Date : Type) where
  | signIn (user : UserId)
  | signOut
  | viewDidLoad (now : Date)
  /-- The server finds the current version, the memory of the device an older one. -/
  | read (task version : ℕ)
  | answered (task : ℕ) (device : Device K Date)
  | failed (task : ℕ)
  /-- `tapUploadProfile`, with the profile that it has filled from the screen -/
  | save (profile : OwnerProfile K Date) (device : Device K Date)
  | saved (task : ℕ)
  /-- another client writes or deletes a document -/
  | changed (user : UserId) (document : Option (Document K Date))
  /-- the process ends and another one starts -/
  | die

/-- The collection with one more version of a document -/
def write (users : UserId → List (Option (Document K Date))) (user : UserId) (document : Option (Document K Date)) :
    UserId → List (Option (Document K Date)) :=
  Function.update users user (users user ++ [document])

/-- What `upload` does to the object -/
def located (profile : OwnerProfile K Date) (device : Device K Date) : OwnerProfile K Date :=
  match device.coordinate with
  | some (lat, lon) => { profile with lat, lon }
  | none => profile

namespace App

def upload (s : App K Date) (m : ℕ) (device : Device K Date) : App K Date :=
  match s.currentUser, s.objects[m]? with
  | some user, some o =>
      let o := { o with profile := located o.profile device }
      { s with
        users := write s.users user (some o.profile.generateDictionary)
        objects := s.objects.set m o }
  | _, _ => s

/-- The callback of the download in `viewDidLoad` -/
def didDownload (s : App K Date) (device : Device K Date) : App K Date :=
  if device.authorizationStatus = .authorizedWhenInUse then
    match s.most_recent_owner with
    | some m => s.upload m device
    | none => s
  else s

end App

def start (documents : UserId → Option (Document K Date)) (user : Option UserId) : App K Date :=
  ⟨fun user => [documents user], user, [], none, []⟩

variable [Zero K] (p : Platform K Date)

/-- The callback of `getDocument`; without a document the profile stays as it was made. -/
def App.getDocument (s : App K Date) (n v : ℕ) : Option (App K Date) := do
  let o ← s.objects[n]?
  let document ← (s.users o.id)[v]?
  let profile ← document.elim (some o.profile) (o.profile.fetchData p)
  some { s with objects := s.objects.set n { o with profile } }

def step (s : App K Date) : Event K Date → Option (App K Date)
  | .signIn user => some { s with currentUser := some user }
  | .signOut => some { s with currentUser := none }
  | .viewDidLoad now =>
      match s.currentUser with
      | some uid => some { s with
          objects := s.objects ++ [⟨uid, .init now⟩]
          most_recent_owner := some s.objects.length
          tasks := s.tasks ++ [.download s.objects.length none] }
      | none => some s
  | .read i v =>
      match s.tasks[i]? with
      | some (.download n none) => some { s with tasks := s.tasks.set i (.download n (some v)) }
      | _ => none
  | .answered i device =>
      match s.tasks[i]? with
      | some (.download n (some v)) => do
          let s ← ({ s with tasks := s.tasks.eraseIdx i } : App K Date).getDocument p n v
          some (s.didDownload device)
      | _ => none
  | .failed i =>
      match s.tasks[i]? with
      | some (.download _ _) => some { s with tasks := s.tasks.eraseIdx i }
      | _ => none
  | .save profile device =>
      if s.currentUser.isSome then
        let added : App K Date := { s with
          objects := s.objects ++ [⟨"", profile⟩]
          tasks := s.tasks ++ [.upload s.objects.length] }
        some (added.upload s.objects.length device)
      else some s
  | .saved i =>
      match s.tasks[i]? with
      | some (.upload n) => some { s with most_recent_owner := some n, tasks := s.tasks.eraseIdx i }
      | _ => none
  | .changed user document => some { s with users := write s.users user document }
  | .die => some { s with objects := [], most_recent_owner := none, tasks := [] }

end Model

section Versions

variable {K Date : Type}

/-- For each object the user and the version whose copy it is, if it has not stayed as it was made -/
abbrev Held := ℕ → Option (UserId × ℕ)

def Held.upload (held : Held) (s : App K Date) (m : ℕ) : Held :=
  match s.currentUser with
  | some user => Function.update held m (some (user, (s.users user).length))
  | none => held

/-- After the object of the `i`-th task got the document that was read for it -/
def Held.fetched (held : Held) (s : App K Date) (i : ℕ) : Held :=
  match s.tasks[i]? with
  | some (.download n (some v)) =>
      match s.objects[n]? with
      | some o =>
          match (s.users o.id)[v]? with
          | some (some _) => Function.update held n (some (o.id, v))
          | _ => held
      | none => held
  | _ => held

/-- Only the order of the events and whether there was a document are looked at. -/
def note (s : App K Date) (e : Event K Date) (held : Held) : Held :=
  match e with
  | .viewDidLoad _ => Function.update held s.objects.length none
  | .answered i device =>
      if device.authorizationStatus = .authorizedWhenInUse then
        match s.most_recent_owner with
        | some m => (held.fetched s i).upload s m
        | none => held.fetched s i
      else held.fetched s i
  | .save _ _ => held.upload s s.objects.length
  | .signIn _ | .signOut | .read _ _ | .failed _ | .saved _ | .changed _ _ | .die => held

/-- A document as `generateDictionary` makes them -/
def Complete (stored : Document K Date) : Prop :=
  ∃ profile : OwnerProfile K Date, stored = profile.generateDictionary

/-- The document that an object with this entry is a copy of -/
def Version [Zero K] (users : UserId → List (Option (Document K Date))) (held : Option (UserId × ℕ))
    (stored : Document K Date) : Prop :=
  match held with
  | some (user, v) => (users user)[v]? = some (some stored)
  | none => ∃ now, stored = (OwnerProfile.init now).generateDictionary

/-- The document with the place of the device, when there is one -/
def relocate (device : Device K Date) (stored : Document K Date) : Document K Date :=
  match device.coordinate with
  | some (lat, lon) => Function.update (Function.update stored "lat" (some (.double lat))) "lon" (some (.double lon))
  | none => stored

/-- What the casts do to the values that the app writes -/
structure Casts (p : Platform K Date) : Prop where
  double : ∀ x, p.asDouble (.double x) = some x
  int : ∀ n, p.asInt (.int n) = some n

/-- The profile is a copy of the version. -/
def Copies [Zero K] (users : UserId → List (Option (Document K Date))) (held : Option (UserId × ℕ))
    (profile : OwnerProfile K Date) : Prop :=
  ∃ stored, Version users held stored ∧ (Complete stored → profile.generateDictionary = stored)

/-- The shared object is a copy of the version that the log names. -/
def SharedCopy [Zero K] (x : App K Date × Held) : Prop :=
  ∀ m ∈ x.1.most_recent_owner, ∃ o, x.1.objects[m]? = some o ∧ Copies x.1.users (x.2 m) o.profile

/-- The silent update writes the version that the log names, at the place of the device. -/
def WritesHeld [Zero K] (p : Platform K Date) (x : App K Date × Held) (e : Event K Date) : Prop :=
  ∀ i device s', e = .answered i device → device.authorizationStatus = .authorizedWhenInUse →
    step p x.1 e = some s' → ∀ user ∈ x.1.currentUser, ∀ m ∈ x.1.most_recent_owner,
      ∃ stored, Version x.1.users (x.2.fetched x.1 i m) stored ∧
      (Complete stored → s'.users = write x.1.users user (some (relocate device stored)))

variable [Zero K] {p : Platform K Date} {users : UserId → List (Option (Document K Date))}
  {entry : Option (UserId × ℕ)} {profile : OwnerProfile K Date} {stored : Document K Date}

omit [Zero K] in
theorem located_dictionary (profile : OwnerProfile K Date) (device : Device K Date) :
    (located profile device).generateDictionary = relocate device profile.generateDictionary := by
  unfold located relocate
  cases device.coordinate with
  | none => rfl
  | some place =>
      funext key
      simp only [OwnerProfile.generateDictionary, OwnerProfile.fields, List.lookup_cons, List.lookup_nil,
        Function.update_apply]
      split <;> split <;> simp_all

omit [Zero K] in
theorem upload_dictionary (profile : OwnerProfile K Date) (device : Device K Date) :
    profile.upload device = relocate device profile.generateDictionary := by
  rw [← located_dictionary]
  unfold OwnerProfile.upload located
  cases device.coordinate <;> rfl

/-- A complete document is what the profile that it is read into writes. -/
theorem fetchData_complete (casts : Casts p) {fetched : OwnerProfile K Date} (complete : Complete stored)
    (read : profile.fetchData p stored = some fetched) : fetched.generateDictionary = stored := by
  obtain ⟨written, rfl⟩ := complete
  have values : profile.fetchData p written.generateDictionary =
      (FreeSchedule.init (segments p.joins written.freeTime.freeTimeAsString.flatten)).map
        fun freeTime => { written with freeTime } := by
    simp [OwnerProfile.fetchData, OwnerProfile.generateDictionary, OwnerProfile.fields, List.lookup_cons, casts.double,
      casts.int, Value.asString, Value.asTimestamp, Option.map_eq_bind]
  rw [values] at read
  obtain ⟨freeTime, built, rfl⟩ := Option.map_eq_some_iff.mp read
  have marks : freeTime.freeTimeAsString.flatten = written.freeTime.freeTimeAsString.flatten := by
    rw [FreeSchedule.init_some built, flatten_segments]
  unfold OwnerProfile.generateDictionary OwnerProfile.fields
  rw [marks]

omit [Zero K] in
theorem write_prefix (users : UserId → List (Option (Document K Date))) (user other : UserId)
    (document : Option (Document K Date)) : users other <+: write users user document other := by
  unfold write
  by_cases same : other = user
  · rw [same, Function.update_self]
    exact List.prefix_append _ _
  · simp [Function.update_of_ne same]

theorem Version.write (version : Version users entry stored) (user : UserId) (document : Option (Document K Date)) :
    Version (write users user document) entry stored := by
  cases entry with
  | none => exact version
  | some source =>
      obtain ⟨more, whole⟩ := write_prefix users user source.1 document
      unfold Version at version ⊢
      dsimp only at version ⊢
      rw [← whole]
      exact (List.getElem?_append_left (List.getElem?_eq_some_iff.mp version).1).trans version

theorem Copies.write (copies : Copies users entry profile) (user : UserId) (document : Option (Document K Date)) :
    Copies (write users user document) entry profile := by
  obtain ⟨stored, version, same⟩ := copies
  exact ⟨stored, version.write user document, same⟩

/-- Every object is a copy of its version. -/
def AllCopies (users : UserId → List (Option (Document K Date))) (objects : List (Object K Date)) (held : Held) :
    Prop :=
  ∀ (n : ℕ) (o : Object K Date), objects[n]? = some o → Copies users (held n) o.profile

namespace AllCopies

variable {objects : List (Object K Date)} {held : Held} {o : Object K Date}

theorem write (all : AllCopies users objects held) (user : UserId) (document : Option (Document K Date)) :
    AllCopies (write users user document) objects held :=
  fun n o at_n => (all n o at_n).write user document

theorem set (all : AllCopies users objects held) (m : ℕ) (copies : Copies users entry o.profile) :
    AllCopies users (objects.set m o) (Function.update held m entry) := by
  intro n found at_n
  by_cases same : n = m
  · subst same
    have bound := (List.getElem?_eq_some_iff.mp at_n).1
    rw [List.length_set] at bound
    rw [List.getElem?_set_self bound] at at_n
    cases at_n
    rwa [Function.update_self]
  · rw [Function.update_of_ne same]
    rw [List.getElem?_set_ne (Ne.symm same)] at at_n
    exact all n found at_n

theorem append (all : AllCopies users objects held) (copies : Copies users entry o.profile) :
    AllCopies users (objects ++ [o]) (Function.update held objects.length entry) := by
  intro n found at_n
  by_cases same : n = objects.length
  · subst same
    rw [List.getElem?_concat_length] at at_n
    cases at_n
    rwa [Function.update_self]
  · rw [Function.update_of_ne same]
    have bound := (List.getElem?_eq_some_iff.mp at_n).1
    rw [List.length_append, List.length_singleton] at bound
    rw [List.getElem?_append_left (by omega)] at at_n
    exact all n found at_n

end AllCopies

variable {s s' : App K Date} {held : Held}

/-- A profile that was uploaded is a copy of the version that this made. -/
theorem copies_uploaded (users : UserId → List (Option (Document K Date))) (user : UserId)
    (profile : OwnerProfile K Date) :
    Copies (write users user (some profile.generateDictionary)) (some (user, (users user).length)) profile := by
  refine ⟨profile.generateDictionary, ?_, fun _ => rfl⟩
  unfold Version Welcome.write
  dsimp only
  rw [Function.update_self, List.getElem?_concat_length]

theorem AllCopies.upload (all : AllCopies s.users s.objects held) (m : ℕ) (device : Device K Date)
    (known : m < s.objects.length) :
    AllCopies (s.upload m device).users (s.upload m device).objects (held.upload s m) := by
  unfold App.upload Held.upload
  rw [List.getElem?_eq_getElem known]
  cases s.currentUser with
  | none => exact all
  | some user => exact (all.write user _).set m (copies_uploaded s.users user _)

theorem AllCopies.getDocument (casts : Casts p) (all : AllCopies s.users s.objects held) {i n v : ℕ}
    (task : s.tasks[i]? = some (.download n (some v)))
    (got : ({ s with tasks := s.tasks.eraseIdx i } : App K Date).getDocument p n v = some s') :
    AllCopies s'.users s'.objects (held.fetched s i) := by
  simp only [App.getDocument, Option.bind_eq_bind, Option.bind_eq_some_iff, Option.some.injEq] at got
  obtain ⟨o, at_n, document, found, profile, fetched, rfl⟩ := got
  simp only [Held.fetched, task, at_n, found]
  cases document with
  | none =>
      cases fetched
      obtain ⟨bound, rfl⟩ := List.getElem?_eq_some_iff.mp at_n
      rw [List.set_getElem_self bound]
      exact all
  | some stored =>
      refine all.set n ⟨stored, found, fun complete => ?_⟩
      exact fetchData_complete casts complete fetched

/-- The shared object exists, and so do those that are being saved. -/
structure Known (s : App K Date) : Prop where
  shared : ∀ m ∈ s.most_recent_owner, m < s.objects.length
  saved : ∀ m, .upload m ∈ s.tasks → m < s.objects.length

omit [Zero K] in
/-- Objects may be added, and tasks may be answered. -/
theorem Known.of_le (known : Known s) (objects : s.objects.length ≤ s'.objects.length)
    (shared : s'.most_recent_owner = s.most_recent_owner)
    (tasks : ∀ m, .upload m ∈ s'.tasks → .upload m ∈ s.tasks) :
    Known s' where
  shared := by
    rw [shared]
    exact fun m mem => (known.shared m mem).trans_le objects
  saved := fun m mem => (known.saved m (tasks m mem)).trans_le objects

omit [Zero K] in
theorem upload_frame (s : App K Date) (m : ℕ) (device : Device K Date) :
    (s.upload m device).objects.length = s.objects.length ∧
      (s.upload m device).most_recent_owner = s.most_recent_owner ∧ (s.upload m device).tasks = s.tasks := by
  unfold App.upload
  split
  · exact ⟨List.length_set, rfl, rfl⟩
  · exact ⟨rfl, rfl, rfl⟩

omit [Zero K] in
theorem didDownload_frame (s : App K Date) (device : Device K Date) :
    (s.didDownload device).objects.length = s.objects.length ∧
      (s.didDownload device).most_recent_owner = s.most_recent_owner ∧ (s.didDownload device).tasks = s.tasks := by
  unfold App.didDownload
  split
  · split
    · exact upload_frame s _ device
    · exact ⟨rfl, rfl, rfl⟩
  · exact ⟨rfl, rfl, rfl⟩

theorem getDocument_frame {n v : ℕ} (got : s.getDocument p n v = some s') : ∃ objects,
    s' = { s with objects } ∧ objects.length = s.objects.length := by
  simp only [App.getDocument, Option.bind_eq_bind, Option.bind_eq_some_iff, Option.some.injEq] at got
  obtain ⟨o, -, document, -, profile, -, rfl⟩ := got
  exact ⟨_, rfl, List.length_set⟩

/-- The answer to a download, and what is done with it -/
theorem answered_cases {i : ℕ} {device : Device K Date} (taken : step p s (.answered i device) = some s') :
    ∃ n v objects, s.tasks[i]? = some (.download n (some v)) ∧
      ({ s with tasks := s.tasks.eraseIdx i } : App K Date).getDocument p n v =
        some { s with objects, tasks := s.tasks.eraseIdx i } ∧
      objects.length = s.objects.length ∧
      s' = ({ s with objects, tasks := s.tasks.eraseIdx i } : App K Date).didDownload device := by
  simp only [step] at taken
  split at taken
  · rename_i n v task
    obtain ⟨t, got, updated⟩ := Option.bind_eq_some_iff.mp taken
    cases updated
    obtain ⟨objects, rfl, length⟩ := getDocument_frame got
    exact ⟨n, v, objects, task, got, length, rfl⟩
  · cases taken

theorem AllCopies.answered (casts : Casts p) (all : AllCopies s.users s.objects held) (known : Known s) {i : ℕ}
    {device : Device K Date} (taken : step p s (.answered i device) = some s') :
    AllCopies s'.users s'.objects (note s (.answered i device) held) := by
  obtain ⟨n, v, objects, task, got, length, rfl⟩ := answered_cases taken
  have fetched := all.getDocument casts task got
  by_cases permitted : device.authorizationStatus = .authorizedWhenInUse
  · simp only [note, App.didDownload, if_pos permitted]
    cases shared : s.most_recent_owner with
    | none => exact fetched
    | some m =>
        rw [shared] at fetched
        exact fetched.upload m device (length ▸ known.shared m shared)
  · simp only [note, App.didDownload, if_neg permitted]
    exact fetched

/-- A save adds an object and writes it. -/
theorem step_save {uid : UserId} (user : s.currentUser = some uid) (profile : OwnerProfile K Date)
    (device : Device K Date) : step p s (.save profile device) = some { s with
      users := write s.users uid (some (located profile device).generateDictionary)
      objects := s.objects ++ [⟨"", located profile device⟩]
      tasks := s.tasks ++ [.upload s.objects.length] } := by
  simp [step, user, App.upload]

theorem inv_step (casts : Casts p) {e : Event K Date} (all : AllCopies s.users s.objects held) (known : Known s)
    (taken : step p s e = some s') : AllCopies s'.users s'.objects (note s e held) ∧ Known s' := by
  cases e with
  | signIn user =>
      cases taken
      exact ⟨all, known.shared, known.saved⟩
  | signOut =>
      cases taken
      exact ⟨all, known.shared, known.saved⟩
  | viewDidLoad now =>
      simp only [step] at taken
      cases user : s.currentUser with
      | none =>
          rw [user] at taken
          cases taken
          refine ⟨fun n o at_n => ?_, known.shared, known.saved⟩
          have bound := (List.getElem?_eq_some_iff.mp at_n).1
          simp only [note, Function.update_of_ne bound.ne]
          exact all n o at_n
      | some uid =>
          rw [user] at taken
          cases taken
          refine ⟨all.append ⟨_, ⟨now, rfl⟩, fun _ => rfl⟩, ?_, ?_⟩
          · intro m mem
            cases mem
            simp
          · intro m mem
            have old := (List.mem_append.mp mem).resolve_right (by simp)
            simpa using Nat.lt_succ_of_lt (known.saved m old)
  | read i v =>
      simp only [step] at taken
      split at taken
      · cases taken
        refine ⟨all, known.of_le le_rfl rfl fun m mem => ?_⟩
        exact (List.mem_or_eq_of_mem_set mem).resolve_right nofun
      · cases taken
  | answered i device =>
      refine ⟨all.answered casts known taken, ?_⟩
      obtain ⟨n, v, objects, -, -, length, rfl⟩ := answered_cases taken
      obtain ⟨objects', shared, tasks⟩ := didDownload_frame
        ({ s with objects, tasks := s.tasks.eraseIdx i } : App K Date) device
      apply known.of_le
      · rw [objects', length]
      · exact shared
      · intro m mem
        rw [tasks] at mem
        exact List.mem_of_mem_eraseIdx mem
  | failed i =>
      simp only [step] at taken
      split at taken
      · cases taken
        exact ⟨all, known.of_le le_rfl rfl fun _ => List.mem_of_mem_eraseIdx⟩
      · cases taken
  | save profile device =>
      cases user : s.currentUser with
      | none =>
          simp only [step, user, Option.isSome_none, Bool.false_eq_true, if_false, Option.some.injEq] at taken
          subst taken
          simp only [note, Held.upload, user]
          exact ⟨all, known⟩
      | some uid =>
          rw [step_save user, Option.some.injEq] at taken
          subst taken
          simp only [note, Held.upload, user]
          refine ⟨(all.write uid _).append (copies_uploaded s.users uid _), ?_, ?_⟩
          · intro m mem
            simpa using Nat.lt_succ_of_lt (known.shared m mem)
          · intro m mem
            rcases List.mem_append.mp mem with old | new
            · simpa using Nat.lt_succ_of_lt (known.saved m old)
            · cases List.mem_singleton.mp new
              simp
  | saved i =>
      simp only [step] at taken
      split at taken
      · rename_i n task
        cases taken
        refine ⟨all, fun m mem => ?_, fun m mem => known.saved m (List.mem_of_mem_eraseIdx mem)⟩
        cases mem
        exact known.saved n (List.mem_of_getElem? task)
      · cases taken
  | changed user document =>
      cases taken
      exact ⟨all.write user document, known.shared, known.saved⟩
  | die =>
      cases taken
      exact ⟨nofun, nofun, nofun⟩

theorem writesHeld (casts : Casts p) (all : AllCopies s.users s.objects held) (known : Known s) (e : Event K Date) :
    WritesHeld p (s, held) e := by
  rintro i device s' rfl permitted taken user signed m shared
  obtain ⟨n, v, objects, task, got, length, rfl⟩ := answered_cases taken
  have bound : m < objects.length := length ▸ known.shared m shared
  obtain ⟨stored, version, same⟩ := all.getDocument casts task got m objects[m] (List.getElem?_eq_getElem bound)
  refine ⟨stored, version, fun complete => ?_⟩
  change s.currentUser = some user at signed
  change s.most_recent_owner = some m at shared
  simp only [App.didDownload, if_pos permitted, shared, App.upload, signed, List.getElem?_eq_getElem bound]
  rw [located_dictionary, same complete]

/-- However screens, sign-ins, saves and other clients interleave, the shared profile is a copy of the version of a
document that the order of the events tells, and the silent update writes that version back with the place of the
device. -/
theorem shared_profile_is_a_copy (casts : Casts p) (documents : UserId → Option (Document K Date))
    (user : Option UserId) (es : List (Event K Date)) :
    Always (recorded (step p) note) SharedCopy (start documents user, fun _ => none) es ∧
      Meets (recorded (step p) note) (WritesHeld p) (start documents user, fun _ => none) es := by
  have preserves : ∀ (x : App K Date × Held) e x', AllCopies x.1.users x.1.objects x.2 ∧ Known x.1 →
      recorded (step p) note x e = some x' → AllCopies x'.1.users x'.1.objects x'.2 ∧ Known x'.1 := by
    rintro x e x' ⟨all, known⟩ taken
    obtain ⟨s', stepped, rfl⟩ := recorded_eq_some.mp taken
    exact inv_step casts all known stepped
  have first : AllCopies (start documents user).users (start documents user).objects (fun _ => none) ∧
      Known (start documents user) := ⟨nofun, nofun, nofun⟩
  constructor
  · refine always_of_meets (fun x e x' now _ => preserves x e x' now) (fun x now m shared => ?_) first meets_true
    have bound := now.2.shared m shared
    exact ⟨x.1.objects[m], List.getElem?_eq_getElem bound, now.1 m _ (List.getElem?_eq_getElem bound)⟩
  · exact meets_imp preserves (fun x e now _ => writesHeld casts now.1 now.2 e) first meets_true

/-- What the settings screen saves is such a save. -/
theorem tapUploadProfile_saves [LinearOrder Date] {screen : Screen K Date} {device : Device K Date}
    {after : Document K Date} {uid : UserId} (user : s.currentUser = some uid)
    (saved : tapUploadProfile p screen device = some after) :
    ∃ profile s', step p s (.save profile device) = some s' ∧ s'.users = write s.users uid (some after) := by
  unfold tapUploadProfile at saved
  obtain ⟨-, filled⟩ := Option.ite_none_right_eq_some.mp saved
  obtain ⟨freeTime, -, uploaded⟩ := Option.map_eq_some_iff.mp filled
  let profile : OwnerProfile K Date := { OwnerProfile.init device.now with
    name := screen.name
    gender := screen.gender
    birthday := screen.date
    distancePerference := matchValues (screen.lastMatchIndex.getD 0)
    freeTime }
  refine ⟨profile, _, step_save user profile device, ?_⟩
  rw [located_dictionary, ← upload_dictionary]
  exact congrArg (fun document => write s.users uid (some document)) uploaded

end Versions

/-- One user signs out and another one in while the profile of the first is downloaded. -/
theorem profile_given_to_other_user :
    let documents : UserId → Option (Document ℤ ℤ) := fun user =>
      if user = "a" then some owner.generateDictionary else none
    let es : List (Event ℤ ℤ) := [.viewDidLoad 0, .read 0 0, .signOut, .signIn "b",
      .answered 0 ⟨some "b", .authorizedWhenInUse, some (38, -121), 1⟩]
    (Always (recorded (step phone) note) SharedCopy (start documents (some "a"), fun _ => none) es ∧
      Meets (recorded (step phone) note) (WritesHeld phone) (start documents (some "a"), fun _ => none) es) ∧
      (run (step phone) (start documents (some "a")) es).bind (fun s => (s.users "b").getLast?.map fun document =>
        document.bind (· "name")) = some (some (.string "Olivia")) :=
  ⟨shared_profile_is_a_copy ⟨fun _ => rfl, fun _ => rfl⟩ _ _ _, rfl⟩

end PetClump.Welcome
