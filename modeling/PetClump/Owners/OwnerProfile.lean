import PetClump.Library.Runs
import PetClump.Matching.Percent
import PetClump.Owners.FreeSchedule

/-! # The shared owner profile on Android

One object stands for every owner that a screen downloads, the signed-in user and the
owners of friends alike. Downloads end in any order, and what a screen does with them
runs as a chain of callbacks that any failure cuts short. An exception ends the process
and takes the object with it.
-/

namespace PetClump.Owner

open FreeTime.Android

abbrev UserId := String

/-- Where a number came from, which the code does not look at -/
inductive Origin where
  /-- the `0.0` that a field is initialised with -/
  | initializer
  | document (id : UserId)
  | device
  deriving Repr, DecidableEq

structure Coordinate (K : Type) where
  value : K
  origin : Origin

/-- A field of a document, as a cast finds it -/
inductive Field (α : Type) where
  | absent
  | value (a : α)
  /-- of a type that the cast throws at -/
  | other

namespace Field

variable {α : Type}

/-- The cast of a reference, which may be null; `none` is an exception. -/
def nullable : Field α → Option (Option α)
  | .absent => some none
  | .value a => some (some a)
  | .other => none

/-- The cast of a value that is used at once -/
def required : Field α → Option α
  | .value a => some a
  | .absent | .other => none

def ofNullable : Option α → Field α
  | none => .absent
  | some a => .value a

end Field

/-- The document of a user; a date is in milliseconds. -/
structure Dictionary (N : Type) where
  lat : Field N
  lon : Field N
  name : Field String
  gender : Field String
  birthday : Field ℤ
  freeTime : Field String
  distancePerference : Field ℤ

structure OwnerProfile (K : Type) where
  name : Option String
  gender : Option String
  birthday : Option ℤ
  distancePerference : ℤ
  lat : Coordinate K
  lon : Coordinate K
  freeTime : FreeSchedule

/-- `Integer.parseInt` of the text of a number -/
def parseInt (n : ℤ) : Option ℤ := if -(2 ^ 31) ≤ n ∧ n < 2 ^ 31 then some n else none

variable {K : Type}

namespace OwnerProfile

/-- `new FreeSchedule("")` -/
def noFreeTime : FreeSchedule := ⟨FreeTime.blank, ""⟩

example : FreeSchedule.init "" = some noFreeTime := rfl

/-- The object that a process starts with -/
def obj [Zero K] (now : ℤ) : OwnerProfile K where
  name := some "No name"
  gender := some "Apache"
  birthday := some now
  distancePerference := 5
  lat := ⟨0, .initializer⟩
  lon := ⟨0, .initializer⟩
  freeTime := noFreeTime

def setLat (profile : OwnerProfile K) (lat : Coordinate K) : OwnerProfile K := { profile with lat }

def setLon (profile : OwnerProfile K) (lon : Coordinate K) : OwnerProfile K := { profile with lon }

def generateDictionary (profile : OwnerProfile K) : Dictionary (Coordinate K) where
  lat := .value profile.lat
  lon := .value profile.lon
  name := .ofNullable profile.name
  gender := .ofNullable profile.gender
  birthday := .ofNullable profile.birthday
  freeTime := .value profile.freeTime.freeString
  distancePerference := .value profile.distancePerference

/-- What the callback of `download` assigns; `none` is an exception on the way. -/
def ofDocument (id : UserId) (ref : Dictionary K) : Option (OwnerProfile K) := do
  let name ← ref.name.nullable
  let gender ← ref.gender.nullable
  let birthday ← ref.birthday.nullable
  let distancePerference ← parseInt (← ref.distancePerference.required)
  let lat ← ref.lat.required
  let lon ← ref.lon.required
  let freeTime ← FreeSchedule.init (← ref.freeTime.required)
  some ⟨name, gender, birthday, distancePerference, ⟨lat, .document id⟩, ⟨lon, .document id⟩, freeTime⟩

end OwnerProfile

/-- The widgets of the edit screen, as `saveData` reads them -/
structure Form where
  name : String
  gender : String
  birthday : ℤ
  distancePerference : ℤ
  freetime : String

/-- The setters of `saveData` -/
def Form.set (form : Form) (profile : OwnerProfile K) : Option (OwnerProfile K) := do
  let freeTime ← FreeSchedule.init form.freetime
  some { profile with
    gender := some form.gender
    name := some form.name
    distancePerference := form.distancePerference
    birthday := some form.birthday
    freeTime }

/-- `location` is what `setGPS` has found: without it the two fields stay as they were. -/
structure MainActivity (K : Type) where
  location : Option (K × K)

namespace MainActivity

/-- The loop asks the last provider only: what it does not know ends the loop by an exception. -/
def setGPS (providers : List (Option (K × K))) : MainActivity K := ⟨providers.getLast?.join⟩

def profile_lat [Zero K] (main : MainActivity K) : Coordinate K :=
  match main.location with
  | some l => ⟨l.1, .device⟩
  | none => ⟨0, .initializer⟩

def profile_lon [Zero K] (main : MainActivity K) : Coordinate K :=
  match main.location with
  | some l => ⟨l.2, .device⟩
  | none => ⟨0, .initializer⟩

end MainActivity

inductive UploadCallback (K : Type) where
  | startMatching
  | checkLoggedIn (main : MainActivity K)
  | toast

inductive DownloadCallback (K : Type) where
  | saveGPS (main : MainActivity K) (cUser : UserId) (c : UploadCallback K)
  | userInfo
  | userInfoEdit
  | bestMatch
  /-- `OwnerProfileFriendFragment`, the friend's owner -/
  | ownerProfile (my_id : String)
  /-- `OwnerProfileFriendFragment`, the user again -/
  | mySelf

inductive PetCallback where
  /-- `OwnerProfileFriendFragment`, the friend -/
  | petProfile (my_id : String)
  /-- `OwnerProfileFriendFragment`, the user's pet -/
  | myProfile
  | bestMatch

/-- What Firestore has not answered yet -/
inductive Task (K : Type) where
  | download (id : UserId) (c : DownloadCallback K)
  | upload (id : UserId) (dictionary : Dictionary (Coordinate K)) (c : UploadCallback K)
  | pet (id : String) (c : PetCallback)
  /-- the read of a candidate's owner in `calculatePercent` -/
  | calculatePercent (ownerId : UserId)

inductive Answer (K : Type) where
  | failed
  | done
  | data (document : Option (Dictionary K))
  | pet (ownerId : UserId)

/-- A distance that was computed: who was signed in, whose coordinates were taken for
theirs, and what was read of the candidate's owner -/
structure Match (K : Type) where
  user : Option UserId
  userlat : Coordinate K
  userlon : Coordinate K
  candidate : Percent.OwnerProfile K

/-- `mains` and `edits` are the screens of the process, `searches` counts the lists of best
matches that are set up. -/
structure App (K : Type) where
  currentUser : Option UserId
  owner : OwnerProfile K
  mains : List (MainActivity K)
  edits : List UserId
  searches : ℕ
  tasks : List (Task K)
  scored : List (Match K)

inductive Event (K : Type) where
  | openMain (providers : List (Option (K × K)))
  | signIn (user : UserId)
  /-- the callback of a sign-in on an entry screen -/
  | signedIn (main : ℕ)
  | signOut
  | openUserInfo
  | openEdit
  | saveData (edit : ℕ) (form : Form)
  | openFriend (friend_id my_id : String)
  | openBestMatch (petId : String)
  /-- a page of candidates comes to a list, given by their owners -/
  | page (ownerIds : List UserId)
  | complete (task : ℕ) (answer : Answer K)
  /-- the process ends, by an exception or otherwise, and another one starts -/
  | die (now : ℤ)

section App

variable [Zero K]

def start (user : Option UserId) (now : ℤ) : App K := ⟨user, .obj now, [], [], 0, [], []⟩

namespace App

def add (s : App K) (task : Task K) : App K := { s with tasks := s.tasks ++ [task] }

/-- `OwnerProfile.download` -/
def download (s : App K) (id : UserId) (c : DownloadCallback K) : App K :=
  if s.currentUser.isSome then s.add (.download id c) else s

/-- `OwnerProfile.upload`, which goes on without a user -/
def upload (s : App K) (id : UserId) (c : UploadCallback K) : App K :=
  s.add (.upload id s.owner.generateDictionary c)

/-- `PetProfile.download` -/
def downloadPet (s : App K) (id : String) (c : PetCallback) : App K :=
  if s.currentUser.isSome then s.add (.pet id c) else s

def saveGPS (s : App K) (main : MainActivity K) (cUser : UserId) (c : UploadCallback K) : App K :=
  s.download cUser (.saveGPS main cUser c)

def checkLoggedIn (s : App K) (main : MainActivity K) : App K :=
  match s.currentUser with
  | some user => s.saveGPS main user .startMatching
  | none => s

/-- The callback in `firebaseAuthWithCredential` -/
def signedIn (s : App K) (main : MainActivity K) : App K :=
  match s.currentUser with
  | some user => s.saveGPS main user (.checkLoggedIn main)
  | none => s

def didCompleteUpload (s : App K) : UploadCallback K → App K
  | .startMatching | .toast => s
  | .checkLoggedIn main => s.checkLoggedIn main

/-- The callback of a download. A screen that shows the profile throws at what it lacks. -/
def didCompleteDownload (s : App K) : DownloadCallback K → Option (App K)
  | .saveGPS main cUser c =>
      let owner := (s.owner.setLat main.profile_lat).setLon main.profile_lon
      some (({ s with owner } : App K).upload cUser c)
  | .userInfo => do
      let _ ← s.owner.birthday
      some s
  | .userInfoEdit => do
      let _ ← s.owner.gender
      let _ ← s.owner.birthday
      some s
  | .bestMatch => some { s with searches := s.searches + 1 }
  | .ownerProfile my_id => do
      let _ ← s.owner.birthday
      some (s.downloadPet my_id .myProfile)
  | .mySelf => some s

def didCompletePet (s : App K) (ownerId : UserId) : PetCallback → Option (App K)
  | .petProfile my_id => some (s.download ownerId (.ownerProfile my_id))
  | .myProfile => some (s.download ownerId .mySelf)
  | .bestMatch => do
      let user ← s.currentUser
      some (s.download user .bestMatch)

/-- The rest of `calculatePercent` -/
def calculatePercent (s : App K) (temp : Dictionary K) : Option (App K) := do
  let lat ← temp.lat.required
  let lon ← temp.lon.required
  let pre ← temp.distancePerference.required
  some { s with
    scored := s.scored ++ [⟨s.currentUser, s.owner.lat, s.owner.lon, ⟨lat, lon, pre.toNat⟩⟩] }

/-- A task ends. `none` is an exception, or an answer to something else. -/
def answer (s : App K) : Task K → Answer K → Option (App K)
  | .download _ _, .failed | .pet _ _, .failed => some s
  | .download id c, .data (some ref) => do
      let owner ← OwnerProfile.ofDocument id ref
      ({ s with owner } : App K).didCompleteDownload c
  | .upload _ _ c, .failed | .upload _ _ c, .done => some (s.didCompleteUpload c)
  | .pet _ c, .pet ownerId => s.didCompletePet ownerId c
  | .calculatePercent _, .data (some temp) => s.calculatePercent temp
  | .download _ _, .data none | .download _ _, .done | .download _ _, .pet _ => none
  | .upload _ _ _, .data _ | .upload _ _ _, .pet _ => none
  | .pet _ _, .data _ | .pet _ _, .done => none
  | .calculatePercent _, .failed | .calculatePercent _, .data none => none
  | .calculatePercent _, .done | .calculatePercent _, .pet _ => none

end App

def step (s : App K) : Event K → Option (App K)
  | .openMain providers =>
      let main := MainActivity.setGPS providers
      some (({ s with mains := s.mains ++ [main] } : App K).checkLoggedIn main)
  | .signIn user => some { s with currentUser := some user }
  | .signedIn i => do
      let main ← s.mains[i]?
      some (s.signedIn main)
  | .signOut => some { s with currentUser := none }
  | .openUserInfo => do
      let user ← s.currentUser
      some (s.download user .userInfo)
  | .openEdit => do
      let user ← s.currentUser
      some (({ s with edits := s.edits ++ [user] } : App K).download user .userInfoEdit)
  | .saveData i form => do
      let user ← s.edits[i]?
      let owner ← form.set s.owner
      some (({ s with owner } : App K).upload user .toast)
  | .openFriend friend_id my_id => some (s.downloadPet friend_id (.petProfile my_id))
  | .openBestMatch petId => some (s.downloadPet petId .bestMatch)
  | .page ownerIds =>
      if 0 < s.searches then some { s with tasks := s.tasks ++ ownerIds.map .calculatePercent } else none
  | .complete i answer => do
      let task ← s.tasks[i]?
      ({ s with tasks := s.tasks.eraseIdx i } : App K).answer task answer
  | .die now => some (start s.currentUser now)

end App

end PetClump.Owner
