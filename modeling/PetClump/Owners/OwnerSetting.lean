import Mathlib.Algebra.Ring.Int.Defs
import Mathlib.Data.Fin.VecNotation
import Mathlib.Order.Defs.LinearOrder
import PetClump.Library.Graphemes
import PetClump.Library.Placement
import PetClump.Library.Runs
import PetClump.Owners.FreeSchedule

/-! # Saving the owner settings on iOS

The settings screen shows an owner's profile once it is downloaded, but can be edited and
saved at any time. A save fills a new profile from the screen, puts the device's location
into it when there is one, and replaces the whole document.
-/

namespace PetClump.OwnerSetting

open FreeTime.IOS Graphemes Placement Runs

/-- A field of a document -/
inductive Value (K Date : Type) where
  | double (x : K)
  | int (n : ℤ)
  | string (s : String)
  | timestamp (d : Date)
  | other

abbrev Document (K Date : Type) := String → Option (Value K Date)

/-- What the frameworks do: which scalars join into characters, which numbers casts accept,
and how dates and texts are printed. -/
structure Platform (K Date : Type) where
  joins : List Char → Char → Bool
  asDouble : Value K Date → Option K
  asInt : Value K Date → Option ℤ
  getBirthdayString : Date → String
  getBirthdayString_ne : ∀ d, getBirthdayString d ≠ ""
  NSLocalizedString : String → String

inductive CLAuthorizationStatus where
  | notDetermined
  | restricted
  | denied
  | authorizedAlways
  | authorizedWhenInUse
  deriving DecidableEq

/-- What a save finds: the user, the permission, the current location and the time. -/
structure Device (K Date : Type) where
  currentUser : Option String
  authorizationStatus : CLAuthorizationStatus
  location : Option (K × K)
  now : Date

/-- The location that a save uses -/
def Device.coordinate {K Date : Type} (device : Device K Date) : Option (K × K) :=
  if device.authorizationStatus = .authorizedWhenInUse then device.location else none

structure OwnerProfile (K Date : Type) where
  name : String
  gender : String
  birthday : Date
  distancePerference : ℤ
  lat : K
  lon : K
  freeTime : FreeSchedule

section Profile

variable {K Date : Type}

namespace Value

def asString : Value K Date → Option String
  | string s => some s
  | _ => none

def asTimestamp : Value K Date → Option Date
  | timestamp d => some d
  | _ => none

end Value

namespace OwnerProfile

/-- `FreeSchedule(freeString: "")` -/
def noFreeTime : FreeSchedule := ⟨FreeTime.blank, []⟩

example : FreeSchedule.init [] = some noFreeTime := by
  obtain ⟨m, built, cells⟩ := FreeSchedule.init_eq []
  have blank : m = FreeTime.blank := by
    funext i j
    rw [cells]
    rfl
  rw [built, blank, noFreeTime]

def init [Zero K] (now : Date) : OwnerProfile K Date where
  name := "No name"
  gender := "Apache Helicotper"
  birthday := now
  distancePerference := 5
  lat := 0
  lon := 0
  freeTime := noFreeTime

def fetchData [Zero K] (p : Platform K Date) (profile : OwnerProfile K Date) (refObj : Document K Date) :
    Option (OwnerProfile K Date) := do
  let freeString := ((refObj "freeTime").bind Value.asString).getD ""
  let freeTime ← FreeSchedule.init (segments p.joins freeString.toList)
  some {
    lon := ((refObj "lon").bind p.asDouble).getD 0
    lat := ((refObj "lat").bind p.asDouble).getD 0
    name := ((refObj "name").bind Value.asString).getD ""
    gender := ((refObj "gender").bind Value.asString).getD ""
    freeTime
    birthday := ((refObj "birthday").bind Value.asTimestamp).getD profile.birthday
    distancePerference := ((refObj "distancePerference").bind p.asInt).getD 25 }

def fields (profile : OwnerProfile K Date) : List (String × Value K Date) :=
  [("lat", .double profile.lat), ("lon", .double profile.lon), ("name", .string profile.name),
    ("gender", .string profile.gender), ("birthday", .timestamp profile.birthday),
    ("freeTime", .string (String.ofList profile.freeTime.freeTimeAsString.flatten)),
    ("distancePerference", .int profile.distancePerference)]

def generateDictionary (profile : OwnerProfile K Date) : Document K Date := fun key => profile.fields.lookup key

/-- What `upload` writes over the document -/
def upload (profile : OwnerProfile K Date) (device : Device K Date) : Document K Date :=
  match device.coordinate with
  | some (lat, lon) => { profile with lat, lon }.generateDictionary
  | none => profile.generateDictionary

end OwnerProfile

end Profile

def matchValues : Fin 4 → ℤ := ![5, 20, 100, 21000]

/-- The tags of the image views, in the order of the subviews -/
def tags : List ℕ :=
  [11, 21, 31, 61, 51, 41, 71, 22, 32, 42, 62, 52, 72, 13, 33, 23, 63, 53, 43, 73, 12]

/-- `selected` tells the views with the selected colour by their tags. The birthday field is
open for editing while `editing` is set, and the picker stands on the screen. -/
structure Screen (K Date : Type) where
  profile : OwnerProfile K Date
  downloaded : Bool
  name : String
  placeholder : Option String
  gender : String
  birthday : String
  editing : Bool
  date : Date
  slider : Fin 4
  lastMatchIndex : Option (Fin 4)
  titleMatchRangeLabel : String
  selected : ℕ → Bool

inductive Event (K Date : Type) where
  | didCompleteDownload (document : Option (Document K Date))
  | editName (text : String)
  | pickGender (row : Fin 5)
  | beginBirthday
  | pickDate (date : Date)
  | tapEditBirthday
  /-- The slider is moved; its value is rounded to an index. -/
  | slidedMatchRange (newIndex : Fin 4)
  | toggleImageColor (tag : ℕ)

section Screen

variable {K Date : Type} [Zero K] (p : Platform K Date)

/-- The slider of the storyboard stands above its new maximum. -/
def viewDidLoad (now created : Date) : Screen K Date where
  profile := .init created
  downloaded := false
  name := ""
  placeholder := none
  gender := ""
  birthday := ""
  editing := false
  date := now
  slider := 3
  lastMatchIndex := none
  titleMatchRangeLabel := "Match Range: 25"
  selected _ := false

def getRangeDisplayText (actualValue : ℤ) : String :=
  if 100 < actualValue then p.NSLocalizedString "No prefered range"
  else p.NSLocalizedString ("With in " ++ actualValue.repr ++ " km")

def genderPickerData : List String :=
  ["-", p.NSLocalizedString "Male", p.NSLocalizedString "Female", p.NSLocalizedString "Apache Helicotper",
    p.NSLocalizedString "Other"]

def didSelectRow (row : Fin 5) : String :=
  let picked := (genderPickerData p).get row
  if picked ≠ "-" then picked else p.NSLocalizedString "Other"

namespace Screen

def updateMatchRangeLabel (s : Screen K Date) (newIndex : Fin 4) : Screen K Date :=
  if s.lastMatchIndex = some newIndex then { s with slider := newIndex }
  else { s with
    slider := newIndex
    lastMatchIndex := some newIndex
    titleMatchRangeLabel := getRangeDisplayText p (matchValues newIndex) }

/-- `didCompleteDownload` up to the slider -/
def showProfile (s : Screen K Date) (profile : OwnerProfile K Date) : Screen K Date :=
  { s with
    profile
    downloaded := true
    name := if profile.name = "No name" then s.name else profile.name
    placeholder := if profile.name = "No name" then some "Olivia Hye" else s.placeholder
    gender := profile.gender
    birthday := p.getBirthdayString profile.birthday
    date := profile.birthday
    -- no tag is outside the matrix
    selected := fun tag => (profile.freeTime.isFree (tag / 10 - 1 : ℤ) (tag % 10 - 1 : ℤ)).getD false }

def didCompleteDownload (s : Screen K Date) (profile : OwnerProfile K Date) : Screen K Date :=
  let index := ((List.finRange 4).find? fun i => matchValues i = profile.distancePerference).getD 0
  (s.showProfile p profile).updateMatchRangeLabel p index

end Screen

def step (s : Screen K Date) : Event K Date → Option (Screen K Date)
  | .didCompleteDownload document =>
      -- `getDocument` answers once, and without a document the profile stays as it was made
      if s.downloaded then none
      else (document.elim (some s.profile) (s.profile.fetchData p)).map (s.didCompleteDownload p)
  | .editName name => some { s with name }
  | .pickGender row => some { s with gender := didSelectRow p row }
  | .beginBirthday => if s.editing then none else some { s with editing := true }
  | .pickDate date => if s.editing then some { s with date } else none
  | .tapEditBirthday =>
      if s.editing then some { s with birthday := p.getBirthdayString s.date, editing := false } else none
  | .slidedMatchRange newIndex => some (s.updateMatchRangeLabel p newIndex)
  | .toggleImageColor tag =>
      -- taps are recognised once the profile is shown
      if s.downloaded ∧ tag ∈ tags then
        some { s with selected := fun other => if other = tag then !s.selected tag else s.selected other }
      else none

/-- The place of a view's mark -/
def num (tag : ℕ) : ℕ := (tag / 10 - 1) * 3 + tag % 10 - 1

/-- The marks of the views, written one after the other -/
def someArray (selected : ℕ → Bool) : List Char :=
  tags.foldl (fun marks tag => marks.set (num tag) (if selected tag then '1' else '0')) (List.replicate 21 '0')

variable [LinearOrder Date]

def validateInput (s : Screen K Date) (device : Device K Date) : Bool := s.name ≠ "" ∧ ¬ device.now < s.date

/-- The document that a save writes; `none` when there is no user or an alert is made. -/
def tapUploadProfile (s : Screen K Date) (device : Device K Date) : Option (Document K Date) :=
  if device.currentUser.isSome ∧ validateInput s device then
    (FreeSchedule.init (segments p.joins (someArray s.selected))).map fun freeTime =>
      let profile : OwnerProfile K Date := { OwnerProfile.init device.now with
        name := s.name
        gender := s.gender
        birthday := s.date
        distancePerference := matchValues (s.lastMatchIndex.getD 0)
        freeTime }
      profile.upload device
  else none

end Screen

section Saves

variable {K Date : Type} {p : Platform K Date}

/-- The birthday on the screen is the picker's while the field is edited. -/
def Screen.shownBirthday (p : Platform K Date) (s : Screen K Date) : String :=
  if s.editing then p.getBirthdayString s.date else s.birthday

/-- The text has a mark for each view, in the order of the week. -/
def Shows (selected : ℕ → Bool) (text : String) : Prop :=
  text.toList.length = 21 ∧ ∀ (i : Fin 7) (j : Fin 3),
    text.toList[i.val * 3 + j.val]? = some (if selected (10 * (i + 1) + (j + 1)) then '1' else '0')

/-- The keys that the screen edits, and the keys of the location -/
def editedKeys : List String := ["name", "gender", "birthday", "freeTime", "distancePerference"]

def locationKeys : List String := ["lat", "lon"]

/-- The document keeps what was not edited, and holds what the screen shows. -/
structure Kept (p : Platform K Date) (s : Screen K Date) (device : Device K Date)
    (stored after : Document K Date) : Prop where
  lat : after "lat" = (device.coordinate.map fun l => .double l.1).or (stored "lat")
  lon : after "lon" = (device.coordinate.map fun l => .double l.2).or (stored "lon")
  others : ∀ key, key ∉ editedKeys ++ locationKeys → after key = stored key
  name : after "name" = some (.string s.name)
  gender : after "gender" = some (.string s.gender)
  birthday : ∃ d, after "birthday" = some (.timestamp d) ∧ p.getBirthdayString d = s.shownBirthday p
  freeTime : ∃ text, after "freeTime" = some (.string text) ∧ Shows s.selected text
  distancePerference : after "distancePerference" = some (.int (matchValues s.slider)) ∧
    s.titleMatchRangeLabel = getRangeDisplayText p (matchValues s.slider)

namespace Event

/-- The range on the screen is then the one that is saved. -/
def setsRange : Event K Date → Bool
  | didCompleteDownload _ | slidedMatchRange _ => true
  | _ => false

/-- The birthday on the screen is then the one that is saved. -/
def setsBirthday : Event K Date → Bool
  | didCompleteDownload _ | beginBirthday => true
  | _ => false

end Event

variable {s : Screen K Date} {device : Device K Date} {stored : Document K Date}

theorem shows_someArray (selected : ℕ → Bool) : Shows selected (String.ofList (someArray selected)) := by
  rw [Shows, String.toList_ofList, someArray, foldl_set_length]
  refine ⟨rfl, fun i j => ?_⟩
  have view : ∀ (i : Fin 7) (j : Fin 3), num (10 * (i + 1) + (j + 1)) = i.val * 3 + j.val ∧
      10 * (i.val + 1) + (j.val + 1) ∈ tags := by decide
  have apart : ∀ tag ∈ tags, ∀ other ∈ tags, num other = num tag → other = tag := by decide
  obtain ⟨place, mem⟩ := view i j
  have inside : num (10 * (i + 1) + (j + 1)) < (List.replicate 21 '0').length := by
    rw [place, List.length_replicate]
    omega
  rw [← place]
  exact foldl_set_own mem (apart _ mem) _ inside

theorem updateMatchRangeLabel_eq (s : Screen K Date) (newIndex : Fin 4) : s.updateMatchRangeLabel p newIndex =
    { s with
      slider := newIndex
      lastMatchIndex := some newIndex
      titleMatchRangeLabel := if s.lastMatchIndex = some newIndex then s.titleMatchRangeLabel
        else getRangeDisplayText p (matchValues newIndex) } := by
  rw [Screen.updateMatchRangeLabel]
  split
  case isTrue same => rw [← same]
  case isFalse => rfl

/-- The slider has an index, and the label shows it. -/
def RangeShown (p : Platform K Date) (s : Screen K Date) : Prop :=
  s.lastMatchIndex = some s.slider ∧ s.titleMatchRangeLabel = getRangeDisplayText p (matchValues s.slider)

theorem rangeShown_update {s : Screen K Date} (before : s.lastMatchIndex = none ∨ RangeShown p s)
    (newIndex : Fin 4) : RangeShown p (s.updateMatchRangeLabel p newIndex) := by
  rw [updateMatchRangeLabel_eq]
  refine ⟨rfl, ?_⟩
  by_cases same : s.lastMatchIndex = some newIndex
  · rcases before with none | ⟨index, label⟩
    · rw [none] at same
      cases same
    · obtain rfl := Option.some.inj (index.symm.trans same)
      simpa [same] using label
  · exact if_neg same

/-- What the screen shows of range and birthday, by whether these have been set -/
structure Filled (p : Platform K Date) (s : Screen K Date) (range birthday : Bool) : Prop where
  shown : if range then RangeShown p s else s.lastMatchIndex = none ∧ s.slider = 3
  typed : s.editing = false → s.birthday = if birthday then p.getBirthdayString s.date else ""
  begun : s.editing = true → birthday = true

theorem Filled.before {s : Screen K Date} {range birthday : Bool} (filled : Filled p s range birthday) :
    s.lastMatchIndex = none ∨ RangeShown p s := by
  have shown := filled.shown
  split at shown
  case isTrue => exact .inr shown
  case isFalse => exact .inl shown.1

/-- Until the range is set, the slider stands at its end and the code takes its start. -/
theorem range_iff {range birthday : Bool} (filled : Filled p s range birthday) :
    (matchValues (s.lastMatchIndex.getD 0) = matchValues s.slider ∧
      s.titleMatchRangeLabel = getRangeDisplayText p (matchValues s.slider)) ↔ range := by
  have shown := filled.shown
  cases range with
  | true =>
      obtain ⟨index, label⟩ := shown
      simp [index, label]
  | false =>
      obtain ⟨none, slider⟩ := shown
      simp [none, slider, matchValues]

/-- Until the birthday is set, its field is empty. -/
theorem birthday_iff {range birthday : Bool} (filled : Filled p s range birthday) :
    p.getBirthdayString s.date = s.shownBirthday p ↔ birthday := by
  rw [Screen.shownBirthday]
  cases editing : s.editing with
  | true => simp [filled.begun editing]
  | false =>
      rw [if_neg (by decide), filled.typed editing]
      cases birthday with
      | true => simp
      | false => simpa using p.getBirthdayString_ne s.date

/-- All that a save writes, at a place -/
def written (s : Screen K Date) (place : K × K) : Document K Date := fun key =>
  [("lat", .double place.1), ("lon", .double place.2), ("name", .string s.name), ("gender", .string s.gender),
    ("birthday", .timestamp s.date), ("freeTime", .string (String.ofList (someArray s.selected))),
    ("distancePerference", Value.int (matchValues (s.lastMatchIndex.getD 0)))].lookup key

theorem lookup_other {fields : List (String × Value K Date)} {key : String}
    (keys : ∀ field ∈ fields, field.1 ∈ editedKeys ++ locationKeys) (other : key ∉ editedKeys ++ locationKeys) :
    fields.lookup key = none := by
  rw [List.lookup_eq_none_iff]
  intro field mem
  have apart : key ≠ field.1 := fun same => other (same ▸ keys field mem)
  simpa using apart

theorem written_other (s : Screen K Date) (place : K × K) {key : String}
    (other : key ∉ editedKeys ++ locationKeys) : written s place key = none :=
  lookup_other (by simp [editedKeys, locationKeys]) other

variable [Zero K]

theorem filled_viewDidLoad (now created : Date) : Filled p (viewDidLoad now created) false false where
  shown := ⟨rfl, rfl⟩
  typed _ := rfl
  begun := nofun

theorem filled_step {s s' : Screen K Date} {range birthday : Bool} {e : Event K Date}
    (filled : Filled p s range birthday) (taken : step p s e = some s') :
    Filled p s' (range || e.setsRange) (birthday || e.setsBirthday) := by
  have before := filled.before
  obtain ⟨shown, typed, begun⟩ := filled
  cases e with
  | didCompleteDownload document =>
      simp only [Event.setsRange, Event.setsBirthday, Bool.or_true]
      obtain ⟨_, answered⟩ := Option.ite_none_left_eq_some.mp taken
      obtain ⟨profile, _, rfl⟩ := Option.map_eq_some_iff.mp answered
      refine ⟨rangeShown_update (s := s.showProfile p profile) before _, fun _ => ?_, fun _ => rfl⟩
      rw [Screen.didCompleteDownload, updateMatchRangeLabel_eq]
      rfl
  | editName name =>
      simp only [Event.setsRange, Event.setsBirthday, Bool.or_false]
      cases taken
      exact ⟨shown, typed, begun⟩
  | pickGender row =>
      simp only [Event.setsRange, Event.setsBirthday, Bool.or_false]
      cases taken
      exact ⟨shown, typed, begun⟩
  | beginBirthday =>
      simp only [Event.setsRange, Event.setsBirthday, Bool.or_false, Bool.or_true]
      obtain ⟨_, ⟨⟩⟩ := Option.ite_none_left_eq_some.mp taken
      exact ⟨shown, nofun, fun _ => rfl⟩
  | pickDate date =>
      simp only [Event.setsRange, Event.setsBirthday, Bool.or_false]
      obtain ⟨editing, ⟨⟩⟩ := Option.ite_none_right_eq_some.mp taken
      exact ⟨shown, fun closed => absurd (editing.symm.trans closed) (by decide), begun⟩
  | tapEditBirthday =>
      simp only [Event.setsRange, Event.setsBirthday, Bool.or_false]
      obtain ⟨editing, ⟨⟩⟩ := Option.ite_none_right_eq_some.mp taken
      exact ⟨shown, fun _ => by rw [begun editing, if_pos rfl], nofun⟩
  | slidedMatchRange newIndex =>
      simp only [Event.setsRange, Event.setsBirthday, Bool.or_false, Bool.or_true]
      cases taken
      refine ⟨rangeShown_update before newIndex, ?_, ?_⟩
      · rwa [updateMatchRangeLabel_eq]
      · rwa [updateMatchRangeLabel_eq]
  | toggleImageColor tag =>
      simp only [Event.setsRange, Event.setsBirthday, Bool.or_false]
      obtain ⟨_, ⟨⟩⟩ := Option.ite_none_right_eq_some.mp taken
      exact ⟨shown, typed, begun⟩

/-- There is a new location or none was stored, nothing else is stored, and the screen has been
filled, by the download or by hand. -/
structure Harmless (device : Device K Date) (stored : Document K Date) (es : List (Event K Date)) : Prop where
  location : device.coordinate.isSome ∨ ∀ key ∈ locationKeys, stored key = some (.double 0)
  others : ∀ key, key ∉ editedKeys ++ locationKeys → stored key = none
  range : es.any Event.setsRange
  birthday : es.any Event.setsBirthday

theorem filled_run {now created : Date} {es : List (Event K Date)} {s : Screen K Date}
    (ran : run (step p) (viewDidLoad now created) es = some s) :
    Filled p s (es.any Event.setsRange) (es.any Event.setsBirthday) := by
  have kept : ∀ (s : Screen K Date) past e s',
      Filled p s (past.any Event.setsRange) (past.any Event.setsBirthday) → step p s e = some s' →
      Filled p s' ((past ++ [e]).any Event.setsRange) ((past ++ [e]).any Event.setsBirthday) := by
    intro s past e s' filled taken
    have next := filled_step filled taken
    rwa [List.any_append, List.any_append, List.any_cons, List.any_cons, List.any_nil, List.any_nil,
      Bool.or_false, Bool.or_false]
  exact @run_history _ _ (step p) _ kept _ s [] es (filled_viewDidLoad now created) ran

/-- Without a new location zeros are stored. -/
theorem location_iff : (written s (device.coordinate.getD (0, 0)) "lat" =
        (device.coordinate.map fun l => .double l.1).or (stored "lat") ∧
      written s (device.coordinate.getD (0, 0)) "lon" =
        (device.coordinate.map fun l => .double l.2).or (stored "lon")) ↔
    device.coordinate.isSome ∨ ∀ key ∈ locationKeys, stored key = some (.double 0) := by
  have lat : ∀ place, written s place "lat" = some (.double place.1) := fun _ => rfl
  have lon : ∀ place, written s place "lon" = some (.double place.2) := fun _ => rfl
  rw [lat, lon]
  cases device.coordinate with
  | some place => simp
  | none => simp [locationKeys, eq_comm]

variable [LinearOrder Date]

/-- A save that is not stopped writes all that the screen holds. -/
theorem tapUploadProfile_eq (s : Screen K Date) (device : Device K Date) : tapUploadProfile p s device =
    if device.currentUser.isSome ∧ validateInput s device then some (written s (device.coordinate.getD (0, 0)))
    else none := by
  obtain ⟨freeTime, built⟩ :
      ∃ freeTime, FreeSchedule.init (segments p.joins (someArray s.selected)) = some freeTime := by
    obtain ⟨m, built, _⟩ := FreeSchedule.init_eq (segments p.joins (someArray s.selected))
    exact ⟨_, built⟩
  have marks : freeTime.freeTimeAsString.flatten = someArray s.selected := by
    rw [FreeSchedule.init_some built, flatten_segments]
  have uploaded : ∀ profile : OwnerProfile K Date, profile = { OwnerProfile.init device.now with
      name := s.name
      gender := s.gender
      birthday := s.date
      distancePerference := matchValues (s.lastMatchIndex.getD 0)
      freeTime } → profile.upload device = written s (device.coordinate.getD (0, 0)) := by
    rintro profile rfl
    funext key
    rw [written, ← marks, OwnerProfile.upload]
    cases device.coordinate <;> rfl
  rw [tapUploadProfile, built, Option.map_some]
  dsimp only
  rw [uploaded _ rfl]

theorem save_keeps_iff (p : Platform K Date) (now created : Date) (es : List (Event K Date)) (s : Screen K Date)
    (ran : run (step p) (viewDidLoad now created) es = some s) (device : Device K Date)
    (stored after : Document K Date) (saved : tapUploadProfile p s device = some after) :
    Kept p s device stored after ↔ Harmless device stored es := by
  have filled := filled_run ran
  rw [tapUploadProfile_eq, Option.ite_none_right_eq_some] at saved
  obtain ⟨_, ⟨⟩⟩ := saved
  constructor
  · rintro ⟨lat, lon, others, -, -, ⟨d, stored, shown⟩, -, value, label⟩
    cases stored
    have value := Value.int.inj (Option.some.inj value)
    refine ⟨location_iff.mp ⟨lat, lon⟩, fun key other => ?_, (range_iff filled).mp ⟨value, label⟩,
      (birthday_iff filled).mp shown⟩
    rw [← others key other, written_other s _ other]
  · rintro ⟨location, others, range, birthday⟩
    obtain ⟨lat, lon⟩ := location_iff.mpr location
    obtain ⟨value, label⟩ := (range_iff filled).mpr range
    refine ⟨lat, lon, fun key other => ?_, rfl, rfl, ⟨s.date, rfl, (birthday_iff filled).mpr birthday⟩,
      ⟨_, rfl, shows_someArray s.selected⟩, ?_, label⟩
    · rw [written_other s _ other, others key other]
    · rw [← value]
      rfl

end Saves

section Samples

/-- Texts and dates as on a phone that is not localised, at the start of the epoch -/
def phone : Platform ℤ ℤ where
  joins _ _ := false
  asDouble
    | .double x => some x
    | _ => none
  asInt
    | .int n => some n
    | _ => none
  getBirthdayString _ := "1970/01/01"
  getBirthdayString_ne _ := by decide
  NSLocalizedString := id

def owner : OwnerProfile ℤ ℤ := ⟨"Olivia", "Female", 0, 20, 37, -122, OwnerProfile.noFreeTime⟩

/-- A save with permission puts the new location in the place of the old one. -/
theorem save_keeps_iff_allowed : ∃ s after, run (step phone) (viewDidLoad 0 0)
      [.didCompleteDownload none, .editName "Olivia"] = some s ∧
    tapUploadProfile phone s ⟨some "uid", .authorizedWhenInUse, some (38, -121), 1⟩ = some after ∧
    Kept phone s ⟨some "uid", .authorizedWhenInUse, some (38, -121), 1⟩ owner.generateDictionary after := by
  refine ⟨_, _, rfl, (tapUploadProfile_eq _ _).trans rfl, ?_⟩
  refine (save_keeps_iff phone 0 0 [.didCompleteDownload none, .editName "Olivia"] _ rfl _ _ _
    ((tapUploadProfile_eq _ _).trans rfl)).mpr ⟨.inl rfl, fun key other => ?_, rfl, rfl⟩
  exact lookup_other (by simp [OwnerProfile.fields, editedKeys, locationKeys]) other

/-- A save without permission puts zeros in the place of the location. -/
theorem save_loses_location : ¬ ∀ (es : List (Event ℤ ℤ)) (s : Screen ℤ ℤ) (device : Device ℤ ℤ)
    (stored after : Document ℤ ℤ), run (step phone) (viewDidLoad 0 0) es = some s →
      tapUploadProfile phone s device = some after → Kept phone s device stored after := by
  intro claim
  have kept := claim [.didCompleteDownload none, .editName "Olivia"] _ ⟨some "uid", .denied, none, 1⟩
    owner.generateDictionary _ rfl ((tapUploadProfile_eq _ _).trans rfl)
  have lost := Value.double.inj (Option.some.inj kept.lat)
  exact absurd lost (by decide)

end Samples

end PetClump.OwnerSetting
