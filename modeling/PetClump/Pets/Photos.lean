import Mathlib.Data.Fintype.Pi
import PetClump.Library.ChangeFeed
import PetClump.Library.Runs
import PetClump.PetProfile

/-! # The photos of one pet

A photo is an object in storage and a URL in a slot of the pet's document. The
screens of both clients change the slots of a profile of their own, start
uploads and deletions in storage, and write all nine slots to the document.
-/

namespace PetClump

instance : Fintype UrlKey where
  elems := {.main, .pet1, .pet2, .pet3, .pet4, .pet5, .group1, .group2, .group3}
  complete key := by cases key <;> decide

namespace Photos

open ChangeFeed

/-- The nine slots: what `generateDictionary` writes and `download` reads of the photos. -/
abbrev Slots := UrlKey → String

/-- The text of a random UUID. -/
def Uuid := {text : String // ∀ c ∈ text.toList, c.isAlphanum ∨ c = '-'}

instance : DecidableEq Uuid := inferInstanceAs (DecidableEq {_text : String // _})

/-- The object's name under `image/`. -/
def Uuid.file (uuid : Uuid) : String := uuid.val ++ ".png"

/-- `(.*)` with `c` after it: it takes as much as it can. -/
def beforeLast (c : Char) : List Char → Option (List Char)
  | [] => none
  | x :: rest =>
      match beforeLast c rest with
      | some group => some (x :: group)
      | none => if x = c then some [] else none

/-- `%2[fF](.*)\?.*` at the start of a text -/
def groupHere : List Char → Option (List Char)
  | '%' :: '2' :: 'f' :: rest | '%' :: '2' :: 'F' :: rest => beforeLast '?' rest
  | _ => none

/-- `.*%2[fF](.*)\?.*`: the first part too takes as much as it can. -/
def group : List Char → Option (List Char)
  | [] => none
  | x :: rest =>
      match group rest with
      | some found => some found
      | none => groupHere (x :: rest)

/-- The captured group; a URL has no line breaks. -/
def parseUrl (url : String) : Option String := (group url.toList).map String.ofList

/-- The download URLs that storage hands out: the object's name stands in them as the path does,
escaped, before the query. -/
structure DownloadUrls where
  url : Uuid → String
  parse_url : ∀ uuid, parseUrl (url uuid) = some uuid.file

theorem beforeLast_eq_none {c : Char} {text : List Char} (missing : c ∉ text) : beforeLast c text = none := by
  induction text with
  | nil => rfl
  | cons x rest ih =>
      rw [List.mem_cons, not_or] at missing
      rw [beforeLast, ih missing.2]
      exact if_neg (Ne.symm missing.1)

theorem beforeLast_append {c : Char} (name : List Char) {query : List Char} (missing : c ∉ query) :
    beforeLast c (name ++ c :: query) = some name := by
  induction name with
  | nil => simp [beforeLast, beforeLast_eq_none missing]
  | cons x name ih => rw [List.cons_append, beforeLast, ih]

theorem group_append (start : List Char) {rest found : List Char} (matched : group rest = some found) :
    group (start ++ rest) = some found := by
  induction start with
  | nil => exact matched
  | cons x start ih => rw [List.cons_append, group, ih]

theorem mem_of_beforeLast {c : Char} {text found : List Char} (matched : beforeLast c text = some found) :
    c ∈ text := by
  by_contra missing
  rw [beforeLast_eq_none missing] at matched
  cases matched

theorem groupHere_eq_some {text found : List Char} (matched : groupHere text = some found) :
    ∃ f rest, text = ['%', '2', f] ++ rest ∧ (f = 'f' ∨ f = 'F') ∧ '?' ∈ rest := by
  unfold groupHere at matched
  split at matched
  case h_1 rest => exact ⟨'f', rest, rfl, .inl rfl, mem_of_beforeLast matched⟩
  case h_2 rest => exact ⟨'F', rest, rfl, .inr rfl, mem_of_beforeLast matched⟩
  case h_3 => cases matched

/-- What the expression has found stands between an escaped slash and a question mark. -/
theorem group_eq_some {text found : List Char} (matched : group text = some found) :
    ∃ start f rest, text = start ++ ['%', '2', f] ++ rest ∧ (f = 'f' ∨ f = 'F') ∧ '?' ∈ rest := by
  induction text generalizing found with
  | nil => cases matched
  | cons x text ih =>
      rw [group] at matched
      cases later : group text with
      | some other =>
          obtain ⟨start, f, rest, rfl, letter, mark⟩ := ih later
          exact ⟨x :: start, f, rest, rfl, letter, mark⟩
      | none =>
          rw [later] at matched
          obtain ⟨f, rest, split, letter, mark⟩ := groupHere_eq_some matched
          exact ⟨[], f, rest, split, letter, mark⟩

/-- No escaped slash stands before the only question mark. -/
theorem group_eq_none {name query : List Char} (plain : ∀ f, f = 'f' ∨ f = 'F' → ¬ ['%', '2', f] <:+: name)
    (last : '?' ∉ query) : group (name ++ '?' :: query) = none := by
  by_contra matched
  obtain ⟨found, matched⟩ := Option.ne_none_iff_exists'.mp matched
  obtain ⟨start, f, rest, split, letter, mark⟩ := group_eq_some matched
  rcases List.append_eq_append_iff.mp split with ⟨middle, before, after⟩ | ⟨middle, before, after⟩
  · cases middle with
    | nil => exact plain f letter ⟨start, [], by simpa using before⟩
    | cons c middle =>
        rw [List.cons_append, List.cons_eq_cons] at after
        exact last (after.2 ▸ List.mem_append_right middle mark)
  · exact plain f letter ⟨start, middle, before.symm⟩

/-- The name between the last `%2F` before the last question mark and that mark. -/
theorem group_link (bucket : List Char) {name query : List Char}
    (plain : ∀ f, f = 'f' ∨ f = 'F' → ¬ ['%', '2', f] <:+: name) (last : '?' ∉ query) :
    group (bucket ++ '%' :: '2' :: 'F' :: (name ++ '?' :: query)) = some name := by
  apply group_append
  have later : group ('2' :: 'F' :: (name ++ '?' :: query)) = none := by
    have shifted : ∀ f, f = 'f' ∨ f = 'F' → ¬ ['%', '2', f] <:+: '2' :: 'F' :: name := by
      intro f letter inside
      simp only [List.infix_cons_iff, List.cons_prefix_cons, show '%' ≠ '2' by decide,
        show '%' ≠ 'F' by decide, false_and, false_or] at inside
      exact plain f letter inside
    exact group_eq_none shifted last
  rw [group, later]
  exact beforeLast_append name last

/-- URLs of one bucket, with one token for all. -/
def DownloadUrls.sample : DownloadUrls where
  url uuid := "https://firebasestorage.googleapis.com/v0/b/pet-clump.appspot.com/o/image%2F" ++ uuid.file ++
    "?alt=media&token=0"
  parse_url uuid := by
    have percent : '%' ∉ uuid.file.toList := by
      rw [Uuid.file, String.toList_append, List.mem_append, not_or]
      refine ⟨fun mem => ?_, by decide⟩
      have digit := uuid.property '%' mem
      revert digit
      decide
    have plain : ∀ f, f = 'f' ∨ f = 'F' → ¬ ['%', '2', f] <:+: uuid.file.toList := fun f _ inside =>
      percent (inside.mem List.mem_cons_self)
    have last : '?' ∉ "alt=media&token=0".toList := by decide
    have found := group_link
      "https://firebasestorage.googleapis.com/v0/b/pet-clump.appspot.com/o/image".toList plain last
    rw [parseUrl, String.toList_append, String.toList_append]
    simp only [String.reduceToList, List.cons_append, List.nil_append] at found ⊢
    rw [found]
    simp

/-- The profile of a screen. -/
structure Profile where
  client : Client
  urlMap : Slots

structure Upload where
  profile : ℕ
  key : UrlKey
  stored : Bool

/-- `reads`, `answers` and `writes` are what is under way between the document and the profiles,
`uploads` and `removals` what is under way to storage. No name is drawn twice. -/
structure State where
  document : Slots
  storage : Finset Uuid
  profiles : Table ℕ Profile
  opened : ℕ
  reads : Multiset ℕ
  answers : Multiset (ℕ × Slots)
  writes : Multiset Slots
  uploads : Table Uuid Upload
  removals : Multiset String
  drawn : Finset Uuid

namespace State

def start (document : Slots) (storage : Finset Uuid) : State :=
  ⟨document, storage, ∅, 0, 0, 0, 0, ∅, 0, storage⟩

def setSlots (s : State) (i : ℕ) (p : Profile) (urlMap : Slots) : State :=
  { s with profiles := s.profiles.insert i { p with urlMap } }

def setPhotoUrl (s : State) (i : ℕ) (p : Profile) (key : UrlKey) (url : String) : State :=
  s.setSlots i p (Function.update p.urlMap key url)

/-- The object is deleted at once, the document keeps its URL until it is written. -/
def clear (s : State) (i : ℕ) (p : Profile) (key : UrlKey) (file : String) : State :=
  { s with removals := file ::ₘ s.removals }.setPhotoUrl i p key ""

/-- `PetProfile.deletePhoto` on Android -/
def deletePhoto (s : State) (i : ℕ) (p : Profile) (key : UrlKey) : State :=
  if p.urlMap key = "" then s else s.clear i p key ((parseUrl (p.urlMap key)).getD "")

/-- `PetProfile.deleteImage` on iOS, which traps on a URL it cannot parse -/
def deleteImage (s : State) (i : ℕ) (p : Profile) (key : UrlKey) : Option State :=
  if p.urlMap key = "" then some s else (parseUrl (p.urlMap key)).map (s.clear i p key)

/-- `setPhoto` on Android, `putData` on iOS -/
def put (s : State) (i : ℕ) (key : UrlKey) (uuid : Uuid) : State :=
  { s with uploads := s.uploads.insert uuid ⟨i, key, false⟩, drawn := insert uuid s.drawn }

/-- The URL of an upload has come. -/
def done (s : State) (uuid : Uuid) : State := { s with uploads := s.uploads.erase uuid }

def upload (s : State) (urlMap : Slots) : State := { s with writes := urlMap ::ₘ s.writes }

end State

inductive Event where
  | open (client : Client)
  /-- `viewWillAppear`, which downloads again -/
  | appear (i : ℕ)
  /-- A read is answered from the document or from a write that is under way. -/
  | answer (i : ℕ) (slots : Slots)
  | loaded (i : ℕ) (slots : Slots)
  /-- a new picture is picked -/
  | choose (i : ℕ) (key : UrlKey) (uuid : Uuid)
  | delete (i : ℕ) (key : UrlKey)
  | save (i : ℕ)
  | leave (i : ℕ)
  | stored (uuid : Uuid)
  /-- the URL of an upload is known -/
  | linked (uuid : Uuid)
  | removed (file : String)
  | written (slots : Slots)

section Step

variable (links : DownloadUrls)

/-- The completion of an upload. -/
def linked (s : State) (uuid : Uuid) (u : Upload) : Option State :=
  match s.profiles.lookup u.profile with
  | none => some (s.done uuid)
  | some p =>
      let urlMap := Function.update p.urlMap u.key (links.url uuid)
      match p.client with
      | .android => some ((s.done uuid).setSlots u.profile p urlMap)
      | .ios => do
          let s ← s.deleteImage u.profile p u.key
          some (((s.done uuid).setSlots u.profile p urlMap).upload urlMap)

def step (s : State) : Event → Option State
  | .open client =>
      some { s with
        profiles := s.profiles.insert s.opened ⟨client, fun _ => ""⟩, opened := s.opened + 1
        reads := s.opened ::ₘ s.reads }
  | .appear i => do
      let p ← s.profiles.lookup i
      if p.client = .ios then some { s with reads := i ::ₘ s.reads } else none
  | .answer i slots =>
      if i ∈ s.reads ∧ (slots = s.document ∨ slots ∈ s.writes) then
        some { s with reads := s.reads.erase i, answers := (i, slots) ::ₘ s.answers }
      else none
  | .loaded i slots =>
      if (i, slots) ∈ s.answers then
        let s := { s with answers := s.answers.erase (i, slots) }
        match s.profiles.lookup i with
        | some p => some (s.setSlots i p slots)
        | none => some s
      else none
  | .choose i key uuid => do
      let p ← s.profiles.lookup i
      if uuid ∈ s.drawn then none
      else
        match p.client with
        | .android => some ((s.deletePhoto i p key).put i key uuid)
        | .ios => some (s.put i key uuid)
  | .delete i key => do
      let p ← s.profiles.lookup i
      match p.client with
      | .android => some (s.deletePhoto i p key)
      | .ios => do
          let s ← s.deleteImage i p key
          some (s.upload (Function.update p.urlMap key ""))
  | .save i => do
      let p ← s.profiles.lookup i
      some (s.upload p.urlMap)
  | .leave i => do
      let p ← s.profiles.lookup i
      if p.client = .android then some { s with profiles := s.profiles.erase i } else none
  | .stored uuid => do
      let u ← s.uploads.lookup uuid
      some { s with
        storage := insert uuid s.storage, uploads := s.uploads.insert uuid { u with stored := true } }
  | .linked uuid => do
      let u ← s.uploads.lookup uuid
      if u.stored then linked links s uuid u else none
  | .removed file =>
      if file ∈ s.removals then
        some { s with
          storage := s.storage.filter fun uuid => uuid.file ≠ file, removals := s.removals.erase file }
      else none
  | .written slots =>
      if slots ∈ s.writes then
        some { s with document := slots, writes := s.writes.erase slots }
      else none

end Step

/-- Every URL in the stored document names an object in storage. -/
def State.NoneDangle (links : DownloadUrls) (s : State) : Prop :=
  ∀ key, s.document key ≠ "" → ∃ uuid ∈ s.storage, s.document key = links.url uuid

instance (links : DownloadUrls) (s : State) : Decidable (s.NoneDangle links) :=
  inferInstanceAs (Decidable (∀ key, s.document key ≠ "" →
    ∃ uuid ∈ s.storage, s.document key = links.url uuid))

/-- The slots that are in the document, may get there, or are on a screen. -/
def State.holders (s : State) : Multiset Slots :=
  s.document ::ₘ (s.writes + s.answers.map Prod.snd + s.profiles.entries.map fun entry => entry.2.urlMap)

def State.Holds (s : State) (url : String) : Prop := ∃ slots ∈ s.holders, ∃ key, slots key = url

instance (s : State) (url : String) : Decidable (s.Holds url) :=
  Multiset.decidableExistsMultiset

/-- Apart from the slot itself, nothing holds the URL that is in a slot. -/
def Unshared (s : State) (i : ℕ) (key : UrlKey) : Prop :=
  ∀ p ∈ s.profiles.lookup i, p.urlMap key = "" ∨ ¬ (s.setPhotoUrl i p key "").Holds (p.urlMap key)

instance (s : State) (i : ℕ) (key : UrlKey) : Decidable (Unshared s i key) :=
  inferInstanceAs (Decidable (∀ p ∈ s.profiles.lookup i,
    p.urlMap key = "" ∨ ¬ (s.setPhotoUrl i p key "").Holds (p.urlMap key)))

/-- The steps that delete a picture delete one that nothing else refers to. -/
def Allowed (s : State) : Event → Prop
  | .choose i key _ => (∃ p ∈ s.profiles.lookup i, p.client = .android) → Unshared s i key
  | .delete i key => Unshared s i key
  | .linked uuid => ∀ u ∈ s.uploads.lookup uuid,
      (∃ p ∈ s.profiles.lookup u.profile, p.client = .ios) → Unshared s u.profile u.key
  | _ => True

instance (s : State) : ∀ e, Decidable (Allowed s e)
  | .choose i key _ => inferInstanceAs (Decidable (_ → Unshared s i key))
  | .delete i key => inferInstanceAs (Decidable (Unshared s i key))
  | .linked uuid => inferInstanceAs (Decidable (∀ u ∈ s.uploads.lookup uuid,
      (∃ p ∈ s.profiles.lookup u.profile, p.client = .ios) → Unshared s u.profile u.key))
  | .open _ | .appear _ | .answer _ _ | .loaded _ _ | .save _ | .leave _ | .stored _ | .removed _
  | .written _ => .isTrue trivial

end Photos

end PetClump
