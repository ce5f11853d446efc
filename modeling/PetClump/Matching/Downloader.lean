import PetClump.Friends.RelationList
import PetClump.Library.JavaString
import PetClump.Library.Paging
import Mathlib.Data.List.Sort

/-! # The match list on Android

`MatchingProfileDownloader.downloadMore` listens to the friend list, and every
event of that listener runs a page query and the owner downloads of its page.
The cursor of the queries belongs to all of them and moves when a page is
complete. The collection of pets does not change.
-/

namespace PetClump.Matching

open ChangeFeed Runs
open Friends (Relations onEvent)

/-- What a downloader is made with: the ids of the pets collection in the order of a query, the
page size and the user. -/
structure Setting where
  pets : List String
  distinct : pets.Nodup
  downloadLimit : ℕ
  uid : String

/-- A pet id without its last unit. -/
def getUserId (petId : String) : List ℕ := (JavaString.units petId).dropLast

def Setting.userPets (c : Setting) (petId : String) : Bool := getUserId petId == JavaString.units c.uid

structure MatchingProfile (α : Type) where
  petId : String
  matchingPercent : α
  deriving DecidableEq

/-- A run of the callback that waits for its page. -/
structure Asked where
  petList : Relations
  cursor : Option String

/-- A run of the callback whose page has come. -/
structure Loaded (α : Type) where
  lastVisible : String
  validDocument : List String
  waiting : List String
  profiles : List (MatchingProfile α)

/-- `reads` first reads of the friend list are under way, `opened` listeners wait for their first
event, and `listeners` have had it. -/
structure State (α : Type) where
  reads : ℕ
  opened : ℕ
  listeners : ℕ
  relationList : Relations
  petProfileQuery : Option String
  asked : List Asked
  loaded : List (Loaded α)
  toAppend : List (MatchingProfile α)

def State.initial (α : Type) : State α := ⟨0, 0, 0, ∅, none, [], [], []⟩

/-- Reads and page queries are answered, and owner downloads of a page completed, in any order. -/
inductive Event (α : Type) where
  | downloadMore
  | read (found : Bool)
  | opened (changes : List (Change String String))
  | changed (changes : List (Change String String))
  | page (k : ℕ)
  | owner (k i : ℕ) (percent : α)

def Setting.page (c : Setting) (a : Asked) : List String := Paging.page c.pets a.cursor c.downloadLimit

def Setting.validDocuments (c : Setting) (a : Asked) : List String :=
  (c.page a).filter fun id => !(c.userPets id || decide (id ∈ a.petList))

variable {α : Type} [LE α] [DecidableLE α]

/-- `Collections.sort`, which is stable: the best match first, and equal ones as they came. -/
def sort (profiles : List (MatchingProfile α)) : List (MatchingProfile α) :=
  profiles.insertionSort fun a b => b.matchingPercent ≤ a.matchingPercent

/-- The callback that `downloadMore` passes to `listenToFriendList`. -/
def State.runCallback (s : State α) : State α :=
  { s with asked := s.asked ++ [⟨s.relationList, s.petProfileQuery⟩] }

/-- The success listener of the page query. -/
def State.receive (c : Setting) (s : State α) (a : Asked) : State α :=
  match (c.page a).getLast? with
  | none => s
  | some lastVisible =>
      let validDocument := c.validDocuments a
      { s with loaded := s.loaded ++ [⟨lastVisible, validDocument, validDocument, []⟩] }

/-- `onItemRangeInserted` after `profiles.add(match)`, on the `k`-th page. -/
def State.inserted (s : State α) (k : ℕ) (l : Loaded α) : State α :=
  if l.validDocument.length ≤ l.profiles.length then
    { s with
      petProfileQuery := some l.lastVisible
      toAppend := s.toAppend ++ sort l.profiles
      loaded := s.loaded.set k { l with profiles := [] } }
  else { s with loaded := s.loaded.set k l }

def step (c : Setting) (s : State α) : Event α → Option (State α)
  | .downloadMore => some { s with reads := s.reads + 1 }
  | .read found =>
      if s.reads = 0 then none
      else if found then some { s with reads := s.reads - 1, opened := s.opened + 1 }
      else some { s with reads := s.reads - 1 }.runCallback
  | .opened changes =>
      if s.opened = 0 then none
      else some { s with
        opened := s.opened - 1
        listeners := s.listeners + 1
        relationList := onEvent s.relationList changes }.runCallback
  | .changed changes =>
      if s.listeners = 0 then none
      else some { s with relationList := onEvent s.relationList changes }.runCallback
  | .page k =>
      (s.asked[k]?).map fun a => { s with asked := s.asked.eraseIdx k }.receive c a
  | .owner k i percent => do
      let l ← s.loaded[k]?
      let petId ← l.waiting[i]?
      pure (s.inserted k { l with
        waiting := l.waiting.eraseIdx i
        profiles := l.profiles ++ [⟨petId, percent⟩] })

def ids (profiles : List (MatchingProfile α)) : List String := profiles.map MatchingProfile.petId

/-- No pet is listed twice. -/
def State.Distinct (s : State α) : Prop := (ids s.toAppend).Nodup

instance (s : State α) : Decidable s.Distinct := inferInstanceAs (Decidable (ids s.toAppend).Nodup)

end PetClump.Matching
