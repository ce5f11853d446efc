import Mathlib.Logic.Function.Basic
import PetClump.Library.Copies
import PetClump.Library.Runs
import PetClump.PetProfile

/-! # The screens of one pet on Android

`PetInfoActivity` and `QuizActivity` each download the pet once, when they are
created, into a profile of their own, and upload that profile whole. Any number
of them may be open; a download is read at one time and delivered at a later one.
-/

namespace PetClump

open Copies JavaString

namespace QuizQuestion

def getNumberOfAvaliableQuestions : ℕ := 70

/-- The next questions, by their places in the list of all; the source returns null when there are
too few. -/
def getQuestion (quizString : String) (count : ℕ) : Option (List ℕ) :=
  if length quizString + count < getNumberOfAvaliableQuestions + 1 then
    some (List.range' (length quizString) count)
  else none

end QuizQuestion

inductive SwipeDirection where
  | right | left | top | bottom

/-- `YES`, `NO` or `SKIP`; a card swiped down is gone without an answer. -/
def SwipeDirection.answer : SwipeDirection → Option String
  | right => some "1"
  | left => some "0"
  | top => some "2"
  | bottom => none

/-- A quiz once its download is delivered, with the cards that are left on the stack. -/
structure Session where
  answers : String
  index : ℕ
  cards : List ℕ

namespace Session

/-- `onCardSwiped` up to the check whether the quiz is ready -/
def swiped (session : Session) (direction : SwipeDirection) : Option Session :=
  match session.cards with
  | [] => none
  | _ :: cards =>
      match direction.answer with
      | some answer => some ⟨session.answers ++ answer, session.index + 1, cards⟩
      | none => some { session with cards := cards }

end Session

inductive Fetch where
  | requested
  | answered (data : Option Data) (readAt : ℕ)
  | done

/-- The profile of a screen. `readAt` is how many sessions had uploaded when it was read. -/
structure Copy where
  pet : PetProfile := {}
  readAt : ℕ := 0
  fetch : Fetch := .requested

inductive Screen where
  | info (copy : Copy)
  /-- without a session until the download is delivered -/
  | quiz (copy : Copy) (session : Option Session)

namespace Screen

def copy : Screen → Copy
  | info copy | quiz copy _ => copy

def setFetch (fetch : Fetch) : Screen → Screen
  | info copy => info { copy with fetch := fetch }
  | quiz copy session => quiz { copy with fetch := fetch } session

/-- The callback of the download, `none` when it throws: without a document, without a number to
parse, or when there are no questions to put on the stack. -/
def deliver (data : Option Data) (readAt : ℕ) : Screen → Option Screen
  | info copy =>
      match copy.pet.download data with
      | .ok pet => some (info ⟨pet, readAt, .done⟩)
      | .error _ => none
  | quiz copy _ =>
      match copy.pet.download data with
      | .ok pet =>
          (QuizQuestion.getQuestion pet.quiz 10).map fun cards =>
            quiz ⟨pet, readAt, .done⟩ (some ⟨pet.quiz, 0, cards⟩)
      | .error _ => none

/-- The swipe gives the tenth answer. -/
def finishes (direction : SwipeDirection) : Screen → Bool
  | quiz _ (some session) => ((session.swiped direction).map Session.index) = some 10
  | _ => false

end Screen

/-- The pet's document behind the queue of this client's writes, and the open screens. -/
structure Pets where
  document : Register Data
  screens : ℕ → Option Screen

namespace Pets

def start (stored : Option Data) : Pets := ⟨⟨stored, [], 0, []⟩, fun _ => none⟩

def put (s : Pets) (i : ℕ) (screen : Option Screen) : Pets :=
  { s with screens := Function.update s.screens i screen }

inductive Event where
  | openInfo (i : ℕ)
  /-- the quiz button of a screen -/
  | openQuiz (info i : ℕ)
  | read (i : ℕ)
  | readFails (i : ℕ)
  | deliver (i : ℕ)
  | swipe (i : ℕ) (direction : SwipeDirection)
  /-- `deletePhoto`, or `setPhoto` when its upload is complete -/
  | photo (i : ℕ) (key : UrlKey) (url : String)
  | save (i : ℕ) (bio age name spe : String)
  | delete (i : ℕ)
  | close (i : ℕ)
  /-- the process ends; writes outlive it -/
  | kill
  | land
  | fail

section Step

variable (uid : String) (sequence : ℤ)

/-- The profile that `saveInfo` uploads. -/
def saved (pet : PetProfile) (bio age name spe : String) : PetProfile :=
  { pet with bio := bio, age := age, name := name, ownerId := uid, sequence := sequence, spe := spe }

def saveInfo (s : Pets) (i : ℕ) (copy : Copy) (bio age name spe : String) : Pets :=
  let pet := saved uid sequence copy.pet bio age name spe
  { s with document := s.document.put pet.generateDictionary }.put i
    (some (.info { copy with pet := pet }))

/-- A swipe, with `isQuizReady` after it. -/
def swipe (s : Pets) (i : ℕ) (copy : Copy) (session : Session) : Pets :=
  if session.index = 10 then
    let pet := { copy.pet with quiz := session.answers }
    { s with document := s.document.commit pet.generateDictionary }.put i
      (some (.quiz { copy with pet := pet } (some session)))
  else s.put i (some (.quiz copy (some session)))

def step (s : Pets) : Event → Option Pets
  | .openInfo i =>
      match s.screens i with
      | none => some (s.put i (some (.info {})))
      | some _ => none
  | .openQuiz info i =>
      match s.screens info, s.screens i with
      | some (.info copy), none =>
          if length copy.pet.quiz = QuizQuestion.getNumberOfAvaliableQuestions then none
          else some (s.put i (some (.quiz {} none)))
      | _, _ => none
  | .read i => do
      let screen ← s.screens i
      match screen.copy.fetch with
      | .requested =>
          some (s.put i (some (screen.setFetch (.answered s.document.view s.document.issued))))
      | _ => none
  | .readFails i => do
      let screen ← s.screens i
      match screen.copy.fetch with
      | .requested => some (s.put i (some (screen.setFetch .done)))
      | _ => none
  | .deliver i => do
      let screen ← s.screens i
      match screen.copy.fetch with
      | .answered data readAt =>
          match screen.deliver data readAt with
          | some delivered => some (s.put i (some delivered))
          | none => some { s with screens := fun _ => none }
      | _ => none
  | .swipe i direction =>
      match s.screens i with
      | some (.quiz copy (some session)) => (session.swiped direction).map (s.swipe i copy)
      | _ => none
  | .photo i key url =>
      match s.screens i with
      | some (.info copy) =>
          let pet := { copy.pet with urlMap := Function.update copy.pet.urlMap key url }
          some (s.put i (some (.info { copy with pet := pet })))
      | _ => none
  | .save i bio age name spe =>
      match s.screens i with
      | some (.info copy) => some (saveInfo uid sequence s i copy bio age name spe)
      | _ => none
  | .delete i =>
      match s.screens i with
      | some (.info _) => some ({ s with document := s.document.delete }.put i none)
      | _ => none
  | .close i =>
      match s.screens i with
      | some _ => some (s.put i none)
      | none => none
  | .kill => some { s with screens := fun _ => none }
  | .land => s.document.land.map fun document => { s with document := document }
  | .fail => s.document.fail.map fun document => { s with document := document }

/-- What a step can be. -/
inductive Stepped (s : Pets) : Event → Pets → Prop where
  | openInfo {i : ℕ} (free : s.screens i = none) :
      Stepped s (.openInfo i) (s.put i (some (.info {})))
  | openQuiz {info i : ℕ} {copy : Copy} (shown : s.screens info = some (.info copy))
      (free : s.screens i = none)
      (more : length copy.pet.quiz ≠ QuizQuestion.getNumberOfAvaliableQuestions) :
      Stepped s (.openQuiz info i) (s.put i (some (.quiz {} none)))
  | read {i : ℕ} {screen : Screen} (shown : s.screens i = some screen)
      (waits : screen.copy.fetch = .requested) :
      Stepped s (.read i)
        (s.put i (some (screen.setFetch (.answered s.document.view s.document.issued))))
  | readFails {i : ℕ} {screen : Screen} (shown : s.screens i = some screen)
      (waits : screen.copy.fetch = .requested) :
      Stepped s (.readFails i) (s.put i (some (screen.setFetch .done)))
  | deliver {i readAt : ℕ} {screen delivered : Screen} {data : Option Data}
      (shown : s.screens i = some screen) (answered : screen.copy.fetch = .answered data readAt)
      (result : screen.deliver data readAt = some delivered) :
      Stepped s (.deliver i) (s.put i (some delivered))
  | crash {i readAt : ℕ} {screen : Screen} {data : Option Data}
      (shown : s.screens i = some screen) (answered : screen.copy.fetch = .answered data readAt)
      (result : screen.deliver data readAt = none) :
      Stepped s (.deliver i) { s with screens := fun _ => none }
  | swipe {i : ℕ} {direction : SwipeDirection} {copy : Copy} {session session' : Session}
      (shown : s.screens i = some (.quiz copy (some session)))
      (swiped : session.swiped direction = some session') :
      Stepped s (.swipe i direction) (s.swipe i copy session')
  | photo {i : ℕ} {copy : Copy} (key : UrlKey) (url : String)
      (shown : s.screens i = some (.info copy)) :
      Stepped s (.photo i key url) (s.put i (some (.info
        { copy with pet := { copy.pet with urlMap := Function.update copy.pet.urlMap key url } })))
  | save {i : ℕ} {copy : Copy} (bio age name spe : String) (shown : s.screens i = some (.info copy)) :
      Stepped s (.save i bio age name spe) (saveInfo uid sequence s i copy bio age name spe)
  | delete {i : ℕ} {copy : Copy} (shown : s.screens i = some (.info copy)) :
      Stepped s (.delete i) ({ s with document := s.document.delete }.put i none)
  | close {i : ℕ} {screen : Screen} (shown : s.screens i = some screen) :
      Stepped s (.close i) (s.put i none)
  | kill : Stepped s .kill { s with screens := fun _ => none }
  | land {document : Register Data} (landed : s.document.land = some document) :
      Stepped s .land { s with document := document }
  | fail {document : Register Data} (failed : s.document.fail = some document) :
      Stepped s .fail { s with document := document }

variable {uid sequence} {s s' : Pets} {e : Event}

theorem step_cases (taken : step uid sequence s e = some s') : Stepped uid sequence s e s' := by
  cases e with
  | openInfo i =>
      simp only [step] at taken
      split at taken
      · cases taken
        exact .openInfo ‹_›
      · cases taken
  | openQuiz info i =>
      simp only [step] at taken
      split at taken
      · rename_i copy shown free
        split at taken
        · cases taken
        · cases taken
          exact .openQuiz shown free ‹_›
      · cases taken
  | read i =>
      simp only [step, Option.bind_eq_bind, Option.bind_eq_some_iff] at taken
      obtain ⟨screen, shown, taken⟩ := taken
      split at taken
      · cases taken
        exact .read shown ‹_›
      · cases taken
  | readFails i =>
      simp only [step, Option.bind_eq_bind, Option.bind_eq_some_iff] at taken
      obtain ⟨screen, shown, taken⟩ := taken
      split at taken
      · cases taken
        exact .readFails shown ‹_›
      · cases taken
  | deliver i =>
      simp only [step, Option.bind_eq_bind, Option.bind_eq_some_iff] at taken
      obtain ⟨screen, shown, taken⟩ := taken
      split at taken
      · rename_i data readAt answered
        split at taken
        · cases taken
          exact .deliver shown answered ‹_›
        · cases taken
          exact .crash shown answered ‹_›
      · cases taken
  | swipe i direction =>
      simp only [step] at taken
      split at taken
      · obtain ⟨session', swiped, rfl⟩ := Option.map_eq_some_iff.mp taken
        exact .swipe ‹_› swiped
      · cases taken
  | photo i key url =>
      simp only [step] at taken
      split at taken
      · cases taken
        exact .photo key url ‹_›
      · cases taken
  | save i bio age name spe =>
      simp only [step] at taken
      split at taken
      · cases taken
        exact .save bio age name spe ‹_›
      · cases taken
  | delete i =>
      simp only [step] at taken
      split at taken
      · cases taken
        exact .delete ‹_›
      · cases taken
  | close i =>
      simp only [step] at taken
      split at taken
      · cases taken
        exact .close ‹_›
      · cases taken
  | kill =>
      cases taken
      exact .kill
  | land =>
      obtain ⟨document, landed, rfl⟩ := Option.map_eq_some_iff.mp taken
      exact .land landed
  | fail =>
      obtain ⟨document, failed, rfl⟩ := Option.map_eq_some_iff.mp taken
      exact .fail failed

end Step

end Pets

end PetClump
