import PetClump.Library.JavaString
import PetClump.PetId

/-! # Pet profiles and their documents

A profile is uploaded as a whole, one field for each part of it, and downloaded
part by part. A download that finds no document throws before it changes
anything, one that finds no sequence number throws half way.
-/

namespace PetClump

open JavaString

/-- `DefaultMap.getDefault`; the sequence number is stored as a number and printed here. -/
def getDefault (data : Data) (key : String) : String := (data key).getD ""

inductive UrlKey where
  | main
  | pet1 | pet2 | pet3 | pet4 | pet5
  | group1 | group2 | group3
  deriving DecidableEq

/-- The field of the document, which is not the key of `url_map`. -/
def UrlKey.field : UrlKey → String
  | main => "main_url"
  | pet1 => "pet_view_1"
  | pet2 => "pet_view_2"
  | pet3 => "pet_view_3"
  | pet4 => "pet_view_4"
  | pet5 => "pet_view_5"
  | group1 => "group_view_1"
  | group2 => "group_view_2"
  | group3 => "group_view_3"

structure PetProfile where
  bio : String := "PET_BIO"
  age : String := "0"
  spe : String := "CAT"
  name : String := "Guko"
  ownerId : String := "null"
  quiz : String := ""
  sequence : ℤ := -1
  urlMap : UrlKey → String := fun _ => ""

namespace PetProfile

def fields (p : PetProfile) : List (String × String) :=
  [("bio", p.bio), ("age", p.age), ("spe", p.spe), ("name", p.name), ("owner_id", p.ownerId),
    ("sequence", p.sequence.repr), ("quiz", p.quiz), ("main_url", p.urlMap .main),
    ("pet_view_1", p.urlMap .pet1), ("pet_view_2", p.urlMap .pet2), ("pet_view_3", p.urlMap .pet3),
    ("pet_view_4", p.urlMap .pet4), ("pet_view_5", p.urlMap .pet5),
    ("group_view_1", p.urlMap .group1), ("group_view_2", p.urlMap .group2),
    ("group_view_3", p.urlMap .group3)]

def generateDictionary (p : PetProfile) : Data := fun key => p.fields.lookup key

/-- What the callback of `download` makes of the profile; an error is an exception. -/
def download (data : Option Data) (p : PetProfile) : Except PetProfile PetProfile :=
  match data with
  | none => .error p
  | some ref =>
      let p := { p with
        bio := getDefault ref "bio"
        age := getDefault ref "age"
        spe := getDefault ref "spe"
        name := getDefault ref "name"
        ownerId := getDefault ref "owner_id" }
      match parseInt (units (getDefault ref "sequence")) with
      | none => .error p
      | some sequence => .ok { p with
          sequence := sequence
          quiz := getDefault ref "quiz"
          urlMap := fun key => getDefault ref key.field }

@[simp] theorem getDefault_quiz (p : PetProfile) : getDefault p.generateDictionary "quiz" = p.quiz := rfl

theorem getDefault_field (p : PetProfile) (key : UrlKey) :
    getDefault p.generateDictionary key.field = p.urlMap key := by
  cases key <;> rfl

theorem quiz_of_download {data : Option Data} {p p' : PetProfile} (h : download data p = .ok p') :
    ∃ ref, data = some ref ∧ p'.quiz = getDefault ref "quiz" := by
  cases data with
  | none => cases h
  | some ref =>
      refine ⟨ref, rfl, ?_⟩
      simp only [download] at h
      cases number : parseInt (units (getDefault ref "sequence")) with
      | none => simp [number] at h
      | some sequence =>
          simp only [number, Except.ok.injEq] at h
          rw [← h]

/-- What was uploaded is downloaded again, whatever the profile held before. -/
theorem download_generateDictionary {p : PetProfile} (low : -2147483648 ≤ p.sequence)
    (high : p.sequence ≤ 2147483647) (q : PetProfile) :
    download (some p.generateDictionary) q = .ok p := by
  have number : parseInt (units (getDefault p.generateDictionary "sequence")) = some p.sequence :=
    parseInt_repr low high
  have urls : (fun key : UrlKey => getDefault p.generateDictionary key.field) = p.urlMap :=
    funext (getDefault_field p)
  simp only [download, number, urls]
  rfl

/-- How the read of a `download` ends: nobody is signed in, it fails, or a snapshot
comes, whose data is absent when there is no document. -/
inductive Outcome where
  | noUser
  | failed
  | snapshot (data : Option Data)

/-- The profile once the outcome is known, and whether `didCompleteDownload` was called. -/
def completed (p : PetProfile) : Outcome → PetProfile × Bool
  | .noUser => (p, false)
  | .failed => (p, false)
  | .snapshot data =>
      match download data p with
      | .error changed => (changed, false)
      | .ok p => (p, true)

/-- The profile that a document describes. A text that is missing is empty, a missing
sequence number is that of a new profile. -/
def ofDocument (ref : Data) : Option PetProfile := do
  let sequence ← match ref "sequence" with
    | none => some (-1)
    | some stored => parseInt (units stored)
  some {
    bio := getDefault ref "bio"
    age := getDefault ref "age"
    spe := getDefault ref "spe"
    name := getDefault ref "name"
    ownerId := getDefault ref "owner_id"
    quiz := getDefault ref "quiz"
    sequence := sequence
    urlMap := fun key => getDefault ref key.field }

/-- Either every field is the document's and the caller is told, or none has changed. -/
def AllOrNothing (p : PetProfile) (outcome : Outcome) : Prop :=
  (∃ ref p', outcome = .snapshot (some ref) ∧ ofDocument ref = some p' ∧
    p.completed outcome = (p', true)) ∨
  (p.completed outcome).1 = p

/-- The fields assigned before the sequence number is parsed are the profile's already. -/
def SameUpToSequence (p : PetProfile) (ref : Data) : Prop :=
  getDefault ref "bio" = p.bio ∧ getDefault ref "age" = p.age ∧ getDefault ref "spe" = p.spe ∧
    getDefault ref "name" = p.name ∧ getDefault ref "owner_id" = p.ownerId

theorem parseInt_empty : parseInt (units "") = none := by decide

theorem ofDocument_eq_some {ref : Data} {p : PetProfile} {sequence : ℤ}
    (number : parseInt (units (getDefault ref "sequence")) = some sequence) :
    ∃ p', ofDocument ref = some p' ∧ download (some ref) p = .ok p' := by
  cases stored : ref "sequence" with
  | none =>
      rw [getDefault, stored] at number
      exact absurd (parseInt_empty.symm.trans number) (by simp)
  | some text =>
      have parsed : parseInt (units text) = some sequence := by simpa [getDefault, stored] using number
      simp [ofDocument, download, stored, parsed, number]

theorem download_unparsed {ref : Data} {p : PetProfile}
    (number : parseInt (units (getDefault ref "sequence")) = none) :
    download (some ref) p = .error { p with
      bio := getDefault ref "bio"
      age := getDefault ref "age"
      spe := getDefault ref "spe"
      name := getDefault ref "name"
      ownerId := getDefault ref "owner_id" } := by
  simp [download, number]

/-- A download is all or nothing exactly when every document it finds has a sequence
number, or agrees with the profile in the fields that are assigned before it. -/
theorem allOrNothing_iff (p : PetProfile) (outcome : Outcome) : p.AllOrNothing outcome ↔
    ∀ ref, outcome = .snapshot (some ref) →
      (parseInt (units (getDefault ref "sequence"))).isSome ∨ p.SameUpToSequence ref := by
  cases outcome with
  | noUser => exact iff_of_true (.inr rfl) fun _ h => by cases h
  | failed => exact iff_of_true (.inr rfl) fun _ h => by cases h
  | snapshot data =>
      cases data with
      | none => exact iff_of_true (.inr rfl) fun _ h => by cases h
      | some ref =>
          cases number : parseInt (units (getDefault ref "sequence")) with
          | some sequence =>
              obtain ⟨p', described, downloaded⟩ := ofDocument_eq_some (p := p) number
              refine iff_of_true (.inl ⟨ref, p', rfl, described, by simp [completed, downloaded]⟩) ?_
              rintro _ ⟨⟩
              exact .inl (by rw [number]; rfl)
          | none =>
              have result := download_unparsed (p := p) number
              constructor
              · rintro (⟨_, p', _, _, ended⟩ | same) _ ⟨⟩
                · simp [completed, result] at ended
                · simp only [completed, result] at same
                  refine .inr ⟨?_, ?_, ?_, ?_, ?_⟩ <;> rw [← same]
              · intro each
                obtain ⟨bio, age, spe, name, owner⟩ := (each ref rfl).resolve_left (by simp [number])
                exact .inr (by simp [completed, result, bio, age, spe, name, owner])

/-- A document that has only a name leaves the new name beside the answers and photos of another pet. -/
theorem not_allOrNothing_without_sequence :
    ¬ ({ name := "Guko", quiz := "120" } : PetProfile).AllOrNothing
      (.snapshot (some fun key => if key = "name" then some "Rex" else none)) := by
  have notTold : (({ name := "Guko", quiz := "120" } : PetProfile).completed
    (.snapshot (some fun key => if key = "name" then some "Rex" else none))).2 = false := by decide
  rintro (⟨ref, p', _, _, ended⟩ | same)
  · rw [ended] at notTold
    cases notTold
  · exact absurd (congrArg PetProfile.name same) (by decide)

end PetProfile

end PetClump
