import PetClump.Pets.Screens

/-! # What becomes of quiz answers

A screen uploads the quiz string of its own copy. Answers survive as long as no
screen uploads a copy that it read before the last sessions uploaded theirs.
-/

namespace PetClump.Pets

open Runs Copies

/-- The quiz string of the later document has that of the earlier one as a prefix. -/
def Continues (earlier later : Data) : Prop :=
  ∃ rest, getDefault later "quiz" = getDefault earlier "quiz" ++ rest

theorem Continues.refl (data : Data) : Continues data data := ⟨"", by simp⟩

theorem Continues.trans (a b c : Data) (ab : Continues a b) (bc : Continues b c) :
    Continues a c := by
  obtain ⟨x, hx⟩ := ab
  obtain ⟨y, hy⟩ := bc
  exact ⟨x ++ y, by rw [hy, hx, String.append_assoc]⟩

theorem continues_of_quiz_eq {a b : Data} (h : getDefault b "quiz" = getDefault a "quiz") :
    Continues a b := ⟨"", by simp [h]⟩

/-- The stored quiz string has every string as a prefix that a session has uploaded since the pet
was last deleted. -/
def AnswersKept (s : Pets) : Prop :=
  ∀ c ∈ s.document.kept, ∃ data, s.document.stored = some data ∧ Continues c.value data

/-- Save and the tenth answer upload a copy that was read after the uploads of all sessions that
have landed since the last deletion or may still land. -/
def FreshUploads (s : Pets) : Event → Prop
  | .save i .. => ∀ screen ∈ s.screens i, Fresh s.document screen.copy.readAt
  | .swipe i direction => ∀ screen ∈ s.screens i, screen.finishes direction = true →
      Fresh s.document screen.copy.readAt
  | _ => True

instance (s : Pets) : ∀ e, Decidable (FreshUploads s e)
  | .save i .. => inferInstanceAs
      (Decidable (∀ screen ∈ s.screens i, Fresh s.document screen.copy.readAt))
  | .swipe i direction => inferInstanceAs
      (Decidable (∀ screen ∈ s.screens i, screen.finishes direction = true →
        Fresh s.document screen.copy.readAt))
  | .openInfo _ | .openQuiz .. | .read _ | .readFails _ | .deliver _ | .photo .. | .delete _
  | .close _ | .kill | .land | .fail => .isTrue trivial

/-- A screen's profile covers the sessions up to when it was read, and so does a document that is
on its way to it; a session's answers continue its profile's. -/
structure Covered (r : Register Data) (screen : Screen) : Prop where
  pet : Covers Continues r screen.copy.readAt screen.copy.pet.generateDictionary
  fetch : ∀ data readAt, screen.copy.fetch = .answered (some data) readAt →
    Covers Continues r readAt data
  session : ∀ copy session, screen = .quiz copy (some session) →
    ∃ rest, session.answers = copy.pet.quiz ++ rest

/-- What steps with fresh uploads preserve. -/
structure Inv (s : Pets) : Prop where
  sound : Sound Continues s.document
  covered : ∀ i screen, s.screens i = some screen → Covered s.document screen

theorem Covered.mono {r r' : Register Data} {screen : Screen} (h : Covered r screen)
    (more : ∀ readAt data, Covers Continues r readAt data → Covers Continues r' readAt data) :
    Covered r' screen where
  pet := more _ _ h.pet
  fetch data readAt answered := more _ _ (h.fetch data readAt answered)
  session := h.session

theorem inv_start (stored : Option Data) : Inv (start stored) where
  sound := sound_start stored
  covered i screen opened := by cases opened

variable {s s' : Pets}

/-- Changing one screen. -/
theorem Inv.put (inv : Inv s) (i : ℕ) {screen : Option Screen}
    (covered : ∀ new, screen = some new → Covered s.document new) : Inv (s.put i screen) where
  sound := inv.sound
  covered j shown opened := by
    by_cases same : j = i
    · subst same
      simp only [Pets.put, Function.update_self] at opened
      exact covered shown opened
    · simp only [Pets.put, Function.update_of_ne same] at opened
      exact inv.covered j shown opened

/-- Changing the document. -/
theorem Inv.document {r : Register Data} (inv : Inv s) (sound : Sound Continues r)
    (more : ∀ readAt data, Covers Continues s.document readAt data → Covers Continues r readAt data) :
    Inv { s with document := r } where
  sound := sound
  covered i screen opened := (inv.covered i screen opened).mono more

theorem Inv.closeAll (inv : Inv s) : Inv { s with screens := fun _ => none } where
  sound := inv.sound
  covered i screen opened := by cases opened

theorem covered_info {r : Register Data} {copy : Copy}
    (pet : Covers Continues r copy.readAt copy.pet.generateDictionary)
    (fetch : ∀ data readAt, copy.fetch = .answered (some data) readAt → Covers Continues r readAt data) :
    Covered r (.info copy) where
  pet := pet
  fetch := fetch
  session copy session h := by cases h

theorem Covers.of_quiz {r : Register Data} {readAt : ℕ} {data data' : Data}
    (h : Covers Continues r readAt data) (same : getDefault data' "quiz" = getDefault data "quiz") :
    Covers Continues r readAt data' :=
  h.extend Continues.trans (continues_of_quiz_eq same)

theorem Covered.setFetch {r : Register Data} {screen : Screen} (h : Covered r screen)
    {fetch : Fetch}
    (covers : ∀ data readAt, fetch = .answered (some data) readAt → Covers Continues r readAt data) :
    Covered r (screen.setFetch fetch) := by
  cases screen with
  | info copy => exact covered_info h.pet covers
  | quiz copy session =>
      refine ⟨h.pet, covers, fun copy' session' same => ?_⟩
      cases same
      exact h.session copy session' rfl

/-- A delivered download replaces the profile by what was read. -/
theorem Covered.deliver {r : Register Data} {screen delivered : Screen}
    {data : Option Data} {readAt : ℕ} (h : Covered r screen)
    (answered : screen.copy.fetch = .answered data readAt)
    (shown : screen.deliver data readAt = some delivered) : Covered r delivered := by
  cases screen with
  | info copy =>
      simp only [Screen.deliver] at shown
      cases loaded : copy.pet.download data with
      | error p => simp [loaded] at shown
      | ok pet =>
          simp only [loaded, Option.some.injEq] at shown
          subst shown
          obtain ⟨ref, rfl, quiz⟩ := PetProfile.quiz_of_download loaded
          exact covered_info (Covers.of_quiz (h.fetch ref readAt answered) quiz) (by nofun)
  | quiz copy session =>
      simp only [Screen.deliver] at shown
      cases loaded : copy.pet.download data with
      | error p => simp [loaded] at shown
      | ok pet =>
          simp only [loaded, Option.map_eq_some_iff] at shown
          obtain ⟨cards, _, rfl⟩ := shown
          obtain ⟨ref, rfl, quiz⟩ := PetProfile.quiz_of_download loaded
          refine ⟨Covers.of_quiz (h.fetch ref readAt answered) quiz, by nofun, fun copy' session' same => ?_⟩
          cases same
          exact ⟨"", by simp⟩

theorem swiped_answers {session session' : Session} {direction : SwipeDirection}
    (h : session.swiped direction = some session') :
    ∃ rest, session'.answers = session.answers ++ rest := by
  rw [Session.swiped] at h
  cases cards : session.cards with
  | nil => simp [cards] at h
  | cons card rest =>
      cases answer : direction.answer with
      | none =>
          simp only [cards, answer, Option.some.injEq] at h
          exact ⟨"", by simp [← h]⟩
      | some text =>
          simp only [cards, answer, Option.some.injEq] at h
          exact ⟨text, by rw [← h]⟩

/-- A swipe, which uploads when it gives the tenth answer. -/
theorem Inv.swipe (inv : Inv s) {i : ℕ} {copy : Copy} {session session' : Session}
    {direction : SwipeDirection} (shown : s.screens i = some (.quiz copy (some session)))
    (swiped : session.swiped direction = some session')
    (fresh : (Screen.quiz copy (some session)).finishes direction = true →
      Fresh s.document copy.readAt) : Inv (s.swipe i copy session') := by
  have old := inv.covered i _ shown
  obtain ⟨before, start⟩ := old.session copy session rfl
  obtain ⟨more, answers⟩ := swiped_answers swiped
  have continued : session'.answers = copy.pet.quiz ++ (before ++ more) := by
    rw [answers, start, String.append_assoc]
  rw [Pets.swipe]
  by_cases ready : session'.index = 10
  · rw [if_pos ready]
    have finishes : (Screen.quiz copy (some session)).finishes direction = true := by
      simp [Screen.finishes, swiped, ready]
    let pet := { copy.pet with quiz := session'.answers }
    have extends_copy : Continues copy.pet.generateDictionary pet.generateDictionary :=
      ⟨before ++ more, continued⟩
    have above : ∀ c ∈ s.document.live, Continues c.value pet.generateDictionary := fun c mem =>
      Continues.trans _ _ _ (old.pet.of_fresh (fresh finishes) c mem) extends_copy
    refine (inv.document (inv.sound.commit above) fun readAt data h => h.commit _).put i ?_
    rintro new ⟨⟩
    refine ⟨(old.pet.extend Continues.trans extends_copy).commit _,
      fun data readAt answered => (old.fetch data readAt answered).commit _,
      fun copy' session'' same => ?_⟩
    cases same
    exact ⟨"", by simp⟩
  · rw [if_neg ready]
    refine inv.put i ?_
    rintro new ⟨⟩
    refine ⟨old.pet, old.fetch, fun copy' session'' same => ?_⟩
    cases same
    exact ⟨before ++ more, continued⟩

variable {uid : String} {sequence : ℤ}

theorem inv_step (s : Pets) (e : Event) (s' : Pets) (inv : Inv s) (fresh : FreshUploads s e)
    (taken : step uid sequence s e = some s') : Inv s' := by
  have opened : Covers Continues s.document 0 ({} : PetProfile).generateDictionary :=
    inv.sound.covers_zero _
  cases step_cases taken with
  | @openInfo i free =>
      refine inv.put i ?_
      rintro new ⟨⟩
      exact covered_info opened (by nofun)
  | @openQuiz info i copy shown free more =>
      refine inv.put i ?_
      rintro new ⟨⟩
      refine ⟨opened, by nofun, fun copy session same => ?_⟩
      cases same
  | @read i screen shown waits =>
      refine inv.put i ?_
      rintro new ⟨⟩
      refine (inv.covered i screen shown).setFetch fun data readAt answered => ?_
      obtain ⟨view, rfl⟩ := Fetch.answered.inj answered
      exact inv.sound.covers_view Continues.refl view
  | @readFails i screen shown waits =>
      refine inv.put i ?_
      rintro new ⟨⟩
      exact (inv.covered i screen shown).setFetch (by nofun)
  | @deliver i readAt screen delivered data shown answered result =>
      refine inv.put i ?_
      rintro new ⟨⟩
      exact (inv.covered i screen shown).deliver answered result
  | crash shown answered result => exact inv.closeAll
  | swipe shown swiped => exact inv.swipe shown swiped (fresh _ shown)
  | @photo i copy key url shown =>
      have old := inv.covered i _ shown
      refine inv.put i ?_
      rintro new ⟨⟩
      exact covered_info (Covers.of_quiz old.pet rfl) old.fetch
  | @save i copy bio age name spe shown =>
      have old := inv.covered i _ shown
      have pet : Covers Continues s.document copy.readAt
          (saved uid sequence copy.pet bio age name spe).generateDictionary :=
        Covers.of_quiz old.pet rfl
      have above := pet.of_fresh (fresh _ shown)
      refine (inv.document (inv.sound.put above) fun readAt data h => h.put _).put i ?_
      rintro new ⟨⟩
      exact covered_info (pet.put _) fun data readAt answered => (old.fetch data readAt answered).put _
  | @delete i copy shown =>
      refine (inv.document inv.sound.delete fun readAt data h => h.delete).put i ?_
      nofun
  | @close i screen shown => exact inv.put i (by nofun)
  | kill => exact inv.closeAll
  | land landed =>
      exact inv.document (inv.sound.land Continues.refl landed) fun readAt data h => h.land landed
  | fail failed => exact inv.document (inv.sound.fail failed) fun readAt data h => h.fail failed

/-- With fresh uploads no finished session's answers are lost. -/
theorem answers_survive (uid : String) (sequence : ℤ) (stored : Option Data) (es : List Event)
    (fresh : Meets (step uid sequence) FreshUploads (start stored) es) :
    Always (step uid sequence) AnswersKept (start stored) es :=
  always_of_meets inv_step (fun _ inv => inv.sound.stored) (inv_start stored) fresh

/-- A screen is opened and its download delivered. -/
def opens (opening : Event) (i : ℕ) : List Event := [opening, .read i, .deliver i]

/-- The info screen is opened and a quiz taken from it; the upload lands. -/
def quizTaken : List Event :=
  opens (.openInfo 0) 0 ++ opens (.openQuiz 0 1) 1 ++ List.replicate 10 (.swipe 1 .right) ++ [.land]

theorem answers_survive_reopening : Always (step "owner" 0) AnswersKept
    (start (some ({ sequence := 0 } : PetProfile).generateDictionary))
    (quizTaken ++ opens (.openInfo 2) 2 ++ [.save 2 "bio" "1" "name" "DOG", .land]) :=
  answers_survive _ _ _ _ (by decide +kernel)

/-- Saving the info screen that the quiz was started from loses the answers. -/
theorem saving_loses_answers : ¬ ∀ (uid : String) (sequence : ℤ) (stored : Option Data)
    (es : List Event), Always (step uid sequence) AnswersKept (start stored) es := by
  intro claim
  let stored : Option Data := some ({ sequence := 0 } : PetProfile).generateDictionary
  let es := quizTaken ++ [.close 1, .save 0 "bio" "1" "name" "DOG", .land]
  have lost : ((run (step "owner" 0) (start stored) es).map fun s =>
      (s.document.kept.map fun c => getDefault c.value "quiz",
        s.document.stored.map fun data => getDefault data "quiz")) =
      some (["1111111111"], some "") := by decide +kernel
  obtain ⟨s, ran, after⟩ := Option.map_eq_some_iff.mp lost
  have kept := always_iff_prefixes.mp (claim "owner" 0 stored es) es List.prefix_rfl s ran
  obtain ⟨landed, now⟩ := Prod.mk.inj after
  obtain ⟨data, present, empty⟩ := Option.map_eq_some_iff.mp now
  obtain ⟨c, mem, answers⟩ := List.mem_map.mp (landed ▸ List.mem_singleton_self "1111111111")
  obtain ⟨data', present', rest, continued⟩ := kept c mem
  obtain rfl := Option.some.inj (present.symm.trans present')
  rw [empty, answers] at continued
  have lengths := congrArg String.length continued
  have none_left : "".length = 0 := by decide
  have ten : "1111111111".length = 10 := by decide
  rw [String.length_append] at lengths
  omega

end PetClump.Pets
