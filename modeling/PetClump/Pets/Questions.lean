import PetClump.Pets.Screens

/-! # The questions of a quiz session

The info screen decides by the quiz string of its own copy whether there is a quiz to
take, the session asks for the questions after the string that it downloads itself. What
is stored stays aligned with the questions either way.
-/

namespace PetClump.Questions

open Runs Copies JavaString Pets

/-- What happens to the pet as long as nothing but quizzes is done on its screens -/
def isQuiz : Pets.Event → Bool
  | .swipe _ .bottom | .photo _ _ _ | .save _ _ _ _ _ | .delete _ => false
  | .openInfo _ | .openQuiz _ _ | .read _ | .readFails _ | .deliver _ | .swipe _ .right
  | .swipe _ .left | .swipe _ .top | .close _ | .kill | .land | .fail => true

/-- A question, by its place, and the unit of the answer that was swiped for it -/
abbrev Swipe := ℕ × ℕ

/-- The history of a run: the swipes of the session on each screen, those of the sessions that
uploaded, and for each session that was started the quiz string stored then and its questions. -/
structure Log where
  given : ℕ → List Swipe
  finished : List (List Swipe)
  started : List (String × Option (List ℕ))

/-- The quiz string that a session starts from in the callback of its download -/
def begins (s : Pets) : Pets.Event → Option String
  | .deliver i => do
      match ← s.screens i with
      | .quiz copy _ =>
          match copy.fetch with
          | .answered data _ =>
              match copy.pet.download data with
              | .ok pet => some pet.quiz
              | .error _ => none
          | .requested | .done => none
      | .info _ => none
  | _ => none

def storedQuiz (s : Pets) : String := s.document.stored.elim "" (getDefault · "quiz")

def swipes (session : Session) (direction : SwipeDirection) : List Swipe :=
  match session.cards, direction.answer with
  | question :: _, some answer => (units answer).map fun c => (question, c)
  | _, _ => []

def note (s : Pets) (e : Pets.Event) (log : Log) : Log :=
  match e with
  | .deliver i =>
      { log with
        given := Function.update log.given i []
        started := log.started ++
          (begins s e).toList.map fun quiz => (storedQuiz s, QuizQuestion.getQuestion quiz 10) }
  | .swipe i direction =>
      match s.screens i with
      | some (.quiz copy (some session)) =>
          let given := log.given i ++ swipes session direction
          { log with
            given := Function.update log.given i given
            finished := if (Screen.quiz copy (some session)).finishes direction then
                log.finished ++ [given]
              else log.finished }
      | _ => log
  | _ => log

def quizStep (uid : String) (sequence : ℤ) (s : Pets) (e : Pets.Event) : Option Pets :=
  if isQuiz e then Pets.step uid sequence s e else none

/-- Its length is a multiple of ten and no more than there are questions, and each unit
is the answer that a session which uploaded gave to the question in its place. -/
structure Aligned (finished : List (List Swipe)) (quiz : String) : Prop where
  tens : 10 ∣ length quiz
  bounded : length quiz ≤ QuizQuestion.getNumberOfAvaliableQuestions
  answers : ∀ k c, (units quiz)[k]? = some c → ∃ session ∈ finished, (k, c) ∈ session

/-- Every session has been given the ten questions after the string that was stored when it started,
and what is stored is aligned. -/
def AsksInOrder (s : Pets × Log) : Prop :=
  (∀ x ∈ s.2.started, x.2 = some (List.range' (length x.1) 10)) ∧
    ∃ data, s.1.document.stored = some data ∧ Aligned s.2.finished (getDefault data "quiz")

/-- A session starts from a quiz string that is not complete and as long as the one stored by then. -/
def StartsInPlace (s : Pets × Log) (e : Pets.Event) : Prop :=
  ∀ quiz ∈ begins s.1 e,
    length quiz ≠ QuizQuestion.getNumberOfAvaliableQuestions ∧ length quiz = length (storedQuiz s.1)

instance (s : Pets × Log) (e : Pets.Event) : Decidable (StartsInPlace s e) :=
  inferInstanceAs (Decidable (∀ quiz ∈ begins s.1 e, _))

/-- The string is what some sessions that uploaded swiped, one after another. -/
def Answered (finished : List (List Swipe)) (quiz : String) : Prop :=
  ∃ sessions : List (List Swipe), (∀ session ∈ sessions, session ∈ finished ∧ session.length = 10) ∧
    units quiz = sessions.flatten.map Prod.snd ∧
    sessions.flatten.map Prod.fst = List.range (10 * sessions.length) ∧ sessions.length ≤ 7

section Answered

variable {finished finished' : List (List Swipe)} {quiz : String}

theorem length_flatten {sessions : List (List Swipe)} (tens : ∀ session ∈ sessions, session.length = 10) :
    sessions.flatten.length = 10 * sessions.length := by
  induction sessions with
  | nil => rfl
  | cons session sessions ih =>
      rw [List.flatten_cons, List.length_append, tens session List.mem_cons_self,
        ih fun other mem => tens other (List.mem_cons_of_mem _ mem), List.length_cons]
      omega

theorem answered_empty (empty : quiz = "") : Answered finished quiz :=
  ⟨[], by simp, by rw [empty]; rfl, rfl, by simp⟩

theorem Answered.mono (h : Answered finished quiz) (more : ∀ session ∈ finished, session ∈ finished') :
    Answered finished' quiz := by
  obtain ⟨sessions, from_finished, rest⟩ := h
  exact ⟨sessions, fun session mem => ⟨more _ (from_finished session mem).1, (from_finished session mem).2⟩,
    rest⟩

theorem Answered.length_eq (h : Answered finished quiz) :
    ∃ n ≤ 7, length quiz = 10 * n := by
  obtain ⟨sessions, from_finished, answers, _, few⟩ := h
  refine ⟨sessions.length, few, ?_⟩
  rw [length, answers, List.length_map, length_flatten fun session mem => (from_finished session mem).2]

theorem Answered.aligned (h : Answered finished quiz) : Aligned finished quiz where
  tens := by
    obtain ⟨n, _, tens⟩ := h.length_eq
    exact ⟨n, tens⟩
  bounded := by
    obtain ⟨n, few, tens⟩ := h.length_eq
    rw [tens, QuizQuestion.getNumberOfAvaliableQuestions]
    omega
  answers k c here := by
    obtain ⟨sessions, from_finished, answers, questions, _⟩ := h
    rw [answers, List.getElem?_map] at here
    obtain ⟨⟨question, unit⟩, place, rfl⟩ := Option.map_eq_some_iff.mp here
    have inside := congrArg (fun l => l[k]?) questions
    obtain ⟨bound, _⟩ := List.getElem?_eq_some_iff.mp place
    rw [length_flatten fun session mem => (from_finished session mem).2] at bound
    simp only [List.getElem?_map, place, Option.map_some, List.getElem?_range bound,
      Option.some_inj] at inside
    subst inside
    obtain ⟨session, member, swiped⟩ := List.mem_flatten.mp (List.mem_of_getElem? place)
    exact ⟨session, (from_finished session member).1, swiped⟩

/-- There are ten more questions unless all have been answered. -/
theorem Answered.getQuestion (h : Answered finished quiz) (place : ℕ) :
    QuizQuestion.getQuestion quiz 10 = some (List.range' place 10) ↔
      length quiz ≠ QuizQuestion.getNumberOfAvaliableQuestions ∧ length quiz = place := by
  obtain ⟨n, few, tens⟩ := h.length_eq
  rw [QuizQuestion.getQuestion, QuizQuestion.getNumberOfAvaliableQuestions, tens]
  split
  case isTrue room =>
    constructor
    · intro same
      have heads := congrArg List.head? (Option.some.inj same)
      exact ⟨by omega, by simpa [List.head?_range'] using heads⟩
    · rintro ⟨-, rfl⟩
      rfl
  case isFalse => exact iff_of_false (by simp) (by omega)

/-- A session of ten swipes for the next ten questions -/
theorem Answered.extend (h : Answered finished quiz) {given : List Swipe} {answers : String}
    (more : ∀ session ∈ finished, session ∈ finished') (uploaded : given ∈ finished')
    (room : length quiz + 10 ≤ QuizQuestion.getNumberOfAvaliableQuestions)
    (swiped : units answers = units quiz ++ given.map Prod.snd)
    (questions : given.map Prod.fst = List.range' (length quiz) 10) : Answered finished' answers := by
  obtain ⟨sessions, from_finished, before, asked, few⟩ := h
  have ten : given.length = 10 := by simpa using congrArg List.length questions
  have total : length quiz = 10 * sessions.length := by
    rw [length, before, List.length_map, length_flatten fun session mem => (from_finished session mem).2]
  refine ⟨sessions ++ [given], fun session mem => ?_, ?_, ?_, ?_⟩
  · cases List.mem_append.mp mem with
    | inl old => exact ⟨more _ (from_finished session old).1, (from_finished session old).2⟩
    | inr new => exact List.mem_singleton.mp new ▸ ⟨uploaded, ten⟩
  · simp [swiped, before]
  · rw [List.flatten_append, List.map_append, asked, List.length_append, List.length_singleton,
      Nat.mul_add, List.range_add, ← total]
    simp [questions, List.range'_eq_map_range]
  · rw [QuizQuestion.getNumberOfAvaliableQuestions] at room
    rw [List.length_append, List.length_singleton]
    omega

end Answered

/-- A session that goes on has given the answers so far to the first of its ten questions, and
has the others on its stack. A session with ten answers has no cards. -/
structure InSession (finished : List (List Swipe)) (given : List Swipe) (quiz : String)
    (session : Session) : Prop where
  index : session.index ≤ 10
  cards : session.cards = List.range' (length quiz + session.index) (10 - session.index)
  start : session.index < 10 → Answered finished quiz ∧
    length quiz + 10 ≤ QuizQuestion.getNumberOfAvaliableQuestions
  answers : session.index < 10 → units session.answers = units quiz ++ given.map Prod.snd
  questions : session.index < 10 → given.map Prod.fst = List.range' (length quiz) session.index

structure Fine (finished : List (List Swipe)) (given : List Swipe) (screen : Screen) : Prop where
  fetch : ∀ data readAt, screen.copy.fetch = .answered data readAt →
    ∃ ref, data = some ref ∧ Answered finished (getDefault ref "quiz")
  session : ∀ copy session, screen = .quiz copy (some session) →
    InSession finished given copy.pet.quiz session

/-- Every version of the document is answered by the sessions that uploaded. -/
structure Inv (s : Pets) (log : Log) : Prop where
  stored : ∃ data, s.document.stored = some data ∧ Answered log.finished (getDefault data "quiz")
  queued : ∀ w ∈ s.document.queue, ∃ data, w.result = some data ∧
    Answered log.finished (getDefault data "quiz")
  screens : ∀ i screen, s.screens i = some screen → Fine log.finished (log.given i) screen

namespace Inv

variable {s : Pets} {log : Log}

theorem view (inv : Inv s log) :
    ∃ data, s.document.view = some data ∧ Answered log.finished (getDefault data "quiz") := by
  rw [Register.view]
  cases last : s.document.queue.getLast? with
  | none => exact inv.stored
  | some w => exact inv.queued w (List.mem_of_getLast? last)

/-- Changing one screen. -/
theorem put (inv : Inv s log) (i : ℕ) {screen : Option Screen}
    (fine : ∀ new, screen = some new → Fine log.finished (log.given i) new) : Inv (s.put i screen) log where
  stored := inv.stored
  queued := inv.queued
  screens j shown opened := by
    by_cases same : j = i
    · subst same
      simp only [Pets.put, Function.update_self] at opened
      exact fine shown opened
    · simp only [Pets.put, Function.update_of_ne same] at opened
      exact inv.screens j shown opened

theorem document (inv : Inv s log) {r : Register Data}
    (stored : ∃ data, r.stored = some data ∧ Answered log.finished (getDefault data "quiz"))
    (queued : ∀ w ∈ r.queue, w ∈ s.document.queue) : Inv { s with document := r } log where
  stored := stored
  queued w mem := inv.queued w (queued w mem)
  screens := inv.screens

end Inv

theorem fine_of_idle {finished : List (List Swipe)} {given : List Swipe} {screen : Screen}
    (fetch : ∀ data readAt, screen.copy.fetch = .answered data readAt →
      ∃ ref, data = some ref ∧ Answered finished (getDefault ref "quiz"))
    (idle : ∀ copy session, screen ≠ .quiz copy (some session)) : Fine finished given screen :=
  ⟨fetch, fun copy session same => absurd same (idle copy session)⟩

theorem Fine.mono {finished finished' : List (List Swipe)} {given : List Swipe} {screen : Screen}
    (fine : Fine finished given screen) (more : ∀ session ∈ finished, session ∈ finished') :
    Fine finished' given screen where
  fetch data readAt answered := by
    obtain ⟨ref, present, quiz⟩ := fine.fetch data readAt answered
    exact ⟨ref, present, quiz.mono more⟩
  session copy session shown := by
    have old := fine.session copy session shown
    exact ⟨old.index, old.cards, fun goes => ⟨(old.start goes).1.mono more, (old.start goes).2⟩,
      old.answers, old.questions⟩

theorem Fine.setFetch {finished : List (List Swipe)} {given : List Swipe} {screen : Screen} {fetch : Fetch}
    (fine : Fine finished given screen) (answered : ∀ data readAt, fetch = .answered data readAt →
      ∃ ref, data = some ref ∧ Answered finished (getDefault ref "quiz")) :
    Fine finished given (screen.setFetch fetch) := by
  cases screen with
  | info copy => exact fine_of_idle answered nofun
  | quiz copy session =>
      refine ⟨answered, fun copy' session' same => ?_⟩
      cases same
      exact fine.session copy session' rfl

theorem Fine.deliver {finished : List (List Swipe)} {given : List Swipe} {screen delivered : Screen}
    {data : Option Data} {readAt : ℕ} (fine : Fine finished given screen)
    (answered : screen.copy.fetch = .answered data readAt)
    (result : screen.deliver data readAt = some delivered) : Fine finished [] delivered := by
  cases screen with
  | info copy =>
      simp only [Screen.deliver] at result
      cases loaded : copy.pet.download data with
      | error pet => simp [loaded] at result
      | ok pet =>
          simp only [loaded, Option.some.injEq] at result
          subst result
          exact fine_of_idle (by nofun) nofun
  | quiz copy session =>
      simp only [Screen.deliver] at result
      cases loaded : copy.pet.download data with
      | error pet => simp [loaded] at result
      | ok pet =>
          simp only [loaded, Option.map_eq_some_iff] at result
          obtain ⟨cards, given, rfl⟩ := result
          obtain ⟨ref, rfl, quiz⟩ := PetProfile.quiz_of_download loaded
          obtain ⟨ref', present, all⟩ := fine.fetch _ readAt answered
          obtain rfl := Option.some.inj present
          rw [← quiz] at all
          refine ⟨nofun, fun copy' session' same => ?_⟩
          cases same
          rw [QuizQuestion.getQuestion] at given
          split at given
          · cases given
            refine ⟨by simp, rfl, fun _ => ⟨all, by dsimp only; omega⟩, fun _ => by simp, fun _ => rfl⟩
          · cases given

/-- Changing one screen and its session, after which more sessions may have uploaded. -/
theorem Inv.session {s : Pets} {log : Log} (inv : Inv s log) (i : ℕ) {r : Register Data} {new : Screen}
    {given : List Swipe} {finished : List (List Swipe)} {started : List (String × Option (List ℕ))}
    (more : ∀ session ∈ log.finished, session ∈ finished) (stored : r.stored = s.document.stored)
    (queued : ∀ w ∈ r.queue, w ∈ s.document.queue ∨
      ∃ data, w.result = some data ∧ Answered finished (getDefault data "quiz"))
    (fine : Fine finished given new) :
    Inv (Pets.put { s with document := r } i (some new))
      ⟨Function.update log.given i given, finished, started⟩ where
  stored := by
    obtain ⟨data, present, quiz⟩ := inv.stored
    exact ⟨data, stored.trans present, quiz.mono more⟩
  queued w mem := by
    cases queued w mem with
    | inl old =>
        obtain ⟨data, result, quiz⟩ := inv.queued w old
        exact ⟨data, result, quiz.mono more⟩
    | inr new => exact new
  screens j shown opened := by
    by_cases same : j = i
    · subst same
      simp only [Pets.put, Function.update_self, Option.some.injEq] at opened
      simpa only [Function.update_self, opened] using fine
    · simp only [Pets.put, Function.update_of_ne same] at opened
      simpa only [Function.update_of_ne same] using (inv.screens j shown opened).mono more

section Swipe

variable {s : Pets} {log : Log} {i : ℕ} {copy : Copy} {session session' : Session}
  {direction : SwipeDirection}

theorem note_swipe (shown : s.screens i = some (.quiz copy (some session))) :
    note s (.swipe i direction) log =
      { log with
        given := Function.update log.given i (log.given i ++ swipes session direction)
        finished := if (Screen.quiz copy (some session)).finishes direction then
            log.finished ++ [log.given i ++ swipes session direction]
          else log.finished } := by
  simp only [note, shown]

theorem answer_unit (answers : direction ≠ .bottom) :
    ∃ answer c, direction.answer = some answer ∧ units answer = [c] := by
  cases direction with
  | right => exact ⟨"1", '1'.toNat, rfl, by decide⟩
  | left => exact ⟨"0", '0'.toNat, rfl, by decide⟩
  | top => exact ⟨"2", '2'.toNat, rfl, by decide⟩
  | bottom => exact absurd rfl answers

/-- A swipe that gives an answer: the question on top gets it. -/
theorem swiped_answer (answers : direction ≠ .bottom) (swiped : session.swiped direction = some session') :
    ∃ question cards c answer, session.cards = question :: cards ∧ units answer = [c] ∧
      session' = ⟨session.answers ++ answer, session.index + 1, cards⟩ ∧
      swipes session direction = [(question, c)] := by
  obtain ⟨answer, c, given, unit⟩ := answer_unit answers
  cases stack : session.cards with
  | nil => simp [Session.swiped, stack] at swiped
  | cons question cards =>
      simp only [Session.swiped, stack, given, Option.some.injEq] at swiped
      exact ⟨question, cards, c, answer, rfl, unit, swiped.symm, by simp [swipes, stack, given, unit]⟩

/-- What a session has given and has on its stack after an answer -/
theorem InSession.next {finished : List (List Swipe)} {given : List Swipe} {quiz answer : String}
    {question c : ℕ} {cards : List ℕ} (now : InSession finished given quiz session)
    (top : session.cards = question :: cards) (unit : units answer = [c]) :
    session.index < 10 ∧
      cards = List.range' (length quiz + (session.index + 1)) (10 - (session.index + 1)) ∧
      units (session.answers ++ answer) = units quiz ++ (given ++ [(question, c)]).map Prod.snd ∧
      (given ++ [(question, c)]).map Prod.fst = List.range' (length quiz) (session.index + 1) := by
  have stack := now.cards
  rw [top] at stack
  have goes : session.index < 10 := by
    by_contra past
    rw [show 10 - session.index = 0 by omega] at stack
    cases stack
  rw [show 10 - session.index = 10 - (session.index + 1) + 1 by omega, List.range'_succ] at stack
  obtain ⟨rfl, rest⟩ := List.cons.inj stack
  refine ⟨goes, rest, ?_, ?_⟩
  · rw [units_append, now.answers goes, unit, List.map_append, List.append_assoc]
    rfl
  · rw [List.map_append, now.questions goes, List.range'_concat]
    simp

theorem Inv.swipe (inv : Inv s log) (shown : s.screens i = some (.quiz copy (some session)))
    (answers : direction ≠ .bottom) (swiped : session.swiped direction = some session') :
    Inv (s.swipe i copy session') (note s (.swipe i direction) log) := by
  have old := inv.screens i _ shown
  have now := old.session copy session rfl
  obtain ⟨question, cards, c, answer, top, unit, rfl, swipe⟩ := swiped_answer answers swiped
  obtain ⟨goes, rest, given, questions⟩ := now.next top unit
  obtain ⟨all, room⟩ := now.start goes
  have finishes : (Screen.quiz copy (some session)).finishes direction = decide (session.index + 1 = 10) := by
    simp [Screen.finishes, swiped]
  rw [note_swipe shown, finishes, swipe, Pets.swipe]
  by_cases ready : session.index + 1 = 10
  · rw [if_pos ready, decide_eq_true ready, if_pos rfl]
    have more : ∀ session ∈ log.finished, session ∈ log.finished ++ [log.given i ++ [(question, c)]] :=
      fun _ => List.mem_append_left _
    have uploaded := all.extend more (List.mem_append_right _ (List.mem_singleton_self _)) room given
      (ready ▸ questions)
    refine inv.session i more rfl (fun w mem => ?_)
      ⟨fun data readAt answered => ?_, fun copy' session' same => ?_⟩
    · refine (List.mem_append.mp mem).imp_right fun new => ?_
      rw [List.mem_singleton.mp new]
      exact ⟨_, rfl, uploaded⟩
    · obtain ⟨ref, present, quiz⟩ := old.fetch data readAt answered
      exact ⟨ref, present, quiz.mono more⟩
    · cases same
      refine ⟨ready.le, ?_, fun less => ?_, fun less => ?_, fun less => ?_⟩
      · rw [rest, ready]
        rfl
      all_goals exact absurd ready less.ne
  · rw [if_neg ready, decide_eq_false ready, if_neg Bool.false_ne_true]
    refine inv.session i (fun _ => id) rfl (fun w => .inl) ⟨old.fetch, fun copy' session' same => ?_⟩
    cases same
    exact ⟨goes, rest, fun _ => ⟨all, room⟩, fun _ => given, fun _ => questions⟩

end Swipe

section Run

variable {uid : String} {sequence : ℤ} {s s' : Pets × Log} {e : Pets.Event}

theorem fine_opened {finished : List (List Swipe)} {given : List Swipe} {screen : Screen}
    (requested : screen.copy.fetch = .requested) (idle : ∀ copy session, screen ≠ .quiz copy (some session)) :
    Fine finished given screen :=
  fine_of_idle (fun data readAt answered => by rw [requested] at answered; cases answered) idle

theorem inv_step (inv : Inv s.1 s.2) (taken : recorded (quizStep uid sequence) note s e = some s') :
    Inv s'.1 s'.2 := by
  obtain ⟨pets, stepped, rfl⟩ := recorded_eq_some.mp taken
  rw [quizStep] at stepped
  split at stepped
  case isFalse => cases stepped
  case isTrue quiz =>
    cases Pets.step_cases stepped with
    | @openInfo i free =>
        refine inv.put i ?_
        rintro new ⟨⟩
        exact fine_opened rfl nofun
    | @openQuiz info i copy shown free more =>
        refine inv.put i ?_
        rintro new ⟨⟩
        exact fine_opened rfl (by simp)
    | @read i screen shown waits =>
        refine inv.put i ?_
        rintro new ⟨⟩
        refine (inv.screens i screen shown).setFetch fun data readAt answered => ?_
        obtain ⟨rfl, rfl⟩ := Fetch.answered.inj answered
        exact inv.view
    | @readFails i screen shown waits =>
        refine inv.put i ?_
        rintro new ⟨⟩
        exact (inv.screens i screen shown).setFetch (by nofun)
    | @deliver i readAt screen delivered data shown answered result =>
        exact inv.session i (fun _ => id) rfl (fun w => .inl)
          ((inv.screens i screen shown).deliver answered result)
    | crash shown answered result => exact ⟨inv.stored, inv.queued, by nofun⟩
    | @swipe i direction copy session session' shown swiped =>
        exact inv.swipe shown (fun down => by rw [down] at quiz; cases quiz) swiped
    | photo | save | delete => cases quiz
    | @close i screen shown => exact inv.put i (by nofun)
    | kill => exact ⟨inv.stored, inv.queued, by nofun⟩
    | land landed =>
        obtain ⟨w, rest, queue, rfl⟩ := Register.land_eq_some.mp landed
        exact inv.document (inv.queued w (by simp [queue])) fun w' later => by simp [queue, later]
    | fail failed =>
        obtain ⟨w, rest, queue, rfl⟩ := Register.fail_eq_some.mp failed
        exact inv.document inv.stored fun w' later => by simp [queue, later]

/-- The string that a session starts from is answered by sessions that uploaded. -/
theorem answered_of_begins (inv : Inv s.1 s.2) {quiz : String} (found : begins s.1 e = some quiz) :
    Answered s.2.finished quiz := by
  cases e with
  | deliver i =>
      simp only [begins, Option.bind_eq_bind, Option.bind_eq_some_iff] at found
      obtain ⟨screen, shown, found⟩ := found
      cases screen with
      | info copy => cases found
      | quiz copy session =>
          cases fetched : copy.fetch with
          | requested => simp [fetched] at found
          | done => simp [fetched] at found
          | answered data readAt =>
              cases loaded : copy.pet.download data with
              | error pet => simp [fetched, loaded] at found
              | ok pet =>
                  simp only [fetched, loaded, Option.some.injEq] at found
                  obtain ⟨ref, rfl, quiz⟩ := PetProfile.quiz_of_download loaded
                  obtain ⟨ref', present, all⟩ := (inv.screens i _ shown).fetch _ readAt fetched
                  obtain rfl := Option.some.inj present
                  rwa [← found, quiz]
  | _ => cases found

theorem started_note (s : Pets) (e : Pets.Event) (log : Log) : (note s e log).started =
    log.started ++ (begins s e).toList.map fun quiz => (storedQuiz s, QuizQuestion.getQuestion quiz 10) := by
  cases e with
  | deliver i => rfl
  | swipe i direction =>
      simp only [note, begins, Option.toList_none, List.map_nil, List.append_nil]
      split <;> rfl
  | _ => simp [note, begins]

/-- The start of a run, for a pet whose quiz string is empty -/
def begin (stored : Data) : Pets × Log := (Pets.start (some stored), ⟨fun _ => [], [], []⟩)

theorem inv_begin {stored : Data} (empty : getDefault stored "quiz" = "") :
    Inv (begin stored).1 (begin stored).2 where
  stored := ⟨stored, rfl, answered_empty empty⟩
  queued w mem := by cases mem
  screens i screen opened := by cases opened

/-- A step keeps the sessions right exactly when one that it starts starts in place. -/
theorem asks_step (inv : Inv s.1 s.2) (right : AsksInOrder s)
    (taken : recorded (quizStep uid sequence) note s e = some s') : AsksInOrder s' ↔ StartsInPlace s e := by
  have later := inv_step inv taken
  obtain ⟨data, present, quiz⟩ := later.stored
  obtain ⟨pets, _, rfl⟩ := recorded_eq_some.mp taken
  have new : (∀ x ∈ (note s.1 e s.2).started, x.2 = some (List.range' (length x.1) 10)) ↔
      StartsInPlace s e := by
    rw [started_note, List.forall_mem_append]
    refine (and_iff_right right.1).trans ?_
    simp only [List.forall_mem_map, Option.mem_toList]
    exact forall₂_congr fun quiz found => (answered_of_begins inv found).getQuestion _
  exact ⟨fun asks => new.mp asks.1, fun starts => ⟨new.mpr starts, data, present, quiz.aligned⟩⟩

end Run

/-- A quiz taken from the info screen: it is downloaded, answered and uploaded. -/
def quizTaken (direction : SwipeDirection) : List Pets.Event :=
  [.openQuiz 0 1, .read 1, .deliver 1] ++ List.replicate 10 (.swipe 1 direction) ++ [.land, .close 1]

end PetClump.Questions
