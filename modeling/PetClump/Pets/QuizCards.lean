import Mathlib.Data.List.Nodup
import Mathlib.Data.List.Range
import Mathlib.Logic.Function.Basic
import PetClump.Library.Runs

/-! # The quiz cards on iOS

A session shows up to four of its ten cards on top of each other. Any of them can
be dragged away, and the answer goes behind the answers so far. What is stored is
in the order of the questions exactly when the topmost card is dragged each time.
-/

namespace PetClump.QuizCards

open Runs

inductive QuizAnswer where
  | no | yes | skip
  deriving DecidableEq

/-- A character of a quiz string, with the question on the card that was dragged for it. Nothing
in the program looks at the question. -/
structure Mark where
  answer : QuizAnswer
  question : ℕ
  deriving DecidableEq

abbrev Quiz := List Mark

namespace QuizQuestion

def getNumberOfAvaliableQuestions : ℕ := 70

def isAllDone (quiz : Quiz) : Prop := quiz.length + 5 > getNumberOfAvaliableQuestions

instance (quiz : Quiz) : Decidable (isAllDone quiz) := inferInstanceAs (Decidable (_ > _))

/-- The next questions, by their places among all. -/
def getQuestion (quizString : Quiz) (count : ℕ) : Option (List ℕ) :=
  if quizString.length + count < getNumberOfAvaliableQuestions + 1 then
    some (List.range' quizString.length count)
  else none

end QuizQuestion

inductive Direction where
  | left | right | up | none

def Direction.answer : Direction → QuizAnswer
  | left => .no
  | right => .yes
  | up | none => .skip

inductive Phase where
  | snapping | moving | swiping
  deriving DecidableEq

structure Card where
  /-- how many cards were made before it -/
  place : ℕ
  question : ℕ
  phase : Phase
  deriving DecidableEq

/-- `QuizVC` with its `ZLSwipeableView`, once the download has ended. -/
structure Session where
  quiz : Quiz
  questions : Option (List ℕ)
  answers : List Mark
  colorIndex : ℕ
  /-- the lowest first -/
  subviews : List Card

namespace Session

def colors : ℕ := 10

def numberOfActiveView : ℕ := 4

def setupQuiz (quiz : Quiz) : Session := ⟨quiz, QuizQuestion.getQuestion quiz 10, [], 0, []⟩

variable (s : Session)

/-- The topmost first. -/
def activeViews : List Card := (s.subviews.filter fun c => c.phase ≠ .swiping).reverse

def topView : Option Card := s.activeViews.head?

/-- The next card goes below the others. `none` is a trap, when there is no question for it. -/
def nextCardView : Option Session :=
  if s.colorIndex < colors then do
    let questions ← s.questions
    let question ← questions[s.colorIndex]?
    return { s with
      colorIndex := s.colorIndex + 1
      subviews := ⟨s.colorIndex, question, .snapping⟩ :: s.subviews }
  else some s

def insertCards : ℕ → Session → Option Session
  | 0, s => some s
  | n + 1, s => s.nextCardView.bind (insertCards n)

/-- A range with its bounds the wrong way around is a trap. -/
def loadViews : Option Session :=
  if numberOfActiveView < s.activeViews.length then none
  else insertCards (numberOfActiveView - s.activeViews.length) s

def advance (place : ℕ) (before after : Phase) : Session :=
  { s with subviews := s.subviews.map fun c =>
      if c.place = place ∧ c.phase = before then { c with phase := after } else c }

def find (place : ℕ) (phase : Phase) : Option Card :=
  s.subviews.find? fun c => c.place = place ∧ c.phase = phase

def didSwipe (card : Card) (direction : Direction) : Session :=
  let answers := s.answers ++ [⟨direction.answer, card.question⟩]
  { s with
    answers := answers
    quiz := if answers.length = 10 then s.quiz ++ answers else s.quiz }

/-- The cards that have left the screen are taken away. -/
def removeCards (gone : List ℕ) : Session :=
  { s with subviews := s.subviews.filter fun c => ¬ (c.phase = .swiping ∧ c.place ∈ gone) }

end Session

inductive Screen where
  /-- `PetSettingVC`, with the quiz string of its profile and the number of downloads it waits for -/
  | setting (quiz : Quiz) (waiting : ℕ)
  /-- `QuizVC`, without a session until its download has ended -/
  | quiz (session : Option Session)

/-- Every quiz string that was ever uploaded, on whatever device, and the open screens. -/
structure State where
  versions : List Quiz
  screens : ℕ → Option Screen
  trapped : Bool

inductive Event where
  | openSetting (i : ℕ)
  /-- the screen comes back to the front and downloads again -/
  | appear (i : ℕ)
  /-- a download gives a version, or nothing when it fails or finds no document -/
  | deliver (i : ℕ) (version : Option ℕ)
  | tapQuiz (setting i : ℕ)
  /-- `viewDidLayoutSubviews` -/
  | layout (i : ℕ)
  | began (i place : ℕ)
  | ended (i place : ℕ) (direction : Direction)
  | removed (i : ℕ) (gone : List ℕ)
  /-- the profile of a screen is uploaded, for another name or another photo -/
  | save (i : ℕ)
  | close (i : ℕ)

namespace State

/-- A pet without answers. -/
def start : State := ⟨[[]], fun _ => none, false⟩

def put (s : State) (i : ℕ) (screen : Option Screen) : State :=
  { s with screens := Function.update s.screens i screen }

def session (s : State) (i : ℕ) : Option Session :=
  match s.screens i with
  | some (.quiz session) => session
  | _ => none

/-- What becomes of a screen whose session goes on as `session`, or traps. -/
def goOn (s : State) (i : ℕ) (session : Option Session) : State :=
  match session with
  | some session => s.put i (some (.quiz (some session)))
  | none => { s with screens := fun _ => none, trapped := true }

/-- The swipe of a card, with an upload after the tenth. -/
def swipeView (s : State) (i : ℕ) (session : Session) (card : Card) (direction : Direction) : State :=
  let after := (session.advance card.place .moving .swiping).didSwipe card direction
  let s := if after.answers.length = 10 then { s with versions := s.versions ++ [after.quiz] } else s
  s.goOn i after.loadViews

def step (s : State) : Event → Option State
  | .openSetting i =>
      match s.screens i with
      | none => some (s.put i (some (.setting [] 1)))
      | some _ => none
  | .appear i =>
      match s.screens i with
      | some (.setting quiz waiting) => some (s.put i (some (.setting quiz (waiting + 1))))
      | _ => none
  | .deliver i version =>
      match s.screens i with
      | some (.setting quiz (waiting + 1)) =>
          match version with
          | none => some (s.put i (some (.setting quiz waiting)))
          | some v => s.versions[v]?.map fun quiz => s.put i (some (.setting quiz waiting))
      | some (.quiz none) =>
          match version with
          | none => some (s.put i (some (.quiz (some (.setupQuiz [])))))
          | some v => s.versions[v]?.map fun quiz => s.put i (some (.quiz (some (.setupQuiz quiz))))
      | _ => none
  | .tapQuiz setting i =>
      match s.screens setting, s.screens i with
      | some (.setting quiz _), none =>
          if QuizQuestion.isAllDone quiz then none else some (s.put i (some (.quiz none)))
      | _, _ => none
  | .layout i => (s.session i).map fun session => s.goOn i session.loadViews
  | .began i place => do
      let session ← s.session i
      let _ ← session.find place .snapping
      return s.put i (some (.quiz (some (session.advance place .snapping .moving))))
  | .ended i place direction => do
      let session ← s.session i
      let card ← session.find place .moving
      return s.swipeView i session card direction
  | .removed i gone =>
      (s.session i).map fun session => s.put i (some (.quiz (some (session.removeCards gone))))
  | .save i =>
      match s.screens i with
      | some (.setting quiz _) => some { s with versions := s.versions ++ [quiz] }
      | _ => none
  | .close i =>
      match s.screens i with
      | some _ => some (s.put i none)
      | none => none

end State

/-- Each answer stands in the place of the question that it was given to. -/
def InOrder (quiz : Quiz) : Prop := quiz.map Mark.question = List.range quiz.length

instance (quiz : Quiz) : Decidable (InOrder quiz) := inferInstanceAs (Decidable (_ = _))

/-- The session has questions, and its answers so far are those to the first of them. -/
def Session.Aligned (session : Session) : Prop :=
  ∃ questions, session.questions = some questions ∧ session.answers.map Mark.question <+: questions

/-- Everything that was ever uploaded is in order, so are the sessions, and nothing has trapped. -/
structure Sound (s : State) : Prop where
  versions : ∀ quiz ∈ s.versions, InOrder quiz
  sessions : ∀ i session, s.session i = some session → session.Aligned
  running : s.trapped = false

/-- The topmost card is dragged, and no session starts from a complete quiz string. -/
def Careful (s : State) : Event → Prop
  | .ended i place _ => ∀ session ∈ s.session i, ∀ top ∈ session.topView, top.place = place
  | .deliver i (some v) => s.screens i = some (.quiz none) → ∀ quiz ∈ s.versions[v]?,
      quiz.length ≠ QuizQuestion.getNumberOfAvaliableQuestions
  | _ => True

namespace Session

def places (session : Session) : List ℕ := session.activeViews.map Card.place

/-- What holds of a session in any case: it started from `start`, and the cards in the places of
`order` were dragged, in that order. -/
structure Dealt (session : Session) (start : Quiz) (order : List ℕ) : Prop where
  questions : session.questions = QuizQuestion.getQuestion start 10
  quiz : session.quiz = if session.answers.length = 10 then start ++ session.answers else start
  colors : session.colorIndex ≤ 10
  unopened : session.questions = none → session.colorIndex = 0
  card : ∀ c ∈ session.subviews, c.question = start.length + c.place ∧ c.place < session.colorIndex
  sorted : (session.subviews.map Card.place).Pairwise (· > ·)
  split : (order ++ session.places).Perm (List.range session.colorIndex)
  answers : session.answers.map Mark.question = order.map (start.length + ·)
  few : session.places.length ≤ 4

variable {session session' : Session} {start : Quiz} {order : List ℕ}

theorem places_eq (session : Session) : session.places =
    ((session.subviews.filter fun c => c.phase ≠ .swiping).map Card.place).reverse := by
  rw [places, activeViews, List.map_reverse]

theorem length_places (session : Session) : session.places.length = session.activeViews.length := by
  rw [places, List.length_map]

theorem dealt_setupQuiz (quiz : Quiz) : (setupQuiz quiz).Dealt quiz [] where
  questions := rfl
  quiz := rfl
  colors := Nat.zero_le 10
  unopened _ := rfl
  card := by nofun
  sorted := List.Pairwise.nil
  split := .refl []
  answers := rfl
  few := Nat.zero_le 4

theorem Dealt.length_order (dealt : session.Dealt start order) :
    order.length = session.answers.length := by
  simpa using (congrArg List.length dealt.answers).symm

theorem Dealt.length_le (dealt : session.Dealt start order) :
    session.answers.length + session.places.length = session.colorIndex := by
  have sizes := dealt.split.length_eq
  rw [List.length_append, List.length_range, dealt.length_order] at sizes
  exact sizes

/-- The questions of a session are the ten after the string that it started from. -/
theorem Dealt.questions_eq (dealt : session.Dealt start order) {questions : List ℕ}
    (given : session.questions = some questions) :
    questions = List.range' start.length 10 ∧
      start.length + 10 ≤ QuizQuestion.getNumberOfAvaliableQuestions := by
  have eq := dealt.questions.symm.trans given
  rw [QuizQuestion.getQuestion] at eq
  split at eq
  · exact ⟨(Option.some.inj eq).symm, by omega⟩
  · cases eq

/-- One more card, as long as there are colors, changes nothing but the cards. -/
theorem Dealt.nextCardView (dealt : session.Dealt start order) {questions : List ℕ}
    (given : session.questions = some questions) (room : session.places.length < 4) :
    ∃ session', session.nextCardView = some session' ∧ session'.Dealt start order ∧
      session'.questions = session.questions ∧ session'.answers = session.answers ∧
      session'.quiz = session.quiz ∧ session'.places.length ≤ session.places.length + 1 := by
  rw [Session.nextCardView]
  split
  case isFalse => exact ⟨session, rfl, dealt, rfl, rfl, rfl, Nat.le_succ _⟩
  case isTrue more =>
    rw [Session.colors] at more
    obtain ⟨rfl, _⟩ := dealt.questions_eq given
    have label : (List.range' start.length 10)[session.colorIndex]? =
        some (start.length + session.colorIndex) := by
      simp [more]
    let next : Session := { session with
      colorIndex := session.colorIndex + 1
      subviews := ⟨session.colorIndex, start.length + session.colorIndex, .snapping⟩ ::
        session.subviews }
    have grown : next.places = session.places ++ [session.colorIndex] := by
      simp [places_eq, next]
    refine ⟨next, by simp [given, label, next], ?_, rfl, rfl, rfl, ?_⟩
    · refine ⟨dealt.questions, dealt.quiz, more, by simp [next, given], ?_, ?_, ?_, dealt.answers, ?_⟩
      · intro c mem
        cases List.mem_cons.mp mem with
        | inl new => simp [new, next]
        | inr old => exact ⟨(dealt.card c old).1, Nat.lt_succ_of_lt (dealt.card c old).2⟩
      · rw [List.map_cons, List.pairwise_cons]
        refine ⟨fun place mem => ?_, dealt.sorted⟩
        obtain ⟨c, inside, rfl⟩ := List.mem_map.mp mem
        exact (dealt.card c inside).2
      · rw [grown, List.range_succ, ← List.append_assoc]
        exact dealt.split.append_right _
      · rw [grown, List.length_append, List.length_singleton]
        exact room
    · rw [grown, List.length_append, List.length_singleton]

theorem Dealt.insertCards (dealt : session.Dealt start order) {questions : List ℕ}
    (given : session.questions = some questions) {n : ℕ} (room : session.places.length + n ≤ 4) :
    ∃ session', insertCards n session = some session' ∧ session'.Dealt start order ∧
      session'.questions = session.questions ∧ session'.answers = session.answers ∧
      session'.quiz = session.quiz := by
  induction n generalizing session with
  | zero => exact ⟨session, rfl, dealt, rfl, rfl, rfl⟩
  | succ n ih =>
      obtain ⟨next, made, dealt', sameQ, sameA, same, size⟩ := dealt.nextCardView given (by omega)
      obtain ⟨last, inserted, result, q, a, z⟩ := ih dealt' (sameQ.trans given) (by omega)
      refine ⟨last, ?_, result, q.trans sameQ, a.trans sameA, z.trans same⟩
      rw [Session.insertCards, made, Option.bind_some, inserted]

/-- A session with questions never traps when its cards are filled up. -/
theorem Dealt.loadViews (dealt : session.Dealt start order) {questions : List ℕ}
    (given : session.questions = some questions) :
    ∃ session', session.loadViews = some session' ∧ session'.Dealt start order ∧
      session'.questions = session.questions ∧ session'.answers = session.answers ∧
      session'.quiz = session.quiz := by
  have few := dealt.few
  rw [length_places] at few
  rw [Session.loadViews, numberOfActiveView, if_neg (by omega)]
  exact dealt.insertCards given (by rw [length_places]; omega)

theorem find_eq_some {place : ℕ} {phase : Phase} {c : Card} (found : session.find place phase = some c) :
    c ∈ session.subviews ∧ c.place = place ∧ c.phase = phase := by
  have holds := List.find?_some found
  exact ⟨List.mem_of_find?_eq_some found, by simpa using holds⟩

theorem advance_map {α : Type*} (f : Card → α) (blind : ∀ c phase, f { c with phase := phase } = f c)
    (place : ℕ) (before after : Phase) :
    (session.advance place before after).subviews.map f = session.subviews.map f := by
  rw [advance, List.map_map]
  refine List.map_congr_left fun c _ => ?_
  rw [Function.comp_apply]
  split
  · exact blind c after
  · rfl

theorem places_moving (place : ℕ) :
    (session.advance place .snapping .moving).places = session.places := by
  rw [places_eq, places_eq, advance, List.filter_map, List.map_map]
  congr 1
  have active : ((fun c : Card => decide (c.phase ≠ .swiping)) ∘ fun c : Card =>
      if c.place = place ∧ c.phase = .snapping then { c with phase := .moving } else c) =
        fun c => decide (c.phase ≠ .swiping) := by
    funext c
    by_cases here : c.place = place ∧ c.phase = .snapping <;> simp [here]
  rw [active]
  refine List.map_congr_left fun c _ => ?_
  by_cases here : c.place = place ∧ c.phase = .snapping <;> simp [here]

theorem Dealt.places_swiping (dealt : session.Dealt start order) {card : Card}
    (inside : card ∈ session.subviews) (moving : card.phase = .moving) :
    (session.advance card.place .moving .swiping).places =
      session.places.filter (· ≠ card.place) := by
  have once := List.inj_on_of_nodup_map (dealt.sorted.imp fun {_ _} less => Nat.ne_of_gt less)
  rw [places_eq, places_eq, advance, List.filter_reverse, List.filter_map, List.filter_map,
    List.filter_filter, List.map_map]
  have active : ∀ c ∈ session.subviews, ((fun c : Card => decide (c.phase ≠ .swiping)) ∘
      fun c : Card => if c.place = card.place ∧ c.phase = .moving then { c with phase := .swiping }
        else c) c =
      (((fun p => decide (p ≠ card.place)) ∘ Card.place) c && decide (c.phase ≠ .swiping)) := by
    intro c mem
    by_cases same : c.place = card.place
    · obtain rfl := once mem inside same
      simp [moving]
    · simp [same]
  rw [List.filter_congr active]
  congr 1
  refine List.map_congr_left fun c mem => ?_
  by_cases here : c.place = card.place ∧ c.phase = .moving <;> simp [here]

/-- A card that is picked up stays where it is among the others. -/
theorem Dealt.moving (dealt : session.Dealt start order) (place : ℕ) :
    (session.advance place .snapping .moving).Dealt start order where
  questions := dealt.questions
  quiz := dealt.quiz
  colors := dealt.colors
  unopened := dealt.unopened
  card c mem := by
    obtain ⟨old, inside, rfl⟩ := List.mem_map.mp mem
    split
    · exact dealt.card old inside
    · exact dealt.card old inside
  sorted := by
    rw [advance_map _ (fun _ _ => rfl)]
    exact dealt.sorted
  split := by
    rw [places_moving]
    exact dealt.split
  answers := dealt.answers
  few := by
    rw [places_moving]
    exact dealt.few

theorem Dealt.places_sorted (dealt : session.Dealt start order) :
    session.places.Pairwise (· < ·) := by
  rw [places_eq, List.pairwise_reverse]
  exact dealt.sorted.sublist (List.filter_sublist.map _)

theorem mem_places {card : Card} (inside : card ∈ session.subviews) (moving : card.phase = .moving) :
    card.place ∈ session.places := by
  rw [places_eq, List.mem_reverse]
  exact List.mem_map_of_mem (List.mem_filter.mpr ⟨inside, by simp [moving]⟩)

/-- A card that is let go leaves the others, and its question is the one answered. -/
theorem Dealt.swiping (dealt : session.Dealt start order) {card : Card}
    (inside : card ∈ session.subviews) (moving : card.phase = .moving) (direction : Direction) :
    ((session.advance card.place .moving .swiping).didSwipe card direction).Dealt start
      (order ++ [card.place]) := by
  have present := mem_places inside moving
  have nonempty := List.length_pos_of_mem present
  have sizes := dealt.length_le
  have colors := dealt.colors
  have before : session.quiz = start := by rw [dealt.quiz, if_neg (by omega)]
  have left := dealt.places_swiping inside moving
  have once : session.places.Nodup := dealt.places_sorted.imp fun {_ _} => Nat.ne_of_lt
  have erased := once.erase_eq_filter card.place
  refine ⟨dealt.questions, ?_, dealt.colors, dealt.unopened, ?_, ?_, ?_, ?_, ?_⟩
  · simp only [didSwipe, advance, before]
  · intro c mem
    obtain ⟨old, mem', rfl⟩ := List.mem_map.mp mem
    split
    · exact dealt.card old mem'
    · exact dealt.card old mem'
  · refine (congrArg (List.Pairwise (· > ·)) ?_).mpr dealt.sorted
    exact advance_map _ (fun _ _ => rfl) _ _ _
  · change (order ++ [card.place] ++ (session.advance card.place .moving .swiping).places).Perm _
    rw [left, List.append_assoc, List.singleton_append]
    refine (List.Perm.append_left order ?_).trans dealt.split
    have split := List.perm_cons_erase present
    have others : (· != card.place) = fun place => decide (place ≠ card.place) := by
      funext place
      grind
    rw [erased, others] at split
    exact split.symm
  · rw [didSwipe, List.map_append, List.map_append, advance, dealt.answers]
    simp [(dealt.card card inside).1]
  · change (session.advance card.place .moving .swiping).places.length ≤ 4
    rw [left]
    exact (List.length_filter_le _ _).trans dealt.few

theorem Dealt.removeCards (dealt : session.Dealt start order) (gone : List ℕ) :
    (session.removeCards gone).Dealt start order := by
  have same : (session.removeCards gone).places = session.places := by
    rw [places_eq, places_eq, Session.removeCards, List.filter_filter]
    congr 2
    refine List.filter_congr fun c _ => ?_
    by_cases away : c.phase = .swiping <;> simp [away]
  refine ⟨dealt.questions, dealt.quiz, dealt.colors, dealt.unopened, ?_, ?_, ?_, dealt.answers, ?_⟩
  · exact fun c mem => dealt.card c (List.mem_of_mem_filter mem)
  · exact dealt.sorted.sublist (List.filter_sublist.map _)
  · rw [same]
    exact dealt.split
  · rw [same]
    exact dealt.few

/-- The first of the next ten questions are those of the first cards. -/
theorem front_iff (start : ℕ) (order : List ℕ) : order.map (start + ·) <+: List.range' start 10 ↔
    order = List.range order.length ∧ order.length ≤ 10 := by
  rw [List.range'_eq_map_range, List.prefix_map_iff_of_injective fun _ _ => Nat.add_left_cancel,
    List.prefix_iff_eq_take, List.take_range]
  constructor
  · intro front
    have few : order.length ≤ 10 := by
      rw [front, List.length_range]
      exact Nat.min_le_right ..
    rw [Nat.min_eq_left few] at front
    exact ⟨front, few⟩
  · rintro ⟨front, few⟩
    rwa [Nat.min_eq_left few]

theorem Dealt.aligned_iff (dealt : session.Dealt start order) {questions : List ℕ}
    (given : session.questions = some questions) :
    session.Aligned ↔ order = List.range order.length := by
  obtain ⟨rfl, _⟩ := dealt.questions_eq given
  have few : order.length ≤ 10 := by
    have sizes := dealt.length_le
    have colors := dealt.colors
    rw [dealt.length_order]
    omega
  have front := front_iff start.length order
  rw [← dealt.answers, and_iff_left few] at front
  rw [← front]
  constructor
  · rintro ⟨questions, given', here⟩
    obtain rfl := Option.some.inj (given.symm.trans given')
    exact here
  · exact fun here => ⟨_, given, here⟩

/-- As long as the answers are in order, the card on top is the one of the next question. -/
theorem Dealt.topView (dealt : session.Dealt start order) (front : order = List.range order.length)
    {top : Card} (shown : session.topView = some top) : top.place = order.length := by
  have split := dealt.split
  have apart : (order ++ session.places).Nodup := split.nodup_iff.mpr List.nodup_range
  have later : ∀ place ∈ session.places, order.length ≤ place := by
    intro place mem
    by_contra early
    have drawn : place ∈ order := by
      rw [front, List.mem_range]
      omega
    exact List.disjoint_of_nodup_append apart drawn mem
  obtain ⟨rest, views⟩ := List.head?_eq_some_iff.mp shown
  have places : session.places = top.place :: rest.map Card.place := by
    rw [Session.places, views, List.map_cons]
  have sorted := dealt.places_sorted
  rw [places, List.pairwise_cons] at sorted
  -- the place that is next is on the table, and none on it comes before
  have next : order.length ∈ session.places := by
    have sizes := split.length_eq
    rw [List.length_append, List.length_range, places, List.length_cons] at sizes
    have known : order.length ∈ order ++ session.places := by
      rw [split.mem_iff, List.mem_range]
      omega
    refine (List.mem_append.mp known).resolve_left fun drawn => ?_
    rw [front, List.length_range] at drawn
    exact absurd (List.mem_range.mp drawn) (lt_irrefl _)
  have lower := later top.place (by rw [places]; exact List.mem_cons_self)
  rw [places] at next
  cases List.mem_cons.mp next with
  | inl same => exact same.symm
  | inr below => exact absurd (sorted.1 _ below) (Nat.not_lt.mpr lower)

end Session

/-- What holds in any case: quiz strings have the answers of whole sessions, and screens know no
others than those that were uploaded. -/
structure Inv (s : State) : Prop where
  empty : [] ∈ s.versions
  tens : ∀ quiz ∈ s.versions,
    10 ∣ quiz.length ∧ quiz.length ≤ QuizQuestion.getNumberOfAvaliableQuestions
  settings : ∀ i quiz waiting, s.screens i = some (.setting quiz waiting) → quiz ∈ s.versions
  sessions : ∀ i session, s.session i = some session →
    ∃ start ∈ s.versions, ∃ order, session.Dealt start order

section Steps

variable {s s' : State} {i : ℕ}

theorem screens_put (s : State) (i j : ℕ) (screen : Option Screen) :
    (s.put i screen).screens j = if j = i then screen else s.screens j :=
  Function.update_apply s.screens i screen j

theorem session_put_of_ne {j : ℕ} (other : j ≠ i) (screen : Option Screen) :
    (s.put i screen).session j = s.session j := by
  simp only [State.session, screens_put, if_neg other]

theorem session_put_quiz (s : State) (i : ℕ) (session : Option Session) :
    (s.put i (some (.quiz session))).session i = session := by
  simp only [State.session, screens_put, if_true]

/-- One screen changes, to one without a session or to a session that started from an uploaded
string. -/
theorem Inv.put (inv : Inv s) {screen : Option Screen}
    (setting : ∀ quiz waiting, screen = some (.setting quiz waiting) → quiz ∈ s.versions)
    (session : ∀ session, screen = some (.quiz (some session)) →
      ∃ start ∈ s.versions, ∃ order, session.Dealt start order) : Inv (s.put i screen) where
  empty := inv.empty
  tens := inv.tens
  settings j quiz waiting shown := by
    rw [screens_put] at shown
    split at shown
    · exact setting quiz waiting shown
    · exact inv.settings j quiz waiting shown
  sessions j now shown := by
    by_cases same : j = i
    · subst same
      rw [State.session, screens_put, if_pos rfl] at shown
      split at shown
      · subst shown
        exact session now rfl
      · cases shown
    · rw [session_put_of_ne same] at shown
      exact inv.sessions j now shown

theorem Inv.upload (inv : Inv s) {quiz : Quiz} (tens : 10 ∣ quiz.length)
    (bounded : quiz.length ≤ QuizQuestion.getNumberOfAvaliableQuestions) :
    Inv { s with versions := s.versions ++ [quiz] } where
  empty := List.mem_append_left _ inv.empty
  tens := by
    rw [List.forall_mem_append]
    exact ⟨inv.tens, by simpa using ⟨tens, bounded⟩⟩
  settings j old waiting shown := List.mem_append_left _ (inv.settings j old waiting shown)
  sessions j session shown := by
    obtain ⟨start, known, order, dealt⟩ := inv.sessions j session shown
    exact ⟨start, List.mem_append_left _ known, order, dealt⟩

theorem Inv.goOn (inv : Inv s) {session : Option Session}
    (goes : ∀ after, session = some after → ∃ start ∈ s.versions, ∃ order, after.Dealt start order) :
    Inv (s.goOn i session) := by
  cases session with
  | none => exact ⟨inv.empty, inv.tens, by nofun, by nofun⟩
  | some after =>
      refine inv.put (by nofun) fun session same => ?_
      cases same
      exact goes after rfl

theorem Session.Dealt.unopened_trap {session : Session} {start : Quiz} {order : List ℕ}
    (dealt : session.Dealt start order) (absent : session.questions = none) :
    session.loadViews = none := by
  have first := dealt.unopened absent
  have sizes := dealt.length_le
  rw [Session.loadViews, Session.numberOfActiveView, ← Session.length_places, if_neg (by omega)]
  rw [show 4 - session.places.length = 3 + 1 by omega, Session.insertCards, Session.nextCardView,
    first, if_pos (by decide), absent]
  rfl

theorem Session.Dealt.dealt_loadViews {session after : Session} {start : Quiz} {order : List ℕ}
    (dealt : session.Dealt start order) (loaded : session.loadViews = some after) :
    after.Dealt start order := by
  cases given : session.questions with
  | none =>
      rw [dealt.unopened_trap given] at loaded
      cases loaded
  | some questions =>
      obtain ⟨after', loaded', dealt', _⟩ := dealt.loadViews given
      exact Option.some.inj (loaded'.symm.trans loaded) ▸ dealt'

theorem Session.Dealt.some_questions {session : Session} {start : Quiz} {order : List ℕ}
    (dealt : session.Dealt start order) {card : Card} (inside : card ∈ session.subviews) :
    ∃ questions, session.questions = some questions := by
  cases given : session.questions with
  | some questions => exact ⟨questions, rfl⟩
  | none =>
      have made := (dealt.card card inside).2
      rw [dealt.unopened given] at made
      cases made

/-- What a swipe leaves: the session with the card at the end of its order, and its quiz string among
the versions if that was the tenth. -/
theorem swipeView_eq {session : Session} {start : Quiz} {order : List ℕ}
    (dealt : session.Dealt start order) {place : ℕ} {card : Card}
    (found : session.find place .moving = some card) (direction : Direction) :
    ∃ after, after.Dealt start (order ++ [place]) ∧ after.questions = session.questions ∧
      (∃ questions, session.questions = some questions) ∧
      s.swipeView i session card direction =
        if after.answers.length = 10 then
          State.put { s with versions := s.versions ++ [start ++ after.answers] } i
            (some (.quiz (some after)))
        else s.put i (some (.quiz (some after))) := by
  obtain ⟨inside, rfl, moving⟩ := session.find_eq_some found
  have swiped := dealt.swiping inside moving direction
  obtain ⟨questions, given⟩ := dealt.some_questions inside
  obtain ⟨after, loaded, dealt', sameQ, sameA, sameZ⟩ := swiped.loadViews given
  refine ⟨after, dealt', sameQ, ⟨questions, given⟩, ?_⟩
  have quiz := dealt'.quiz
  rw [State.swipeView, loaded, ← sameA, ← sameZ]
  split
  · rename_i tenth
    rw [quiz, if_pos tenth]
    rfl
  · rfl

theorem Inv.swipe (inv : Inv s) {session : Session} (opened : s.session i = some session)
    {place : ℕ} {card : Card} (found : session.find place .moving = some card)
    (direction : Direction) : Inv (s.swipeView i session card direction) := by
  obtain ⟨start, known, order, dealt⟩ := inv.sessions i session opened
  obtain ⟨after, dealt', sameQ, ⟨questions, given⟩, result⟩ :=
    @swipeView_eq s i session start order dealt place card found direction
  rw [result]
  split
  · rename_i tenth
    have room := (dealt.questions_eq given).2
    obtain ⟨tens, _⟩ := inv.tens start known
    have larger : Inv { s with versions := s.versions ++ [start ++ after.answers] } := by
      refine inv.upload ?_ ?_
      · rw [List.length_append, tenth]
        exact Nat.dvd_add tens (Nat.dvd_refl 10)
      · rw [List.length_append, tenth]
        exact room
    refine larger.put (by nofun) fun session same => ?_
    cases same
    exact ⟨start, List.mem_append_left _ known, _, dealt'⟩
  · refine inv.put (by nofun) fun session same => ?_
    cases same
    exact ⟨start, known, _, dealt'⟩

theorem inv_step {e : Event} (inv : Inv s) (taken : s.step e = some s') : Inv s' := by
  cases e with
  | openSetting i =>
      simp only [State.step] at taken
      split at taken
      · cases taken
        exact inv.put (fun quiz waiting same => by cases same; exact inv.empty) (by nofun)
      · cases taken
  | appear i =>
      simp only [State.step] at taken
      split at taken
      · rename_i quiz waiting shown
        cases taken
        refine inv.put (fun quiz' waiting' same => ?_) (by nofun)
        cases same
        exact inv.settings i quiz waiting shown
      · cases taken
  | deliver i version =>
      simp only [State.step] at taken
      split at taken
      · rename_i quiz waiting shown
        have old := inv.settings i quiz _ shown
        cases version with
        | none =>
            cases taken
            exact inv.put (fun quiz' waiting' same => by cases same; exact old) (by nofun)
        | some v =>
            obtain ⟨new, found, rfl⟩ := Option.map_eq_some_iff.mp taken
            refine inv.put (fun quiz' waiting' same => ?_) (by nofun)
            cases same
            exact List.mem_of_getElem? found
      · cases version with
        | none =>
            cases taken
            refine inv.put (by nofun) fun session same => ?_
            cases same
            exact ⟨[], inv.empty, [], Session.dealt_setupQuiz []⟩
        | some v =>
            obtain ⟨new, found, rfl⟩ := Option.map_eq_some_iff.mp taken
            refine inv.put (by nofun) fun session same => ?_
            cases same
            exact ⟨new, List.mem_of_getElem? found, [], Session.dealt_setupQuiz new⟩
      · cases taken
  | tapQuiz setting i =>
      simp only [State.step] at taken
      split at taken
      · split at taken
        · cases taken
        · cases taken
          exact inv.put (by nofun) (by nofun)
      · cases taken
  | layout i =>
      obtain ⟨session, opened, rfl⟩ := Option.map_eq_some_iff.mp taken
      obtain ⟨start, known, order, dealt⟩ := inv.sessions i session opened
      exact inv.goOn fun after loaded => ⟨start, known, order, dealt.dealt_loadViews loaded⟩
  | began i place =>
      simp only [State.step, Option.bind_eq_bind, Option.bind_eq_some_iff] at taken
      obtain ⟨session, opened, card, _, same⟩ := taken
      cases same
      obtain ⟨start, known, order, dealt⟩ := inv.sessions i session opened
      refine inv.put (by nofun) fun session same => ?_
      cases same
      exact ⟨start, known, order, dealt.moving place⟩
  | ended i place direction =>
      simp only [State.step, Option.bind_eq_bind, Option.bind_eq_some_iff] at taken
      obtain ⟨session, opened, card, found, same⟩ := taken
      cases same
      exact inv.swipe opened found direction
  | removed i gone =>
      obtain ⟨session, opened, rfl⟩ := Option.map_eq_some_iff.mp taken
      obtain ⟨start, known, order, dealt⟩ := inv.sessions i session opened
      refine inv.put (by nofun) fun session same => ?_
      cases same
      exact ⟨start, known, order, dealt.removeCards gone⟩
  | save i =>
      simp only [State.step] at taken
      split at taken
      · rename_i quiz waiting shown
        cases taken
        obtain ⟨tens, bounded⟩ := inv.tens quiz (inv.settings i quiz waiting shown)
        exact inv.upload tens bounded
      · cases taken
  | close i =>
      simp only [State.step] at taken
      split at taken
      · cases taken
        exact inv.put (by nofun) (by nofun)
      · cases taken

theorem Sound.put_iff (sound : Sound s) {screen : Option Screen} : Sound (s.put i screen) ↔
    ∀ session, screen = some (.quiz (some session)) → session.Aligned := by
  constructor
  · rintro after session rfl
    exact after.sessions i session (session_put_quiz s i _)
  · intro aligned
    refine ⟨sound.versions, fun j session shown => ?_, sound.running⟩
    by_cases same : j = i
    · subst same
      rw [State.session, screens_put, if_pos rfl] at shown
      split at shown
      · subst shown
        exact aligned session rfl
      · cases shown
    · rw [session_put_of_ne same] at shown
      exact sound.sessions j session shown

theorem Sound.upload_iff (sound : Sound s) (quiz : Quiz) :
    Sound { s with versions := s.versions ++ [quiz] } ↔ InOrder quiz := by
  constructor
  · exact fun after => after.versions quiz (List.mem_append_right _ (List.mem_singleton_self quiz))
  · intro order
    refine ⟨?_, sound.sessions, sound.running⟩
    rw [List.forall_mem_append]
    exact ⟨sound.versions, by simpa using order⟩

/-- A session that starts has questions unless the string is complete. -/
theorem Inv.setupQuiz_aligned_iff (inv : Inv s) {quiz : Quiz} (known : quiz ∈ s.versions) :
    (Session.setupQuiz quiz).Aligned ↔
      quiz.length ≠ QuizQuestion.getNumberOfAvaliableQuestions := by
  obtain ⟨⟨n, tens⟩, bounded⟩ := inv.tens quiz known
  rw [QuizQuestion.getNumberOfAvaliableQuestions] at *
  constructor
  · rintro ⟨questions, given, _⟩ complete
    have room := ((Session.dealt_setupQuiz quiz).questions_eq given).2
    rw [QuizQuestion.getNumberOfAvaliableQuestions] at room
    omega
  · intro incomplete
    refine ⟨List.range' quiz.length 10, ?_, List.nil_prefix⟩
    rw [Session.setupQuiz, QuizQuestion.getQuestion, QuizQuestion.getNumberOfAvaliableQuestions,
      if_pos (by omega)]

/-- Ten answers in order behind a string in order. -/
theorem inOrder_append {session : Session} {start : Quiz} {order : List ℕ}
    (dealt : session.Dealt start order) (front : order = List.range order.length)
    (before : InOrder start) : InOrder (start ++ session.answers) := by
  have size := dealt.length_order
  rw [InOrder, List.map_append, before, dealt.answers, front, List.length_append, ← size,
    List.range_add]

/-- A swipe keeps all in order exactly when the card is the one on top. -/
theorem sound_swipe (inv : Inv s) (sound : Sound s) {session : Session}
    (opened : s.session i = some session) {place : ℕ} {card : Card}
    (found : session.find place .moving = some card) (direction : Direction) :
    Sound (s.swipeView i session card direction) ↔ Careful s (.ended i place direction) := by
  obtain ⟨start, known, order, dealt⟩ := inv.sessions i session opened
  obtain ⟨after, dealt', sameQ, ⟨questions, given⟩, result⟩ :=
    @swipeView_eq s i session start order dealt place card found direction
  have front := (dealt.aligned_iff given).mp (sound.sessions i session opened)
  have careful : Careful s (.ended i place direction) ↔ place = order.length := by
    obtain ⟨inside, rfl, moving⟩ := session.find_eq_some found
    have present := List.length_pos_of_mem (Session.mem_places inside moving)
    rw [Session.length_places] at present
    obtain ⟨top, shown⟩ : ∃ top, session.topView = some top := by
      obtain ⟨top, rest, views⟩ := List.exists_cons_of_length_pos present
      exact ⟨top, by rw [Session.topView, views, List.head?_cons]⟩
    have next := dealt.topView front shown
    simp only [Careful, opened, Option.mem_def, Option.some.injEq, forall_eq', shown, next]
    exact eq_comm
  have aligned : after.Aligned ↔ place = order.length := by
    rw [dealt'.aligned_iff (sameQ.trans given), List.length_append, List.length_singleton,
      List.range_succ, ← front]
    simp
  rw [careful, result]
  split
  · rename_i tenth
    constructor
    · intro kept
      exact aligned.mp (kept.sessions i after (session_put_quiz _ i _))
    · intro next
      have last := (dealt'.aligned_iff (sameQ.trans given)).mp (aligned.mpr next)
      have larger := (sound.upload_iff _).mpr
        (inOrder_append dealt' last (sound.versions start known))
      refine larger.put_iff.mpr fun session same => ?_
      cases same
      exact aligned.mpr next
  · rw [sound.put_iff, ← aligned]
    constructor
    · exact fun each => each after rfl
    · intro fine session same
      cases same
      exact fine

theorem sound_step {e : Event} (inv : Inv s) (sound : Sound s) (taken : s.step e = some s') :
    Sound s' ↔ Careful s e := by
  cases e with
  | openSetting i =>
      simp only [State.step] at taken
      split at taken
      · cases taken
        exact iff_of_true (sound.put_iff.mpr (by nofun)) trivial
      · cases taken
  | appear i =>
      simp only [State.step] at taken
      split at taken
      · cases taken
        exact iff_of_true (sound.put_iff.mpr (by nofun)) trivial
      · cases taken
  | deliver i version =>
      simp only [State.step] at taken
      split at taken
      · rename_i quiz waiting shown
        cases version with
        | none =>
            cases taken
            exact iff_of_true (sound.put_iff.mpr (by nofun)) trivial
        | some v =>
            obtain ⟨new, found, rfl⟩ := Option.map_eq_some_iff.mp taken
            refine iff_of_true (sound.put_iff.mpr (by nofun)) fun waits => ?_
            rw [shown] at waits
            cases waits
      · rename_i shown
        cases version with
        | none =>
            cases taken
            refine iff_of_true (sound.put_iff.mpr fun session same => ?_) trivial
            cases same
            exact (inv.setupQuiz_aligned_iff inv.empty).mpr (by decide)
        | some v =>
            obtain ⟨new, found, rfl⟩ := Option.map_eq_some_iff.mp taken
            have known := List.mem_of_getElem? found
            rw [sound.put_iff]
            simp only [Careful, shown, found, Option.mem_def, Option.some.injEq, forall_eq',
              forall_const, Screen.quiz.injEq]
            exact inv.setupQuiz_aligned_iff known
      · cases taken
  | tapQuiz setting i =>
      simp only [State.step] at taken
      split at taken
      · split at taken
        · cases taken
        · cases taken
          exact iff_of_true (sound.put_iff.mpr (by nofun)) trivial
      · cases taken
  | layout i =>
      obtain ⟨session, opened, rfl⟩ := Option.map_eq_some_iff.mp taken
      obtain ⟨start, known, order, dealt⟩ := inv.sessions i session opened
      obtain ⟨questions, given, front⟩ := sound.sessions i session opened
      obtain ⟨after, loaded, _, sameQ, sameA, _⟩ := dealt.loadViews given
      rw [loaded]
      refine iff_of_true (sound.put_iff.mpr fun session same => ?_) trivial
      cases same
      exact ⟨questions, sameQ.trans given, by rwa [sameA]⟩
  | began i place =>
      simp only [State.step, Option.bind_eq_bind, Option.bind_eq_some_iff] at taken
      obtain ⟨session, opened, card, _, same⟩ := taken
      cases same
      refine iff_of_true (sound.put_iff.mpr fun session' same => ?_) trivial
      cases same
      exact sound.sessions i session opened
  | ended i place direction =>
      simp only [State.step, Option.bind_eq_bind, Option.bind_eq_some_iff] at taken
      obtain ⟨session, opened, card, found, same⟩ := taken
      cases same
      exact sound_swipe inv sound opened found direction
  | removed i gone =>
      obtain ⟨session, opened, rfl⟩ := Option.map_eq_some_iff.mp taken
      refine iff_of_true (sound.put_iff.mpr fun session' same => ?_) trivial
      cases same
      exact sound.sessions i session opened
  | save i =>
      simp only [State.step] at taken
      split at taken
      · rename_i quiz waiting shown
        cases taken
        have known := inv.settings i quiz waiting shown
        exact iff_of_true ((sound.upload_iff quiz).mpr (sound.versions quiz known)) trivial
      · cases taken
  | close i =>
      simp only [State.step] at taken
      split at taken
      · cases taken
        exact iff_of_true (sound.put_iff.mpr (by nofun)) trivial
      · cases taken

theorem inv_start : Inv State.start where
  empty := List.mem_singleton_self []
  tens quiz mem := by
    rw [List.mem_singleton.mp mem]
    exact ⟨Nat.dvd_zero 10, Nat.zero_le _⟩
  settings := by nofun
  sessions := by nofun

theorem sound_start : Sound State.start where
  versions quiz mem := by
    rw [List.mem_singleton.mp mem]
    rfl
  sessions := by nofun
  running := rfl

end Steps

/-- Whatever the screens of any number of devices do, all uploaded answers stand in the places of
their questions and nothing traps, exactly when every swipe takes the topmost card and no session
starts from a complete string. -/
theorem cards_in_order_iff (es : List Event) :
    Always State.step Sound State.start es ↔ Meets State.step Careful State.start es :=
  always_iff_meets (fun _ _ _ inv taken => inv_step inv taken)
    (fun _ _ _ inv sound taken => sound_step inv sound taken) inv_start sound_start

end PetClump.QuizCards
