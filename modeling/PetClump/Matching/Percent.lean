import Mathlib.Algebra.Order.Floor.Ring
import Mathlib.Data.Rat.Floor
import Mathlib.Tactic.Linarith
import Mathlib.Tactic.NormNum
import PetClump.Library.JavaString
import PetClump.Library.SwiftString

/-! # The matching percent of two clients

Seven tenths of the percent come from the answers of two pets, three tenths or half
of that from the distance between their owners. iOS compares metres with the
preference of the owner who looks on, Android whole kilometres with the preference of
the owner who is looked at.
-/

namespace PetClump.Percent

open SwiftString

variable {K : Type*} [Field K] [LinearOrder K] [FloorRing K]

/-- The fields of an owner that scoring reads -/
structure OwnerProfile (K : Type*) where
  lat : K
  lon : K
  distancePerference : ℕ

section Quiz

variable {α β : Type*} [DecidableEq α] [DecidableEq β]

/-- The loop of both clients, over the characters or the units of two answer strings -/
def quizScore (r1 r2 : List α) : ℚ :=
  let size := if r1.length < r2.length then r1.length else r2.length
  let sum := (List.range size).foldl (fun sum i => sum + if r1[i]? = r2[i]? then 1 else 0) (0 : ℚ)
  if size = 0 then 0 else sum / size * (7 / 10)

theorem quizScore_map {f : α → β} (injective : Function.Injective f) (r1 r2 : List α) :
    quizScore (r1.map f) (r2.map f) = quizScore r1 r2 := by
  have same : ∀ i : ℕ, (r1.map f)[i]? = (r2.map f)[i]? ↔ r1[i]? = r2[i]? := by
    intro i
    rw [List.getElem?_map, List.getElem?_map]
    exact (Option.map_injective injective).eq_iff
  simp only [quizScore, List.length_map, same]

end Quiz

namespace IOS

structure MatchingProfile where
  quiz : ℚ
  location : ℚ
  matchingPercent : ℚ
  distance : ℤ

def calculatePercentQuiz (r1 r2 : String) : ℚ :=
  quizScore (characters r1.toList) (characters r2.toList)

def validLocation (owner : OwnerProfile K) : Bool := decide (owner.lat ≠ 0 ∧ owner.lon ≠ 0)

/-- `Int(x)` cuts off the fraction, and traps on what is not a 64-bit integer. -/
def int (x : K) : Option ℤ :=
  let whole := if 0 ≤ x then ⌊x⌋ else ⌈x⌉
  if -(2 ^ 63) ≤ whole ∧ whole < 2 ^ 63 then some whole else none

/-- The distance that is shown, and the part of the percent it gives -/
def calculatePercentLocation (distance : K × K → K × K → K) (thisOwner thatOwner : OwnerProfile K) :
    Option (ℤ × ℚ) :=
  if validLocation thisOwner ∧ validLocation thatOwner then do
    let metres := distance (thisOwner.lat, thisOwner.lon) (thatOwner.lat, thatOwner.lon)
    let shown ← int metres
    let preference : K := thisOwner.distancePerference
    some (shown, if metres < preference / 2 then 3 / 10 else 15 / 100)
  else some (-1, 0)

/-- `MatchingProfile(thatOwner:thatPet:)` over `CLLocation`'s distance -/
def MatchingProfile.init (distance : K × K → K × K → K) (thisOwner thatOwner : OwnerProfile K)
    (thisQuiz thatQuiz : String) : Option MatchingProfile := do
  let quiz := calculatePercentQuiz thisQuiz thatQuiz
  let (shown, location) ← calculatePercentLocation distance thisOwner thatOwner
  some ⟨quiz, location, quiz + location, shown⟩

end IOS

namespace Android

structure MatchingProfile where
  quizPercent : ℚ
  matchingPercent : ℚ
  distance : ℤ

def calculateQuiz (q1 q2 : String) : ℚ := quizScore (JavaString.units q1) (JavaString.units q2)

/-- `Double.intValue` cuts off the fraction, and goes no further than an `int` does. -/
def intValue (x : K) : ℤ :=
  let whole := if 0 ≤ x then ⌊x⌋ else ⌈x⌉
  max (-2147483648) (min 2147483647 whole)

/-- `calculatePercent` over the distance in kilometres; `document` is the candidate's owner. -/
def MatchingProfile.calculatePercent (haversine : K × K → K × K → K) (owner document : OwnerProfile K)
    (quizResult candidateQuiz : String) : MatchingProfile :=
  let quizPercent := calculateQuiz quizResult candidateQuiz
  let distance := intValue (haversine (owner.lat, owner.lon) (document.lat, document.lon))
  let pre := document.distancePerference
  ⟨quizPercent, if distance < (pre / 2 : ℕ) then 3 / 10 + quizPercent else 15 / 100 + quizPercent,
    distance⟩

end Android

/-- iOS does not trap, and both clients come to the same percent. -/
def SamePercent (distance haversine : K × K → K × K → K) (viewer candidate : OwnerProfile K)
    (viewerQuiz candidateQuiz : String) : Prop :=
  ∃ ios, IOS.MatchingProfile.init distance viewer candidate viewerQuiz candidateQuiz = some ios ∧
    ios.matchingPercent = (Android.MatchingProfile.calculatePercent haversine viewer candidate
      viewerQuiz candidateQuiz).matchingPercent

theorem toNat_lt_of_isDigit {c : Char} (digit : c.isDigit) : c.toNat < 128 := by
  simp only [Char.isDigit, Bool.and_eq_true, decide_eq_true_eq] at digit
  exact Nat.lt_of_le_of_lt (UInt32.le_iff_toNat_le.mp digit.2) (by decide)

theorem calculateQuiz_eq {r1 r2 : String} (digits1 : ∀ c ∈ r1.toList, c.isDigit)
    (digits2 : ∀ c ∈ r2.toList, c.isDigit) :
    IOS.calculatePercentQuiz r1 r2 = Android.calculateQuiz r1 r2 := by
  have noReturn : ∀ {r : String}, (∀ c ∈ r.toList, c.isDigit) → '\r' ∉ r.toList := fun digits mem =>
    absurd (digits _ mem) (by decide)
  have singletons : Function.Injective fun c : Char => [c] := fun _ _ same => List.singleton_inj.mp same
  rw [IOS.calculatePercentQuiz, characters_eq_map (noReturn digits1), characters_eq_map (noReturn digits2),
    quizScore_map singletons, Android.calculateQuiz,
    JavaString.units_ascii fun c mem => toNat_lt_of_isDigit (digits1 c mem),
    JavaString.units_ascii fun c mem => toNat_lt_of_isDigit (digits2 c mem),
    quizScore_map fun _ _ => Char.toNat_inj.mp]

theorem int_of_nonneg {d : K} (nonneg : 0 ≤ d) : IOS.int d = if d < 2 ^ 63 then some ⌊d⌋ else none := by
  have floor : 0 ≤ ⌊d⌋ := Int.floor_nonneg.mpr nonneg
  have bound : ⌊d⌋ < 2 ^ 63 ↔ d < 2 ^ 63 := by
    rw [Int.floor_lt]
    norm_num
  have low : -(2 ^ 63) ≤ ⌊d⌋ := by omega
  simp only [IOS.int, if_pos nonneg, low, true_and, bound]

section Clients

variable {distance haversine : K × K → K × K → K}
  {viewer candidate : OwnerProfile K} {d : K}

theorem ios_matchingPercent (r1 r2 : String) (validViewer : viewer.lat ≠ 0 ∧ viewer.lon ≠ 0)
    (validCandidate : candidate.lat ≠ 0 ∧ candidate.lon ≠ 0) (nonneg : 0 ≤ d)
    (metres : distance (viewer.lat, viewer.lon) (candidate.lat, candidate.lon) = d) :
    (IOS.MatchingProfile.init distance viewer candidate r1 r2).map IOS.MatchingProfile.matchingPercent =
      if d < 2 ^ 63 then some (IOS.calculatePercentQuiz r1 r2 +
        if d < (viewer.distancePerference : K) / 2 then 3 / 10 else 15 / 100)
      else none := by
  have valid : IOS.validLocation viewer ∧ IOS.validLocation candidate :=
    ⟨decide_eq_true validViewer, decide_eq_true validCandidate⟩
  simp only [IOS.MatchingProfile.init, IOS.calculatePercentLocation, if_pos valid, metres,
    int_of_nonneg nonneg]
  by_cases small : d < 2 ^ 63 <;> simp [small]

variable [IsStrictOrderedRing K]

/-- Away from half the preference, whole kilometres are below it as the distance itself
is, up to the largest `int`. -/
theorem intValue_lt_half {x : K} {p : ℕ} (nonneg : 0 ≤ x) (margin : 1 < |x - (p : K) / 2|) :
    Android.intValue x < (p / 2 : ℕ) ↔ x < (p : K) / 2 ∨ 2 ^ 32 ≤ p := by
  have floor : 0 ≤ ⌊x⌋ := Int.floor_nonneg.mpr nonneg
  have value : Android.intValue x = min 2147483647 ⌊x⌋ := by
    simp only [Android.intValue, if_pos nonneg]
    omega
  have largest : (2147483647 : ℤ) < (p / 2 : ℕ) ↔ 2 ^ 32 ≤ p := by omega
  -- the half that Java computes is at most a half below the real one
  have halves : (p : K) = 2 * ((p / 2 : ℕ) : K) + ((p % 2 : ℕ) : K) := by
    exact_mod_cast (Nat.div_add_mod p 2).symm
  have odd : ((p % 2 : ℕ) : K) ≤ 1 := by exact_mod_cast Nat.le_of_lt_succ (Nat.mod_lt p (by omega))
  have even : (0 : K) ≤ ((p % 2 : ℕ) : K) := Nat.cast_nonneg _
  have below : ⌊x⌋ < ((p / 2 : ℕ) : ℤ) ↔ x < (p : K) / 2 := by
    rw [Int.floor_lt, Int.cast_natCast]
    constructor
    · intro less
      linarith
    · intro less
      rw [abs_of_neg (by linarith)] at margin
      linarith
  rw [value, min_lt_iff, largest, below, or_comm]

theorem android_matchingPercent (r1 r2 : String) (nonneg : 0 ≤ d)
    (kilometres : haversine (viewer.lat, viewer.lon) (candidate.lat, candidate.lon) = d / 1000)
    (margin : 1 < |d / 1000 - (candidate.distancePerference : K) / 2|) :
    (Android.MatchingProfile.calculatePercent haversine viewer candidate r1 r2).matchingPercent =
      Android.calculateQuiz r1 r2 + if d / 1000 < (candidate.distancePerference : K) / 2 ∨
        2 ^ 32 ≤ candidate.distancePerference then 3 / 10 else 15 / 100 := by
  have whole := intValue_lt_half (div_nonneg nonneg (by norm_num)) margin
  simp only [Android.MatchingProfile.calculatePercent, kilometres, whole]
  split <;> exact add_comm _ _

/-- What each client adds to the score of the answers -/
theorem samePercent_iff_branches (r1 r2 : String) (validViewer : viewer.lat ≠ 0 ∧ viewer.lon ≠ 0)
    (validCandidate : candidate.lat ≠ 0 ∧ candidate.lon ≠ 0) (nonneg : 0 ≤ d)
    (metres : distance (viewer.lat, viewer.lon) (candidate.lat, candidate.lon) = d)
    (kilometres : haversine (viewer.lat, viewer.lon) (candidate.lat, candidate.lon) = d / 1000)
    (margin : 1 < |d / 1000 - (candidate.distancePerference : K) / 2|) :
    SamePercent distance haversine viewer candidate r1 r2 ↔ d < 2 ^ 63 ∧
      (IOS.calculatePercentQuiz r1 r2 +
          if d < (viewer.distancePerference : K) / 2 then 3 / 10 else 15 / 100) =
        Android.calculateQuiz r1 r2 + if d / 1000 < (candidate.distancePerference : K) / 2 ∨
          2 ^ 32 ≤ candidate.distancePerference then 3 / 10 else 15 / 100 := by
  rw [SamePercent, ← Option.map_eq_some_iff, ios_matchingPercent r1 r2 validViewer validCandidate nonneg metres,
    android_matchingPercent r1 r2 nonneg kilometres margin]
  by_cases small : d < 2 ^ 63 <;> simp [small]

/-- The clients agree exactly when the metres fit an integer, and are below half the
viewer's preference as the kilometres are below half the candidate's. -/
theorem samePercent_iff (viewerQuiz candidateQuiz : String)
    (viewerDigits : ∀ c ∈ viewerQuiz.toList, c.isDigit)
    (candidateDigits : ∀ c ∈ candidateQuiz.toList, c.isDigit)
    (validViewer : viewer.lat ≠ 0 ∧ viewer.lon ≠ 0) (validCandidate : candidate.lat ≠ 0 ∧ candidate.lon ≠ 0)
    (nonneg : 0 ≤ d) (metres : distance (viewer.lat, viewer.lon) (candidate.lat, candidate.lon) = d)
    (kilometres : haversine (viewer.lat, viewer.lon) (candidate.lat, candidate.lon) = d / 1000)
    (margin : 1 < |d / 1000 - (candidate.distancePerference : K) / 2|) :
    SamePercent distance haversine viewer candidate viewerQuiz candidateQuiz ↔
      d < 2 ^ 63 ∧ (d < (viewer.distancePerference : K) / 2 ↔
        d / 1000 < (candidate.distancePerference : K) / 2 ∨ 2 ^ 32 ≤ candidate.distancePerference) := by
  have parts : ∀ P Q : Prop, [Decidable P] → [Decidable Q] →
      ((if P then (3 / 10 : ℚ) else 15 / 100) = (if Q then 3 / 10 else 15 / 100) ↔ (P ↔ Q)) := by
    intro P Q _ _
    by_cases p : P <;> by_cases q : Q <;> norm_num [p, q]
  rw [samePercent_iff_branches viewerQuiz candidateQuiz validViewer validCandidate nonneg metres
    kilometres margin, calculateQuiz_eq viewerDigits candidateDigits, add_right_inj, parts]

/-- Two owners at one place -/
theorem samePercent_iff_same_place : SamePercent (K := ℚ) (fun _ _ => 0) (fun _ _ => 0) ⟨1, 1, 100⟩
    ⟨1, 1, 100⟩ "012" "0120" ↔ (0 : ℚ) < 2 ^ 63 ∧ ((0 : ℚ) < (100 : ℕ) / 2 ↔
      (0 : ℚ) / 1000 < (100 : ℕ) / 2 ∨ 2 ^ 32 ≤ 100) :=
  samePercent_iff "012" "0120" (by simp) (by simp) (by norm_num) (by norm_num) le_rfl rfl
    (by norm_num) (by norm_num [abs_of_neg])

/-- Ten kilometres are within half of a hundred, ten thousand metres are not. -/
theorem not_samePercent_ten_kilometres :
    (1 < |(10000 : ℚ) / 1000 - (100 : ℕ) / 2|) ∧
    ¬ SamePercent (K := ℚ) (fun _ _ => 10000) (fun _ _ => 10000 / 1000) ⟨37, -122, 100⟩
      ⟨37.09, -122, 100⟩ "" "" := by
  refine ⟨by norm_num [abs_of_neg], fun same => ?_⟩
  have quiz : IOS.calculatePercentQuiz "" "" = Android.calculateQuiz "" "" :=
    calculateQuiz_eq (by simp) (by simp)
  have equal := ((samePercent_iff_branches "" "" (d := 10000) (by norm_num) (by norm_num) (by norm_num) rfl rfl
    (by norm_num [abs_of_neg])).mp same).2
  rw [quiz, add_right_inj] at equal
  norm_num at equal

end Clients

end PetClump.Percent
