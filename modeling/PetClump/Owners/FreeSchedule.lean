import PetClump.Library.JavaString
import PetClump.Library.PartialMap
import PetClump.Library.RowMajor
import PetClump.Library.SwiftString

/-! # The weekly schedule of an owner

A schedule is kept as a string of 21 marks, three parts for each of seven days, and
read into a matrix. A string of any other length is read as 21 zeros, but the string
itself is kept as it came, and the two clients go on using it.
-/

namespace PetClump.FreeTime

open PartialMap RowMajor SwiftString

/-- The table before the loop -/
def blank : Table 7 3 Bool := fun _ _ => false

namespace IOS

structure FreeSchedule where
  freeMatrix : Table 7 3 Bool
  freeTimeAsString : List Character

namespace FreeSchedule

/-- The mark of a free part of a day -/
abbrev one : Character := ['1']

abbrev zero : Character := ['0']

/-- `FreeSchedule(freeString:)`; `none` is a trap. -/
def init (freeString : List Character) : Option FreeSchedule := do
  let chars := if freeString.length ≠ 21 then characters "000000000000000000000".toList else freeString
  let freeMatrix ← fill blank (chars.map fun char => some (decide (char = one))) 0 0
  some ⟨freeMatrix, freeString⟩

def isFree (schedule : FreeSchedule) (weekDay partDay : ℤ) : Option Bool :=
  schedule.freeMatrix.get weekDay partDay

/-- The other schedule is looked at only where this one has a mark. -/
def commonMark (thisTime otherTime : List Character) (index : ℕ) : Option Character := do
  if (← thisTime[index]?) = one then
    if (← otherTime[index]?) = one then some one else some zero
  else some zero

def getCommonFreeTime (this other : FreeSchedule) : Option FreeSchedule := do
  let thisTime := this.freeTimeAsString
  let otherTime := other.freeTimeAsString
  -- `0...(thisTime.count - 1)` is not a range when nothing is in the string
  if thisTime = [] then none
  let commonString ← (List.range thisTime.length).mapM (commonMark thisTime otherTime)
  init commonString

/-- What the matrix of a string says -/
def marked (freeString : List Character) (number : ℕ) : Bool :=
  decide (freeString.length = 21 ∧ freeString[number]? = some one)

theorem marks_eq (freeString : List Character) :
    ((if freeString.length ≠ 21 then characters "000000000000000000000".toList else freeString).map
      fun char => some (decide (char = one))) = ((List.range 21).map (marked freeString)).map some := by
  split
  case isTrue other =>
    have unmarked : marked freeString = fun _ => false := by
      funext number
      exact decide_eq_false fun h => other h.1
    rw [unmarked]
    decide
  case isFalse same =>
    have all : freeString.length = 21 := not_not.mp same
    refine List.ext_getElem (by simp [all]) fun n inside _ => ?_
    rw [List.length_map] at inside
    simp [marked, all, List.getElem?_eq_getElem inside]

theorem init_eq (freeString : List Character) :
    ∃ freeMatrix, init freeString = some ⟨freeMatrix, freeString⟩ ∧
      ∀ (i : Fin 7) (j : Fin 3), freeMatrix i j = marked freeString (i.val * 3 + j.val) := by
  obtain ⟨m, filled, cells⟩ := fill_from_first blank ((List.range 21).map (marked freeString)) (by simp)
  refine ⟨m, ?_, fun i j => ?_⟩
  · simp only [init, marks_eq, filled, Option.bind_eq_bind, Option.bind_some]
  · have inside : i.val * 3 + j.val < 21 := by omega
    rw [cells, List.getElem?_map, List.getElem?_range inside]
    rfl

/-- Building a schedule never fails, and keeps the string as it came. -/
theorem init_some {freeString : List Character} {schedule : FreeSchedule}
    (built : init freeString = some schedule) : schedule.freeTimeAsString = freeString := by
  obtain ⟨m, result, _⟩ := init_eq freeString
  rw [result, Option.some_inj] at built
  rw [← built]

theorem isFree_init {freeString : List Character} {schedule : FreeSchedule}
    (built : init freeString = some schedule) {weekDay partDay : ℤ} (day : 0 ≤ weekDay ∧ weekDay < 7)
    (part : 0 ≤ partDay ∧ partDay < 3) :
    schedule.isFree weekDay partDay = some (marked freeString (3 * weekDay + partDay).toNat) := by
  obtain ⟨m, result, cells⟩ := init_eq freeString
  rw [result, Option.some_inj] at built
  have number : weekDay.toNat * 3 + partDay.toNat = (3 * weekDay + partDay).toNat := by omega
  rw [← built, isFree, Table.get_eq _ day part, ← number]
  exact congrArg some (cells _ _)

theorem commonMark_isSome {s t : List Character} {n : ℕ} (inside : n < s.length) :
    (commonMark s t n).isSome ↔ (s[n]? = some one → n < t.length) := by
  rw [commonMark, List.getElem?_eq_getElem inside]
  by_cases marked : s[n] = one
  · rcases Nat.lt_or_ge n t.length with within | beyond
    · simp only [Option.bind_eq_bind, Option.bind_some, marked, List.getElem?_eq_getElem within, if_true]
      split <;> simp [within]
    · simp [marked, Nat.not_lt.mpr beyond]
  · simp [marked]

theorem commonMark_eq_one {s t : List Character} {n : ℕ} :
    commonMark s t n = some one ↔ s[n]? = some one ∧ t[n]? = some one := by
  have differ : zero ≠ one := by decide
  cases this : s[n]? with
  | none => simp [commonMark, this]
  | some c =>
      by_cases marked : c = one
      · cases other : t[n]? with
        | none => simp [commonMark, this, other, marked]
        | some d => by_cases same : d = one <;> simp [commonMark, this, other, marked, same]
      · simp [commonMark, this, marked]

/-- The loop over the first string traps only where it looks past the end of the second. -/
theorem commonString_isSome {s t : List Character} :
    ((List.range s.length).mapM (commonMark s t)).isSome ↔ ∀ n : ℕ, s[n]? = some one → n < t.length := by
  rw [isSome_mapM_iff]
  constructor
  · intro ended n marked
    have inside : n < s.length := (List.getElem?_eq_some_iff.mp marked).1
    exact (commonMark_isSome inside).mp (ended n (List.mem_range.mpr inside)) marked
  · intro within n mem
    exact (commonMark_isSome (List.mem_range.mp mem)).mpr (within n)

theorem commonString_marked {s t common : List Character}
    (result : (List.range s.length).mapM (commonMark s t) = some common) (n : ℕ) :
    marked common n = decide (s.length = 21 ∧ s[n]? = some one ∧ t[n]? = some one) := by
  have values := mapM_eq_some.mp result
  have length : common.length = s.length := by simpa using (congrArg List.length values).symm
  rw [marked, length, decide_eq_decide, and_congr_right_iff]
  intro _
  rw [← commonMark_eq_one]
  have at_n := congrArg (fun l => l[n]?) values
  simp only [List.getElem?_map] at at_n
  rcases Nat.lt_or_ge n s.length with inside | beyond
  · rw [List.getElem?_range inside, List.getElem?_eq_getElem (by omega), Option.map_some,
      Option.map_some, Option.some_inj] at at_n
    rw [at_n, List.getElem?_eq_getElem (by omega)]
  · simp [commonMark, length, beyond]

theorem getCommonFreeTime_eq {s t : List Character} {a b : FreeSchedule} (first : init s = some a)
    (second : init t = some b) :
    a.getCommonFreeTime b = if s = [] then none
      else ((List.range s.length).mapM (commonMark s t)).bind init := by
  rw [getCommonFreeTime, init_some first, init_some second]
  by_cases empty : s = [] <;> simp [empty]

/-- `getCommonFreeTime` answers, and its answer is free when both schedules are. -/
def Intersects (s t : List Character) : Prop :=
  ∃ a b common, init s = some a ∧ init t = some b ∧ a.getCommonFreeTime b = some common ∧
    ∀ weekDay partDay : ℤ, 0 ≤ weekDay ∧ weekDay < 7 → 0 ≤ partDay ∧ partDay < 3 →
      (common.isFree weekDay partDay = some true ↔
        a.isFree weekDay partDay = some true ∧ b.isFree weekDay partDay = some true)

/-- The cells of the matrix are the numbers below 21. -/
theorem forall_cells {P : ℕ → Prop} :
    (∀ weekDay partDay : ℤ, 0 ≤ weekDay ∧ weekDay < 7 → 0 ≤ partDay ∧ partDay < 3 →
      P (3 * weekDay + partDay).toNat) ↔ ∀ n < 21, P n := by
  constructor
  · intro cells n inside
    have number : (3 * ((n / 3 : ℕ) : ℤ) + ((n % 3 : ℕ) : ℤ)).toNat = n := by omega
    have cell := cells (n / 3 : ℕ) (n % 3 : ℕ) (by omega) (by omega)
    rwa [number] at cell
  · intro numbers weekDay partDay day part
    exact numbers _ (by omega)

theorem shared_iff (s t : List Character) :
    (∀ n < 21, s.length = 21 ∧ s[n]? = some one ∧ t[n]? = some one ↔
      (s.length = 21 ∧ s[n]? = some one) ∧ t.length = 21 ∧ t[n]? = some one) ↔
    (s.length = 21 → t.length = 21 ∨ ∀ n : ℕ, ¬ (s[n]? = some one ∧ t[n]? = some one)) := by
  constructor
  · intro same first
    by_contra neither
    obtain ⟨second, n, both⟩ : t.length ≠ 21 ∧ ∃ n : ℕ, s[n]? = some one ∧ t[n]? = some one := by
      simpa using neither
    have inside : n < s.length := (List.getElem?_eq_some_iff.mp both.1).1
    exact second ((same n (first ▸ inside)).mp ⟨first, both⟩).2.1
  · intro apart n _
    constructor
    · rintro ⟨first, both⟩
      have second := (apart first).resolve_right fun never => never n both
      exact ⟨⟨first, both.1⟩, second, both.2⟩
    · rintro ⟨⟨first, this⟩, _, other⟩
      exact ⟨first, this, other⟩

/-- The common free time is the intersection exactly when the first string is not
empty, has no mark past the end of the second, and shares no mark with a second
string of the wrong length. -/
theorem intersects_iff (s t : List Character) : Intersects s t ↔
    s ≠ [] ∧ (∀ n : ℕ, s[n]? = some one → n < t.length) ∧
      (s.length = 21 → t.length = 21 ∨ ∀ n : ℕ, ¬ (s[n]? = some one ∧ t[n]? = some one)) := by
  obtain ⟨ma, first, _⟩ := init_eq s
  obtain ⟨mb, second, _⟩ := init_eq t
  have answer := getCommonFreeTime_eq first second
  -- what the answer says, once there is one
  have agrees : ∀ {common : List Character} {schedule : FreeSchedule},
      (List.range s.length).mapM (commonMark s t) = some common → init common = some schedule →
      ((∀ weekDay partDay : ℤ, 0 ≤ weekDay ∧ weekDay < 7 → 0 ≤ partDay ∧ partDay < 3 →
        (schedule.isFree weekDay partDay = some true ↔
          isFree ⟨ma, s⟩ weekDay partDay = some true ∧ isFree ⟨mb, t⟩ weekDay partDay = some true)) ↔
      (s.length = 21 → t.length = 21 ∨ ∀ n : ℕ, ¬ (s[n]? = some one ∧ t[n]? = some one))) := by
    intro common schedule result built
    rw [← shared_iff, ← forall_cells]
    refine forall_congr' fun weekDay => forall_congr' fun partDay => forall_congr' fun day =>
      forall_congr' fun part => ?_
    rw [isFree_init built day part, isFree_init first day part, isFree_init second day part]
    simp only [Option.some_inj, commonString_marked result, decide_eq_true_eq]
    simp only [marked, decide_eq_true_eq]
  constructor
  · rintro ⟨a, b, schedule, built, built', common, same⟩
    obtain rfl := Option.some_inj.mp (first.symm.trans built)
    obtain rfl := Option.some_inj.mp (second.symm.trans built')
    rw [answer] at common
    split at common
    case isTrue => cases common
    case isFalse nonempty =>
      obtain ⟨commonString, result, rebuilt⟩ := Option.bind_eq_some_iff.mp common
      refine ⟨nonempty, commonString_isSome.mp ?_, (agrees result rebuilt).mp same⟩
      rw [result]
      rfl
  · rintro ⟨nonempty, within, apart⟩
    obtain ⟨commonString, result⟩ := Option.isSome_iff_exists.mp (commonString_isSome.mpr within)
    obtain ⟨m, rebuilt, _⟩ := init_eq commonString
    refine ⟨_, _, _, first, second, ?_, (agrees result rebuilt).mpr apart⟩
    rw [answer, if_neg nonempty, result]
    exact rebuilt

/-- The schedule of a new profile has nothing to loop over. -/
theorem not_intersects_new_profile : ¬ Intersects (characters "".toList) (characters "".toList) := by
  rintro ⟨a, b, common, first, second, answer, _⟩
  rw [getCommonFreeTime, init_some first] at answer
  cases answer

end FreeSchedule

end IOS

namespace Android

structure FreeSchedule where
  freeMatrix : Table 7 3 Bool
  freeString : String

namespace FreeSchedule

/-- `new FreeSchedule(freeString)`; `none` is an exception. The loop counts to the
length of the string it was given, and reads the one that replaced it. -/
def init (freeString : String) : Option FreeSchedule := do
  let given := JavaString.units freeString
  let chars := if given.length ≠ 21 then JavaString.units "000000000000000000000" else given
  let values := (List.range given.length).map fun i => (chars[i]?).map fun char => decide (char = '1'.toNat)
  let freeMatrix ← fill blank values 0 0
  some ⟨freeMatrix, freeString⟩

def isFree (schedule : FreeSchedule) (weekDay partDay : ℤ) : Option Bool :=
  schedule.freeMatrix.get (weekDay - 1) (partDay - 1)

def marked (freeString : String) (number : ℕ) : Bool :=
  decide ((JavaString.units freeString).length = 21 ∧
    (JavaString.units freeString)[number]? = some '1'.toNat)

theorem values_eq {given : List ℕ} (short : given.length ≤ 21) :
    ((List.range given.length).map fun i =>
      ((if given.length ≠ 21 then JavaString.units "000000000000000000000" else given)[i]?).map
        fun char => decide (char = '1'.toNat)) =
    ((List.range given.length).map fun i =>
      decide (given.length = 21 ∧ given[i]? = some '1'.toNat)).map some := by
  rw [List.map_map]
  refine List.map_congr_left fun i mem => ?_
  have inside : i < given.length := List.mem_range.mp mem
  split
  case isTrue other =>
    have zeros : ∀ i < 21, (JavaString.units "000000000000000000000")[i]? = some '0'.toNat := by decide
    rw [zeros i (by omega)]
    simp [other]
  case isFalse same => simp [not_not.mp same, List.getElem?_eq_getElem inside]

theorem init_eq {freeString : String} (short : JavaString.length freeString ≤ 21) :
    ∃ freeMatrix, init freeString = some ⟨freeMatrix, freeString⟩ ∧
      ∀ (i : Fin 7) (j : Fin 3), freeMatrix i j = marked freeString (i.val * 3 + j.val) := by
  rw [JavaString.length] at short
  obtain ⟨m, filled, cells⟩ := fill_from_first blank ((List.range (JavaString.units freeString).length).map
    fun i => marked freeString i) (by simpa using short)
  refine ⟨m, ?_, fun i j => ?_⟩
  · simp only [marked] at filled
    simp only [init, values_eq short, filled, Option.bind_eq_bind, Option.bind_some]
  · rw [cells, List.getElem?_map]
    rcases Nat.lt_or_ge (i.val * 3 + j.val) (JavaString.units freeString).length with inside | beyond
    · rw [List.getElem?_range inside]
      rfl
    · simp [marked, blank, beyond]

/-- A string of more than 21 units takes the loop past the matrix. -/
theorem init_of_long {freeString : String} (long : 21 < JavaString.length freeString) :
    init freeString = none := by
  rw [JavaString.length] at long
  have nonempty : (JavaString.units freeString).length ≠ 0 := by omega
  have left := fill_of_lt blank 0 ((List.range (JavaString.units freeString).length).map fun i =>
    ((if (JavaString.units freeString).length ≠ 21 then JavaString.units "000000000000000000000"
      else JavaString.units freeString)[i]?).map fun char => decide (char = '1'.toNat))
    (by simpa using nonempty) (by simpa using long)
  rw [Nat.zero_div, Nat.zero_mod] at left
  simp only [init, left, Option.bind_eq_bind, Option.bind_none]

theorem isFree_init {freeString : String} {schedule : FreeSchedule}
    (built : init freeString = some schedule) {weekDay partDay : ℤ} (day : 1 ≤ weekDay ∧ weekDay ≤ 7)
    (part : 1 ≤ partDay ∧ partDay ≤ 3) : schedule.isFree weekDay partDay =
      some (marked freeString (3 * (weekDay - 1) + (partDay - 1)).toNat) := by
  have short : JavaString.length freeString ≤ 21 := by
    by_contra long
    rw [init_of_long (Nat.lt_of_not_le long)] at built
    cases built
  obtain ⟨m, result, cells⟩ := init_eq short
  rw [result, Option.some_inj] at built
  have number : (weekDay - 1).toNat * 3 + (partDay - 1).toNat =
      (3 * (weekDay - 1) + (partDay - 1)).toNat := by omega
  rw [← built, isFree, Table.get_eq m (by omega) (by omega), ← number]
  exact congrArg some (cells _ _)

end FreeSchedule

end Android

section Clients

/-- Android reads the string without failing, and each client's answer for a part of
a day is whether a string of 21 characters has its mark there. -/
def SameReading (s : String) : Prop :=
  ∃ a b, Android.FreeSchedule.init s = some a ∧
    IOS.FreeSchedule.init (characters s.toList) = some b ∧
    ∀ weekDay partDay : ℤ, 1 ≤ weekDay ∧ weekDay ≤ 7 → 1 ≤ partDay ∧ partDay ≤ 3 →
      ∃ free, a.isFree weekDay partDay = some free ∧ b.isFree (weekDay - 1) (partDay - 1) = some free ∧
        (free = true ↔ s.toList.length = 21 ∧
          s.toList[(3 * (weekDay - 1) + (partDay - 1)).toNat]? = some '1')

variable {s : String}

theorem android_marked (ascii : ∀ c ∈ s.toList, c.toNat < 128) (n : ℕ) :
    Android.FreeSchedule.marked s n = decide (s.toList.length = 21 ∧ s.toList[n]? = some '1') := by
  rw [Android.FreeSchedule.marked, JavaString.units_ascii ascii, List.length_map, List.getElem?_map,
    decide_eq_decide]
  refine and_congr_right fun _ => ?_
  cases s.toList[n]? with
  | none => simp
  | some c => simp [← Char.toNat_inj]

theorem ios_marked (lines : '\r' ∉ s.toList) (n : ℕ) :
    IOS.FreeSchedule.marked (characters s.toList) n =
      decide (s.toList.length = 21 ∧ s.toList[n]? = some '1') := by
  rw [IOS.FreeSchedule.marked, characters_eq_map lines, List.length_map, List.getElem?_map,
    decide_eq_decide]
  refine and_congr_right fun _ => ?_
  cases s.toList[n]? <;> simp

/-- The clients read a string without line breaks alike exactly when it has no more
than 21 characters. -/
theorem sameReading_iff (ascii : ∀ c ∈ s.toList, c.toNat < 128)
    (lines : ∀ c ∈ s.toList, c ≠ '\r' ∧ c ≠ '\n') : SameReading s ↔ s.toList.length ≤ 21 := by
  have length : JavaString.length s = s.toList.length := by
    rw [JavaString.length, JavaString.units_ascii ascii, List.length_map]
  have noReturn : '\r' ∉ s.toList := fun mem => (lines _ mem).1 rfl
  constructor
  · rintro ⟨a, _, built, _⟩
    by_contra long
    rw [Android.FreeSchedule.init_of_long (by omega)] at built
    cases built
  · intro short
    obtain ⟨ma, android, _⟩ := Android.FreeSchedule.init_eq (length.trans_le short)
    obtain ⟨mb, ios, _⟩ := IOS.FreeSchedule.init_eq (characters s.toList)
    refine ⟨_, _, android, ios, fun weekDay partDay day part => ⟨_,
      Android.FreeSchedule.isFree_init android day part, ?_, ?_⟩⟩
    · rw [IOS.FreeSchedule.isFree_init ios (by omega) (by omega), ios_marked noReturn,
        android_marked ascii]
    · rw [android_marked ascii, decide_eq_true_eq]

theorem sameReading_iff_one_mark : SameReading "1" ↔ "1".toList.length ≤ 21 :=
  sameReading_iff (by simp) (by simp)

/-- One mark too many for the matrix -/
theorem not_sameReading_twenty_two :
    (∀ c ∈ "1000000000000000000000".toList, c.toNat < 128 ∧ c ≠ '\r' ∧ c ≠ '\n') ∧
      ¬ SameReading "1000000000000000000000" := by
  refine ⟨by simp, ?_⟩
  rintro ⟨a, _, built, _⟩
  have left : Android.FreeSchedule.init "1000000000000000000000" = none := by decide
  rw [left] at built
  cases built

end Clients

end PetClump.FreeTime
