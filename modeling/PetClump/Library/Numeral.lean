import Mathlib.Data.Int.Notation
import Mathlib.Data.Nat.Notation

/-! # Signed numerals over character codes

Integers as text, the way Java's and Swift's integer parsers read them: an
optional sign and at least one digit. Which codes are digits is a parameter,
because Java accepts every decimal digit of Unicode and Swift only ASCII.
-/

namespace Numeral

def plus : ℕ := 43

def minus : ℕ := 45

variable (digit : ℕ → Option ℕ)

def digits : ℕ → List ℕ → Option ℕ
  | value, [] => some value
  | value, c :: rest => (digit c).bind fun d => digits (10 * value + d) rest

/-- The value of a nonempty run of digits. -/
def magnitude (body : List ℕ) : Option ℕ := if body = [] then none else digits digit 0 body

def parse (text : List ℕ) : Option ℤ :=
  match text with
  | [] => none
  | c :: body =>
      if c = plus then (magnitude digit body).map fun n : ℕ => (n : ℤ)
      else if c = minus then (magnitude digit body).map fun n : ℕ => -(n : ℤ)
      else (magnitude digit (c :: body)).map fun n : ℕ => (n : ℤ)

/-- The text is a numeral for `v`: a run of digits, with or without a sign in front. -/
inductive Denotes : List ℕ → ℤ → Prop where
  | unsigned {body n} (h : magnitude digit body = some n) : Denotes body n
  | plus {body n} (h : magnitude digit body = some n) : Denotes (plus :: body) n
  | minus {body n} (h : magnitude digit body = some n) : Denotes (minus :: body) (-n)

/-- A numeral whose value lies between two bounds, both included. -/
def Within (low high : ℤ) (text : List ℕ) : Prop := ∃ v, Denotes digit text v ∧ low ≤ v ∧ v ≤ high

/-- The digit function knows the ASCII digits, and no sign is a digit. -/
structure Ascii : Prop where
  decimal : ∀ d < 10, digit (48 + d) = some d
  no_plus : digit plus = none
  no_minus : digit minus = none

variable {digit}

theorem magnitude_cons_ne_none {c n : ℕ} {body : List ℕ} (h : magnitude digit (c :: body) = some n) :
    digit c ≠ none := by
  intro other
  simp [magnitude, digits, other] at h

theorem parse_eq_some (ascii : Ascii digit) {text : List ℕ} {v : ℤ} :
    parse digit text = some v ↔ Denotes digit text v := by
  constructor
  · intro h
    cases text with
    | nil => cases h
    | cons c body =>
        rw [parse] at h
        by_cases isPlus : c = plus
        · rw [if_pos isPlus, Option.map_eq_some_iff] at h
          obtain ⟨n, value, rfl⟩ := h
          exact isPlus ▸ .plus value
        · rw [if_neg isPlus] at h
          by_cases isMinus : c = minus
          · rw [if_pos isMinus, Option.map_eq_some_iff] at h
            obtain ⟨n, value, rfl⟩ := h
            exact isMinus ▸ .minus value
          · rw [if_neg isMinus, Option.map_eq_some_iff] at h
            obtain ⟨n, value, rfl⟩ := h
            exact .unsigned value
  · intro h
    cases h with
    | @unsigned _ n h =>
        cases text with
        | nil => cases h
        | cons c body =>
            have notPlus : c ≠ plus := fun same => magnitude_cons_ne_none h (same ▸ ascii.no_plus)
            have notMinus : c ≠ minus := fun same => magnitude_cons_ne_none h (same ▸ ascii.no_minus)
            rw [parse, if_neg notPlus, if_neg notMinus, h]
            rfl
    | plus h =>
        rw [parse, if_pos rfl, h]
        rfl
    | minus h =>
        have other : minus ≠ plus := by decide
        rw [parse, if_neg other, if_pos rfl, h]
        rfl

theorem digits_append (value : ℕ) (xs ys : List ℕ) :
    digits digit value (xs ++ ys) = (digits digit value xs).bind fun v => digits digit v ys := by
  induction xs generalizing value with
  | nil => rfl
  | cons c xs ih =>
      simp only [List.cons_append, digits]
      cases digit c with
      | none => rfl
      | some d => exact ih (10 * value + d)

theorem toNat_digitChar {d : ℕ} (h : d < 10) : (Nat.digitChar d).toNat = 48 + d := by
  have code := Nat.toNat_digitChar_of_lt_ten h
  omega

theorem digits_toDigits (ascii : Ascii digit) (n : ℕ) :
    digits digit 0 ((Nat.toDigits 10 n).map Char.toNat) = some n := by
  induction n using Nat.strongRecOn with
  | ind n ih =>
      by_cases small : n < 10
      · rw [Nat.toDigits_of_lt_base small]
        simp [digits, toNat_digitChar small, ascii.decimal n small]
      · have last : n % 10 < 10 := Nat.mod_lt n (by omega)
        rw [Nat.toDigits_of_base_le (by omega) (by omega), List.map_append, digits_append,
          ih (n / 10) (by omega)]
        simp only [List.map_cons, List.map_nil, Option.bind_some, digits, toNat_digitChar last,
          ascii.decimal _ last, Option.some.injEq]
        omega

theorem magnitude_repr (ascii : Ascii digit) (n : ℕ) :
    magnitude digit ((Nat.repr n).toList.map Char.toNat) = some n := by
  have nonempty : (Nat.toDigits 10 n).map Char.toNat ≠ [] := by
    rw [ne_eq, List.map_eq_nil_iff]
    exact Nat.toDigits_ne_nil
  rw [Nat.toList_repr, magnitude, if_neg nonempty, digits_toDigits ascii]

/-- What a number is printed as is a numeral for it. -/
theorem denotes_repr (ascii : Ascii digit) (v : ℤ) :
    Denotes digit (v.repr.toList.map Char.toNat) v := by
  cases v with
  | ofNat n => exact .unsigned (magnitude_repr ascii n)
  | negSucc n =>
      have printed : (Int.negSucc n).repr.toList.map Char.toNat =
          minus :: (Nat.repr (n + 1)).toList.map Char.toNat := by
        simp [Int.repr, minus]
      rw [printed, Int.negSucc_eq]
      exact .minus (magnitude_repr ascii (n + 1))

end Numeral
