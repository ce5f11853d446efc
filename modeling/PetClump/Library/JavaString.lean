import Mathlib.Data.List.DropRight
import PetClump.Library.Numeral

/-! # Java strings as code units

A Java string is a list of UTF-16 code units, and its indices may fall inside a
surrogate pair. These are the operations that parsers of short lists of numbers
use; `none` is an exception.
-/

namespace JavaString

def unitsOf (c : Char) : List ℕ :=
  if c.toNat < 0x10000 then [c.toNat]
  else [0xD800 + (c.toNat - 0x10000) / 0x400, 0xDC00 + (c.toNat - 0x10000) % 0x400]

def units (s : String) : List ℕ := s.toList.flatMap unitsOf

theorem units_append (s t : String) : units (s ++ t) = units s ++ units t := by
  simp [units, List.flatMap_append]

def length (s : String) : ℕ := (units s).length

def substring (s : List ℕ) (first last : ℤ) : Option (List ℕ) :=
  if 0 ≤ first ∧ first ≤ last ∧ last ≤ s.length then some ((s.take last.toNat).drop first.toNat)
  else none

/-- `compareTo`: the difference of the first units that differ, or else of the lengths -/
def compareTo : List ℕ → List ℕ → ℤ
  | [], t => -t.length
  | s, [] => s.length
  | a :: s, b :: t => if a = b then compareTo s t else a - b

/-- `replace` of a unit by nothing -/
def remove (c : ℕ) (s : List ℕ) : List ℕ := s.filter (· ≠ c)

/-- `split` at a unit. Empty pieces at the end are dropped, unless the unit does not occur. -/
def split (c : ℕ) (s : List ℕ) : List (List ℕ) :=
  if c ∈ s then (s.splitOn c).rdropWhile List.isEmpty else [s]

/-- The zeros of the decimal digits that take one unit. -/
def zeros : List ℕ :=
  [0x30, 0x660, 0x6F0, 0x7C0, 0x966, 0x9E6, 0xA66, 0xAE6, 0xB66, 0xBE6, 0xC66, 0xCE6, 0xD66, 0xDE6,
    0xE50, 0xED0, 0xF20, 0x1040, 0x1090, 0x17E0, 0x1810, 0x1946, 0x19D0, 0x1A80, 0x1A90, 0x1B50,
    0x1BB0, 0x1C40, 0x1C50, 0xA620, 0xA8D0, 0xA900, 0xA9D0, 0xA9F0, 0xAA50, 0xABF0, 0xFF10]

/-- `Character.digit` in base ten -/
def digit (c : ℕ) : Option ℕ :=
  (zeros.find? fun z => decide (z ≤ c ∧ c < z + 10)).map fun z => c - z

theorem ascii_digit : Numeral.Ascii digit where
  decimal := by decide
  no_plus := by decide
  no_minus := by decide

/-- `Integer.parseInt` -/
def parseInt (s : List ℕ) : Option ℤ :=
  (Numeral.parse digit s).filter fun v => decide (-2147483648 ≤ v ∧ v ≤ 2147483647)

theorem parseInt_eq_some {s : List ℕ} {v : ℤ} : parseInt s = some v ↔
    Numeral.Denotes digit s v ∧ -2147483648 ≤ v ∧ v ≤ 2147483647 := by
  rw [parseInt, Option.filter_eq_some_iff, Numeral.parse_eq_some ascii_digit, decide_eq_true_eq]

theorem parseInt_isSome {s : List ℕ} :
    (parseInt s).isSome ↔ Numeral.Within digit (-2147483648) 2147483647 s := by
  simp only [Option.isSome_iff_exists, parseInt_eq_some, Numeral.Within]

theorem unitsOf_ascii {c : Char} (h : c.toNat < 128) : unitsOf c = [c.toNat] := by
  rw [unitsOf, if_pos (by omega)]

theorem units_ascii {s : String} (h : ∀ c ∈ s.toList, c.toNat < 128) :
    units s = s.toList.map Char.toNat := by
  have each : ∀ l : List Char, (∀ c ∈ l, c.toNat < 128) → l.flatMap unitsOf = l.map Char.toNat := by
    intro l small
    induction l with
    | nil => rfl
    | cons c l ih =>
        rw [List.flatMap_cons, unitsOf_ascii (small c List.mem_cons_self), List.map_cons,
          ih fun d mem => small d (List.mem_cons_of_mem c mem)]
        rfl
  exact each s.toList h

theorem compareTo_pos : ∀ {s t : List ℕ}, 0 < compareTo s t ↔ t < s
  | [], t => by simp [compareTo]
  | a :: s, [] => by
      simp only [compareTo, List.length_cons, List.nil_lt_cons, iff_true]
      omega
  | a :: s, b :: t => by
      rw [compareTo, List.cons_lt_cons_iff]
      by_cases same : a = b
      · simp [same, compareTo_pos]
      · have other : ¬ b = a := fun back => same back.symm
        simp only [if_neg same, other, false_and, or_false]
        omega

/-- Characters that take one unit compare like their units. -/
theorem map_toNat_lt : ∀ {s t : List Char}, s.map Char.toNat < t.map Char.toNat ↔ s < t
  | _, [] => by simp
  | [], _ :: _ => by simp
  | c :: s, d :: t => by
      have less : c.toNat < d.toNat ↔ c < d := Iff.rfl
      simp only [List.map_cons, List.cons_lt_cons_iff, map_toNat_lt, less, Char.toNat_inj]

theorem compareTo_ascii {s t : String} (asciiS : ∀ c ∈ s.toList, c.toNat < 128)
    (asciiT : ∀ c ∈ t.toList, c.toNat < 128) : 0 < compareTo (units s) (units t) ↔ t < s := by
  rw [compareTo_pos, units_ascii asciiS, units_ascii asciiT, map_toNat_lt, String.lt_iff]

theorem toNat_lt_of_mem_toDigits {c : Char} {n : ℕ} (h : c ∈ Nat.toDigits 10 n) : c.toNat < 128 := by
  have isDigit := Nat.isDigit_of_mem_toDigits (by omega) (by omega) h
  simp only [Char.isDigit, Bool.and_eq_true, decide_eq_true_eq] at isDigit
  have upper := UInt32.le_iff_toNat_le.mp isDigit.2
  exact Nat.lt_of_le_of_lt upper (by decide)

theorem ascii_repr (v : ℤ) : ∀ c ∈ v.repr.toList, c.toNat < 128 := by
  cases v with
  | ofNat n =>
      intro c mem
      have printed : (Int.ofNat n).repr.toList = Nat.toDigits 10 n := Nat.toList_repr
      exact toNat_lt_of_mem_toDigits (printed ▸ mem)
  | negSucc n =>
      intro c mem
      have printed : (Int.negSucc n).repr.toList = '-' :: Nat.toDigits 10 (n + 1) := by
        simp [Int.repr]
      rw [printed] at mem
      cases mem with
      | head => decide
      | tail _ mem => exact toNat_lt_of_mem_toDigits mem

/-- An `int` is read back as it was printed. -/
theorem parseInt_repr {v : ℤ} (low : -2147483648 ≤ v) (high : v ≤ 2147483647) :
    parseInt (units v.repr) = some v := by
  rw [units_ascii (ascii_repr v), parseInt_eq_some]
  exact ⟨Numeral.denotes_repr ascii_digit v, low, high⟩

/-- Cutting off the first and the last unit takes two units. -/
theorem substring_inner (s : List ℕ) :
    substring s 1 (s.length - 1) = if 2 ≤ s.length then some s.tail.dropLast else none := by
  by_cases long : 2 ≤ s.length
  · have inside : (0 : ℤ) ≤ 1 ∧ (1 : ℤ) ≤ s.length - 1 ∧ (s.length : ℤ) - 1 ≤ s.length := by omega
    have last : ((s.length : ℤ) - 1).toNat = s.length - 1 := by omega
    rw [substring, if_pos inside, if_pos long, last, ← List.dropLast_eq_take]
    simp [List.tail_dropLast]
  · have outside : ¬ ((0 : ℤ) ≤ 1 ∧ (1 : ℤ) ≤ s.length - 1 ∧ (s.length : ℤ) - 1 ≤ s.length) := by omega
    rw [substring, if_neg outside, if_neg long]

theorem mem_intercalate {sep : List ℕ} {pieces : List (List ℕ)} {c : ℕ}
    (h : c ∈ sep.intercalate pieces) : c ∈ sep ∨ ∃ piece ∈ pieces, c ∈ piece := by
  induction pieces with
  | nil => cases h
  | cons piece pieces ih =>
      cases pieces with
      | nil => exact .inr ⟨piece, List.mem_cons_self, by simpa using h⟩
      | cons next pieces =>
          rw [List.intercalate_cons_cons, List.mem_append, List.mem_append] at h
          rcases h with (now | between) | later
          · exact .inr ⟨piece, List.mem_cons_self, now⟩
          · exact .inl between
          · exact (ih later).imp_right fun ⟨other, mem, inside⟩ =>
              ⟨other, List.mem_cons_of_mem piece mem, inside⟩

theorem filter_intercalate (keep : ℕ → Bool) (sep : List ℕ) (pieces : List (List ℕ)) :
    (sep.intercalate pieces).filter keep =
      (sep.filter keep).intercalate (pieces.map (List.filter keep)) := by
  induction pieces with
  | nil => rfl
  | cons piece pieces ih =>
      cases pieces with
      | nil => simp
      | cons next pieces =>
          simp only [List.map_cons, List.intercalate_cons_cons, List.filter_append] at ih ⊢
          rw [ih]

/-- Pieces come back when the last is not empty and none has the unit between them in it. -/
theorem split_intercalate {c : ℕ} {pieces : List (List ℕ)} (nonempty : pieces ≠ [])
    (without : ∀ piece ∈ pieces, c ∉ piece) (last : pieces.getLast nonempty ≠ []) :
    split c ([c].intercalate pieces) = pieces := by
  have back := List.splitOn_intercalate c without nonempty
  by_cases between : c ∈ [c].intercalate pieces
  · rw [split, if_pos between, back, List.rdropWhile_eq_self_iff]
    intro _
    simpa [List.isEmpty_iff] using last
  · rw [split, if_neg between, ← back, List.splitOn_eq_singleton between]
    simp

end JavaString
