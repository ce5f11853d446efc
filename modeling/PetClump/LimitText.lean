import PetClump.Library.Graphemes
import PetClump.Library.JavaString
import PetClump.Library.Runs

/-! # Text limits on iOS

Two delegates decide about every edit of a text that is limited to a number of
characters. UIKit gives the edited range in UTF-16 units, and the delegates take its
length from a count of characters. When a scalar joins the character before it is a
parameter, since it depends on the version of Unicode.
-/

namespace PetClump.LimitText

open Graphemes Runs

structure NSRange where
  location : ℕ
  length : ℕ

structure Edit where
  range : NSRange
  string : List Char

/-- The length in UTF-16 units. -/
def utf16 (text : List Char) : ℕ := (text.flatMap JavaString.unitsOf).length

section Delegates

variable (joins : List Char → Char → Bool)

/-- `count` of a string -/
def count (text : List Char) : ℕ := (segments joins text).length

def newLength (text : List Char) (range : NSRange) (string : List Char) : ℤ :=
  count joins text + count joins string - range.length

/-- `LimitTextFieldDelegate`; the text of a field may be nil. -/
def shouldChangeCharactersIn (limitCount : ℤ) (text : Option (List Char)) (range : NSRange)
    (string : List Char) : Bool :=
  match text with
  | none => true
  | some text => newLength joins text range string ≤ limitCount

/-- `LimitTextViewDelegate`, with the text of the label before and after. -/
def shouldChangeTextIn (limitCount : ℤ) (remainingLable : String) (text : Option (List Char)) (range : NSRange)
    (string : List Char) : Bool × String :=
  match text with
  | none => (true, remainingLable)
  | some t =>
      let newLength := newLength joins t range string
      (newLength ≤ limitCount, newLength.repr ++ "/" ++ limitCount.repr)

inductive Delegate where
  | textField
  | textView

structure Input where
  text : List Char
  remainingLable : String

def Delegate.answer (delegate : Delegate) (limitCount : ℤ) (s : Input) (e : Edit) : Bool × String :=
  match delegate with
  | textField => (shouldChangeCharactersIn joins limitCount (some s.text) e.range e.string, s.remainingLable)
  | textView => shouldChangeTextIn joins limitCount s.remainingLable (some s.text) e.range e.string

/-- The characters that make up the first units; `none` when these end inside a character. -/
def takeUnits : ℕ → List (List Char) → Option (List (List Char) × List (List Char))
  | 0, characters => some ([], characters)
  | _ + 1, [] => none
  | n + 1, c :: characters =>
      if utf16 c ≤ n + 1 then
        (takeUnits (n + 1 - utf16 c) characters).map fun (first, rest) => (c :: first, rest)
      else none

/-- A text cut at both ends of a range. -/
structure Cut where
  before : List (List Char)
  removed : List (List Char)
  after : List (List Char)

def cut (text : List Char) (range : NSRange) : Option Cut := do
  let (before, rest) ← takeUnits range.location (segments joins text)
  let (removed, after) ← takeUnits range.length rest
  some ⟨before, removed, after⟩

/-- The text after the edit. -/
def Cut.replace (c : Cut) (string : List Char) : List Char := c.before.flatten ++ string ++ c.after.flatten

/-- An edit on character boundaries, applied when the delegate allows it. -/
def step (delegate : Delegate) (limitCount : ℤ) (s : Input) (e : Edit) : Option Input :=
  (cut joins s.text e.range).map fun c =>
    let (allowed, label) := delegate.answer joins limitCount s e
    ⟨if allowed then c.replace e.string else s.text, label⟩

end Delegates

variable {joins : List Char → Char → Bool}

theorem utf16_append (s t : List Char) : utf16 (s ++ t) = utf16 s + utf16 t := by
  rw [utf16, List.flatMap_append, List.length_append, utf16, utf16]

theorem takeUnits_append {n : ℕ} {characters first rest : List (List Char)}
    (taken : takeUnits n characters = some (first, rest)) :
    characters = first ++ rest ∧ utf16 first.flatten = n := by
  induction characters generalizing n first rest with
  | nil =>
      cases n with
      | zero => cases taken; exact ⟨rfl, rfl⟩
      | succ n => cases taken
  | cons c characters ih =>
      cases n with
      | zero => cases taken; exact ⟨rfl, rfl⟩
      | succ n =>
          rw [takeUnits] at taken
          by_cases fits : utf16 c ≤ n + 1
          · rw [if_pos fits, Option.map_eq_some_iff] at taken
            obtain ⟨⟨first, rest⟩, taken, same⟩ := taken
            cases same
            obtain ⟨rfl, units⟩ := ih taken
            refine ⟨rfl, ?_⟩
            rw [List.flatten_cons, utf16_append, units]
            omega
          · rw [if_neg fits] at taken
            cases taken

theorem cut_eq_some {text : List Char} {range : NSRange} {c : Cut} (cutting : cut joins text range = some c) :
    segments joins text = c.before ++ (c.removed ++ c.after) ∧ utf16 c.removed.flatten = range.length := by
  simp only [cut, Option.bind_eq_bind, Option.bind_eq_some_iff, Option.some_inj] at cutting
  obtain ⟨⟨before, rest⟩, first, ⟨removed, after⟩, second, rfl⟩ := cutting
  obtain ⟨whole, _⟩ := takeUnits_append first
  obtain ⟨rfl, units⟩ := takeUnits_append second
  exact ⟨whole, units⟩

section Counting

variable (joins)

/-- The characters that are removed have one unit each, or no more than these are put in their place, and
where the replacement meets what is kept nothing joins the character before it. -/
def Plain (s : Input) (e : Edit) : Prop :=
  ∀ c ∈ cut joins s.text e.range,
    ((∀ character ∈ c.removed, utf16 character = 1) ∨ count joins e.string ≤ c.removed.length) ∧
      Boundary joins c.before.flatten e.string ∧ Boundary joins (c.before.flatten ++ e.string) c.after.flatten

instance (s : Input) (e : Edit) : Decidable (Plain joins s e) :=
  inferInstanceAs (Decidable (∀ c ∈ cut joins s.text e.range, (_ ∨ _) ∧ _ ∧ _))

def Within (limitCount : ℤ) (s : Input) : Prop := count joins s.text ≤ limitCount

instance (limitCount : ℤ) (s : Input) : Decidable (Within joins limitCount s) :=
  inferInstanceAs (Decidable (_ ≤ _))

/-- An edit whose result is within the limit is not refused. -/
def Served (delegate : Delegate) (limitCount : ℤ) (s : Input) (e : Edit) : Prop :=
  ∀ c ∈ cut joins s.text e.range, count joins (c.replace e.string) ≤ limitCount →
    (delegate.answer joins limitCount s e).1 = true

end Counting

/-- On ASCII texts all versions of Unicode count alike. -/
theorem count_ascii {p : Properties} (right : p.Ascii) {text : List Char} (ascii : ∀ c ∈ text, c.toNat < 128) :
    count p.joins text = (SwiftString.characters text).length := by
  rw [count, segments_ascii right text ascii]

theorem utf16_flatten {characters : List (List Char)} (single : ∀ c ∈ characters, utf16 c = 1) :
    utf16 characters.flatten = characters.length := by
  induction characters with
  | nil => rfl
  | cons c characters ih =>
      obtain ⟨first, later⟩ := List.forall_mem_cons.mp single
      rw [List.flatten_cons, utf16_append, first, ih later, List.length_cons, Nat.add_comm]

/-- The text of a cut has the characters of its three parts. -/
theorem count_cut {text : List Char} {range : NSRange} {c : Cut} (cutting : cut joins text range = some c) :
    count joins text = count joins c.before.flatten + c.removed.length + count joins c.after.flatten := by
  obtain ⟨whole, _⟩ := cut_eq_some cutting
  obtain ⟨before, rest⟩ := segments_split whole
  obtain ⟨_, after⟩ := segments_split rest
  rw [count, count, count, whole, before, after, List.length_append, List.length_append, Nat.add_assoc]

theorem count_replace {c : Cut} {string : List Char} (left : Boundary joins c.before.flatten string)
    (right : Boundary joins (c.before.flatten ++ string) c.after.flatten) :
    count joins (c.replace string) =
      count joins c.before.flatten + count joins string + count joins c.after.flatten := by
  rw [count, Cut.replace, segments_append right, segments_append left, List.length_append, List.length_append]
  rfl

theorem one_le_unitsOf (c : Char) : 1 ≤ (JavaString.unitsOf c).length := by
  unfold JavaString.unitsOf
  split <;> simp

theorem length_le_utf16 {characters : List (List Char)} (begun : [] ∉ characters) :
    characters.length ≤ utf16 characters.flatten := by
  induction characters with
  | nil => exact Nat.zero_le _
  | cons character characters ih =>
      have first : character ≠ [] := (List.ne_of_not_mem_cons begun).symm
      have later : [] ∉ characters := List.not_mem_of_not_mem_cons begun
      obtain ⟨c, rest, rfl⟩ := List.exists_cons_of_ne_nil first
      have one : 1 ≤ utf16 (c :: rest) := by
        unfold utf16
        rw [List.flatMap_cons, List.length_append]
        exact (one_le_unitsOf c).trans (Nat.le_add_right _ _)
      rw [List.flatten_cons, utf16_append, List.length_cons]
      have := ih later
      omega

/-- The delegates decide by the length of the result less the units of the removed characters beyond
one for each. -/
theorem newLength_eq {s : Input} {e : Edit} {c : Cut} (cutting : cut joins s.text e.range = some c)
    (left : Boundary joins c.before.flatten e.string)
    (right : Boundary joins (c.before.flatten ++ e.string) c.after.flatten) :
    newLength joins s.text e.range e.string =
      count joins (c.replace e.string) - (utf16 c.removed.flatten - c.removed.length : ℤ) := by
  rw [newLength, count_cut cutting, count_replace left right, (cut_eq_some cutting).2]
  omega

/-- A plain edit is allowed exactly when its result is within the limit. -/
theorem allowed_iff {limitCount : ℤ} {s : Input} {e : Edit} {c : Cut} (within : Within joins limitCount s)
    (cutting : cut joins s.text e.range = some c) (plain : Plain joins s e) :
    newLength joins s.text e.range e.string ≤ limitCount ↔ count joins (c.replace e.string) ≤ limitCount := by
  obtain ⟨judged, left, right⟩ := plain c cutting
  have length := newLength_eq cutting left right
  cases judged with
  | inl single =>
      rw [length, utf16_flatten single, Int.sub_self, Int.sub_zero]
  | inr fewer =>
      -- the result has no more characters than the text, and the delegates take it for no longer
      have begun : [] ∉ c.removed := by
        intro mem
        refine segments_ne_nil s.text (?_ : [] ∈ segments joins s.text)
        rw [(cut_eq_some cutting).1]
        exact List.mem_append_right _ (List.mem_append_left _ mem)
      have units := length_le_utf16 begun
      have whole := count_cut cutting
      have result := count_replace left right
      unfold Within at within
      refine iff_of_true ?_ ?_ <;> omega

/-- Both delegates decide alike. -/
theorem answer_fst (delegate : Delegate) (limitCount : ℤ) (s : Input) (e : Edit) :
    (delegate.answer joins limitCount s e).1 = decide (newLength joins s.text e.range e.string ≤ limitCount) := by
  cases delegate <;> rfl

theorem step_eq_some {delegate : Delegate} {limitCount : ℤ} {s s' : Input} {e : Edit}
    (taken : step joins delegate limitCount s e = some s') :
    ∃ c, cut joins s.text e.range = some c ∧
      s'.text = if newLength joins s.text e.range e.string ≤ limitCount then c.replace e.string else s.text := by
  obtain ⟨c, cutting, rfl⟩ := Option.map_eq_some_iff.mp taken
  refine ⟨c, cutting, ?_⟩
  simp only [answer_fst, decide_eq_true_eq]

theorem step_within {delegate : Delegate} {limitCount : ℤ} {s s' : Input} {e : Edit}
    (within : Within joins limitCount s) (plain : Plain joins s e)
    (taken : step joins delegate limitCount s e = some s') :
    Within joins limitCount s' ∧ Served joins delegate limitCount s e := by
  obtain ⟨c, cutting, text⟩ := step_eq_some taken
  have allowed := allowed_iff within cutting plain
  constructor
  · unfold Within
    rw [text]
    split
    · rename_i accepted
      exact allowed.mp accepted
    · exact within
  · intro other here fits
    obtain rfl := Option.some.inj (cutting.symm.trans here)
    rw [answer_fst]
    exact decide_eq_true (allowed.mpr fits)

/-- In every run of plain edits the text stays within the limit, and what fits is not refused. -/
theorem limit_kept (joins : List Char → Char → Bool) (delegate : Delegate) (limitCount : ℤ) (s : Input)
    (es : List Edit) (start : Within joins limitCount s)
    (plain : Meets (step joins delegate limitCount) (Plain joins) s es) :
    Always (step joins delegate limitCount) (Within joins limitCount) s es ∧
      Meets (step joins delegate limitCount) (Served joins delegate limitCount) s es :=
  always_and_meets_of_meets (fun _ _ _ => step_within) (fun _ => id) start plain

/-- The properties of ASCII, of the combining diacritical marks and of the emoticons. -/
def properties : Properties where
  property c :=
    if c = '\r' then .cr
    else if c = '\n' then .lf
    else if c.toNat < 0x20 ∨ c.toNat = 0x7F then .control
    else if 0x300 ≤ c.toNat ∧ c.toNat ≤ 0x36F then .extend
    else .other
  pictographic c := 0x1F600 ≤ c.toNat ∧ c.toNat ≤ 0x1F64F

theorem properties_ascii : properties.Ascii where
  cr := by decide
  lf := by decide
  plain c _ cr lf := by
    have unmarked : ¬ (0x300 ≤ c.toNat ∧ c.toNat ≤ 0x36F) := by omega
    simp only [properties, if_neg cr, if_neg lf, if_neg unmarked]
    split <;> simp

/-- A letter gives way to one with an accent, and one more letter is refused. -/
theorem limit_kept_accent :
    Always (step properties.joins .textField 2) (Within properties.joins 2) ⟨['a', 'b'], ""⟩
        [⟨⟨1, 1⟩, ['e', '\u0301']⟩, ⟨⟨3, 0⟩, ['c']⟩] ∧
      Meets (step properties.joins .textField 2) (Served properties.joins .textField 2) ⟨['a', 'b'], ""⟩
        [⟨⟨1, 1⟩, ['e', '\u0301']⟩, ⟨⟨3, 0⟩, ['c']⟩] :=
  limit_kept properties.joins .textField 2 ⟨['a', 'b'], ""⟩ _ (by decide) (by decide +kernel)

/-- An emoji, which takes two units, gives way to two letters. -/
theorem limit_exceeded : ¬ ∀ (delegate : Delegate) (limitCount : ℤ) (s : Input) (es : List Edit),
    Within properties.joins limitCount s →
      Always (step properties.joins delegate limitCount) (Within properties.joins limitCount) s es ∧
        Meets (step properties.joins delegate limitCount) (Served properties.joins delegate limitCount) s es := by
  intro claim
  have start : Within properties.joins 1 ⟨['😀'], ""⟩ := by decide
  have ends := (claim .textField 1 ⟨['😀'], ""⟩ [⟨⟨0, 2⟩, ['a', 'b']⟩] start).1.2 ⟨['a', 'b'], ""⟩ (by rfl)
  have beyond : ¬ Within properties.joins 1 ⟨['a', 'b'], ""⟩ := by decide
  exact beyond ends

/-- An accent on the last letter is refused, though it makes no character. -/
example : (Delegate.textView.answer properties.joins 1 ⟨['e'], ""⟩ ⟨⟨1, 0⟩, ['\u0301']⟩).1 = false ∧
    count properties.joins ['e', '\u0301'] = 1 := by decide

end PetClump.LimitText
