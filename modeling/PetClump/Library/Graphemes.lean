import Mathlib.Data.List.Basic
import PetClump.Library.SwiftString

/-! # Grapheme clusters

A text is cut into segments by a rule that says whether an element joins the segment
before it. Unicode's rules for grapheme clusters are of this kind, since none looks back
beyond the start of the cluster. The properties of the characters are a parameter.
-/

namespace Graphemes

section Segments

variable {α : Type*} (joins : List α → α → Bool)

/-- The segments of a text whose first segment has begun. -/
def grow (segment : List α) : List α → List (List α)
  | [] => [segment]
  | c :: text => if joins segment c then grow (segment ++ [c]) text else segment :: grow [c] text

def segments : List α → List (List α)
  | [] => []
  | c :: text => grow joins [c] text

variable {joins}

theorem flatten_grow (segment text : List α) : (grow joins segment text).flatten = segment ++ text := by
  fun_induction grow joins segment text with
  | case1 => simp
  | case2 segment c text _ ih => rw [ih, List.append_assoc, List.singleton_append]
  | case3 segment c text _ ih => rw [List.flatten_cons, ih, List.singleton_append]

theorem flatten_segments (text : List α) : (segments joins text).flatten = text := by
  cases text with
  | nil => rfl
  | cons c text => exact flatten_grow [c] text

theorem grow_ne_nil {segment text : List α} (begun : segment ≠ []) : [] ∉ grow joins segment text := by
  fun_induction grow joins segment text with
  | case1 segment => simpa using begun.symm
  | case2 segment c text _ ih => exact ih (by simp)
  | case3 segment c text _ ih => exact List.not_mem_cons_of_ne_of_not_mem begun.symm (ih (by simp))

theorem segments_ne_nil (text : List α) : [] ∉ segments joins text := by
  cases text with
  | nil => exact List.not_mem_nil
  | cons c text => exact grow_ne_nil (by simp)

theorem grow_split {segment text : List α} {first second : List (List α)} (nonempty : first ≠ [])
    (split : grow joins segment text = first ++ second) :
    ∃ before after, text = before ++ after ∧ grow joins segment before = first ∧
      segments joins after = second := by
  induction text generalizing segment first with
  | nil =>
      obtain ⟨head, rest, rfl⟩ := List.exists_cons_of_ne_nil nonempty
      obtain ⟨rfl, none⟩ := List.cons.inj split
      obtain ⟨rfl, rfl⟩ := List.append_eq_nil_iff.mp none.symm
      exact ⟨[], [], rfl, rfl, rfl⟩
  | cons c text ih =>
      rw [grow] at split
      by_cases joined : joins segment c = true
      · rw [if_pos joined] at split
        obtain ⟨before, after, rfl, left, right⟩ := ih nonempty split
        exact ⟨c :: before, after, rfl, by rw [grow, if_pos joined, left], right⟩
      · rw [if_neg joined] at split
        obtain ⟨head, rest, rfl⟩ := List.exists_cons_of_ne_nil nonempty
        obtain ⟨rfl, tail⟩ := List.cons.inj split
        by_cases more : rest = []
        · subst more
          exact ⟨[], c :: text, rfl, rfl, tail⟩
        · obtain ⟨before, after, rfl, left, right⟩ := ih more tail
          exact ⟨c :: before, after, rfl, by rw [grow, if_neg joined, left], right⟩

/-- Between two segments a text can be cut, and both parts keep their segments. -/
theorem segments_split {text : List α} {first second : List (List α)}
    (split : segments joins text = first ++ second) :
    segments joins first.flatten = first ∧ segments joins second.flatten = second := by
  by_cases nonempty : first = []
  · subst nonempty
    rw [List.nil_append] at split
    exact ⟨rfl, by rw [← split, flatten_segments]⟩
  · cases text with
    | nil => exact absurd (List.append_eq_nil_iff.mp split.symm).1 nonempty
    | cons c text =>
        obtain ⟨before, after, rfl, left, right⟩ := grow_split nonempty split
        rw [← left, ← right, flatten_grow, flatten_segments]
        exact ⟨rfl, rfl⟩

/-- The second text does not begin with an element that joins the end of the first. -/
def Boundary (joins : List α → α → Bool) (first second : List α) : Prop :=
  ∀ segment ∈ (segments joins first).getLast?, ∀ c ∈ second.head?, joins segment c = false

instance (joins : List α → α → Bool) (first second : List α) : Decidable (Boundary joins first second) :=
  inferInstanceAs (Decidable (∀ segment ∈ (segments joins first).getLast?, ∀ c ∈ second.head?, _))

theorem grow_apart {segment text : List α} (apart : ∀ c ∈ text.head?, joins segment c = false) :
    grow joins segment text = segment :: segments joins text := by
  cases text with
  | nil => rfl
  | cons c text =>
      rw [grow, if_neg (by simp [apart c rfl])]
      rfl

theorem grow_append {segment first second : List α}
    (boundary : ∀ last ∈ (grow joins segment first).getLast?, ∀ c ∈ second.head?, joins last c = false) :
    grow joins segment (first ++ second) = grow joins segment first ++ segments joins second := by
  fun_induction grow joins segment first with
  | case1 segment => exact grow_apart (boundary segment rfl)
  | case2 segment c text joined ih => rw [List.cons_append, grow, if_pos joined, ih boundary]
  | case3 segment c text apart ih =>
      rw [List.cons_append, grow, if_neg apart, ih, List.cons_append]
      intro last mem
      exact boundary last (List.mem_getLast?_cons mem)

theorem segments_append {first second : List α} (boundary : Boundary joins first second) :
    segments joins (first ++ second) = segments joins first ++ segments joins second := by
  cases first with
  | nil => rfl
  | cons c first => exact grow_append boundary

end Segments

/-- What the rules ask of a character. -/
inductive Property where
  | cr | lf | control
  | extend | zwj | spacingMark | prepend
  | regionalIndicator
  | l | v | t | lv | lvt
  | other
  deriving DecidableEq

structure Properties where
  property : Char → Property
  pictographic : Char → Bool

/-- Unicode's rules GB3 to GB13, which extend a cluster to the next character or do not. -/
def Properties.joins (p : Properties) (cluster : List Char) (c : Char) : Bool :=
  match cluster.getLast? with
  | none => false
  | some last =>
      match p.property last, p.property c with
      | .cr, .lf => true
      | .cr, _ | .lf, _ | .control, _ | _, .cr | _, .lf | _, .control => false
      -- Hangul syllables
      | .l, .l | .l, .v | .l, .lv | .l, .lvt | .lv, .v | .lv, .t | .v, .v | .v, .t | .lvt, .t | .t, .t => true
      | _, .extend | _, .zwj | _, .spacingMark | .prepend, _ => true
      -- emoji sequences: a picture, its extensions, a joiner and the next picture
      | .zwj, _ =>
          p.pictographic c &&
            ((cluster.dropLast.reverse.dropWhile (p.property · = .extend)).head?.any p.pictographic)
      -- flags: indicators come in pairs
      | .regionalIndicator, .regionalIndicator =>
          (cluster.reverse.takeWhile (p.property · = .regionalIndicator)).length % 2 == 1
      | _, _ => false

/-- The properties are right for ASCII. -/
structure Properties.Ascii (p : Properties) : Prop where
  cr : p.property '\r' = .cr
  lf : p.property '\n' = .lf
  plain : ∀ c, c.toNat < 128 → c ≠ '\r' → c ≠ '\n' → p.property c = .control ∨ p.property c = .other

theorem Properties.Ascii.joins_iff {p : Properties} (right : p.Ascii) {cluster : List Char} {last c : Char}
    (ends : cluster.getLast? = some last) (asciiLast : last.toNat < 128) (ascii : c.toNat < 128) :
    p.joins cluster c = true ↔ last = '\r' ∧ c = '\n' := by
  have kinds : ∀ d : Char, d.toNat < 128 → d = '\r' ∧ p.property d = .cr ∨ d = '\n' ∧ p.property d = .lf ∨
      (d ≠ '\r' ∧ d ≠ '\n') ∧ (p.property d = .control ∨ p.property d = .other) := by
    intro d small
    by_cases cr : d = '\r'
    · exact .inl ⟨cr, cr ▸ right.cr⟩
    · by_cases lf : d = '\n'
      · exact .inr (.inl ⟨lf, lf ▸ right.lf⟩)
      · exact .inr (.inr ⟨⟨cr, lf⟩, right.plain d small cr lf⟩)
  rw [Properties.joins, ends]
  rcases kinds last asciiLast with ⟨rfl, kind⟩ | ⟨rfl, kind⟩ | ⟨other, kind | kind⟩ <;>
    rcases kinds c ascii with ⟨rfl, kind'⟩ | ⟨rfl, kind'⟩ | ⟨other', kind' | kind'⟩ <;>
    simp_all

/-- Of an ASCII text the clusters are Swift's characters. -/
theorem segments_ascii {p : Properties} (right : p.Ascii) (text : List Char)
    (ascii : ∀ c ∈ text, c.toNat < 128) :
    segments p.joins text = SwiftString.characters text := by
  have apart : ∀ {cluster : List Char} {last : Char} {rest : List Char}, cluster.getLast? = some last →
      last.toNat < 128 → (∀ c ∈ rest, c.toNat < 128) → (∀ cs, last = '\r' → rest = '\n' :: cs → False) →
      grow p.joins cluster rest = cluster :: segments p.joins rest := by
    intro cluster last rest ends small asciiRest alone
    apply grow_apart
    intro c head
    obtain ⟨cs, rfl⟩ := List.head?_eq_some_iff.mp head
    rw [← Bool.not_eq_true, right.joins_iff ends small (asciiRest c List.mem_cons_self)]
    rintro ⟨cr, rfl⟩
    exact alone cs cr rfl
  fun_induction SwiftString.characters text with
  | case1 => rfl
  | case2 cs ih =>
      have later : ∀ c ∈ cs, c.toNat < 128 := fun c mem => ascii c (by simp [mem])
      have joined := (right.joins_iff (show ['\r'].getLast? = some '\r' from rfl) (c := '\n')
        (by decide) (by decide)).mpr ⟨rfl, rfl⟩
      have ended := @apart ['\r', '\n'] '\n' cs rfl (by decide) later fun _ other => absurd other (by decide)
      rw [segments, grow, if_pos joined, List.singleton_append, ended, ih later]
  | case3 c cs alone ih =>
      obtain ⟨first, later⟩ := List.forall_mem_cons.mp ascii
      rw [segments, apart rfl first later alone, ih later]

end Graphemes
