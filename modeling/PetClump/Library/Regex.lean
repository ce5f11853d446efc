import Mathlib.Data.List.Basic

/-! # Regular expressions with backtracking

A pattern of characters, greedy repetitions and groups. A matcher tries the ways of a
pattern through a text in a fixed order, a longer repetition before a shorter one, and
stops at the first way that leaves an acceptable rest.
-/

namespace Regex

/-- A set of characters is given by its test. -/
inductive Pattern (α : Type*) where
  | one (chars : α → Bool)
  | many (chars : α → Bool)
  | group (inner : Pattern α)
  | seq (first second : Pattern α)

/-- One way through a text: what was read, what the groups captured, and what is left. -/
structure Way (α : Type*) where
  read : List α
  groups : List (List α)
  rest : List α

variable {α : Type*}

namespace Way

def stay (text : List α) : Way α := ⟨[], [], text⟩

def extend (c : α) (way : Way α) : Way α := { way with read := c :: way.read }

def capture (way : Way α) : Way α := { way with groups := way.read :: way.groups }

def append (first second : Way α) : Way α :=
  ⟨first.read ++ second.read, first.groups ++ second.groups, second.rest⟩

end Way

namespace Pattern

/-- A greedy repetition, the longest way first. -/
def repeats (chars : α → Bool) : List α → List (Way α)
  | [] => [.stay []]
  | c :: text =>
      if chars c then (repeats chars text).map (.extend c) ++ [.stay (c :: text)] else [.stay (c :: text)]

def ways : Pattern α → List α → List (Way α)
  | one _, [] => []
  | one chars, c :: text => if chars c then [⟨[c], [], text⟩] else []
  | many chars, text => repeats chars text
  | group inner, text => (inner.ways text).map Way.capture
  | seq first second, text => (first.ways text).flatMap fun way => (second.ways way.rest).map way.append

/-- The groups of the first way that leaves an acceptable rest. -/
def captures (accept : List α → Bool) (p : Pattern α) (text : List α) : Option (List (List α)) :=
  ((p.ways text).find? fun way => accept way.rest).map Way.groups

/-- The pattern reads the whole text. -/
def fullMatch (p : Pattern α) (text : List α) : Option (List (List α)) := p.captures List.isEmpty text

/-- The pattern reads some of the text, and starts as early as it can. -/
def find (p : Pattern α) (text : List α) : Option (List (List α)) :=
  match p.captures (fun _ => true) text, text with
  | some groups, _ => some groups
  | none, [] => none
  | none, _ :: text => p.find text

theorem find_of_captures {p : Pattern α} {text : List α} {groups : List (List α)}
    (start : p.captures (fun _ => true) text = some groups) : p.find text = some groups := by
  rw [find.eq_def, start]

variable {accept : List α → Bool} {chars : α → Bool} {c : α} {q : Pattern α} {text : List α}

theorem captures_seq (p : Pattern α) : (seq p q).captures accept text =
    (p.ways text).findSome? fun way => (q.captures accept way.rest).map (way.groups ++ ·) := by
  rw [captures, ways, List.find?_flatMap, List.map_findSome?]
  congr 1
  funext way
  simp [captures, List.find?_map, Function.comp_def, Way.append]

theorem captures_one_nil : (seq (one chars) q).captures accept [] = none := rfl

theorem captures_one : (seq (one chars) q).captures accept (c :: text) =
    if chars c then q.captures accept text else none := by
  rw [captures_seq, ways]
  split <;> simp

theorem captures_one_eq_some {groups : List (List α)} :
    (seq (one chars) q).captures accept text = some groups ↔
      ∃ c rest, text = c :: rest ∧ chars c = true ∧ q.captures accept rest = some groups := by
  cases text with
  | nil => simp [captures_one_nil]
  | cons c text => simp [captures_one]

theorem captures_many_nil : (seq (many chars) q).captures accept [] = q.captures accept [] := by
  simp [captures_seq, ways, repeats, Way.stay]

/-- One character more is tried first. -/
theorem captures_many (fits : chars c) : (seq (many chars) q).captures accept (c :: text) =
    ((seq (many chars) q).captures accept text).or (q.captures accept (c :: text)) := by
  simp [captures_seq, ways, repeats, fits, Way.stay, Way.extend, List.findSome?_append, List.findSome?_map,
    Function.comp_def]

theorem captures_group_nil : (seq (group (many chars)) q).captures accept [] =
    (q.captures accept []).map ([] :: ·) := by
  simp [captures_seq, ways, repeats, Way.stay, Way.capture]

theorem captures_group (fits : chars c) : (seq (group (many chars)) q).captures accept (c :: text) =
    (((seq (group (many chars)) q).captures accept text).map (List.modifyHead (c :: ·))).or
      ((q.captures accept (c :: text)).map ([] :: ·)) := by
  simp [captures_seq, ways, repeats, fits, Way.stay, Way.extend, Way.capture, List.findSome?_append,
    List.findSome?_map, List.map_findSome?, Function.comp_def]

/-- The last repetition reads all that is left. -/
theorem captures_rest (fits : ∀ c ∈ text, chars c) (accepted : accept []) :
    (many chars).captures accept text = some [] := by
  rw [captures, ways]
  induction text with
  | nil => simp [repeats, Way.stay, accepted]
  | cons c text ih =>
      obtain ⟨first, later⟩ := List.forall_mem_cons.mp fits
      obtain ⟨way, found, groups⟩ := Option.map_eq_some_iff.mp (ih later)
      have extended : ((repeats chars text).map (Way.extend c)).find? (fun way => accept way.rest) =
          some (way.extend c) := by
        rw [List.find?_map]
        exact congrArg (Option.map (Way.extend c)) found
      rw [repeats, if_pos first, List.find?_append, extended]
      exact congrArg some groups

end Pattern

end Regex
