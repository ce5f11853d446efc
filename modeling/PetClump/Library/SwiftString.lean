import Mathlib.Data.List.Basic

/-! # Swift strings as characters

A Swift character is a grapheme cluster, given by its scalars.
-/

namespace SwiftString

abbrev Character := List Char

/-- The characters of an ASCII string: only a carriage return joins the line feed after it. -/
def characters : List Char → List Character
  | [] => []
  | '\r' :: '\n' :: cs => ['\r', '\n'] :: characters cs
  | c :: cs => [c] :: characters cs

theorem characters_eq_map : ∀ {s : List Char}, '\r' ∉ s → characters s = s.map fun c => [c]
  | [], _ => rfl
  | c :: cs, without => by
      have head : c ≠ '\r' := fun same => without (same ▸ List.mem_cons_self)
      have tail : '\r' ∉ cs := fun mem => without (List.mem_cons_of_mem c mem)
      rw [characters, characters_eq_map tail, List.map_cons]
      exact fun cs' same _ => head same

theorem flatten_characters (s : List Char) : (characters s).flatten = s := by
  fun_induction characters s with
  | case1 => rfl
  | case2 cs ih => rw [List.flatten_cons, ih]; rfl
  | case3 c cs _ ih => rw [List.flatten_cons, ih]; rfl

/-- Only a line feed can join what stands before it. -/
theorem characters_concat {d : Char} (other : d ≠ '\n') (s : List Char) :
    characters (s ++ [d]) = characters s ++ [[d]] := by
  fun_induction characters s with
  | case1 => simp [characters]
  | case2 cs ih => rw [List.cons_append, List.cons_append, characters, ih, List.cons_append]
  | case3 c cs alone ih =>
      rw [List.cons_append, characters, ih, List.cons_append]
      intro rest first following
      cases cs with
      | nil => exact other (List.cons.inj following).1
      | cons e cs => exact alone cs first (by rw [(List.cons.inj following).1])

end SwiftString
