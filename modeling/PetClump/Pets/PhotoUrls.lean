import PetClump.Library.Regex
import PetClump.Library.SwiftString
import PetClump.Pets.Photos

/-! # Parsing photo URLs

Both clients take the name of a stored photo from its URL with the expression
`.*%2[fF](.*)\?.*`. Android asks for a match of the whole URL and iOS for the first match
in it, and their dots leave out different line breaks. The texts are ASCII, so that a
character takes one unit.
-/

namespace PetClump.PhotoUrls

open Regex Pattern

/-- `(.*)\?.*` -/
def fileName (dot : Char → Bool) : Pattern Char :=
  .seq (.group (.many dot)) (.seq (.one (· == '?')) (.many dot))

/-- `%2[fF](.*)\?.*` -/
def link (dot : Char → Bool) : Pattern Char :=
  .seq (.one (· == '%')) <| .seq (.one (· == '2')) <| .seq (.one fun c => c == 'f' || c == 'F') (fileName dot)

/-- `.*%2[fF](.*)\?.*` -/
def regex (dot : Char → Bool) : Pattern Char := .seq (.many dot) (link dot)

namespace Android

def dot (c : Char) : Bool := c ∉ ['\n', '\r', '\u0085', '\u2028', '\u2029']

def parseUrl (url : String) : String :=
  match (regex dot).fullMatch url.toList with
  | some (name :: _) => String.ofList name
  | _ => ""

/-- The paths that `deletePhoto` deletes. -/
def deletePhoto (url : String) : List String := if url = "" then [] else ["image/" ++ parseUrl url]

end Android

namespace IOS

def dot (c : Char) : Bool :=
  c ∉ ['\n', '\x0b', '\x0c', '\r', '\u0085', '\u2028', '\u2029']

/-- The range that is searched has as many units as the text has characters. -/
def capturedGroups (text : String) (pattern : Pattern Char) : List String :=
  let count := (SwiftString.characters text.toList).length
  ((pattern.find (text.toList.take count)).getD []).map String.ofList

/-- The paths that `deleteImage` deletes; `none` is a trap. -/
def deleteImage (url : String) : Option (List String) :=
  if url = "" then some []
  else (capturedGroups url (regex dot))[0]?.map fun name => ["image/" ++ name]

end IOS

section Matching

variable {dot : Char → Bool} {accept : List Char → Bool} {text : List Char}

/-- The group reads up to the last question mark. -/
theorem captures_fileName (dots : ∀ c ∈ text, dot c) (accepted : accept []) :
    captures accept (fileName dot) text = (Photos.beforeLast '?' text).map ([·]) := by
  rw [fileName]
  induction text with
  | nil => rw [captures_group_nil, captures_one_nil]; rfl
  | cons c text ih =>
      obtain ⟨first, later⟩ := List.forall_mem_cons.mp dots
      rw [captures_group first, ih later, captures_one, captures_rest later accepted, Photos.beforeLast]
      cases Photos.beforeLast '?' text with
      | some name => rfl
      | none => by_cases mark : c = '?' <;> simp [mark]

theorem captures_slash {f : Char} {rest : List Char} (slash : f = 'f' ∨ f = 'F') :
    captures accept (link dot) ('%' :: '2' :: f :: rest) = captures accept (fileName dot) rest := by
  have letter : (f == 'f' || f == 'F') = true := by simpa using slash
  simp only [link, captures_one, beq_self_eq_true, letter, if_true]

theorem captures_link (dots : ∀ c ∈ text, dot c) (accepted : accept []) :
    captures accept (link dot) text = (Photos.groupHere text).map ([·]) := by
  have later : ∀ f rest, (∀ c ∈ '%' :: '2' :: f :: rest, dot c) → ∀ c ∈ rest, dot c :=
    fun f rest dots c mem => dots c (by simp [mem])
  fun_cases Photos.groupHere text with
  | case1 rest => rw [captures_slash (.inl rfl), captures_fileName (later 'f' rest dots) accepted]
  | case2 rest => rw [captures_slash (.inr rfl), captures_fileName (later 'F' rest dots) accepted]
  | case3 _ small large =>
      rw [Option.map_none, Option.eq_none_iff_forall_ne_some]
      intro groups found
      obtain ⟨a, _, rfl, percent, found⟩ := captures_one_eq_some.mp found
      obtain ⟨b, _, rfl, two, found⟩ := captures_one_eq_some.mp found
      obtain ⟨f, rest, rfl, letter, _⟩ := captures_one_eq_some.mp found
      simp only [beq_iff_eq, Bool.or_eq_true] at percent two letter
      subst percent two
      rcases letter with rfl | rfl
      · exact small rest rfl
      · exact large rest rfl

theorem captures_regex (dots : ∀ c ∈ text, dot c) (accepted : accept []) :
    captures accept (regex dot) text = (Photos.group text).map ([·]) := by
  induction text with
  | nil => rw [regex, captures_many_nil, captures_link dots accepted]; rfl
  | cons c text ih =>
      obtain ⟨first, later⟩ := List.forall_mem_cons.mp dots
      rw [regex] at ih ⊢
      rw [captures_many first, ih later, captures_link dots accepted, Photos.group]
      cases Photos.group text <;> rfl

end Matching

/-- An ASCII text without line breaks. -/
def Plain (text : String) : Prop :=
  ∀ c ∈ text.toList, c.toNat < 128 ∧ c ∉ ['\n', '\x0b', '\x0c', '\r']

instance (text : String) : Decidable (Plain text) :=
  List.decidableBAll _ text.toList

theorem Plain.append {s t : String} (plainS : Plain s) (plainT : Plain t) : Plain (s ++ t) := by
  intro c mem
  rw [String.toList_append, List.mem_append] at mem
  exact mem.elim (plainS c) (plainT c)

theorem Plain.dot_ios {text : String} (plain : Plain text) : ∀ c ∈ text.toList, IOS.dot c := by
  intro c mem
  obtain ⟨ascii, inside⟩ := plain c mem
  have beyond : ∀ d ∈ ['\u0085', '\u2028', '\u2029'], c ≠ d := by
    rintro d member rfl
    have large : ∀ d ∈ ['\u0085', '\u2028', '\u2029'], 128 ≤ d.toNat := by simp
    exact absurd ascii (Nat.not_lt.mpr (large c member))
  simp_all [IOS.dot]

/-- Java's dot leaves out less. -/
theorem Plain.dot_android {text : String} (plain : Plain text) : ∀ c ∈ text.toList, Android.dot c := by
  intro c mem
  have every := plain.dot_ios c mem
  simp_all [IOS.dot, Android.dot]

theorem Plain.characters {text : String} (plain : Plain text) :
    (SwiftString.characters text.toList).length = text.toList.length := by
  have without : '\r' ∉ text.toList := fun mem => (plain _ mem).2 (by decide)
  rw [SwiftString.characters_eq_map without, List.length_map]

theorem android_parseUrl {url : String} (plain : Plain url) :
    Android.parseUrl url = (Photos.parseUrl url).getD "" := by
  rw [Android.parseUrl, fullMatch, captures_regex plain.dot_android rfl, Photos.parseUrl]
  cases Photos.group url.toList <;> rfl

theorem ios_capturedGroups {url : String} (plain : Plain url) {name : String}
    (parsed : Photos.parseUrl url = some name) : IOS.capturedGroups url (regex IOS.dot) = [name] := by
  obtain ⟨group, found, rfl⟩ := Option.map_eq_some_iff.mp parsed
  have start : captures (fun _ => true) (regex IOS.dot) url.toList = some [group] := by
    rw [captures_regex plain.dot_ios rfl, found]
    rfl
  rw [IOS.capturedGroups, plain.characters, List.take_length, find_of_captures start]
  rfl

/-- The text has no slash in it that is escaped. -/
def NoSlash (name : String) : Prop :=
  ¬ "%2F".toList <:+: name.toList ∧ ¬ "%2f".toList <:+: name.toList

instance (name : String) : Decidable (NoSlash name) := inferInstanceAs (Decidable (_ ∧ _))

theorem parseUrl_link (start : String) {name query : String} (slash : NoSlash name) (mark : '?' ∉ query.toList) :
    Photos.parseUrl (start ++ "%2F" ++ name ++ "?" ++ query) = some name := by
  have plain : ∀ f, f = 'f' ∨ f = 'F' → ¬ ['%', '2', f] <:+: name.toList := by
    rintro f (rfl | rfl)
    · exact slash.2
    · exact slash.1
  have found := Photos.group_link start.toList plain mark
  rw [Photos.parseUrl]
  simp only [String.toList_append, String.reduceToList, List.append_assoc, List.cons_append,
    List.nil_append, found, Option.map_some, String.ofList_toList]

theorem delete_targets_name (start name query : String) (plain : Plain start ∧ Plain name ∧ Plain query)
    (slash : NoSlash name) (mark : '?' ∉ query.toList) :
    let url := start ++ "%2F" ++ name ++ "?" ++ query
    Android.parseUrl url = name ∧ IOS.capturedGroups url (regex IOS.dot) = [name] ∧
      Android.deletePhoto url = ["image/" ++ name] ∧ IOS.deleteImage url = some ["image/" ++ name] := by
  intro url
  have plainUrl : Plain url :=
    (((plain.1.append (by decide)).append plain.2.1).append (by decide)).append plain.2.2
  have parsed : Photos.parseUrl url = some name := parseUrl_link start slash mark
  have android : Android.parseUrl url = name := by rw [android_parseUrl plainUrl, parsed]; rfl
  have ios := ios_capturedGroups plainUrl parsed
  have nonempty : url ≠ "" := by
    intro empty
    rw [empty] at parsed
    cases parsed
  refine ⟨android, ios, ?_, ?_⟩
  · rw [Android.deletePhoto, if_neg nonempty, android]
  · rw [IOS.deleteImage, if_neg nonempty, ios]
    rfl

/-- Escaped slashes before the name and after it, and a question mark before it. -/
theorem delete_targets_name_sample :
    IOS.deleteImage ("x?%2F%2fa" ++ "%2F" ++ "1.png" ++ "?" ++ "t=%2F") = some ["image/" ++ "1.png"] :=
  (delete_targets_name "x?%2F%2fa" "1.png" "t=%2F" (by decide) (by decide) (by decide)).2.2.2

end PetClump.PhotoUrls
