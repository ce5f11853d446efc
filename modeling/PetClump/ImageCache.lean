import PetClump.Library.JavaString
import PetClump.Library.Runs

/-! # The image cache on Android

A picture is kept in a file that is named by its URL without the slashes. The file is
created before anything is in it, failures are logged and forgotten, and any file of
that name is taken for the picture. Executions come one after another.
-/

namespace PetClump.ImageCache

open Runs

abbrev Bytes := List UInt8

/-- The units of a file name -/
abbrev Name := List ℕ

/-- `PetProfile.parseUrlToCache` -/
def parseUrlToCache (url : String) : Name := JavaString.remove '/'.toNat (JavaString.units url)

inductive Entry where
  | directory
  | file (bytes : Bytes)
  deriving DecidableEq

/-- How the second half of an execution ends -/
inductive Writing where
  /-- `createNewFile` throws -/
  | createFails
  /-- `FileOutputStream` throws -/
  | openFails
  /-- so many bytes reach the file, if there are so many -/
  | writes (count : ℕ)
  deriving Repr, DecidableEq

/-- An execution and what happens to it -/
structure Execution (Bitmap : Type*) where
  url : String
  /-- a file that exists can be opened and read -/
  reads : Bool
  /-- what the URL's stream decodes to, if neither the network nor the decoder fails -/
  download : Option Bitmap
  write : Writing
  deriving DecidableEq

section Cache

variable {Bitmap : Type*}

/-- `origin` is the execution that last created or emptied a file. -/
structure Cache (Bitmap : Type*) where
  files : Name → Option Entry
  origin : Name → Option (Execution Bitmap)

/-- A cache directory without files -/
def empty : Cache Bitmap where
  files name := if name ∈ ["", ".", ".."].map JavaString.units then some .directory else none
  origin _ := none

/-- `path.exists()` -/
def Cache.exists (s : Cache Bitmap) (url : String) : Bool := (s.files (parseUrlToCache url)).isSome

variable (compress : Bitmap → Bytes) (decode : Bytes → Option Bitmap) (picture : String → Bitmap)

/-- What an execution that opens its file leaves in it. Compressing nothing throws. -/
def Execution.content (e : Execution Bitmap) : Bytes :=
  match e.write, e.download with
  | .writes count, some mIcon11 => (compress mIcon11).take count
  | _, _ => []

def Cache.put (s : Cache Bitmap) (e : Execution Bitmap) : Cache Bitmap where
  files := Function.update s.files (parseUrlToCache e.url) (some (.file (e.content compress)))
  origin := Function.update s.origin (parseUrlToCache e.url) (some e)

/-- The second half of `doInBackground`, after the download -/
def store (s : Cache Bitmap) (e : Execution Bitmap) : Cache Bitmap :=
  match s.files (parseUrlToCache e.url), e.write with
  | _, .createFails | some .directory, _ | some (.file _), .openFails => s
  | none, .openFails | none, .writes _ | some (.file _), .writes _ => s.put compress e

/-- `doInBackground` -/
def doInBackground (s : Cache Bitmap) (e : Execution Bitmap) : Cache Bitmap × Option Bitmap :=
  match s.files (parseUrlToCache e.url) with
  | some (.file bytes) => if e.reads then (s, decode bytes) else (store compress s e, e.download)
  | some .directory | none => (store compress s e, e.download)

def step (s : Cache Bitmap) (e : Execution Bitmap) : Option (Cache Bitmap) :=
  some (doInBackground compress decode s e).1

/-- An execution that finds its file returns the complete picture of its URL. -/
def Serves (s : Cache Bitmap) (e : Execution Bitmap) : Prop :=
  s.exists e.url → (doInBackground compress decode s e).2 = some (picture e.url)

def Writing.whole (bytes : Bytes) : Writing → Bool
  | .writes count => bytes.length ≤ count
  | .createFails | .openFails => false

/-- The execution had downloaded the complete picture of the URL, and it all got into the file. -/
def Execution.Complete (e : Execution Bitmap) (url : String) : Prop :=
  e.download = some (picture url) ∧ e.write.whole (compress (picture url))

/-- A file that can be read was last created or emptied by an execution that put the
complete picture of the URL in it. In place of one that cannot be read the complete
picture is downloaded. -/
def Sound (s : Cache Bitmap) (e : Execution Bitmap) : Prop :=
  match s.files (parseUrlToCache e.url) with
  | none => True
  | some .directory => e.download = some (picture e.url)
  | some (.file _) =>
      if e.reads then
        ∃ origin ∈ s.origin (parseUrlToCache e.url), origin.Complete compress picture e.url
      else e.download = some (picture e.url)

/-- Every file has what its origin left in it. -/
def Inv (s : Cache Bitmap) : Prop :=
  ∀ name bytes, s.files name = some (.file bytes) →
    ∃ origin, s.origin name = some origin ∧ bytes = origin.content compress

variable {compress decode picture}

theorem inv_empty : Inv compress (empty : Cache Bitmap) := by
  intro name bytes file
  simp only [empty] at file
  split at file <;> cases file

theorem inv_put {s : Cache Bitmap} (inv : Inv compress s) (e : Execution Bitmap) :
    Inv compress (s.put compress e) := by
  intro name bytes file
  by_cases same : name = parseUrlToCache e.url
  · subst same
    simp only [Cache.put, Function.update_self, Option.some.injEq, Entry.file.injEq] at file ⊢
    exact ⟨e, rfl, file.symm⟩
  · simp only [Cache.put, Function.update_of_ne same] at file ⊢
    exact inv name bytes file

theorem store_cases (s : Cache Bitmap) (e : Execution Bitmap) :
    store compress s e = s ∨ store compress s e = s.put compress e := by
  unfold store
  cases s.files (parseUrlToCache e.url) with
  | none => cases e.write <;> simp
  | some entry => cases entry <;> cases e.write <;> simp

/-- An execution leaves the cache as it was, or its own content in its file. -/
theorem doInBackground_cases (compress : Bitmap → Bytes) (decode : Bytes → Option Bitmap)
    (s : Cache Bitmap) (e : Execution Bitmap) :
    (doInBackground compress decode s e).1 = s ∨
      (doInBackground compress decode s e).1 = s.put compress e := by
  unfold doInBackground
  split
  case h_1 =>
    split
    · exact .inl rfl
    · exact store_cases s e
  case h_2 => exact store_cases s e
  case h_3 => exact store_cases s e

theorem inv_step {s s' : Cache Bitmap} {e : Execution Bitmap} (inv : Inv compress s)
    (taken : step compress decode s e = some s') : Inv compress s' := by
  cases taken
  obtain same | put := doInBackground_cases compress decode s e
  · rwa [same]
  · rw [put]
    exact inv_put inv e

theorem content_of_complete {e : Execution Bitmap} {url : String}
    (complete : e.Complete compress picture url) : e.content compress = compress (picture url) := by
  obtain ⟨download, whole⟩ := complete
  rw [Execution.content, download]
  cases write : e.write with
  | createFails => simp [write, Writing.whole] at whole
  | openFails => simp [write, Writing.whole] at whole
  | writes count => exact List.take_of_length_le (by simpa [write, Writing.whole] using whole)

theorem serves_step (lossless : ∀ b, decode (compress b) = some b) {s : Cache Bitmap}
    {e : Execution Bitmap} (inv : Inv compress s) (sound : Sound compress picture s e) :
    Serves compress decode picture s e := by
  intro found
  unfold Sound at sound
  unfold doInBackground
  cases here : s.files (parseUrlToCache e.url) with
  | none => simp [Cache.exists, here] at found
  | some entry =>
      simp only [here] at sound
      cases entry with
      | directory => exact sound
      | file bytes =>
          by_cases reads : e.reads
          · simp only [reads, if_true] at sound ⊢
            obtain ⟨origin, last, complete⟩ := sound
            obtain ⟨origin', last', content⟩ := inv _ bytes here
            obtain rfl := Option.some.inj (last'.symm.trans last)
            rw [content, content_of_complete complete]
            exact lossless _
          · simp only [if_neg reads] at sound ⊢
            exact sound

/-- The cache serves the complete picture in every run whose executions meet the condition. -/
theorem serves_of_sound (lossless : ∀ b, decode (compress b) = some b) (es : List (Execution Bitmap))
    (sound : Meets (step compress decode) (Sound compress picture) empty es) :
    Meets (step compress decode) (Serves compress decode picture) empty es :=
  meets_imp (fun _ _ _ => inv_step) (fun _ _ => serves_step lossless) inv_empty sound

end Cache

section Runs

/-- A picture of one byte, behind the first byte of every such file -/
def png (b : UInt8) : Bytes := [137, b]

def decodePng : Bytes → Option UInt8
  | [137, b] => some b
  | _ => none

instance (s : Cache UInt8) (e : Execution UInt8) (picture : String → UInt8) :
    Decidable (Serves png decodePng picture s e) :=
  inferInstanceAs (Decidable (_ = true → _ = _))

instance (e : Execution UInt8) (url : String) (picture : String → UInt8) :
    Decidable (e.Complete png picture url) := inferInstanceAs (Decidable (_ ∧ _))

instance (s : Cache UInt8) (e : Execution UInt8) (picture : String → UInt8) :
    Decidable (Sound png picture s e) :=
  match here : s.files (parseUrlToCache e.url) with
  | none => .isTrue (by simp [Sound, here])
  | some .directory => decidable_of_iff (e.download = some (picture e.url)) (by simp [Sound, here])
  | some (.file _) => decidable_of_iff (if e.reads then
        ∃ origin ∈ s.origin (parseUrlToCache e.url), origin.Complete png picture e.url
      else e.download = some (picture e.url)) (by simp [Sound, here])

/-- A picture that was downloaded and kept is served again. -/
theorem serves_after_download : Meets (step png decodePng) (Serves png decodePng fun _ => 7) empty
    [⟨"https://p/a", true, some 7, .writes 2⟩, ⟨"https://p/a", true, none, .openFails⟩] :=
  @serves_of_sound UInt8 png decodePng (fun _ => 7) (fun _ => rfl) _ (by decide)

/-- A download fails, and the empty file it leaves is served from then on. -/
theorem not_serves_after_failed_download : ¬ Meets (step png decodePng) (Serves png decodePng fun _ => 7) empty
    [⟨"https://p/a", true, none, .writes 2⟩, ⟨"https://p/a", true, some 7, .writes 2⟩] := by
  decide

end Runs

end PetClump.ImageCache
