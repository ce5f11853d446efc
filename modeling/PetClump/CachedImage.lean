import Mathlib.Logic.Function.Basic
import PetClump.Library.PercentEncoding
import PetClump.Library.Runs

/-! # Cached pictures and image views on iOS

A view asks for the picture of a URL and gets it at once, from the memory or from a file, or
when it has been downloaded. Views are reused by the cells of a table, and a download that
is no longer wanted is not cancelled: its picture goes into the view when it comes.
-/

namespace PetClump.CachedImage

open Runs

abbrev Bytes := List UInt8

/-- The characters of `urlHostAllowed`: letters and digits of ASCII, and some punctuation -/
def urlHostAllowed (c : Char) : Bool := c.isAlphanum || "!$&'()*+,-.:;=[]_~".toList.contains c

def urlEscape (url : String) : String := PercentEncoding.encode urlHostAllowed url

/-- What UIKit makes of a picture and of the contents of a file -/
structure UIKit (Image : Type) where
  pngRepresentation : Image → Option Bytes
  imageOfFile : Bytes → Option Image

section Model

variable {Image : Type}

/-- A call of `download` whose picture has not come -/
structure Download where
  view : ℕ
  url : String
  deriving DecidableEq

/-- The files are those of the caches directory, which outlives the process. -/
structure State (Image : Type) where
  cache : String → Option Image
  files : String → Option Bytes
  views : ℕ → Option Image
  downloads : List Download

/-- The app as it is installed -/
def initial (Image : Type) : State Image := ⟨fun _ => none, fun _ => none, fun _ => none, []⟩

inductive Event (Image : Type) where
  /-- `reads` says whether a file that exists can be read. -/
  | load (view : ℕ) (url : String) (reads : Bool)
  /-- The web has answered, and the file is written or not. -/
  | downloaded (download : ℕ) (image : Image) (writes : Bool)
  | failed (download : ℕ)
  /-- `NSCache` drops a picture. -/
  | evicted (url : String)
  /-- The system empties the caches directory. -/
  | purged (name : String)
  /-- The process ends, also by the trap of a URL that is none, and another one starts. -/
  | terminated

variable (kit : UIKit Image)

def readFromDisk (s : State Image) (url : String) (reads : Bool) : Option Image :=
  if reads then (s.files (urlEscape url)).bind kit.imageOfFile else none

def writeToDisk (s : State Image) (image : Image) (url : String) (writes : Bool) : State Image :=
  match kit.pngRepresentation image with
  | some pngImageData =>
      if writes then { s with files := Function.update s.files (urlEscape url) (some pngImageData) } else s
  | none => s

namespace State

/-- The closure of `load` -/
def completion (s : State Image) (view : ℕ) (image : Option Image) : State Image :=
  { s with views := Function.update s.views view image }

def keep (s : State Image) (url : String) (image : Image) : State Image :=
  { s with cache := Function.update s.cache url (some image) }

end State

/-- The picture that `download` has at once -/
def atOnce (s : State Image) (url : String) (reads : Bool) : Option Image :=
  (s.cache url).or (readFromDisk kit s url reads)

def download (s : State Image) (view : ℕ) (url : String) (reads : Bool) : State Image :=
  match s.cache url with
  | some cachedImage => s.completion view cachedImage
  | none =>
      match readFromDisk kit s url reads with
      | some storedImage => (s.keep url storedImage).completion view storedImage
      | none => { s with downloads := s.downloads ++ [⟨view, url⟩] }

/-- What the main queue does with a picture from the web -/
def arrived (s : State Image) (d : Download) (image : Image) (writes : Bool) : State Image :=
  (writeToDisk kit (s.keep d.url image) image d.url writes).completion d.view image

def load (s : State Image) (view : ℕ) (url : String) (reads : Bool) : State Image :=
  if url = "" then s.completion view none else download kit s view url reads

def step (s : State Image) : Event Image → Option (State Image)
  | .load view url reads => some (load kit s view url reads)
  | .downloaded k image writes => do
      let d ← s.downloads[k]?
      some (arrived kit { s with downloads := s.downloads.eraseIdx k } d image writes)
  | .failed k => if k < s.downloads.length then some { s with downloads := s.downloads.eraseIdx k } else none
  | .evicted url => some { s with cache := Function.update s.cache url none }
  | .purged name => some { s with files := Function.update s.files name none }
  | .terminated => some { initial Image with files := s.files }

/-- `web` has the pictures that came from each URL, in this process or an earlier one, and
`wanted` the last URL that a view was loaded with and whether its picture has come since. -/
structure Log (Image : Type) where
  web : String → List Image
  wanted : ℕ → Option (String × Bool)

namespace Log

def start (Image : Type) : Log Image := ⟨fun _ => [], fun _ => none⟩

def load (log : Log Image) (view : ℕ) (url : String) (answered : Bool) : Log Image :=
  { log with wanted := Function.update log.wanted view (some (url, answered)) }

def downloaded (log : Log Image) (d : Download) (image : Image) : Log Image where
  web := Function.update log.web d.url (image :: log.web d.url)
  wanted := Function.update log.wanted d.view
    ((log.wanted d.view).map fun (url, answered) => (url, answered || url == d.url))

end Log

def note (s : State Image) (e : Event Image) (log : Log Image) : Log Image :=
  match e with
  | .load view url reads => log.load view url (url == "" || (atOnce kit s url reads).isSome)
  | .downloaded k image _ => s.downloads[k]?.elim log (log.downloaded · image)
  | .terminated => { log with wanted := fun _ => none }
  | .failed _ | .evicted _ | .purged _ => log

/-- The picture came from the URL, or from a file that was written of one that did. -/
def Depicts (web : String → List Image) (url : String) (image : Image) : Prop :=
  ∃ original ∈ web url, image = original ∨ (kit.pngRepresentation original).bind kit.imageOfFile = some image

/-- The view shows a picture of the URL, or nothing for no URL. -/
def Shows (web : String → List Image) (url : String) (shown : Option Image) : Prop :=
  if url = "" then shown = none else ∃ image, shown = some image ∧ Depicts kit web url image

/-- A view whose last load has been answered shows the picture of its URL. -/
def Right (x : State Image × Log Image) : Prop :=
  ∀ view url, x.2.wanted view = some (url, true) → Shows kit x.2.web url (x.1.views view)

/-- When a picture comes for a view whose last load has been answered, it is of the same URL. -/
def Timely (x : State Image × Log Image) (e : Event Image) : Prop :=
  ∀ k image writes, e = .downloaded k image writes → ∀ d ∈ x.1.downloads[k]?, ∀ url,
    x.2.wanted d.view = some (url, true) → url = d.url ∨ url ≠ "" ∧ Depicts kit x.2.web url image

/-- Whatever is kept is kept under its own URL. -/
structure Inv (s : State Image) (log : Log Image) : Prop where
  cached : ∀ url image, s.cache url = some image → Depicts kit log.web url image
  filed : ∀ name bytes, s.files name = some bytes →
    ∃ url, name = urlEscape url ∧ ∃ original ∈ log.web url, kit.pngRepresentation original = some bytes
  named : ∀ d ∈ s.downloads, d.url ≠ ""

variable {kit} {s : State Image} {log : Log Image} {view : ℕ} {url : String} {image : Image} {d : Download}

theorem reversible : PercentEncoding.Reversible urlHostAllowed where
  ascii := by
    intro c allowed
    have marks : "!$&'()*+,-.:;=[]_~".toList.all (fun mark => mark.val ≤ 127) = true := rfl
    rw [urlHostAllowed, Bool.or_eq_true, List.contains_iff_mem] at allowed
    cases allowed with
    | inl letter =>
        change (decide (_ ∧ _) || _ && _ || _ && _) = true at letter
        simp only [Bool.or_eq_true, Bool.and_eq_true, decide_eq_true_eq, ge_iff_le,
          UInt32.le_iff_toNat_le] at letter ⊢
        simp only [Char.reduceVal, UInt32.reduceToNat] at letter ⊢
        omega
    | inr mark => exact of_decide_eq_true (List.all_eq_true.mp marks c mark)
  percent := by decide

theorem urlEscape_injective : Function.Injective urlEscape := PercentEncoding.encode_injective reversible

theorem Log.web_downloaded {original : Image} (mem : original ∈ log.web url) (d : Download) (other : Image) :
    original ∈ (log.downloaded d other).web url := by
  by_cases own : url = d.url
  · rw [own] at mem
    simp [Log.downloaded, own, mem]
  · simpa [Log.downloaded, Function.update_of_ne own] using mem

theorem Depicts.downloaded (depicts : Depicts kit log.web url image) (d : Download) (other : Image) :
    Depicts kit (log.downloaded d other).web url image := by
  obtain ⟨original, mem, same⟩ := depicts
  exact ⟨original, Log.web_downloaded mem d other, same⟩

theorem download_atOnce {reads : Bool} (found : atOnce kit s url reads = some image) (view : ℕ) :
    download kit s view url reads = (s.keep url image).completion view image := by
  unfold atOnce at found
  unfold download
  cases cached : s.cache url with
  | none =>
      rw [cached, Option.none_or] at found
      rw [found]
  | some cachedImage =>
      rw [cached, Option.some_or] at found
      have same : Function.update s.cache url (some image) = s.cache := by
        rw [← found, ← cached, Function.update_eq_self]
      rw [State.keep, same, ← found]

theorem download_later {reads : Bool} (missing : atOnce kit s url reads = none) (view : ℕ) :
    download kit s view url reads = { s with downloads := s.downloads ++ [⟨view, url⟩] } := by
  obtain ⟨cached, stored⟩ := Option.or_eq_none_iff.mp missing
  unfold download
  rw [cached, stored]

theorem Inv.atOnce (inv : Inv kit s log) {reads : Bool} (found : CachedImage.atOnce kit s url reads = some image) :
    Depicts kit log.web url image := by
  unfold CachedImage.atOnce at found
  cases cached : s.cache url with
  | some cachedImage =>
      rw [cached, Option.some_or] at found
      exact inv.cached url image (cached.trans found)
  | none =>
      rw [cached, Option.none_or, readFromDisk, Option.ite_none_right_eq_some] at found
      obtain ⟨bytes, filed, decoded⟩ := Option.bind_eq_some_iff.mp found.2
      obtain ⟨owner, name, original, came, written⟩ := inv.filed _ _ filed
      obtain rfl := urlEscape_injective name
      exact ⟨original, came, .inr (by rw [written]; exact decoded)⟩

theorem inv_initial : Inv kit (initial Image) (Log.start Image) := by
  constructor <;> simp [initial]

theorem Inv.completion (inv : Inv kit s log) (view : ℕ) (image : Option Image) :
    Inv kit (s.completion view image) log := ⟨inv.cached, inv.filed, inv.named⟩

theorem Inv.load (inv : Inv kit s log) (view : ℕ) (url : String) (answered : Bool) :
    Inv kit s (log.load view url answered) := ⟨inv.cached, inv.filed, inv.named⟩

theorem kept_cases {α : Type} {kept : String → Option α} {key other : String} {entry : Option α} {value : α}
    (now : Function.update kept key entry other = some value) :
    other = key ∧ entry = some value ∨ kept other = some value := by
  rw [Function.update_apply] at now
  split at now
  · exact .inl ⟨‹_›, now⟩
  · exact .inr now

theorem kept_of_erased {α : Type} {kept : String → Option α} {key other : String} {value : α}
    (still : Function.update kept key none other = some value) : kept other = some value :=
  (kept_cases still).resolve_left fun both => nomatch both.2

theorem Inv.keep (inv : Inv kit s log) (depicts : Depicts kit log.web url image) :
    Inv kit (s.keep url image) log where
  cached := by
    intro other found kept
    obtain ⟨rfl, same⟩ | before := kept_cases kept
    · cases same
      exact depicts
    · exact inv.cached other found before
  filed := inv.filed
  named := inv.named

theorem writeToDisk_cases (kit : UIKit Image) (s : State Image) (image : Image) (url : String) (writes : Bool) :
    writeToDisk kit s image url writes = s ∨ ∃ pngImageData, kit.pngRepresentation image = some pngImageData ∧
      writeToDisk kit s image url writes =
        { s with files := Function.update s.files (urlEscape url) (some pngImageData) } := by
  unfold writeToDisk
  cases encoded : kit.pngRepresentation image with
  | none => exact .inl rfl
  | some pngImageData =>
      cases writes with
      | false => exact .inl rfl
      | true => exact .inr ⟨pngImageData, rfl, rfl⟩

theorem Inv.write (inv : Inv kit s log) (came : image ∈ log.web url) (writes : Bool) :
    Inv kit (writeToDisk kit s image url writes) log := by
  obtain same | ⟨pngImageData, encoded, written⟩ := writeToDisk_cases kit s image url writes
  · rwa [same]
  · rw [written]
    refine ⟨inv.cached, ?_, inv.named⟩
    intro name bytes filed
    obtain ⟨own, same⟩ | before := kept_cases filed
    · cases same
      exact ⟨url, own, image, came, encoded⟩
    · exact inv.filed name bytes before

theorem Inv.downloaded (inv : Inv kit s log) (d : Download) (image : Image) :
    Inv kit s (log.downloaded d image) where
  cached := fun url kept cached => (inv.cached url kept cached).downloaded d image
  filed := by
    intro name bytes filed
    obtain ⟨url, same, original, came, written⟩ := inv.filed name bytes filed
    exact ⟨url, same, original, Log.web_downloaded came d image, written⟩
  named := inv.named

theorem Inv.loaded (inv : Inv kit s log) (view : ℕ) (url : String) (reads : Bool) :
    Inv kit (CachedImage.load kit s view url reads) log := by
  unfold CachedImage.load
  split
  · exact inv.completion view none
  · rename_i named
    cases found : CachedImage.atOnce kit s url reads with
    | none =>
        rw [download_later found]
        refine ⟨inv.cached, inv.filed, fun d mem => ?_⟩
        cases List.mem_append.mp mem with
        | inl old => exact inv.named d old
        | inr new =>
            obtain rfl := List.mem_singleton.mp new
            exact named
    | some image =>
        rw [download_atOnce found]
        exact (inv.keep (inv.atOnce found)).completion view image

theorem came_downloaded (log : Log Image) (d : Download) (image : Image) :
    image ∈ (log.downloaded d image).web d.url := by
  simp [Log.downloaded]

theorem depicts_downloaded (log : Log Image) (d : Download) (image : Image) :
    Depicts kit (log.downloaded d image).web d.url image :=
  ⟨image, came_downloaded log d image, .inl rfl⟩

theorem Inv.arrived (inv : Inv kit s log) (d : Download) (image : Image) (writes : Bool) :
    Inv kit (CachedImage.arrived kit s d image writes) (log.downloaded d image) :=
  have kept := (inv.downloaded d image).keep (depicts_downloaded log d image)
  (kept.write (came_downloaded log d image) writes).completion d.view image

theorem note_downloaded {k : ℕ} (found : s.downloads[k]? = some d) (image : Image) (writes : Bool) (log : Log Image) :
    note kit s (.downloaded k image writes) log = log.downloaded d image := by
  simp only [note, found, Option.elim_some]

theorem inv_step {s' : State Image} {e : Event Image} (inv : Inv kit s log) (taken : step kit s e = some s') :
    Inv kit s' (note kit s e log) := by
  have erased (k : ℕ) : Inv kit { s with downloads := s.downloads.eraseIdx k } log :=
    ⟨inv.cached, inv.filed, fun d mem => inv.named d (List.mem_of_mem_eraseIdx mem)⟩
  cases e with
  | load view url reads =>
      cases taken
      exact (inv.loaded view url reads).load view url _
  | downloaded k image writes =>
      obtain ⟨d, found, done⟩ := Option.bind_eq_some_iff.mp taken
      cases done
      rw [note_downloaded found]
      exact (erased k).arrived d image writes
  | failed k =>
      obtain ⟨_, done⟩ := Option.ite_none_right_eq_some.mp taken
      cases done
      exact erased k
  | evicted url =>
      cases taken
      exact ⟨fun other image kept => inv.cached other image (kept_of_erased kept), inv.filed, inv.named⟩
  | purged name =>
      cases taken
      exact ⟨inv.cached, fun other bytes filed => inv.filed other bytes (kept_of_erased filed), inv.named⟩
  | terminated =>
      cases taken
      exact ⟨nofun, inv.filed, nofun⟩

/-- Whatever is answered at once, from the memory or from a file, is a picture of the URL. -/
theorem at_once_depicts (kit : UIKit Image) (es : List (Event Image)) :
    Always (recorded (step kit) (note kit))
      (fun x => ∀ url reads, ∀ image ∈ atOnce kit x.1 url reads, Depicts kit x.2.web url image)
      (initial Image, Log.start Image) es := by
  refine @always_of_meets _ _ _ (fun x => Inv kit x.1 x.2) _ (fun _ _ => True) (fun x e x' inv _ taken => ?_)
    (fun x inv url reads image found => inv.atOnce found) _ _ inv_initial meets_true
  obtain ⟨s', stepped, rfl⟩ := recorded_eq_some.mp taken
  exact inv_step inv stepped

section Views

theorem load_other {other : ℕ} (apart : other ≠ view) (url : String) (reads : Bool) :
    (load kit s view url reads).views other = s.views other := by
  unfold load
  split
  · exact Function.update_of_ne apart _ _
  · cases found : atOnce kit s url reads with
    | none => rw [download_later found]
    | some image =>
        rw [download_atOnce found]
        exact Function.update_of_ne apart _ _

theorem load_shows (inv : Inv kit s log) (view : ℕ) {reads : Bool}
    (answered : (url == "" || (atOnce kit s url reads).isSome) = true) :
    Shows kit log.web url ((load kit s view url reads).views view) := by
  unfold Shows load
  split
  · exact Function.update_self _ _ _
  · rename_i named
    cases found : atOnce kit s url reads with
    | none => simp [found, named] at answered
    | some image =>
        rw [download_atOnce found]
        exact ⟨image, Function.update_self _ _ _, inv.atOnce found⟩

theorem arrived_views (s : State Image) (d : Download) (image : Image) (writes : Bool) :
    (arrived kit s d image writes).views = Function.update s.views d.view (some image) := by
  unfold arrived
  obtain same | ⟨_, _, written⟩ := writeToDisk_cases kit (s.keep d.url image) image d.url writes
  · rw [same]
    rfl
  · rw [written]
    rfl

theorem right_load (inv : Inv kit s log) (right : Right kit (s, log)) (view : ℕ) (url : String) (reads : Bool) :
    Right kit (load kit s view url reads, log.load view url (url == "" || (atOnce kit s url reads).isSome)) := by
  intro other last wanted
  change Function.update log.wanted view _ other = _ at wanted
  by_cases own : other = view
  · rw [own, Function.update_self] at wanted
    obtain ⟨rfl, answered⟩ := Prod.mk.inj (Option.some.inj wanted)
    rw [own]
    exact load_shows inv view answered
  · rw [Function.update_of_ne own] at wanted
    change Shows kit log.web last ((load kit s view url reads).views other)
    rw [load_other own]
    exact right other last wanted

theorem shows_some {web : String → List Image} :
    Shows kit web url (some image) ↔ url ≠ "" ∧ Depicts kit web url image := by
  unfold Shows
  split <;> simp_all

theorem Shows.downloaded {shown : Option Image} (shows : Shows kit log.web url shown) (d : Download) (image : Image) :
    Shows kit (log.downloaded d image).web url shown := by
  cases shown with
  | none =>
      unfold Shows at shows ⊢
      split at shows <;> simp_all
  | some old =>
      obtain ⟨named, depicts⟩ := shows_some.mp shows
      exact shows_some.mpr ⟨named, depicts.downloaded d image⟩

/-- The picture of a download goes into the view, whatever URL that was loaded with last. -/
theorem right_arrived_iff (right : Right kit (s, log)) (named : d.url ≠ "") (image : Image) (writes : Bool) :
    Right kit (arrived kit s d image writes, log.downloaded d image) ↔
      ∀ url, log.wanted d.view = some (url, true) →
        url = d.url ∨ url ≠ "" ∧ Depicts kit log.web url image := by
  constructor
  · intro later url wanted
    by_cases own : url = d.url
    · exact .inl own
    · have same : (log.downloaded d image).web url = log.web url := Function.update_of_ne own _ _
      have shows := later d.view url (by simp [Log.downloaded, wanted])
      rw [arrived_views, Function.update_self, shows_some] at shows
      unfold Depicts at shows ⊢
      rw [same] at shows
      exact .inr shows
  · intro timely view last wanted
    change Function.update log.wanted d.view _ view = _ at wanted
    rw [arrived_views]
    by_cases here : view = d.view
    · rw [here, Function.update_self] at wanted ⊢
      obtain ⟨⟨url, answered⟩, before, same⟩ := Option.map_eq_some_iff.mp wanted
      obtain ⟨rfl, either⟩ := Prod.mk.inj same
      rw [shows_some]
      by_cases own : url = d.url
      · rw [own]
        exact ⟨named, depicts_downloaded log d image⟩
      · obtain rfl : answered = true := by simpa [own] using either
        obtain ⟨urlNamed, depicts⟩ := (timely url before).resolve_left own
        exact ⟨urlNamed, depicts.downloaded d image⟩
    · rw [Function.update_of_ne here] at wanted ⊢
      exact (right view last wanted).downloaded d image

theorem right_step {s' : State Image} {e : Event Image} (inv : Inv kit s log) (right : Right kit (s, log))
    (taken : step kit s e = some s') : Right kit (s', note kit s e log) ↔ Timely kit (s, log) e := by
  cases e with
  | load view url reads =>
      cases taken
      exact iff_of_true (right_load inv right view url reads) nofun
  | downloaded k image writes =>
      obtain ⟨d, found, done⟩ := Option.bind_eq_some_iff.mp taken
      cases done
      have named : d.url ≠ "" := inv.named d (List.mem_of_getElem? found)
      have before : Right kit ({ s with downloads := s.downloads.eraseIdx k }, log) := right
      rw [note_downloaded found, right_arrived_iff before named image writes]
      constructor
      · intro timely _ _ _ same other here
        cases same
        obtain rfl : d = other := Option.some.inj (found.symm.trans here)
        exact timely
      · exact fun timely => timely k image writes rfl d found
  | failed k =>
      obtain ⟨_, done⟩ := Option.ite_none_right_eq_some.mp taken
      cases done
      exact iff_of_true right nofun
  | evicted url =>
      cases taken
      exact iff_of_true right nofun
  | purged name =>
      cases taken
      exact iff_of_true right nofun
  | terminated =>
      cases taken
      exact iff_of_true nofun nofun

/-- Views show the pictures they were last loaded with for as long as the downloads of earlier loads
come before those loads are answered, or bring a picture of the same URL. -/
theorem views_right_iff (kit : UIKit Image) (es : List (Event Image)) :
    Always (recorded (step kit) (note kit)) (Right kit) (initial Image, Log.start Image) es ↔
      Meets (recorded (step kit) (note kit)) (Timely kit) (initial Image, Log.start Image) es := by
  refine @always_iff_meets _ _ _ (fun x => Inv kit x.1 x.2) _ _ (fun x e x' inv taken => ?_)
    (fun x e x' inv right taken => ?_) _ _ inv_initial nofun
  · obtain ⟨s', stepped, rfl⟩ := recorded_eq_some.mp taken
    exact inv_step inv stepped
  · obtain ⟨s', stepped, rfl⟩ := recorded_eq_some.mp taken
    exact right_step inv right stepped

/-- A cell that is reused for `b` gets back the picture of `a`. -/
example : (run (step ⟨fun _ => none, fun _ => none⟩) (initial ℕ)
    [.load 0 "a" false, .load 0 "b" false, .downloaded 1 20 false, .downloaded 0 10 false]).map (·.views 0) =
      some (some 10) := rfl

end Views

end Model

end PetClump.CachedImage
