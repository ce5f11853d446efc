import PetClump.Pets.Photos

/-! # Photo references

Where a picture is only deleted when nothing else refers to it, every URL that a
screen, a read or a write holds names a stored object that is not about to go.
-/

namespace PetClump.Photos

open ChangeFeed Runs

theorem file_injective : Function.Injective Uuid.file := by
  intro a b same
  have lists := congrArg String.toList same
  simp only [Uuid.file, String.toList_append] at lists
  exact Subtype.ext (String.toList_inj.mp (List.append_cancel_right lists))

variable {links : DownloadUrls}

theorem mem_holders {s : State} {slots : Slots} :
    slots ∈ s.holders ↔ slots = s.document ∨ slots ∈ s.writes ∨ (∃ i, (i, slots) ∈ s.answers) ∨
      ∃ i p, s.profiles.lookup i = some p ∧ p.urlMap = slots := by
  simp only [State.holders, Multiset.mem_cons, Multiset.mem_add, Multiset.mem_map, or_assoc]
  refine or_congr_right (or_congr_right (or_congr ?_ ?_))
  · constructor
    · rintro ⟨⟨i, other⟩, mem, rfl⟩
      exact ⟨i, mem⟩
    · rintro ⟨i, mem⟩
      exact ⟨(i, slots), mem, rfl⟩
  · constructor
    · rintro ⟨⟨i, p⟩, mem, rfl⟩
      exact ⟨i, p, Finmap.lookup_eq_some_iff.mpr mem, rfl⟩
    · rintro ⟨i, p, found, rfl⟩
      exact ⟨⟨i, p⟩, Finmap.lookup_eq_some_iff.mp found, rfl⟩

/-- The URL names an object that is stored, is not being deleted and is no upload under way. -/
def Good (links : DownloadUrls) (s : State) (url : String) : Prop :=
  ∃ uuid ∈ s.storage, url = links.url uuid ∧ uuid.file ∉ s.removals ∧ uuid ∉ s.uploads

structure Inv (links : DownloadUrls) (s : State) : Prop where
  held : ∀ url, url ≠ "" → s.Holds url → Good links s url
  uploads : ∀ uuid u, s.uploads.lookup uuid = some u →
    uuid ∈ s.drawn ∧ uuid.file ∉ s.removals ∧ (u.stored = true → uuid ∈ s.storage)
  drawn : ∀ uuid, uuid ∈ s.storage ∨ uuid.file ∈ s.removals → uuid ∈ s.drawn

theorem inv_start {document : Slots} {storage : Finset Uuid}
    (names : (State.start document storage).NoneDangle links) : Inv links (.start document storage) where
  held url full holds := by
    obtain ⟨slots, mem, key, rfl⟩ := holds
    rcases mem_holders.mp mem with rfl | write | ⟨i, answer⟩ | ⟨i, p, found, -⟩
    · obtain ⟨uuid, stored, same⟩ := names key full
      exact ⟨uuid, stored, same, Multiset.notMem_zero _, Finmap.notMem_empty⟩
    · exact absurd write (Multiset.notMem_zero _)
    · exact absurd answer (Multiset.notMem_zero _)
    · cases (Finmap.lookup_empty i).symm.trans found
  uploads uuid u found := by simp [State.start] at found
  drawn uuid known := known.elim id fun removed => absurd removed (Multiset.notMem_zero _)

theorem Inv.noneDangle {s : State} (inv : Inv links s) : s.NoneDangle links := by
  intro key full
  have holds : s.Holds (s.document key) := ⟨s.document, mem_holders.mpr (.inl rfl), key, rfl⟩
  obtain ⟨uuid, stored, same, -, -⟩ := inv.held _ full holds
  exact ⟨uuid, stored, same⟩

namespace State

variable {s : State} {i : ℕ} {p : Profile} {url : String}

theorem holds_profile (found : s.profiles.lookup i = some p) (key : UrlKey) :
    s.Holds (p.urlMap key) :=
  ⟨p.urlMap, mem_holders.mpr (.inr (.inr (.inr ⟨i, p, found, rfl⟩))), key, rfl⟩

theorem Holds.of_setSlots {urlMap : Slots} (holds : (s.setSlots i p urlMap).Holds url) :
    s.Holds url ∨ ∃ key, urlMap key = url := by
  obtain ⟨slots, mem, key, rfl⟩ := holds
  rcases mem_holders.mp mem with rfl | write | answer | ⟨j, q, found, rfl⟩
  · exact .inl ⟨_, mem_holders.mpr (.inl rfl), key, rfl⟩
  · exact .inl ⟨_, mem_holders.mpr (.inr (.inl write)), key, rfl⟩
  · exact .inl ⟨_, mem_holders.mpr (.inr (.inr (.inl answer))), key, rfl⟩
  · by_cases own : j = i
    · rw [own, setSlots, Finmap.lookup_insert] at found
      cases found
      exact .inr ⟨key, rfl⟩
    · rw [setSlots, Finmap.lookup_insert_of_ne _ own] at found
      exact .inl (holds_profile found key)

/-- A URL that is left after a slot is cleared was there before. -/
theorem Holds.of_setPhotoUrl_empty {key : UrlKey} (found : s.profiles.lookup i = some p)
    (full : url ≠ "") (holds : (s.setPhotoUrl i p key "").Holds url) : s.Holds url := by
  rcases holds.of_setSlots with old | ⟨other, same⟩
  · exact old
  · by_cases cleared : other = key
    · rw [cleared, Function.update_self] at same
      exact absurd same.symm full
    · rw [Function.update_of_ne cleared] at same
      exact same ▸ holds_profile found other

theorem Holds.of_upload {urlMap : Slots} (holds : (s.upload urlMap).Holds url) :
    s.Holds url ∨ ∃ key, urlMap key = url := by
  obtain ⟨slots, mem, key, rfl⟩ := holds
  rcases mem_holders.mp mem with rfl | write | rest
  · exact .inl ⟨_, mem_holders.mpr (.inl rfl), key, rfl⟩
  · rcases Multiset.mem_cons.mp write with rfl | write
    · exact .inr ⟨key, rfl⟩
    · exact .inl ⟨_, mem_holders.mpr (.inr (.inl write)), key, rfl⟩
  · exact .inl ⟨_, mem_holders.mpr (.inr (.inr rest)), key, rfl⟩

end State

namespace Inv

variable {s s' : State} {i : ℕ} {p : Profile} {key : UrlKey}

/-- A step that leaves storage alone and hands no URL on but good ones. -/
theorem of_holds (inv : Inv links s) (storage : s'.storage = s.storage)
    (uploads : s'.uploads = s.uploads) (removals : s'.removals = s.removals) (drawn : s'.drawn = s.drawn)
    (holds : ∀ url, url ≠ "" → s'.Holds url → s.Holds url ∨ Good links s url) : Inv links s' where
  held url full now := by
    have good : Good links s url := (holds url full now).elim (inv.held url full) id
    rwa [Good, storage, uploads, removals]
  uploads := by
    rw [storage, uploads, removals, drawn]
    exact inv.uploads
  drawn := by
    rw [storage, removals, drawn]
    exact inv.drawn

/-- The object of an unshared URL is deleted. -/
theorem clear (inv : Inv links s) (found : s.profiles.lookup i = some p) (full : p.urlMap key ≠ "")
    (unshared : Unshared s i key) {file : String} (parsed : parseUrl (p.urlMap key) = some file) :
    Inv links (s.clear i p key file) := by
  have gone := (unshared p found).resolve_left full
  obtain ⟨uuid, stored, same, -, finished⟩ := inv.held _ full (State.holds_profile found key)
  have named : file = uuid.file := by
    rw [same, links.parse_url] at parsed
    exact (Option.some.inj parsed).symm
  subst named
  constructor
  · intro url some holds
    obtain ⟨other, kept, its, safe, done⟩ := inv.held url some (holds.of_setPhotoUrl_empty found some)
    refine ⟨other, kept, its, fun removed => ?_, done⟩
    rcases Multiset.mem_cons.mp removed with same' | removed
    · rw [file_injective same', ← same] at its
      exact gone (its ▸ holds)
    · exact safe removed
  · intro other u uploading
    obtain ⟨known, safe, ready⟩ := inv.uploads other u uploading
    refine ⟨known, fun removed => ?_, ready⟩
    rcases Multiset.mem_cons.mp removed with same' | removed
    · rw [← file_injective same'] at finished
      exact finished (Finmap.mem_of_lookup_eq_some uploading)
    · exact safe removed
  · rintro other (kept | removed)
    · exact inv.drawn other (.inl kept)
    · rcases Multiset.mem_cons.mp removed with same' | removed
      · exact file_injective same' ▸ inv.drawn uuid (.inl stored)
      · exact inv.drawn other (.inr removed)

theorem parse_held (inv : Inv links s) (found : s.profiles.lookup i = some p)
    (full : p.urlMap key ≠ "") : ∃ file, parseUrl (p.urlMap key) = some file := by
  obtain ⟨uuid, -, same, -⟩ := inv.held _ full (State.holds_profile found key)
  exact ⟨uuid.file, same ▸ links.parse_url uuid⟩

theorem deletePhoto (inv : Inv links s) (found : s.profiles.lookup i = some p)
    (unshared : Unshared s i key) : Inv links (s.deletePhoto i p key) := by
  rw [State.deletePhoto]
  split
  · exact inv
  · rename_i full
    obtain ⟨file, parsed⟩ := inv.parse_held found full
    rw [parsed]
    exact inv.clear found full unshared parsed

/-- What `deleteImage` leaves: the slot is empty and the uploads are as they were. -/
theorem deleteImage (inv : Inv links s) (found : s.profiles.lookup i = some p)
    (unshared : Unshared s i key) (deleted : s.deleteImage i p key = some s') :
    Inv links s' ∧ s'.uploads = s.uploads ∧
      ∃ q, s'.profiles.lookup i = some q ∧ q.urlMap = Function.update p.urlMap key "" := by
  rw [State.deleteImage] at deleted
  split at deleted
  · rename_i empty
    cases deleted
    exact ⟨inv, rfl, p, found, by rw [← empty, Function.update_eq_self]⟩
  · rename_i full
    obtain ⟨file, parsed, rfl⟩ := Option.map_eq_some_iff.mp deleted
    exact ⟨inv.clear found full unshared parsed, rfl, _, Finmap.lookup_insert _, rfl⟩

theorem put (inv : Inv links s) {uuid : Uuid} (fresh : uuid ∉ s.drawn) :
    Inv links (s.put i key uuid) := by
  constructor
  · intro url full holds
    obtain ⟨other, stored, same, safe, done⟩ := inv.held url full holds
    refine ⟨other, stored, same, safe, fun uploading => ?_⟩
    rcases Finmap.mem_insert.mp uploading with rfl | old
    · exact fresh (inv.drawn _ (.inl stored))
    · exact done old
  · intro other u found
    by_cases new : other = uuid
    · subst new
      rw [State.put, Finmap.lookup_insert] at found
      cases found
      exact ⟨Finset.mem_insert_self _ _, fun removed => fresh (inv.drawn _ (.inr removed)), nofun⟩
    · rw [State.put, Finmap.lookup_insert_of_ne _ new] at found
      obtain ⟨known, safe, ready⟩ := inv.uploads other u found
      exact ⟨Finset.mem_insert_of_mem known, safe, ready⟩
  · exact fun other known => Finset.mem_insert_of_mem (inv.drawn other known)

theorem stored (inv : Inv links s) {uuid : Uuid} {u : Upload} (found : s.uploads.lookup uuid = some u) :
    Inv links { s with
      storage := insert uuid s.storage, uploads := s.uploads.insert uuid { u with stored := true } } := by
  obtain ⟨known, safe, -⟩ := inv.uploads uuid u found
  constructor
  · intro url full holds
    obtain ⟨other, kept, same, safe, done⟩ := inv.held url full holds
    refine ⟨other, Finset.mem_insert_of_mem kept, same, safe, fun uploading => ?_⟩
    rcases Finmap.mem_insert.mp uploading with rfl | old
    · exact done (Finmap.mem_of_lookup_eq_some found)
    · exact done old
  · intro other v uploading
    by_cases new : other = uuid
    · subst new
      exact ⟨known, safe, fun _ => Finset.mem_insert_self _ _⟩
    · rw [Finmap.lookup_insert_of_ne _ new] at uploading
      obtain ⟨known, safe, ready⟩ := inv.uploads other v uploading
      exact ⟨known, safe, fun done => Finset.mem_insert_of_mem (ready done)⟩
  · rintro other (kept | removed)
    · rcases Finset.mem_insert.mp kept with rfl | kept
      · exact known
      · exact inv.drawn other (.inl kept)
    · exact inv.drawn other (.inr removed)

/-- A finished upload leaves a URL that may be handed out. -/
theorem done (inv : Inv links s) {uuid : Uuid} {u : Upload} (found : s.uploads.lookup uuid = some u)
    (ready : u.stored = true) :
    Inv links (s.done uuid) ∧ Good links (s.done uuid) (links.url uuid) := by
  obtain ⟨known, safe, there⟩ := inv.uploads uuid u found
  refine ⟨⟨?_, ?_, inv.drawn⟩, uuid, there ready, rfl, safe, Finmap.notMem_erase_self⟩
  · intro url full holds
    obtain ⟨other, kept, same, safe, done⟩ := inv.held url full holds
    exact ⟨other, kept, same, safe, fun uploading => done (Finmap.mem_erase.mp uploading).2⟩
  · intro other v uploading
    by_cases gone : other = uuid
    · rw [gone, State.done, Finmap.lookup_erase] at uploading
      cases uploading
    · rw [State.done, Finmap.lookup_erase_ne gone] at uploading
      exact inv.uploads other v uploading

theorem removed (inv : Inv links s) {file : String} (removing : file ∈ s.removals) :
    Inv links { s with
      storage := s.storage.filter fun uuid => uuid.file ≠ file, removals := s.removals.erase file } := by
  have kept : ∀ uuid ∈ s.storage, uuid.file ∉ s.removals →
      uuid ∈ s.storage.filter fun uuid => uuid.file ≠ file := by
    intro uuid stored safe
    exact Finset.mem_filter.mpr ⟨stored, fun same => safe (same ▸ removing)⟩
  constructor
  · intro url full holds
    obtain ⟨uuid, stored, same, safe, done⟩ := inv.held url full holds
    exact ⟨uuid, kept uuid stored safe, same, fun later => safe (Multiset.mem_of_mem_erase later), done⟩
  · intro uuid u uploading
    obtain ⟨known, safe, ready⟩ := inv.uploads uuid u uploading
    exact ⟨known, fun later => safe (Multiset.mem_of_mem_erase later),
      fun stored => kept uuid (ready stored) safe⟩
  · rintro uuid (stored | removing)
    · exact inv.drawn uuid (.inl (Finset.mem_of_mem_filter uuid stored))
    · exact inv.drawn uuid (.inr (Multiset.mem_of_mem_erase removing))

theorem setSlots (inv : Inv links s) {urlMap : Slots}
    (good : ∀ key, urlMap key ≠ "" → s.Holds (urlMap key) ∨ Good links s (urlMap key)) :
    Inv links (s.setSlots i p urlMap) := by
  refine inv.of_holds rfl rfl rfl rfl fun url full holds => ?_
  rcases holds.of_setSlots with old | ⟨key, rfl⟩
  · exact .inl old
  · exact good key full

theorem upload (inv : Inv links s) {urlMap : Slots} (known : ∀ key, urlMap key ≠ "" → s.Holds (urlMap key)) :
    Inv links (s.upload urlMap) := by
  refine inv.of_holds rfl rfl rfl rfl fun url full holds => ?_
  rcases holds.of_upload with old | ⟨key, rfl⟩
  · exact .inl old
  · exact .inl (known key full)

/-- The slots of a profile, one of them with the URL of a finished upload. -/
theorem good_update {q : Profile} (found : s.profiles.lookup i = some q) {url : String}
    (good : Good links s url) (other : UrlKey) :
    s.Holds (Function.update q.urlMap key url other) ∨
      Good links s (Function.update q.urlMap key url other) := by
  by_cases own : other = key
  · rw [own, Function.update_self]
    exact .inr good
  · rw [Function.update_of_ne own]
    exact .inl (State.holds_profile found other)

theorem linked (inv : Inv links s) {uuid : Uuid} {u : Upload} (found : s.uploads.lookup uuid = some u)
    (ready : u.stored = true) (allowed : Allowed s (.linked uuid))
    (finished : Photos.linked links s uuid u = some s') : Inv links s' := by
  simp only [Photos.linked] at finished
  split at finished
  · cases finished
    exact (inv.done found ready).1
  · rename_i p shown
    split at finished
    · cases finished
      obtain ⟨inv, good⟩ := inv.done found ready
      exact inv.setSlots fun key _ => good_update (s := s.done uuid) shown good key
    · rename_i client
      obtain ⟨t, deleted, rest⟩ := Option.bind_eq_some_iff.mp finished
      cases rest
      have unshared := allowed u found ⟨p, shown, client⟩
      obtain ⟨invT, uploads, q, shownT, slots⟩ := inv.deleteImage shown unshared deleted
      obtain ⟨invD, good⟩ := invT.done (uploads ▸ found) ready
      let urlMap := Function.update p.urlMap u.key (links.url uuid)
      have same : Function.update q.urlMap u.key (links.url uuid) = urlMap := by
        rw [slots, Function.update_idem]
      have placed : Inv links ((t.done uuid).setSlots u.profile p urlMap) := by
        rw [← same]
        exact invD.setSlots fun key _ => good_update (s := t.done uuid) shownT good key
      have shown' : ((t.done uuid).setSlots u.profile p urlMap).profiles.lookup u.profile =
          some { p with urlMap } := Finmap.lookup_insert _
      exact placed.upload fun key _ => State.holds_profile shown' key

/-- The same when all slots that are held afterwards were held before. -/
theorem of_holders (inv : Inv links s) (storage : s'.storage = s.storage)
    (uploads : s'.uploads = s.uploads) (removals : s'.removals = s.removals) (drawn : s'.drawn = s.drawn)
    (holders : ∀ slots ∈ s'.holders, slots ∈ s.holders) : Inv links s' := by
  refine inv.of_holds storage uploads removals drawn fun url _ holds => .inl ?_
  obtain ⟨slots, mem, named⟩ := holds
  exact ⟨slots, holders slots mem, named⟩

/-- Answers may hold what something held before. -/
theorem of_answers (inv : Inv links s) (reads : Multiset ℕ) {answers : Multiset (ℕ × Slots)}
    (known : ∀ j slots, (j, slots) ∈ answers → slots ∈ s.holders) : Inv links { s with reads, answers } := by
  refine inv.of_holders rfl rfl rfl rfl fun other mem => ?_
  rcases mem_holders.mp mem with document | write | ⟨j, answer⟩ | profile
  · exact mem_holders.mpr (.inl document)
  · exact mem_holders.mpr (.inr (.inl write))
  · exact known j other answer
  · exact mem_holders.mpr (.inr (.inr (.inr profile)))

theorem answer (inv : Inv links s) {slots : Slots} (known : slots = s.document ∨ slots ∈ s.writes) :
    Inv links { s with reads := s.reads.erase i, answers := (i, slots) ::ₘ s.answers } := by
  refine inv.of_answers _ fun j other answer => ?_
  rcases Multiset.mem_cons.mp answer with new | old
  · cases new
    exact mem_holders.mpr (known.imp_right .inl)
  · exact mem_holders.mpr (.inr (.inr (.inl ⟨j, old⟩)))

theorem takeAnswer (inv : Inv links s) (slots : Slots) :
    Inv links { s with answers := s.answers.erase (i, slots) } :=
  inv.of_answers s.reads fun j _ answer =>
    mem_holders.mpr (.inr (.inr (.inl ⟨j, Multiset.mem_of_mem_erase answer⟩)))

theorem loaded (inv : Inv links s) {slots : Slots} (answered : (i, slots) ∈ s.answers) :
    Inv links ({ s with answers := s.answers.erase (i, slots) }.setSlots i p slots) := by
  refine (inv.takeAnswer slots).setSlots fun key full => .inr ?_
  exact inv.held _ full ⟨slots, mem_holders.mpr (.inr (.inr (.inl ⟨i, answered⟩))), key, rfl⟩

theorem written (inv : Inv links s) {slots : Slots} (writing : slots ∈ s.writes) :
    Inv links { s with document := slots, writes := s.writes.erase slots } := by
  refine inv.of_holders rfl rfl rfl rfl fun other mem => ?_
  rcases mem_holders.mp mem with rfl | write | rest
  · exact mem_holders.mpr (.inr (.inl writing))
  · exact mem_holders.mpr (.inr (.inl (Multiset.mem_of_mem_erase write)))
  · exact mem_holders.mpr (.inr (.inr rest))

theorem leave (inv : Inv links s) : Inv links { s with profiles := s.profiles.erase i } := by
  refine inv.of_holders rfl rfl rfl rfl fun other mem => ?_
  rcases mem_holders.mp mem with document | write | answer | ⟨j, p, found, rfl⟩
  · exact mem_holders.mpr (.inl document)
  · exact mem_holders.mpr (.inr (.inl write))
  · exact mem_holders.mpr (.inr (.inr (.inl answer)))
  · by_cases own : j = i
    · rw [own, Finmap.lookup_erase] at found
      cases found
    · rw [Finmap.lookup_erase_ne own] at found
      exact mem_holders.mpr (.inr (.inr (.inr ⟨j, p, found, rfl⟩)))

theorem openScreen (inv : Inv links s) (client : Client) :
    Inv links { s with
      profiles := s.profiles.insert s.opened ⟨client, fun _ => ""⟩, opened := s.opened + 1
      reads := s.opened ::ₘ s.reads } := by
  have blank : Inv links (s.setSlots s.opened ⟨client, fun _ => ""⟩ fun _ => "") :=
    inv.setSlots fun _ full => absurd rfl full
  exact blank.of_holders rfl rfl rfl rfl fun _ => id

theorem appear (inv : Inv links s) : Inv links { s with reads := i ::ₘ s.reads } :=
  inv.of_holders rfl rfl rfl rfl fun _ => id

end Inv

theorem inv_step {s s' : State} {e : Event} (inv : Inv links s) (allowed : Allowed s e)
    (taken : step links s e = some s') : Inv links s' := by
  cases e with
  | «open» client =>
      cases taken
      exact inv.openScreen client
  | appear i =>
      obtain ⟨p, -, taken⟩ := Option.bind_eq_some_iff.mp taken
      split at taken
      · cases taken
        exact inv.appear
      · cases taken
  | answer i slots =>
      simp only [step] at taken
      split at taken
      · rename_i asked
        cases taken
        exact inv.answer asked.2
      · cases taken
  | loaded i slots =>
      simp only [step] at taken
      split at taken
      · rename_i answered
        split at taken
        · cases taken
          exact inv.loaded answered
        · cases taken
          exact inv.takeAnswer slots
      · cases taken
  | choose i key uuid =>
      obtain ⟨p, found, taken⟩ := Option.bind_eq_some_iff.mp taken
      split at taken
      · cases taken
      · rename_i fresh
        split at taken
        · rename_i client
          cases taken
          refine (inv.deletePhoto found (allowed ⟨p, found, client⟩)).put ?_
          rw [State.deletePhoto]
          split
          · exact fresh
          · exact fresh
        · cases taken
          exact inv.put fresh
  | delete i key =>
      obtain ⟨p, found, taken⟩ := Option.bind_eq_some_iff.mp taken
      split at taken
      · cases taken
        exact inv.deletePhoto found allowed
      · obtain ⟨t, deleted, rest⟩ := Option.bind_eq_some_iff.mp taken
        cases rest
        obtain ⟨inv, -, q, shown, slots⟩ := inv.deleteImage found allowed deleted
        exact inv.upload fun other _ => slots ▸ State.holds_profile shown other
  | save i =>
      obtain ⟨p, found, taken⟩ := Option.bind_eq_some_iff.mp taken
      cases taken
      exact inv.upload fun key _ => State.holds_profile found key
  | leave i =>
      obtain ⟨p, -, taken⟩ := Option.bind_eq_some_iff.mp taken
      split at taken
      · cases taken
        exact inv.leave
      · cases taken
  | stored uuid =>
      obtain ⟨u, found, taken⟩ := Option.bind_eq_some_iff.mp taken
      cases taken
      exact inv.stored found
  | linked uuid =>
      obtain ⟨u, found, taken⟩ := Option.bind_eq_some_iff.mp taken
      split at taken
      · rename_i ready
        exact inv.linked found ready allowed taken
      · cases taken
  | removed file =>
      simp only [step] at taken
      split at taken
      · rename_i removing
        cases taken
        exact inv.removed removing
      · cases taken
  | written slots =>
      simp only [step] at taken
      split at taken
      · rename_i writing
        cases taken
        exact inv.written writing
      · cases taken

/-- In a run that only deletes pictures nothing else refers to, no URL in the document dangles. -/
theorem photo_references_hold (links : DownloadUrls) (document : Slots) (storage : Finset Uuid)
    (names : (State.start document storage).NoneDangle links) (es : List Event)
    (allowed : Meets (step links) Allowed (.start document storage) es) :
    Always (step links) (State.NoneDangle links) (.start document storage) es :=
  always_of_meets (fun _ _ _ => inv_step) (fun _ => Inv.noneDangle) (inv_start names) allowed

/-- A saved picture stays while a new one in another slot is replaced before the profile is saved. -/
theorem photo_references_hold_unsaved :
    let first : Uuid := ⟨"a", by simp⟩
    let second : Uuid := ⟨"b", by simp⟩
    let third : Uuid := ⟨"c", by simp⟩
    let saved := Function.update (fun _ => "") .main (DownloadUrls.sample.url first)
    let added := Function.update saved .pet1 (DownloadUrls.sample.url third)
    let es : List Event := [.open .android, .answer 0 saved, .loaded 0 saved, .choose 0 .pet1 second,
      .stored second, .linked second, .choose 0 .pet1 third, .removed second.file, .stored third,
      .linked third, .save 0, .leave 0, .written added]
    ((run (step .sample) (.start saved {first}) es).map State.document) = some added ∧
      Always (step .sample) (State.NoneDangle .sample) (.start saved {first}) es := by
  refine ⟨by decide +kernel, photo_references_hold _ _ _ (by decide +kernel) _ (by decide +kernel)⟩

/-- A picture is deleted on Android and the screen is left without saving. -/
theorem deleted_photo_dangles : ¬ ∀ (links : DownloadUrls) (document : Slots) (storage : Finset Uuid)
    (es : List Event), (State.start document storage).NoneDangle links →
      Always (step links) (State.NoneDangle links) (.start document storage) es := by
  intro claim
  let first : Uuid := ⟨"a", by simp⟩
  let saved : Slots := Function.update (fun _ => "") .main (DownloadUrls.sample.url first)
  let es : List Event := [.open .android, .answer 0 saved, .loaded 0 saved, .delete 0 .main, .leave 0,
    .removed first.file]
  have broken : (run (step .sample) (.start saved {first}) es).any
      (fun s => !decide (s.NoneDangle .sample)) = true := by
    decide +kernel
  obtain ⟨s, reached, dangles⟩ := (Option.any_eq_true _ _).mp broken
  have always := claim .sample saved {first} es (by decide +kernel)
  have holds := always_iff_prefixes.mp always es List.prefix_rfl s reached
  simp [holds] at dangles

end PetClump.Photos
