import HomeMedia.Proofs.Files.Listing
import HomeMedia.Proofs.Library
import HomeMedia.Proofs.Rescan.Reporting
/-!
# What a scan adds to the library

A walk visits no two files at the same place, so whether the library knows a file that it is offered
is settled before the scan. Its answers are told by that alone (`answered_offerAll`): a file that is
known comes to nothing, and a file that is new is added behind the others, makes none of the others
known, and is answered by the container of its directory, which keeps its number until the end. So
the containers that are named are as many as the directories that gain a file (`card_gained`).

That is what becomes of the library (`Shelves`). It speaks of the files that are reached and of
nothing else, so another order of the listing, which gives the same files in another order, changes
nothing but the numbers of new containers (`Shelves.alike`). A second scan is offered files that are
all known (`run_again`).
-/

namespace HomeMedia

/-- The media files that a walk visits. -/
def Files.media (fs : Files) (follow : Bool) (start : Path) : List Path :=
  (fs.walk follow start).filterMap Visit.media?

namespace Library

/-- The files that a library does not know. -/
def lacks (l : Library) (paths : List Path) : List Path :=
  paths.filter fun p => !l.files.contains p.parts

/-- The directories that gain a file when some files are added. -/
def gaining (l : Library) (paths : List Path) : Finset (List Part) :=
  ((l.lacks paths).filterMap Path.parent?).toFinset

/-- A library lacks the files among some that it does not have. -/
theorem mem_lacks_iff {l : Library} {paths : List Path} {path : Path} :
    path ∈ l.lacks paths ↔ path ∈ paths ∧ path.parts ∉ l.files := by
  simp [lacks]

/-- A directory gains a file if it is the parent of one that the library lacks. -/
theorem mem_gaining_iff {l : Library} {paths : List Path} {dir : List Part} :
    dir ∈ l.gaining paths ↔ ∃ path ∈ paths, path.parts ∉ l.files ∧ path.parent? = some dir := by
  simp [gaining, mem_lacks_iff, and_assoc]

end Library

namespace Files

variable {fs gs : Files}

/-- The media files of a walk are the files that it visits with a supported extension. -/
theorem mem_media_iff {follow : Bool} {start path : Path} :
    path ∈ fs.media follow start ↔
      .file path ∈ fs.walk follow start ∧ Media.isMedia path = true := by
  rw [media, List.mem_filterMap]
  constructor
  · rintro ⟨v, mem, named⟩
    cases v with
    | file q =>
      rw [Visit.media?] at named
      split_ifs at named with fits
      cases named
      exact ⟨mem, fits⟩
    | other q => cases named
    | unreadable => cases named
  · rintro ⟨mem, fits⟩
    exact ⟨_, mem, if_pos fits⟩

/-- A snapshot in another order has the same media files, in some order. -/
theorem media_perm (tidy : fs.Tidy) (same : gs.Reorders fs) (follow : Bool) (start : Path) :
    (gs.media follow start).Perm (fs.media follow start) :=
  (walk_perm tidy same follow start).filterMap _

/-- Their places are among the places that the walk visits, in that order. -/
theorem parts_media_sublist (visits : List Visit) :
    ((visits.filterMap Visit.media?).map Path.parts).Sublist (visits.filterMap Visit.place?) := by
  induction visits with
  | nil => exact List.Sublist.refl _
  | cons visit more ih =>
    cases visit with
    | file path =>
      rw [List.filterMap_cons_some (f := Visit.place?) rfl]
      by_cases fits : Media.isMedia path = true
      · have named : (Visit.file path).media? = some path := if_pos fits
        rw [List.filterMap_cons_some named]
        exact ih.cons_cons _
      · have passed : (Visit.file path).media? = none := if_neg fits
        rw [List.filterMap_cons_none passed]
        exact ih.cons _
    | other path =>
      rw [List.filterMap_cons_none (f := Visit.place?) rfl, List.filterMap_cons_none rfl]
      exact ih
    | unreadable =>
      rw [List.filterMap_cons_none (f := Visit.place?) rfl, List.filterMap_cons_none rfl]
      exact ih

/-- **A walk visits no two media files at the same place.** -/
theorem Tidy.nodup_media (tidy : fs.Tidy) (follow : Bool) (start : Path) :
    ((fs.media follow start).map Path.parts).Nodup :=
  (tidy.nodup_walk follow start).sublist (parts_media_sublist _)

/-- A media file that is reached lies in a directory. -/
theorem Tidy.exists_parent_media (tidy : fs.Tidy) {follow : Bool} {start path : Path}
    (mem : path ∈ fs.media follow start) : ∃ dir, path.parent? = some dir := by
  have place : path.parts ∈ (fs.walk follow start).filterMap Visit.place? :=
    (parts_media_sublist _).subset (List.mem_map_of_mem mem)
  obtain ⟨base, name, parts, -⟩ := tidy.under_walk follow start _ place
  refine ⟨base, ?_⟩
  rw [Path.parent?, parts, List.getLast?_concat, List.dropLast_concat]

end Files

namespace Rescan

open Library (Addition)
open Home (libraryStore)

variable {valid : Bool}

/-! ## What a library answers -/

/-- Offering files to a library adds them, one after the other. -/
theorem offerAll_library_snd (paths : List Path) (l : Library) :
    ((libraryStore valid).offerAll paths l).2 = l.after (paths.map .file) := by
  induction paths generalizing l with
  | nil => rfl
  | cons path more ih => exact ih _

/-- An offered file is answered as the library answers when it is added. -/
theorem offer_library {path : Path} {l m : Library} {gained : Option ObjectId}
    (added : l.add (.file path) = (gained, m)) :
    (libraryStore valid).offer path l = (.ok gained, m) := by
  change (Except.ok (l.add (.file path)).1, (l.add (.file path)).2) = _
  rw [added]

/-- So is the first of several, and then come the others. -/
theorem offerAll_library_cons {path : Path} {l m : Library} {gained : Option ObjectId}
    (added : l.add (.file path) = (gained, m)) (more : List Path) :
    (libraryStore valid).offerAll (path :: more) l =
      (.ok gained :: ((libraryStore valid).offerAll more m).1,
        ((libraryStore valid).offerAll more m).2) := by
  simp only [Store.offerAll, offer_library added]

/-- What a library says when it is offered files, and what becomes of it. -/
structure Answered (l : Library) (paths : List Path) (offered : List Answer × Library) : Prop where
  /-- The containers of the directories of new files are named. -/
  gained : (offered.1.filterMap Answer.gained?).map some = ((l.lacks paths).filterMap
    Path.parent?).map fun dir => offered.2.placeId? (.directory dir)
  /-- The files that are known are told from the others. -/
  known : offered.1.countP Answer.isKnown = paths.countP fun p => p.parts ∈ l.files
  /-- No file is refused. -/
  refused : offered.1.countP Answer.isRefusal = 0
  /-- The new files are added behind the others. -/
  files : offered.2.files = l.files ++ (l.lacks paths).map Path.parts
  /-- No items are added. -/
  items : offered.2.items = l.items

section Answered

variable {l : Library} {path : Path} {more : List Path}

/-- Nothing comes of a file that is known. -/
theorem Answered.of_known (rest : Answered l more ((libraryStore valid).offerAll more l))
    (known : path.parts ∈ l.files) :
    Answered l (path :: more) ((libraryStore valid).offerAll (path :: more) l) := by
  have added : l.add (.file path) = (none, l) := if_pos known
  have lacks : l.lacks (path :: more) = l.lacks more :=
    List.filter_cons_of_neg (by simpa using known)
  rw [offerAll_library_cons added more]
  refine ⟨?_, ?_, ?_, ?_, rest.items⟩
  · rw [lacks]
    exact rest.gained
  · rw [List.countP_cons_of_pos rfl, List.countP_cons_of_pos (by simpa using known), rest.known]
  · rw [List.countP_cons_of_neg Bool.false_ne_true, rest.refused]
  · rw [lacks]
    exact rest.files

/-- A file that is new does not make any of the others known. -/
theorem Answered.of_new {m : Library} {id : ObjectId} {dir : List Part}
    (rest : Answered m more ((libraryStore valid).offerAll more m)) (new : path.parts ∉ l.files)
    (other : path.parts ∉ more.map Path.parts) (lies : path.parent? = some dir)
    (added : l.add (.file path) = (some id, m)) (files : m.files = l.files ++ [path.parts])
    (items : m.items = l.items)
    (named : ((libraryStore valid).offerAll more m).2.placeId? (.directory dir) = some id) :
    Answered l (path :: more) ((libraryStore valid).offerAll (path :: more) l) := by
  have others : ∀ p ∈ more, p.parts ∈ m.files ↔ p.parts ∈ l.files := fun p mem => by
    have differs : p.parts ≠ path.parts := fun same => other (same ▸ List.mem_map_of_mem mem)
    simp [files, differs]
  have lacks : l.lacks (path :: more) = path :: m.lacks more := by
    rw [Library.lacks, List.filter_cons_of_pos (by simpa using new)]
    refine congrArg _ (List.filter_congr fun p mem => ?_)
    simp only [List.contains_eq_mem, others p mem]
  rw [offerAll_library_cons added more]
  refine ⟨?_, ?_, ?_, ?_, rest.items.trans items⟩
  · rw [lacks, List.filterMap_cons_some (f := Answer.gained?) rfl, List.filterMap_cons_some lies,
      List.map_cons, List.map_cons, rest.gained, named]
  · rw [List.countP_cons_of_neg Bool.false_ne_true,
      List.countP_cons_of_neg (by simpa using new), rest.known]
    refine List.countP_congr fun p mem => ?_
    simp only [others p mem]
  · rw [List.countP_cons_of_neg Bool.false_ne_true, rest.refused]
  · rw [lacks, rest.files, files, List.append_assoc]
    rfl

end Answered

/-- **What a library answers** when it is offered different files that lie in directories. -/
theorem answered_offerAll {paths : List Path} (distinct : (paths.map Path.parts).Nodup)
    (lie : ∀ p ∈ paths, ∃ dir, p.parent? = some dir) (additions : List Addition) :
    Answered (.after {} additions) paths
      ((libraryStore valid).offerAll paths (.after {} additions)) := by
  induction paths generalizing additions with
  | nil => exact ⟨rfl, rfl, rfl, (List.append_nil _).symm, rfl⟩
  | cons path more ih =>
    rw [List.map_cons, List.nodup_cons] at distinct
    obtain ⟨other, distinct⟩ := distinct
    have ih := ih distinct fun p mem => lie p (List.mem_cons_of_mem path mem)
    by_cases known : path.parts ∈ (Library.after {} additions).files
    · exact (ih additions).of_known known
    · obtain ⟨dir, lies⟩ := lie path (List.mem_cons_self ..)
      obtain ⟨id, named, files, items, found⟩ := Library.exists_add_of_new known lies
      rw [← Library.after_concat] at files items found
      refine (ih (additions ++ [.file path])).of_new known other lies
        (Prod.ext named (Library.after_concat ..).symm) files items ?_
      rw [offerAll_library_snd]
      exact Library.placeId?_after found _

/-! ## Shelves -/

/-- What becomes of a library when a scan of a directory reaches some media files. -/
structure Shelves (l : Library) (root : Path) (reached : List Path) (errors : Nat)
    (report : Report Library) : Prop where
  /-- The scan goes to the end. -/
  completed : report.outcome = .ok .completed
  /-- The files that are reached and not known are added, and nothing else. -/
  files : report.store.files = l.files ++ (l.lacks reached).map Path.parts
  items : report.store.items = l.items
  /-- The directories that gain a file are met. -/
  places : ∀ place, place ∈ report.store.places ↔
    place ∈ l.places ∨ ∃ dir ∈ l.gaining reached, place = .directory dir
  /-- The places that were known keep their positions. -/
  known : l.places <+: report.store.places
  /-- The new files are counted, and the known ones, and the directories that gain a file. -/
  logged : report.events.getLast? = some (.rescanCompleted root (l.lacks reached).length
    (reached.countP fun p => p.parts ∈ l.files) errors (l.gaining reached).card)
  /-- The containers of the directories that gain a file are announced, if there are any. -/
  silent : report.announced = none ↔ l.gaining reached = ∅
  announced : ∀ id, id ∈ report.announced.getD [] ↔
    ∃ dir ∈ l.gaining reached, report.store.placeId? (.directory dir) = some id

/-- What is announced, or nothing, are the containers that changed. -/
theorem getD_announced (p : Progress) : p.announced.getD [] = p.changed := by
  unfold Progress.announced
  split_ifs with empty
  · exact empty.symm
  · rfl

section Counts

variable {l : Library} {paths : List Path} {offered : List Answer × Library}

/-- A container is named for every file that is new. -/
theorem Answered.length_gained (answered : Answered l paths offered)
    (lie : ∀ p ∈ paths, ∃ dir, p.parent? = some dir) :
    (offered.1.filterMap Answer.gained?).length = (l.lacks paths).length := by
  have lengths := congrArg List.length answered.gained
  rw [List.length_map, List.length_map] at lengths
  rw [lengths, List.length_filterMap_eq_countP, List.countP_eq_length]
  exact fun p mem => Option.isSome_iff_exists.2 (lie p (List.mem_of_mem_filter mem))

/-- **The containers that gained a file are those of the directories of the files that were
lacking.** -/
theorem Answered.mem_gained_iff (answered : Answered l paths offered) {id : ObjectId} :
    id ∈ offered.1.filterMap Answer.gained? ↔
      ∃ dir ∈ l.gaining paths, offered.2.placeId? (.directory dir) = some id := by
  rw [← List.mem_map_of_injective (Option.some_injective _), answered.gained, List.mem_map]
  simp only [Library.gaining, List.mem_toFinset]

/-- The containers that are named are as many as the directories that gain a file. -/
theorem Answered.card_gained (answered : Answered l paths offered)
    (distinct : offered.2.places.Nodup) :
    (offered.1.filterMap Answer.gained?).toFinset.card = (l.gaining paths).card := by
  have named : (offered.1.filterMap Answer.gained?).toFinset.image some =
      (l.gaining paths).image fun dir => offered.2.placeId? (.directory dir) := by
    rw [Library.gaining, ← List.toFinset_coe, ← List.toFinset_coe, ← Multiset.toFinset_map,
      ← Multiset.toFinset_map]
    exact congrArg List.toFinset answered.gained
  rw [← Finset.card_image_of_injective _ (Option.some_injective _), named]
  refine Finset.card_image_of_injOn fun a mem b _ same => ?_
  obtain ⟨id, -, found⟩ := Finset.mem_image.1 (named ▸ Finset.mem_image_of_mem _ mem)
  exact Library.Place.directory.inj
    (Library.eq_of_placeId? distinct found.symm (same.symm.trans found.symm))

/-- **What is counted** when a library answers. -/
theorem Answered.tally_eq (answered : Answered l paths offered)
    (distinct : offered.2.places.Nodup) (lie : ∀ p ∈ paths, ∃ dir, p.parent? = some dir)
    (visits : List Files.Visit) :
    let p := Progress.tally visits offered.1 {}
    p.added = (l.lacks paths).length ∧ p.skipped = (paths.countP fun p => p.parts ∈ l.files) ∧
      p.errors = visits.count .unreadable ∧ p.changed.length = (l.gaining paths).card := by
  refine ⟨?_, ?_, ?_, ?_⟩
  · simp only [Progress.tally, answered.length_gained lie, Nat.zero_add]
  · simp only [Progress.tally, answered.known, Nat.zero_add]
  · simp only [Progress.tally, answered.refused, Nat.zero_add, Nat.add_zero]
  · rw [changed_tally, Finset.length_sort, answered.card_gained distinct]

end Counts

/-- The places after files were added. -/
theorem mem_places_after {additions : List Addition} {paths : List Path} {place : Library.Place} :
    place ∈ ((Library.after {} additions).after (paths.map .file)).places ↔
      place ∈ (Library.after {} additions).places ∨
        ∃ dir ∈ (Library.after {} additions).gaining paths, place = .directory dir := by
  have holds := Library.holds_after additions
  rw [← Library.after_append, (Library.holds_after _).places, holds.places]
  constructor
  · intro mem
    obtain ⟨a, mem, has⟩ := Library.mem_discovered.1 mem
    rcases List.mem_append.1 mem with old | new
    · exact .inl (Library.mem_discovered.2 ⟨a, old, has⟩)
    · obtain ⟨path, reached, rfl⟩ := List.mem_map.1 new
      by_cases known : (Library.after {} additions).Knows (.file path)
      · exact .inl (holds.mem_discovered known has)
      · obtain ⟨dir, lies, rfl⟩ := Option.map_eq_some_iff.1 has
        exact .inr ⟨dir, Library.mem_gaining_iff.2 ⟨path, reached, known, lies⟩, rfl⟩
  · rintro (old | ⟨dir, mem, rfl⟩)
    · obtain ⟨a, old, has⟩ := Library.mem_discovered.1 old
      exact Library.mem_discovered.2 ⟨a, List.mem_append_left _ old, has⟩
    · obtain ⟨path, mem, -, lies⟩ := Library.mem_gaining_iff.1 mem
      exact Library.mem_discovered.2 ⟨.file path,
        List.mem_append_right _ (List.mem_map_of_mem mem), Option.map_eq_some_iff.2 ⟨dir, lies, rfl⟩⟩

/-- **What becomes of a library** when a directory is scanned. -/
theorem shelves_run {fs : Files} (tidy : fs.Tidy) {root : Path}
    (present : fs.isDirectory root = true) (follow : Bool) (additions : List Addition) :
    Shelves (.after {} additions) root (fs.media follow root)
      ((fs.walk follow root).count .unreadable)
      (run (libraryStore true) fs follow root (.after {} additions)) := by
  have free : ∀ looks s, (libraryStore true).isCancelled looks s = false := fun _ _ => rfl
  obtain ⟨details, ends⟩ := exists_run_of_free free present follow (.after {} additions)
  rw [← Files.media] at ends
  have lie : ∀ p ∈ fs.media follow root, ∃ dir, p.parent? = some dir :=
    fun p mem => tidy.exists_parent_media mem
  have answered : Answered _ _ ((libraryStore true).offerAll _ _) :=
    answered_offerAll (tidy.nodup_media follow root) lie additions
  have stored : ((libraryStore true).offerAll _ _).2 = _ :=
    offerAll_library_snd (fs.media follow root) (.after {} additions)
  generalize (libraryStore true).offerAll (fs.media follow root) (.after {} additions) = offered
    at ends answered stored
  have distinct : offered.2.places.Nodup := stored ▸ Library.nodup_places_after ..
  obtain ⟨added, skipped, errors, containers⟩ :=
    answered.tally_eq distinct lie (fs.walk follow root)
  rw [ends]
  refine ⟨rfl, answered.files, answered.items, fun place => ?_, ?_, ?_, ?_, fun id => ?_⟩
  · rw [stored, mem_places_after]
  · rw [stored]
    exact Library.places_prefix_after ..
  · rw [List.getLast?_concat, added, skipped, errors, containers]
  · rw [announced_eq_none_iff, ← List.length_eq_zero_iff, containers, Finset.card_eq_zero]
  · rw [getD_announced, changed_tally, Finset.mem_sort, List.mem_toFinset]
    exact answered.mem_gained_iff

/-! ## Another order, and another time -/

/-- Two scans of a library that differ in nothing but the numbers of new containers. -/
structure Alike (l : Library) (one other : Report Library) : Prop where
  outcome : other.outcome = one.outcome
  logged : other.events.getLast? = one.events.getLast?
  files : other.store.files.Perm one.store.files
  items : other.store.items = one.store.items
  places : other.store.places.Perm one.store.places
  /-- Containers that are not new have the same numbers. -/
  known : ∀ place ∈ l.places, other.store.placeId? place = one.store.placeId? place
  silent : other.announced = none ↔ one.announced = none
  /-- The same containers are announced. -/
  announced : ∀ place, (∃ id ∈ other.announced.getD [], other.store.placeId? place = some id) ↔
    ∃ id ∈ one.announced.getD [], one.store.placeId? place = some id

section Shelves

variable {l : Library} {root : Path} {reached others : List Path} {errors : Nat}
  {report other : Report Library}

/-- What is announced are the containers of the directories that gain a file. -/
theorem Shelves.exists_announced_iff (shelves : Shelves l root reached errors report)
    (distinct : report.store.places.Nodup) {place : Library.Place} :
    (∃ id ∈ report.announced.getD [], report.store.placeId? place = some id) ↔
      ∃ dir ∈ l.gaining reached, place = .directory dir := by
  constructor
  · rintro ⟨id, mem, found⟩
    obtain ⟨dir, gains, named⟩ := (shelves.announced id).1 mem
    exact ⟨dir, gains, Library.eq_of_placeId? distinct found named⟩
  · rintro ⟨dir, gains, rfl⟩
    have met := (shelves.places _).2 (.inr ⟨dir, gains, rfl⟩)
    obtain ⟨id, found⟩ :=
      Option.ne_none_iff_exists'.1 fun none => Library.placeId?_eq_none_iff.1 none met
    exact ⟨id, (shelves.announced id).2 ⟨dir, gains, found⟩, found⟩

/-- The order in which files are reached is of no importance. -/
theorem Shelves.alike (shelves : Shelves l root reached errors report)
    (distinct : report.store.places.Nodup) (also : Shelves l root others errors other)
    (distinct' : other.store.places.Nodup) (same : others.Perm reached) :
    Alike l report other := by
  have lacks : (l.lacks others).Perm (l.lacks reached) := same.filter _
  have gaining : l.gaining others = l.gaining reached := by
    ext dir
    simp only [Library.mem_gaining_iff, same.mem_iff]
  refine ⟨also.completed.trans shelves.completed.symm, ?_, ?_, also.items.trans shelves.items.symm,
    ?_, fun place met => ?_, ?_, fun place => ?_⟩
  · rw [also.logged, shelves.logged, lacks.length_eq, same.countP_eq, gaining]
  · rw [also.files, shelves.files]
    exact (lacks.map _).append_left _
  · refine (List.perm_ext_iff_of_nodup distinct' distinct).2 fun place => ?_
    rw [also.places, shelves.places, gaining]
  · rw [Library.placeId?_of_longer distinct' also.known met,
      Library.placeId?_of_longer distinct shelves.known met]
  · rw [also.silent, shelves.silent, gaining]
  · rw [also.exists_announced_iff distinct', shelves.exists_announced_iff distinct, gaining]

end Shelves

variable {fs gs : Files} {root : Path}

/-- A scan leaves the library with the media files that it reached. -/
theorem store_run (present : fs.isDirectory root = true) (follow : Bool) (l : Library) :
    (run (libraryStore true) fs follow root l).store =
      l.after ((fs.media follow root).map .file) := by
  have free : ∀ looks s, (libraryStore true).isCancelled looks s = false := fun _ _ => rfl
  obtain ⟨details, ends⟩ := exists_run_of_free free present follow l
  rw [ends]
  exact offerAll_library_snd ..

/-- So the library's containers still have different places. -/
theorem nodup_places_run (present : fs.isDirectory root = true) (follow : Bool)
    (additions : List Addition) :
    (run (libraryStore true) fs follow root (.after {} additions)).store.places.Nodup := by
  rw [store_run present]
  exact Library.nodup_places_after ..

/-- **Scanning in another order** gives the same, but for the numbers of new containers. -/
theorem run_alike (tidy : fs.Tidy) (present : fs.isDirectory root = true) (follow : Bool)
    (additions : List Addition) (same : gs.Reorders fs) :
    Alike (.after {} additions) (run (libraryStore true) fs follow root (.after {} additions))
      (run (libraryStore true) gs follow root (.after {} additions)) := by
  have also : gs.isDirectory root = true :=
    (Files.isDirectory_of_reorders tidy same root).trans present
  have other := shelves_run (tidy.of_reorders same) also follow additions
  rw [(Files.walk_perm tidy same follow root).count_eq] at other
  exact (shelves_run tidy present follow additions).alike (nodup_places_run present ..) other
    (nodup_places_run also ..) (Files.media_perm tidy same follow root)

/-- **Scanning for a second time** makes no difference. -/
theorem run_again (tidy : fs.Tidy) (present : fs.isDirectory root = true) (follow : Bool)
    (additions : List Addition) (same : gs.Reorders fs) :
    let first := run (libraryStore true) fs follow root (.after {} additions)
    let again := run (libraryStore true) gs follow root first.store
    again.outcome = .ok .completed ∧ again.store = first.store ∧ again.announced = none ∧
      again.events.getLast? = some (.rescanCompleted root 0 (fs.media follow root).length
        ((fs.walk follow root).count .unreadable) 0) := by
  intro first again
  have also : gs.isDirectory root = true :=
    (Files.isDirectory_of_reorders tidy same root).trans present
  have reaches := Files.media_perm tidy same follow root
  -- The first scan has left every file that the second one reaches known.
  have shelves : Shelves _ _ _ _ first := shelves_run tidy present follow additions
  have known : ∀ path ∈ gs.media follow root, path.parts ∈ first.store.files := fun path mem => by
    rw [shelves.files, List.mem_append, List.mem_map]
    by_cases old : path.parts ∈ (Library.after {} additions).files
    · exact .inl old
    · exact .inr ⟨path, Library.mem_lacks_iff.2 ⟨reaches.subset mem, old⟩, rfl⟩
  have lacks : first.store.lacks (gs.media follow root) = [] :=
    List.filter_eq_nil_iff.2 fun path mem => by simpa using known path mem
  have gaining : first.store.gaining (gs.media follow root) = ∅ := by
    rw [Library.gaining, lacks]
    rfl
  have second : Shelves first.store root (gs.media follow root)
      ((gs.walk follow root).count .unreadable) again := by
    have stored : first.store = _ := store_run present follow (.after {} additions)
    rw [← Library.after_append] at stored
    change Shelves _ _ _ _ (run (libraryStore true) gs follow root first.store)
    rw [stored]
    exact shelves_run (tidy.of_reorders same) also follow _
  refine ⟨second.completed, ?_, second.silent.2 gaining, ?_⟩
  · refine (store_run also follow first.store).trans (Library.after_of_known fun a mem => ?_)
    obtain ⟨path, reached, rfl⟩ := List.mem_map.1 mem
    exact known path reached
  · rw [second.logged, lacks, gaining, List.countP_eq_length.2 fun p mem => by simpa using known p mem,
      reaches.length_eq, (Files.walk_perm tidy same follow root).count_eq]
    rfl

/-- **What a scan of a directory comes to**, whatever the library holds, if nobody cancels it: it
ends, the library gains the media files that the walk reaches and that it lacks, and nothing else,
and these are counted, and the known ones, and the directories that gain a file. Another order of
the listing makes no difference but for the numbers of new containers, and a second scan adds
nothing and announces nothing. -/
theorem rescan_shelves (tidy : fs.Tidy) (present : fs.isDirectory root = true) (follow : Bool)
    (additions : List Addition) :
    let l := Library.after {} additions
    let scan (fs : Files) (l : Library) := run (libraryStore true) fs follow root l
    let reached := fs.media follow root
    let errors := (fs.walk follow root).count .unreadable
    let first := scan fs l
    ((∃ names, fs.resolve root = some names ∧ ∀ path, path ∈ reached ↔
        fs.Reaches follow [] root names (.file path) ∧ Media.isMedia path = true) ∧
      (reached.map Path.parts).Nodup) ∧
    Shelves l root reached errors first ∧
    ∀ gs : Files, gs.Reorders fs →
      Alike l first (scan gs l) ∧
      let again := scan gs first.store
      again.outcome = .ok .completed ∧ again.store = first.store ∧ again.announced = none ∧
        again.events.getLast? = some (.rescanCompleted root 0 reached.length errors 0) := by
  intro l scan reached errors first
  refine ⟨⟨?_, tidy.nodup_media follow root⟩, shelves_run tidy present follow additions,
    fun gs same => ⟨run_alike tidy present follow additions same,
      run_again tidy present follow additions same⟩⟩
  obtain ⟨names, leads, directory⟩ := Files.exists_of_isDirectory present
  refine ⟨names, leads, fun path => ?_⟩
  rw [Files.mem_media_iff, Files.mem_walk_iff leads directory]

/-- A directory with a media file, and a link to the directory itself. -/
theorem rescan_shelves_looped :
    let m := Text.Utf8.ofString "m"
    let song := Text.Utf8.ofString "a.mp3"
    let loop := Text.Utf8.ofString "loop"
    let fs : Files := { nodes :=
      [([m], .directory), ([m, song], .file), ([m, loop], .link (Text.Utf8.ofString "/m"))] }
    let root := Path.ofString "/m"
    let first := run (libraryStore true) fs true root {}
    (fs.Tidy ∧ fs.isDirectory root = true) ∧
      Shelves {} root [.ofString "/m/a.mp3"] 1 first ∧ first.announced = some [1] ∧
      (run (libraryStore true) fs true root first.store).announced = none := by
  intro m song loop fs root first
  have tidy : fs.Tidy := ⟨by decide +kernel, by unfold Path.IsWritten; decide +kernel⟩
  have present : fs.isDirectory root = true := by decide +kernel
  have reached : fs.media true root = [.ofString "/m/a.mp3"] := by decide +kernel
  have errors : (fs.walk true root).count .unreadable = 1 := by decide +kernel
  have comes := rescan_shelves tidy present true []
  refine ⟨⟨tidy, present⟩, ?_, by decide +kernel, (comes.2.2 fs ⟨.refl _, rfl⟩).2.2.2.1⟩
  have shelves := comes.2.1
  rw [reached, errors] at shelves
  exact shelves

end Rescan
end HomeMedia
