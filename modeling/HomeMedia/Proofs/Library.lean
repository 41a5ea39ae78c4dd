import HomeMedia.Library
import HomeMedia.Proofs.Path
import Mathlib.Data.Finset.Card
/-!
# Containers are numbered as they are discovered

What is in a library depends only on what was added: the files are the distinct files, the items the
distinct items, and the places the distinct places of all additions, each in the order in which it
came first (`holds_after`). An addition that is known already has a place that is known, so it makes
no difference (`Holds.mem_discovered`).

A place keeps its position in that order whatever is added later, so numbers are never changed or
used again, and the number that an addition answers with is the one that is found from then on
(`numbered_by_discovery`).
-/

namespace HomeMedia

/-! ## The first occurrences in a list -/

section Firsts

variable {α β : Type} [BEq α] [LawfulBEq α]

/-- One more element counts if it has not occurred. -/
theorem eraseDups_concat (xs : List α) (x : α) :
    (xs ++ [x]).eraseDups = if x ∈ xs then xs.eraseDups else xs.eraseDups ++ [x] := by
  rw [List.eraseDups_append]
  split <;> simp_all [List.removeAll, List.eraseDups_cons]

/-- First occurrences are different. -/
theorem nodup_eraseDups (xs : List α) : xs.eraseDups.Nodup := by
  induction xs using List.reverseRecOn with
  | nil => exact List.nodup_nil
  | append_singleton xs x ih =>
    rw [eraseDups_concat]
    split
    · exact ih
    · rename_i new
      refine List.nodup_append.2 ⟨ih, List.nodup_singleton x, ?_⟩
      rintro y hy _ hx rfl
      exact new (List.mem_singleton.1 hx ▸ List.mem_eraseDups.1 hy)

/-- There are as many first occurrences as different elements. -/
theorem length_eraseDups [DecidableEq α] (xs : List α) : xs.eraseDups.length = xs.toFinset.card := by
  rw [← List.toFinset_card_of_nodup (nodup_eraseDups xs)]
  congr 1
  ext x
  rw [List.mem_toFinset, List.mem_toFinset, List.mem_eraseDups]

/-- Something more, that is known or that is new. -/
theorem eraseDups_append_toList_of_mem {xs : List α} {more : Option α}
    (known : ∀ x ∈ more, x ∈ xs) : (xs ++ more.toList).eraseDups = xs.eraseDups := by
  cases more with
  | none => rw [Option.toList_none, List.append_nil]
  | some x => rw [Option.toList_some, eraseDups_concat, if_pos (known x rfl)]

/-- An optional element that has not occurred comes behind the first occurrences. -/
theorem eraseDups_append_toList_of_not_mem {xs : List α} {more : Option α}
    (new : ∀ x ∈ more, x ∉ xs) : (xs ++ more.toList).eraseDups = xs.eraseDups ++ more.toList := by
  cases more with
  | none => rw [Option.toList_none, List.append_nil, List.append_nil]
  | some x => rw [Option.toList_some, eraseDups_concat, if_neg (new x rfl)]

omit [BEq α] [LawfulBEq α] in
/-- One more element adds what it is mapped to. -/
theorem filterMap_concat (f : β → Option α) (xs : List β) (x : β) :
    (xs ++ [x]).filterMap f = xs.filterMap f ++ (f x).toList := by
  rw [List.filterMap_append]
  cases h : f x <;> simp [h]

end Firsts

namespace Library

/-- Something that is added to a library. -/
inductive Addition where
  | file (path : Path)
  | item (service url : String)

namespace Addition

/-- The parts of the path of a file. -/
def file? : Addition → Option (List Part)
  | file path => some path.parts
  | item _ _ => none

/-- The service and the address of an item. -/
def item? : Addition → Option (String × String)
  | file _ => none
  | item service url => some (service, url)

/-- Two additions of the same file, or of the same item. -/
def IsSame (a b : Addition) : Prop := a.file? = b.file? ∧ a.item? = b.item?

/-- The place that gains an addition: the directory of a file, or the service of an item. -/
def place? : Addition → Option Place
  | file path => path.parent?.map .directory
  | item service _ => some (.service service)

/-- Whether an addition is found in a container. -/
def IsIn (id : ObjectId) (l : Library) : Addition → Prop
  | file path => path.parent? = none ∧ id = ObjectId.root ∨
    ∃ dir : Path, path.parent? = some dir.parts ∧ l.directoryId? dir = some id
  | item service _ => l.serviceId? service = some id

/-- The same thing has the same place. -/
theorem IsSame.place? {a b : Addition} (same : a.IsSame b) : a.place? = b.place? := by
  obtain ⟨files, items⟩ := same
  cases a with
  | file p =>
    cases b with
    | file q =>
      have parts : p.parts = q.parts := Option.some.inj files
      rw [Addition.place?, Addition.place?, Path.parent?, Path.parent?, parts]
    | item service url => cases files
  | item service url =>
    cases b with
    | file q => cases items
    | item other url' =>
      cases items
      rfl

end Addition

/-- What comes of an addition. -/
def add (l : Library) : Addition → Option ObjectId × Library
  | .file path => l.addFile path
  | .item service url => l.addItem service url

/-- The library after several additions. -/
def after (l : Library) (additions : List Addition) : Library :=
  additions.foldl (fun l a => (l.add a).2) l

/-- The distinct places of some additions, in the order in which they were first met. -/
def discovered (additions : List Addition) : List Place :=
  (additions.filterMap Addition.place?).eraseDups

/-- Additions can be made in two portions. -/
theorem after_append (l : Library) (additions more : List Addition) :
    l.after (additions ++ more) = (l.after additions).after more := List.foldl_append

/-- The last addition is made to what the others have left. -/
theorem after_concat (l : Library) (additions : List Addition) (a : Addition) :
    l.after (additions ++ [a]) = ((l.after additions).add a).2 := by
  rw [after_append]
  rfl

/-- A place is discovered if one of the additions needs it. -/
theorem mem_discovered {additions : List Addition} {place : Place} :
    place ∈ discovered additions ↔ ∃ a ∈ additions, a.place? = some place := by
  rw [discovered, List.mem_eraseDups, List.mem_filterMap]

/-- One more addition discovers its place, unless it needs none or that is discovered already. -/
theorem discovered_concat (additions : List Addition) (a : Addition) :
    discovered (additions ++ [a]) = match a.place? with
      | none => discovered additions
      | some place =>
        if place ∈ discovered additions then discovered additions
        else discovered additions ++ [place] := by
  rw [discovered, filterMap_concat]
  cases a.place? with
  | none => rw [Option.toList_none, List.append_nil, discovered]
  | some place =>
    rw [Option.toList_some, eraseDups_concat]
    simp only [discovered, List.mem_eraseDups]

/-! ## Places -/

variable {l : Library} {place : Place}

/-- A place has no number if and only if the library has not met it. -/
theorem placeId?_eq_none_iff : l.placeId? place = none ↔ place ∉ l.places := by
  rw [placeId?, Option.map_eq_none_iff, List.idxOf?_eq_none_iff]

/-- **A number is a position among the places, from one.** -/
theorem placeId?_eq_some_iff (distinct : l.places.Nodup) {id : ObjectId} :
    l.placeId? place = some id ↔ ∃ n : Nat, l.places[n]? = some place ∧ id = n + 1 := by
  rw [placeId?, Option.map_eq_some_iff]
  constructor
  · rintro ⟨n, found, rfl⟩
    obtain ⟨inside, same, -⟩ := List.idxOf?_eq_some_iff.1 found
    exact ⟨n, List.getElem?_eq_some_iff.2 ⟨inside, same⟩, Int.add_comm ..⟩
  · rintro ⟨n, found, rfl⟩
    obtain ⟨inside, same⟩ := List.getElem?_eq_some_iff.1 found
    refine ⟨n, List.idxOf?_eq_some_iff.2 ⟨inside, same, fun j before again => ?_⟩,
      Int.add_comm ..⟩
    have equal := (List.Nodup.getElem_inj_iff distinct).1 (again.trans same.symm)
    exact Nat.ne_of_lt before equal

/-- A number belongs to one place. -/
theorem eq_of_placeId? (distinct : l.places.Nodup) {a b : Place} {id : ObjectId}
    (left : l.placeId? a = some id) (right : l.placeId? b = some id) : a = b := by
  obtain ⟨m, first, rfl⟩ := (placeId?_eq_some_iff distinct).1 left
  obtain ⟨n, second, same⟩ := (placeId?_eq_some_iff distinct).1 right
  have equal : (m : Int) + 1 = n + 1 := same
  obtain rfl : m = n := by omega
  exact Option.some.inj (first.symm.trans second)

/-- More places behind the others leave the numbers as they are. -/
theorem placeId?_of_longer {m : Library} (distinct : m.places.Nodup)
    (longer : l.places <+: m.places) (met : place ∈ l.places) :
    m.placeId? place = l.placeId? place := by
  obtain ⟨id, found⟩ := Option.ne_none_iff_exists'.1 fun none => placeId?_eq_none_iff.1 none met
  obtain ⟨n, first, rfl⟩ := (placeId?_eq_some_iff (distinct.sublist longer.sublist)).1 found
  rw [found, placeId?_eq_some_iff distinct]
  obtain ⟨inside, -⟩ := List.getElem?_eq_some_iff.1 first
  obtain ⟨more, places⟩ := longer
  exact ⟨n, places ▸ (List.getElem?_append_left inside).trans first, rfl⟩

/-- Meeting a place leaves it as it is, or adds it behind all others, and gives its number. -/
theorem meet_cases (place : Place) (l : Library) :
    ∃ id places, l.meet place = (id, { l with places }) ∧
      ({ l with places } : Library).placeId? place = some id ∧
      places = if place ∈ l.places then l.places else l.places ++ [place] := by
  unfold meet
  cases met : l.placeId? place with
  | some id =>
    have known : place ∈ l.places := by
      by_contra absent
      cases met.symm.trans (placeId?_eq_none_iff.2 absent)
    exact ⟨id, l.places, rfl, met, (if_pos known).symm⟩
  | none =>
    have new : place ∉ l.places := placeId?_eq_none_iff.1 met
    have last : (l.places ++ [place]).idxOf? place = some l.places.length := by
      refine List.idxOf?_eq_some_iff.2 ⟨by simp, by simp, fun j before same => new ?_⟩
      rw [List.getElem_append_left before] at same
      exact same ▸ List.getElem_mem before
    refine ⟨_, l.places ++ [place], rfl, ?_, (if_neg new).symm⟩
    rw [placeId?, last]
    rfl

/-! ## One addition -/

/-- Whether something was added to a library already. -/
def Knows (l : Library) : Addition → Prop
  | .file path => path.parts ∈ l.files
  | .item service url => (service, url) ∈ l.items

/-- **What comes of an addition:** nothing, if it is known. Otherwise it is added, and its place is
met, if it has one. -/
theorem add_cases (a : Addition) (l : Library) :
    l.Knows a ∧ l.add a = (none, l) ∨
    ¬l.Knows a ∧ ∃ id places, l.add a = (some id,
        { files := l.files ++ a.file?.toList, items := l.items ++ a.item?.toList, places }) ∧
      (a.place? = none ∧ places = l.places ∧ id = ObjectId.root ∨
        ∃ place, a.place? = some place ∧
          places = (if place ∈ l.places then l.places else l.places ++ [place]) ∧
          ∀ files items, ({ files, items, places } : Library).placeId? place = some id) := by
  cases a with
  | file path =>
    simp only [add, addFile, Knows, Addition.place?, Addition.file?, Addition.item?,
      Option.toList_some, Option.toList_none, List.append_nil]
    split_ifs with known
    · exact .inl ⟨known, rfl⟩
    · refine .inr ⟨known, ?_⟩
      cases path.parent? with
      | none => exact ⟨_, _, rfl, .inl ⟨rfl, rfl, rfl⟩⟩
      | some parent =>
        obtain ⟨id, places, met, found, grown⟩ :=
          meet_cases (.directory parent) { l with files := l.files ++ [path.parts] }
        dsimp only
        rw [met]
        exact ⟨id, places, rfl, .inr ⟨_, rfl, grown, fun _ _ => found⟩⟩
  | item service url =>
    simp only [add, addItem, Knows, Addition.place?, Addition.file?, Addition.item?,
      Option.toList_some, Option.toList_none, List.append_nil]
    split_ifs with known
    · exact .inl ⟨known, rfl⟩
    · obtain ⟨id, places, met, found, grown⟩ :=
        meet_cases (.service service) { l with items := l.items ++ [(service, url)] }
      rw [met]
      exact .inr ⟨known, id, places, rfl, .inr ⟨_, rfl, grown, fun _ _ => found⟩⟩

/-- A file that is new is added behind all others, and the container of its directory is named. -/
theorem exists_add_of_new {path : Path} (new : path.parts ∉ l.files)
    {dir : List Part} (lies : path.parent? = some dir) :
    ∃ id, (l.add (.file path)).1 = some id ∧
      (l.add (.file path)).2.files = l.files ++ [path.parts] ∧
      (l.add (.file path)).2.items = l.items ∧
      (l.add (.file path)).2.placeId? (.directory dir) = some id := by
  have place : (Addition.file path).place? = some (.directory dir) := by
    rw [Addition.place?, lies, Option.map_some]
  rcases add_cases (.file path) l with ⟨known, -⟩ | ⟨-, id, places, added, grown⟩
  · exact absurd known new
  · rcases grown with ⟨none, -, -⟩ | ⟨met, has, -, found⟩
    · cases none.symm.trans place
    · cases has.symm.trans place
      rw [added]
      exact ⟨id, rfl, rfl, List.append_nil _, found _ _⟩

/-- What is known already makes no difference. -/
theorem after_of_known {more : List Addition} (known : ∀ a ∈ more, l.Knows a) :
    l.after more = l := by
  induction more with
  | nil => rfl
  | cons a more ih =>
    have same : (l.add a).2 = l := by
      rcases add_cases a l with ⟨-, same⟩ | ⟨new, -⟩
      · rw [same]
      · exact absurd (known a (List.mem_cons_self ..)) new
    change (l.add a).2.after more = l
    rw [same]
    exact ih fun a mem => known a (List.mem_cons_of_mem _ mem)

/-! ## All additions -/

/-- A library holds what was added, each thing once, in the order in which it came first. -/
structure Holds (additions : List Addition) (l : Library) : Prop where
  files : l.files = (additions.filterMap Addition.file?).eraseDups
  items : l.items = (additions.filterMap Addition.item?).eraseDups
  places : l.places = discovered additions

namespace Holds

variable {additions : List Addition}

/-- **A library knows what was added before.** -/
theorem knows_iff (holds : Holds additions l) (a : Addition) :
    l.Knows a ↔ ∃ b ∈ additions, b.IsSame a := by
  cases a with
  | file path =>
    rw [Knows, holds.files, List.mem_eraseDups, List.mem_filterMap]
    refine exists_congr fun b => and_congr_right fun _ => ?_
    cases b <;> simp [Addition.IsSame, Addition.file?, Addition.item?]
  | item service url =>
    rw [Knows, holds.items, List.mem_eraseDups, List.mem_filterMap]
    refine exists_congr fun b => and_congr_right fun _ => ?_
    cases b <;> simp [Addition.IsSame, Addition.file?, Addition.item?]

/-- The places of such a library are different. -/
theorem nodup_places (holds : Holds additions l) : l.places.Nodup :=
  holds.places ▸ nodup_eraseDups _

/-- What is known has a place that is known. -/
theorem mem_discovered (holds : Holds additions l) {a : Addition} (known : l.Knows a)
    (has : a.place? = some place) : place ∈ discovered additions := by
  obtain ⟨b, hb, same⟩ := (holds.knows_iff a).1 known
  exact Library.mem_discovered.2 ⟨b, hb, same.place?.trans has⟩

/-- One more thing is added at the end, unless it is among the others. -/
theorem add (holds : Holds additions l) (a : Addition) :
    Holds (additions ++ [a]) (l.add a).2 := by
  rcases add_cases a l with ⟨known, same⟩ | ⟨new, id, places, added, grown⟩
  · -- Nothing is new about it, its place included.
    obtain ⟨b, hb, twin⟩ := (holds.knows_iff a).1 known
    rw [same]
    refine ⟨?_, ?_, ?_⟩
    · rw [filterMap_concat, eraseDups_append_toList_of_mem fun x hx =>
        List.mem_filterMap.2 ⟨b, hb, twin.1.trans hx⟩]
      exact holds.files
    · rw [filterMap_concat, eraseDups_append_toList_of_mem fun x hx =>
        List.mem_filterMap.2 ⟨b, hb, twin.2.trans hx⟩]
      exact holds.items
    · rw [discovered_concat, holds.places]
      cases has : a.place? with
      | none => rfl
      | some place => exact (if_pos (holds.mem_discovered known has)).symm
  · rw [added]
    refine ⟨?_, ?_, ?_⟩
    · rw [filterMap_concat, eraseDups_append_toList_of_not_mem, holds.files]
      intro parts hparts mem
      cases a with
      | file path =>
        cases hparts
        refine new (show path.parts ∈ l.files from ?_)
        rw [holds.files]
        exact List.mem_eraseDups.2 mem
      | item service url => cases hparts
    · rw [filterMap_concat, eraseDups_append_toList_of_not_mem, holds.items]
      intro pair hpair mem
      cases a with
      | file path => cases hpair
      | item service url =>
        cases hpair
        refine new (show (service, url) ∈ l.items from ?_)
        rw [holds.items]
        exact List.mem_eraseDups.2 mem
    · rw [discovered_concat, ← holds.places]
      rcases grown with ⟨none, same, -⟩ | ⟨place, has, grown, -⟩
      · rw [none]
        exact same
      · rw [has]
        exact grown

end Holds

/-- **What a library holds** after some additions. -/
theorem holds_after (additions : List Addition) : Holds additions (after {} additions) := by
  induction additions using List.reverseRecOn with
  | nil => exact ⟨rfl, rfl, rfl⟩
  | append_singleton additions a ih =>
    rw [after_concat]
    exact ih.add a

/-! ## Numbers -/

/-- An addition leaves the places that there are where they are. -/
theorem places_prefix_add (a : Addition) (l : Library) : l.places <+: (l.add a).2.places := by
  rcases add_cases a l with ⟨-, same⟩ | ⟨-, id, places, added, grown⟩
  · rw [same]
  · rw [added]
    rcases grown with ⟨-, rfl, -⟩ | ⟨place, -, rfl, -⟩
    · exact List.prefix_rfl
    · dsimp only
      split
      · exact List.prefix_rfl
      · exact List.prefix_append ..

/-- Places are met behind those that were met before. -/
theorem places_prefix_after (l : Library) (more : List Addition) :
    l.places <+: (l.after more).places := by
  induction more generalizing l with
  | nil => exact List.prefix_rfl
  | cons a more ih => exact (places_prefix_add a l).trans (ih (l.add a).2)

/-- Additions to a library that has come from additions leave its places different. -/
theorem nodup_places_after (additions more : List Addition) :
    ((after {} additions).after more).places.Nodup := by
  rw [← after_append]
  exact (holds_after _).nodup_places

/-- A place keeps its number. -/
theorem placeId?_after {id : ObjectId} (found : l.placeId? place = some id)
    (more : List Addition) : (l.after more).placeId? place = some id := by
  rw [placeId?, Option.map_eq_some_iff] at found ⊢
  obtain ⟨n, first, rfl⟩ := found
  obtain ⟨inside, same, earlier⟩ := List.idxOf?_eq_some_iff.1 first
  obtain ⟨new, grown⟩ := places_prefix_after l more
  refine ⟨n, ?_, rfl⟩
  rw [← grown]
  refine List.idxOf?_eq_some_iff.2 ⟨?_, ?_, fun j before => ?_⟩
  · rw [List.length_append]
    omega
  · rw [List.getElem_append_left inside]
    exact same
  · rw [List.getElem_append_left (before.trans inside)]
    exact earlier j before

/-- **What is added is found** in the container that is named, from then on. -/
theorem isIn_after {additions : List Addition} {a : Addition} {id : ObjectId}
    (named : ((after {} additions).add a).1 = some id) (more : List Addition) :
    a.IsIn id (((after {} additions).add a).2.after more) := by
  rcases add_cases a (after {} additions) with ⟨-, same⟩ | ⟨-, id', places, added, found⟩
  · rw [same] at named
    cases named
  · rw [added] at named
    cases named
    rcases found with ⟨none, -, rfl⟩ | ⟨place, has, -, found⟩
    · cases a with
      | file path => exact .inl ⟨Option.map_eq_none_iff.1 none, rfl⟩
      | item service url => cases none
    · have kept : (((after {} additions).add a).2.after more).placeId? place = some id := by
        rw [← after_concat]
        refine placeId?_after ?_ more
        rw [after_concat, added]
        exact found _ _
      cases a with
      | file path =>
        obtain ⟨parent, lies, rfl⟩ := Option.map_eq_some_iff.1 has
        obtain ⟨dir, rfl⟩ := Path.exists_parent lies
        exact .inr ⟨dir, lies, kept⟩
      | item service url =>
        cases has
        exact kept

/-- **Containers are numbered as they are discovered.**  After any additions to a new library: the
containers are the distinct directories and services of what was added, directories compared by
their parts, and the `n`-th to be discovered has the number `n`; no number is changed later, and
none is that of the root or of no container. One more addition answers nothing exactly if the same
was added before, and then nothing changes; otherwise it answers the container that it is found in
from then on. The counts are those of the distinct files, items and containers. -/
theorem numbered_by_discovery (additions : List Addition) :
    let l := after {} additions
    ((discovered additions).Nodup ∧
      ∀ place, place ∈ discovered additions ↔ ∃ a ∈ additions, a.place? = some place) ∧
    (∀ place id, l.placeId? place = some id ↔
      ∃ n : Nat, (discovered additions)[n]? = some place ∧ id = n + 1) ∧
    (∀ place id, l.placeId? place = some id → id ≠ ObjectId.root ∧ id ≠ ObjectId.invalid ∧
      ∀ more, (l.after more).placeId? place = some id) ∧
    (∀ a, ((l.add a).1 = none ↔ ∃ b ∈ additions, b.IsSame a) ∧
      ((l.add a).1 = none → (l.add a).2 = l) ∧
      ∀ id, (l.add a).1 = some id → ∀ more, a.IsIn id ((l.add a).2.after more)) ∧
    l.files.length = (additions.filterMap Addition.file?).toFinset.card ∧
    l.items.length = (additions.filterMap Addition.item?).toFinset.card ∧
    l.places.length = (additions.filterMap Addition.place?).toFinset.card := by
  intro l
  have holds : Holds additions l := holds_after additions
  have numbered : ∀ place id, l.placeId? place = some id ↔
      ∃ n : Nat, (discovered additions)[n]? = some place ∧ id = n + 1 := fun place id => by
    rw [← holds.places]
    exact placeId?_eq_some_iff holds.nodup_places
  refine ⟨⟨nodup_eraseDups _, fun place => mem_discovered⟩, numbered, fun place id found => ?_,
    fun a => ?_, ?_, ?_, ?_⟩
  · obtain ⟨n, -, rfl⟩ := (numbered place id).1 found
    refine ⟨?_, ?_, placeId?_after found⟩
    · exact fun root => absurd (show (n : Int) + 1 = 0 from root) (by omega)
    · exact fun invalid => absurd (show (n : Int) + 1 = -333 from invalid) (by omega)
  · refine ⟨?_, fun nothing => ?_, fun id named => isIn_after named⟩
    · rw [← holds.knows_iff]
      rcases add_cases a l with ⟨known, same⟩ | ⟨new, id, places, added, -⟩
      · simp [same, known]
      · simp [added, new]
    · rcases add_cases a l with ⟨-, same⟩ | ⟨-, id, places, added, -⟩
      · rw [same]
      · rw [added] at nothing
        cases nothing
  · rw [holds.files, length_eraseDups]
  · rw [holds.items, length_eraseDups]
  · rw [holds.places, discovered, length_eraseDups]

/-- Two directories and a service; the same file again, under another spelling. -/
example :
    let l := after {} [.file (.ofString "/m/a/1.mp3"), .item "radio" "u", .file (.ofString "2.mp3"),
      .file (.ofString "/m//a/./1.mp3")]
    l.directoryId? (.ofString "/m/a/") = some 1 ∧ l.serviceId? "radio" = some 2 ∧
      l.directoryId? (.ofString "") = some 3 ∧ l.files.length = 2 := by decide +kernel

end Library
end HomeMedia
