import HomeMedia.Proofs.Files.Walking
import HomeMedia.Proofs.Path
/-!
# Walks and the order in which directories are listed

A snapshot is *tidy* if no two nodes stand under the same names and every name is one that can stand
between slashes (`Files.Tidy`). Snapshots that are built up node by node are tidy (`Tidy.put`).

In a tidy snapshot an entry has a path that leads to nothing else: its parts are those of its
directory with its name behind them (`Path.parts_join`). So a walk visits no two files at the same
place (`Tidy.nodup_walk`), and every file lies in a directory. If the nodes are listed in another
order (`Files.Reorders`), every path leads where it led before (`resolve_of_reorders`), and a walk
changes in nothing but its order (`walk_perm`).
-/

namespace HomeMedia

open Text (Bytes)

namespace Path

/-- The name of a part does not start with a slash. -/
theorem IsWritten.isAbsolute_eq_false {part : Part} {piece : Bytes}
    (written : IsWritten part piece) : isAbsolute ⟨piece⟩ = false := by
  cases piece with
  | nil => rfl
  | cons first more =>
    refine beq_eq_false_iff_ne.2 fun same => written.1 ?_
    rw [← Option.some.inj same]
    exact List.mem_cons_self ..

/-- **The parts of an entry** are those of its directory and its name. -/
theorem parts_join {base : Path} (some : base.bytes ≠ []) {name : Bytes}
    (written : IsWritten (.name name) name) :
    (base.join ⟨name⟩).parts = base.parts ++ [.name name] ∧ (base.join ⟨name⟩).bytes ≠ [] := by
  obtain ⟨bytes⟩ := base
  dsimp only at some
  rw [join, if_neg (Bool.eq_false_iff.1 written.isAbsolute_eq_false)]
  dsimp only
  split_ifs with closed
  · obtain ⟨before, rfl⟩ := List.getLast?_eq_some_iff.1 (closed.resolve_left some)
    refine ⟨?_, List.append_ne_nil_of_left_ne_nil some name⟩
    rw [List.append_assoc, List.singleton_append]
    cases before with
    | nil => rw [List.nil_append, List.nil_append, parts_slash, parts_slash, written.inner]; rfl
    | cons first more =>
      have some : first :: more ≠ [] := List.cons_ne_nil first more
      rw [parts_append_slash some, parts_of_last_slash some, written.inner]
  · rw [parts_append_slash some, written.inner]
    exact ⟨rfl, List.append_ne_nil_of_left_ne_nil some _⟩

end Path

namespace Files

/-- No two nodes stand under the same names, and all names can stand between slashes. -/
structure Tidy (fs : Files) : Prop where
  /-- The nodes have different names. -/
  nodup : (fs.nodes.map Prod.fst).Nodup
  /-- The names can be written. -/
  written : ∀ node ∈ fs.nodes, ∀ name ∈ node.1, Path.IsWritten (.name name) name

/-- One snapshot is another one whose directories list their entries in another order. -/
structure Reorders (gs fs : Files) : Prop where
  /-- The nodes are the same. -/
  nodes : gs.nodes.Perm fs.nodes
  /-- The working directory is the same. -/
  workingDirectory : gs.workingDirectory = fs.workingDirectory

variable {fs gs : Files} {names : List Bytes} {node : Node}

namespace Tidy

/-- A snapshot without any nodes is tidy. -/
theorem empty : Tidy {} := ⟨List.nodup_nil, fun _ none => by cases none⟩

/-- It stays so with another node. -/
theorem insert (tidy : fs.Tidy) (written : ∀ name ∈ names, Path.IsWritten (.name name) name)
    (node : Node) : (fs.insert names node).Tidy := by
  unfold Files.insert
  split_ifs with known
  · exact tidy
  · rw [Option.not_isSome_iff_eq_none, node?] at known
    split_ifs at known
    refine ⟨?_, fun other mem => ?_⟩
    · rw [List.map_append, List.map_singleton]
      refine List.nodup_append.2 ⟨tidy.nodup, List.nodup_singleton _, ?_⟩
      rintro d old e new rfl
      obtain ⟨other, mem, rfl⟩ := List.mem_map.1 old
      have differs := List.lookup_eq_none_iff.1 known other mem
      exact bne_iff_ne.1 differs (List.mem_singleton.1 new).symm
    · rcases List.mem_append.1 mem with old | new
      · exact tidy.written other old
      · rw [List.mem_singleton.1 new]
        exact written

/-- **Snapshots that are built up node by node are tidy.** -/
theorem put (tidy : fs.Tidy) (written : ∀ name ∈ names, Path.IsWritten (.name name) name)
    (node : Node) : (fs.put names node).Tidy := by
  have parents : ∀ (ns : List Nat) (gs : Files), gs.Tidy →
      (ns.foldl (fun gs n => gs.insert (names.take n) .directory) gs).Tidy := by
    intro ns
    induction ns with
    | nil => exact fun _ tidy => tidy
    | cons n more ih =>
      exact fun gs tidy => ih _ (tidy.insert (fun name mem =>
        written name (List.mem_of_mem_take mem)) .directory)
  exact (parents _ fs tidy).insert written node

/-- With different names, what stands under some names is the node with these names. -/
theorem lookup_eq_some_iff (tidy : fs.Tidy) :
    fs.nodes.lookup names = some node ↔ (names, node) ∈ fs.nodes := by
  rw [List.lookup_eq_some_iff]
  constructor
  · rintro ⟨before, after, nodes, -⟩
    exact nodes ▸ List.mem_append_right _ (List.mem_cons_self ..)
  · intro mem
    obtain ⟨before, after, nodes⟩ := List.append_of_mem mem
    refine ⟨before, after, nodes, fun other earlier => bne_iff_ne.2 fun same => ?_⟩
    have nodup := tidy.nodup
    rw [nodes, List.map_append, List.map_cons] at nodup
    exact (List.nodup_append.1 nodup).2.2 _ (List.mem_map_of_mem earlier) _
      (List.mem_cons_self ..) same.symm

end Tidy

/-! ## Another order -/

/-- Parts are followed by looking names up, and by nothing else. -/
theorem advance_congr (nodes : gs.node? = fs.node?) (directory : List Bytes) (parts : List Part) :
    gs.advance directory parts = fs.advance directory parts := by
  induction parts generalizing directory with
  | nil => rfl
  | cons part rest ih =>
    cases part with
    | root => exact ih []
    | here => exact ih directory
    | up => exact ih _
    | name name =>
      rw [advance, advance, nodes]
      cases fs.node? (directory ++ [name]) with
      | none => rfl
      | some node =>
        cases node with
        | directory => exact ih _
        | file => rfl
        | link target => rfl

/-- So they are through links. -/
theorem resolveFrom_congr (nodes : gs.node? = fs.node?) (links : Nat) (directory : List Bytes)
    (parts : List Part) :
    gs.resolveFrom links directory parts = fs.resolveFrom links directory parts := by
  induction links generalizing directory parts with
  | zero =>
    unfold resolveFrom
    rw [advance_congr nodes]
  | succ links ih =>
    unfold resolveFrom
    rw [advance_congr nodes]
    cases fs.advance directory parts with
    | nowhere => rfl
    | done names => rfl
    | link directory target rest =>
      dsimp only
      split_ifs
      · rfl
      · exact ih _ _

/-- A walk gets as deep in any order. -/
theorem maxDepth_of_reorders (same : gs.Reorders fs) : gs.maxDepth = fs.maxDepth := by
  rw [maxDepth_eq, maxDepth_eq, (same.nodes.map _).sum_eq]

section Reordered

variable (tidy : fs.Tidy) (same : gs.Reorders fs)
include tidy same

/-- Another order of a tidy snapshot is tidy. -/
theorem Tidy.of_reorders : gs.Tidy :=
  ⟨(same.nodes.map Prod.fst).nodup_iff.2 tidy.nodup,
    fun node mem => tidy.written node (same.nodes.subset mem)⟩

/-- What stands under some names does not depend on the order. -/
theorem node?_of_reorders : gs.node? = fs.node? := by
  funext names
  unfold node?
  split_ifs
  · rfl
  · refine Option.ext fun node => ?_
    rw [(tidy.of_reorders same).lookup_eq_some_iff, tidy.lookup_eq_some_iff, same.nodes.mem_iff]

/-- **A path leads to the same** in any order. -/
theorem resolve_of_reorders (p : Path) : gs.resolve p = fs.resolve p := by
  unfold resolve
  rw [resolveFrom_congr (node?_of_reorders tidy same), same.workingDirectory]

/-- It leads to a directory in any order, or in none. -/
theorem isDirectory_of_reorders (p : Path) : gs.isDirectory p = fs.isDirectory p := by
  unfold isDirectory
  rw [resolve_of_reorders tidy same, node?_of_reorders tidy same]

/-- An entry leads a walk to the same in any order. -/
theorem way_of_reorders (follow : Bool) (path : Path) (names : List Bytes)
    (inside : List (List Bytes)) :
    gs.way follow path names inside = fs.way follow path names inside := by
  funext child
  obtain ⟨name, node⟩ := child
  cases node with
  | file => rfl
  | directory => rfl
  | link target =>
    simp only [way, resolve_of_reorders tidy same, node?_of_reorders tidy same]

/-- A walk of a directory visits the same in another order. -/
theorem walkWithin_perm (follow : Bool) (depth : Nat) (path : Path) (names : List Bytes)
    (inside : List (List Bytes)) :
    (gs.walkWithin follow depth path names inside).Perm
      (fs.walkWithin follow depth path names inside) := by
  induction depth generalizing path names inside with
  | zero => exact .refl _
  | succ depth ih =>
    rw [walkWithin_succ, walkWithin_succ, way_of_reorders tidy same]
    refine .cons _ (List.Perm.flatMap (same.nodes.filterMap _) fun child _ => ?_)
    cases fs.way follow path names inside child with
    | visit v => exact .refl _
    | enter deeper found => exact ih deeper found _

/-- **Listing the nodes in another order** changes a walk in nothing but its order. -/
theorem walk_perm (follow : Bool) (start : Path) :
    (gs.walk follow start).Perm (fs.walk follow start) := by
  unfold walk
  rw [resolve_of_reorders tidy same, maxDepth_of_reorders same]
  cases fs.resolve start with
  | none => exact .refl _
  | some names => exact walkWithin_perm tidy same ..

end Reordered

/-! ## Different files -/

/-- The place of a file that is visited. -/
def Visit.place? : Visit → Option (List Part)
  | .file path => some path.parts
  | _ => none

/-- A place in a directory below a path, or in the directory that the path leads to. -/
def Under (path : Path) (parts : List Part) : Prop :=
  ∃ base name, parts = base ++ [.name name] ∧ path.parts <+: base

variable {follow : Bool} {path : Path} {inside : List (List Bytes)}

/-- The entries of a directory have different names. -/
theorem Tidy.children_pairwise (tidy : fs.Tidy) (names : List Bytes) :
    (fs.children names).Pairwise fun a b => a.1 ≠ b.1 := by
  rw [children_eq]
  refine List.Pairwise.filterMap (R := fun a b => a.1 ≠ b.1) _ (fun a b differ c ha d hb => ?_)
    (List.pairwise_map.1 tidy.nodup)
  rw [child?_eq_some_iff] at ha hb
  rintro same
  exact differ (by rw [ha, hb, same])

/-- An entry of a directory has a name that can be written. -/
theorem Tidy.written_child (tidy : fs.Tidy) {child : Bytes × Node}
    (mem : child ∈ fs.children names) : Path.IsWritten (.name child.1) child.1 :=
  tidy.written _ (mem_children.1 mem) _ (List.mem_append_right _ (List.mem_singleton_self _))

/-- What is visited on the way of an entry stands at the entry or below it. -/
theorem Tidy.under_child (tidy : fs.Tidy) (some : path.bytes ≠ [])
    {walk : Path → List Bytes → List Visit}
    (walks : ∀ deeper found, deeper.bytes ≠ [] →
      ∀ parts ∈ (walk deeper found).filterMap Visit.place?, Under deeper parts)
    {child : Bytes × Node} (mem : child ∈ fs.children names) {parts : List Part}
    (visited : parts ∈
      ((fs.way follow path names inside child).visits walk).filterMap Visit.place?) :
    Under path parts ∧ path.parts ++ [.name child.1] <+: parts := by
  obtain ⟨joined, deep⟩ := Path.parts_join some (tidy.written_child mem)
  rcases way_cases fs follow path names inside child with ⟨v, way, file⟩ | ⟨found, way, -⟩
  · rw [way] at visited
    obtain ⟨w, only, named⟩ := List.mem_filterMap.1 visited
    cases List.mem_singleton.1 only
    cases v with
    | file q =>
      obtain rfl := file q rfl
      obtain rfl := Option.some.inj named
      rw [joined]
      exact ⟨⟨path.parts, child.1, rfl, List.prefix_refl _⟩, List.prefix_refl _⟩
    | other q => cases named
    | unreadable => cases named
  · rw [way] at visited
    obtain ⟨base, name, rfl, lies⟩ := walks _ _ deep parts visited
    rw [joined] at lies
    exact ⟨⟨base, name, rfl, (List.prefix_append ..).trans lies⟩,
      lies.trans (List.prefix_append ..)⟩

/-- Every file of a walk of a directory stands in that directory or below it. -/
theorem Tidy.under_walkWithin (tidy : fs.Tidy) (depth : Nat) (some : path.bytes ≠ []) :
    ∀ parts ∈ (fs.walkWithin follow depth path names inside).filterMap Visit.place?,
      Under path parts := by
  induction depth generalizing path names inside with
  | zero => exact fun parts none => absurd none List.not_mem_nil
  | succ depth ih =>
    intro parts mem
    rw [walkWithin_succ, List.filterMap_cons_none rfl, List.filterMap_flatMap,
      List.mem_flatMap] at mem
    obtain ⟨child, mem, visited⟩ := mem
    exact (tidy.under_child some (fun _ _ deep => ih deep) mem visited).1

/-- Entries with different names have different files below them. -/
theorem Tidy.nodup_walkWithin (tidy : fs.Tidy) (depth : Nat) (some : path.bytes ≠ []) :
    ((fs.walkWithin follow depth path names inside).filterMap Visit.place?).Nodup := by
  induction depth generalizing path names inside with
  | zero => exact List.nodup_nil
  | succ depth ih =>
    rw [walkWithin_succ, List.filterMap_cons_none rfl, List.filterMap_flatMap, List.nodup_flatMap]
    refine ⟨fun child mem => ?_, (tidy.children_pairwise names).imp_of_mem
      fun {a b} left right differ parts ofLeft ofRight => differ ?_⟩
    · rcases way_cases fs follow path names inside child with ⟨v, way, -⟩ | ⟨found, way, -⟩
      · rw [way]
        cases v with
        | file q => exact List.nodup_singleton q.parts
        | other q => exact List.nodup_nil
        | unreadable => exact List.nodup_nil
      · rw [way]
        exact ih (Path.parts_join some (tidy.written_child mem)).2
    · have below : ∀ child ∈ fs.children names, parts ∈ ((fs.way follow path names inside
          child).visits fun path found => fs.walkWithin follow depth path found
            (names :: inside)).filterMap Visit.place? → path.parts ++ [.name child.1] <+: parts :=
        fun child mem visited => (tidy.under_child some
          (fun _ _ deep => tidy.under_walkWithin depth deep) mem visited).2
      have lengths : (path.parts ++ [Part.name a.1]).length =
          (path.parts ++ [Part.name b.1]).length := by
        rw [List.length_append, List.length_append, List.length_singleton, List.length_singleton]
      have same := (List.prefix_of_prefix_length_le (below a left ofLeft) (below b right ofRight)
        (Nat.le_of_eq lengths)).eq_of_length lengths
      exact Part.name.inj (List.singleton_inj.1 (List.append_cancel_left same))

/-- An empty path leads nowhere. -/
theorem bytes_ne_nil_of_resolve {start : Path} (leads : fs.resolve start = some names) :
    start.bytes ≠ [] := by
  intro none
  rw [resolve, if_pos none] at leads
  cases leads

/-- Every file of a walk lies in a directory. -/
theorem Tidy.under_walk (tidy : fs.Tidy) (follow : Bool) (start : Path) :
    ∀ parts ∈ (fs.walk follow start).filterMap Visit.place?, Under start parts := by
  unfold walk
  cases leads : fs.resolve start with
  | none => exact fun parts none => absurd none List.not_mem_nil
  | some names => exact tidy.under_walkWithin _ (bytes_ne_nil_of_resolve leads)

/-- **A walk visits no two files at the same place.** -/
theorem Tidy.nodup_walk (tidy : fs.Tidy) (follow : Bool) (start : Path) :
    ((fs.walk follow start).filterMap Visit.place?).Nodup := by
  unfold walk
  cases leads : fs.resolve start with
  | none => exact List.nodup_nil
  | some names => exact tidy.nodup_walkWithin _ (bytes_ne_nil_of_resolve leads)

end Files
end HomeMedia
