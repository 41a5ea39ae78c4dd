import HomeMedia.Files.Walk
import Mathlib
/-!
# A walk gets to everything

Every entry of a directory is visited, or it is walked in its turn, as a directory of its own or as
one that a followed link leads to (`Files.way`). What a walk gets to in that way, however deep
(`Files.Reaches`), is what it visits (`mem_walk_iff`): the bound on the depth cuts nothing off.

The reason is that there is less and less *room*. A directory below another one has fewer nodes
below it. A link is followed only to a directory that the walk is not inside of, and then that
directory does not count any more. The room that a walk has at its start is the number of pairs of
nodes one of which lies above the other, and that is within the bound (`room_le_maxDepth`).
-/

namespace HomeMedia

open Text (Bytes)

namespace Files

/-- Where an entry of a directory leads a walk. -/
inductive Way where
  /-- It is visited, and that is all. -/
  | visit (v : Visit)
  /-- It is walked, as the directory that some names lead to. -/
  | enter (path : Path) (names : List Bytes)

/-- What is visited on a way. -/
def Way.visits (walk : Path → List Bytes → List Visit) : Way → List Visit
  | visit v => [v]
  | enter path names => walk path names

/-- Where an entry leads a walk of the directory that `names` lead to, inside of some others. -/
def way (fs : Files) (follow : Bool) (path : Path) (names : List Bytes)
    (inside : List (List Bytes)) : Bytes × Node → Way
  | (name, .file) => .visit (.file (path.join ⟨name⟩))
  | (name, .directory) => .enter (path.join ⟨name⟩) (names ++ [name])
  | (name, .link _) =>
    if !follow then .visit (.other (path.join ⟨name⟩))
    else
      match fs.resolve (path.join ⟨name⟩) with
      | none => .visit .unreadable
      | some found =>
        if fs.node? found = some .directory then
          if (names :: inside).contains found then .visit .unreadable
          else .enter (path.join ⟨name⟩) found
        else .visit (.file (path.join ⟨name⟩))

/-- What a walk of a directory, inside of some others, gets to. -/
inductive Reaches (fs : Files) (follow : Bool) :
    List (List Bytes) → Path → List Bytes → Visit → Prop where
  /-- The directory itself. -/
  | here {inside : List (List Bytes)} {path : Path} {names : List Bytes} :
    Reaches fs follow inside path names (.other path)
  /-- An entry that is visited. -/
  | visit {inside : List (List Bytes)} {path : Path} {names : List Bytes} {child : Bytes × Node}
      {v : Visit} (mem : child ∈ fs.children names)
      (way : fs.way follow path names inside child = .visit v) :
    Reaches fs follow inside path names v
  /-- What a walk of an entry gets to. -/
  | enter {inside : List (List Bytes)} {path deeper : Path} {names found : List Bytes}
      {child : Bytes × Node} {v : Visit} (mem : child ∈ fs.children names)
      (way : fs.way follow path names inside child = .enter deeper found)
      (below : Reaches fs follow (names :: inside) deeper found v) :
    Reaches fs follow inside path names v

variable {fs : Files} {follow : Bool} {path : Path} {names found : List Bytes}
  {inside : List (List Bytes)} {v : Visit}

/-- **One level of a walk:** the directory, and then what its entries lead to, in their order. -/
theorem walkWithin_succ (fs : Files) (follow : Bool) (depth : Nat) (path : Path)
    (names : List Bytes) (inside : List (List Bytes)) :
    fs.walkWithin follow (depth + 1) path names inside =
      .other path :: (fs.children names).flatMap fun child =>
        (fs.way follow path names inside child).visits fun path found =>
          fs.walkWithin follow depth path found (names :: inside) := by
  rw [walkWithin]
  congr 2
  funext child
  obtain ⟨name, node⟩ := child
  cases node with
  | file => rfl
  | directory => rfl
  | link target =>
    simp only [way]
    split_ifs
    · rfl
    · cases fs.resolve (path.join ⟨name⟩) with
      | none => rfl
      | some found =>
        simp only [List.contains_iff_mem]
        split_ifs <;> rfl

/-- **Where an entry leads:** to a visit, which names a file by its own path, or into a directory of
its own, or into one that the walk is not inside of. -/
theorem way_cases (fs : Files) (follow : Bool) (path : Path) (names : List Bytes)
    (inside : List (List Bytes)) (child : Bytes × Node) :
    (∃ v, fs.way follow path names inside child = .visit v ∧
      ∀ q, v = .file q → q = path.join ⟨child.1⟩) ∨
    ∃ found, fs.way follow path names inside child = .enter (path.join ⟨child.1⟩) found ∧
      (child.2 = .directory ∧ found = names ++ [child.1] ∨
        fs.node? found = some .directory ∧ found ∉ names :: inside) := by
  obtain ⟨name, node⟩ := child
  cases node with
  | file => exact .inl ⟨_, rfl, fun q same => (Visit.file.inj same).symm⟩
  | directory => exact .inr ⟨_, rfl, .inl ⟨rfl, rfl⟩⟩
  | link target =>
    simp only [way]
    split_ifs
    · exact .inl ⟨_, rfl, fun q same => by cases same⟩
    · cases fs.resolve (path.join ⟨name⟩) with
      | none => exact .inl ⟨_, rfl, fun q same => by cases same⟩
      | some found =>
        simp only [List.contains_iff_mem]
        split_ifs with directory within
        · exact .inl ⟨_, rfl, fun q same => by cases same⟩
        · exact .inr ⟨_, rfl, .inr ⟨directory, within⟩⟩
        · exact .inl ⟨_, rfl, fun q same => (Visit.file.inj same).symm⟩

/-- The entry of a directory that a node is, if it is one. -/
def child? (names : List Bytes) (node : List Bytes × Node) : Option (Bytes × Node) :=
  match node.1.getLast? with
  | none => none
  | some name => if node.1.dropLast = names then some (name, node.2) else none

/-- The entries of a directory are the nodes that are one of its entries. -/
theorem children_eq (fs : Files) (names : List Bytes) :
    fs.children names = fs.nodes.filterMap (child? names) := rfl

/-- A node is the entry of a directory under whose names it stands with one more name. -/
theorem child?_eq_some_iff {node : List Bytes × Node} {child : Bytes × Node} :
    child? names node = some child ↔ node = (names ++ [child.1], child.2) := by
  obtain ⟨other, kind⟩ := node
  unfold child?
  constructor
  · intro same
    cases last : other.getLast? with
    | none => simp [last] at same
    | some name =>
      simp only [last] at same
      split_ifs at same with lies
      cases same
      rw [← lies, List.dropLast_append_getLast? _ last]
  · intro same
    cases same
    simp

/-- What is an entry of a directory stands under its names with one more. -/
theorem mem_children {child : Bytes × Node} :
    child ∈ fs.children names ↔ (names ++ [child.1], child.2) ∈ fs.nodes := by
  rw [children_eq, List.mem_filterMap]
  simp only [child?_eq_some_iff, exists_eq_right]

/-! ## Room -/

/-- The names of all nodes, the root included. -/
def spots (fs : Files) : Finset (List Bytes) := ([] :: fs.nodes.map Prod.fst).toFinset

/-- How many nodes lie at or below some names. -/
def below (fs : Files) (names : List Bytes) : Nat := (fs.spots.filter (names <+: ·)).card

/-- The room that a walk has in a directory, inside of some others. -/
def room (fs : Files) (inside : List (List Bytes)) (names : List Bytes) : Nat :=
  fs.below names + ∑ e ∈ fs.spots \ (names :: inside).toFinset, fs.below e

/-- The spots are the root and the names of the nodes. -/
theorem mem_spots : names ∈ fs.spots ↔ names = [] ∨ ∃ node, (names, node) ∈ fs.nodes := by
  simp [spots]

/-- A directory that a walk enters is a node. -/
theorem mem_spots_of_node? {node : Node} (found : fs.node? names = some node) :
    names ∈ fs.spots := by
  rw [node?] at found
  split_ifs at found with root
  · exact mem_spots.2 (.inl root)
  · obtain ⟨before, after, nodes, -⟩ := List.lookup_eq_some_iff.1 found
    exact mem_spots.2 (.inr ⟨node, nodes ▸ List.mem_append_right _ (List.mem_cons_self ..)⟩)

/-- At or below a node there is the node itself. -/
theorem below_pos (spot : names ∈ fs.spots) : 0 < fs.below names :=
  Finset.card_pos.2 ⟨names, Finset.mem_filter.2 ⟨spot, List.prefix_refl names⟩⟩

/-- There are fewer nodes below an entry than below its directory. -/
theorem below_append_lt (spot : names ∈ fs.spots) (name : Bytes) :
    fs.below (names ++ [name]) < fs.below names := by
  refine Finset.card_lt_card ⟨fun d mem => ?_, fun all => ?_⟩
  · obtain ⟨spot, lies⟩ := Finset.mem_filter.1 mem
    exact Finset.mem_filter.2 ⟨spot, (List.prefix_append ..).trans lies⟩
  · have itself := (Finset.mem_filter.1 (all (Finset.mem_filter.2 ⟨spot, List.prefix_refl names⟩))).2
    have longer := itself.length_le
    rw [List.length_append, List.length_singleton] at longer
    exact Nat.not_succ_le_self _ longer

/-- A directory below another one has less room. -/
theorem room_directory_lt (spot : names ∈ fs.spots) (name : Bytes) :
    fs.room (names :: inside) (names ++ [name]) < fs.room inside names := by
  refine Nat.add_lt_add_of_lt_of_le (below_append_lt spot name) (Finset.sum_le_sum_of_subset ?_)
  refine Finset.sdiff_subset_sdiff (Finset.Subset.refl _) fun e mem => ?_
  rw [List.mem_toFinset] at mem ⊢
  exact List.mem_cons_of_mem _ mem

/-- The directory that a link leads to has counted so far, and does not count any more. -/
theorem room_link_lt (spot : names ∈ fs.spots) (other : found ∈ fs.spots)
    (outside : found ∉ names :: inside) :
    fs.room (names :: inside) found < fs.room inside names := by
  have counted : found ∈ fs.spots \ (names :: inside).toFinset :=
    Finset.mem_sdiff.2 ⟨other, fun mem => outside (List.mem_toFinset.1 mem)⟩
  have rest : fs.spots \ (found :: names :: inside).toFinset =
      (fs.spots \ (names :: inside).toFinset).erase found := by
    rw [List.toFinset_cons, Finset.sdiff_insert]
  rw [room, room, rest, Finset.add_sum_erase _ _ counted]
  exact Nat.lt_add_of_pos_left (below_pos spot)

/-- **A way into a directory takes room.** -/
theorem room_lt_of_enter {child : Bytes × Node} {deeper : Path} (spot : names ∈ fs.spots)
    (mem : child ∈ fs.children names)
    (way : fs.way follow path names inside child = .enter deeper found) :
    found ∈ fs.spots ∧ fs.room (names :: inside) found < fs.room inside names := by
  rcases way_cases fs follow path names inside child with ⟨v, visited, -⟩ | ⟨n, entered, leads⟩
  · cases visited.symm.trans way
  · cases entered.symm.trans way
    rcases leads with ⟨-, rfl⟩ | ⟨directory, outside⟩
    · exact ⟨mem_spots.2 (.inr ⟨_, mem_children.1 mem⟩), room_directory_lt spot child.1⟩
    · have other := mem_spots_of_node? directory
      exact ⟨other, room_link_lt spot other outside⟩

/-- Nodes above some names are among their first parts. -/
theorem card_above_le (fs : Files) (names : List Bytes) :
    (fs.spots.filter (· <+: names)).card ≤ names.length + 1 := by
  calc (fs.spots.filter (· <+: names)).card
      ≤ names.inits.toFinset.card := Finset.card_le_card fun e mem =>
        List.mem_toFinset.2 ((List.mem_inits _ _).2 (Finset.mem_filter.1 mem).2)
    _ ≤ names.inits.length := List.toFinset_card_le _
    _ = names.length + 1 := List.length_inits _

/-- The bound on the depth, as a sum. -/
theorem maxDepth_eq (fs : Files) :
    fs.maxDepth = (fs.nodes.map fun node => node.1.length + 2).sum + 2 := by
  have folds : ∀ (nodes : List (List Bytes × Node)) (n : Nat),
      nodes.foldl (fun depth node => depth + node.1.length + 2) n =
        (nodes.map fun node => node.1.length + 2).sum + n := by
    intro nodes
    induction nodes with
    | nil => exact fun n => (Nat.zero_add n).symm
    | cons node more ih =>
      intro n
      rw [List.foldl_cons, ih, List.map_cons, List.sum_cons]
      omega
  exact folds fs.nodes 2

/-- Summing over the members of a list counts each of them once. -/
theorem sum_toFinset_le (l : List (List Bytes)) (f : List Bytes → Nat) :
    ∑ d ∈ l.toFinset, f d ≤ (l.map f).sum := by
  have distinct : l.dedup.toFinset = l.toFinset := by
    ext d
    simp
  rw [← distinct, List.sum_toFinset f l.nodup_dedup]
  exact List.Sublist.sum_le_sum (l.dedup_sublist.map f) fun _ _ => Nat.zero_le _

/-- **The room at the start is within the bound.** -/
theorem room_le_maxDepth (spot : names ∈ fs.spots) : fs.room [] names ≤ fs.maxDepth := by
  have whole : fs.room [] names = ∑ e ∈ fs.spots, fs.below e := by
    rw [room, List.toFinset_cons, List.toFinset_nil, insert_empty_eq, Finset.sdiff_singleton_eq_erase,
      Finset.add_sum_erase _ _ spot]
  calc fs.room [] names = ∑ e ∈ fs.spots, (fs.spots.filter (e <+: ·)).card := whole
    _ = ∑ d ∈ fs.spots, (fs.spots.filter (· <+: d)).card :=
      Finset.sum_card_bipartiteAbove_eq_sum_card_bipartiteBelow _
    _ ≤ ∑ d ∈ fs.spots, (d.length + 1) := Finset.sum_le_sum fun d _ => card_above_le fs d
    _ ≤ (([] :: fs.nodes.map Prod.fst).map fun d => d.length + 1).sum := sum_toFinset_le _ _
    _ = (fs.nodes.map fun node => node.1.length + 1).sum + 1 := by
      rw [List.map_cons, List.sum_cons, List.map_map, Nat.add_comm]
      rfl
    _ ≤ (fs.nodes.map fun node => node.1.length + 2).sum + 2 :=
      Nat.add_le_add (List.sum_le_sum fun _ _ => Nat.le_succ _) (Nat.le_succ 1)
    _ = fs.maxDepth := (maxDepth_eq fs).symm

/-! ## What a walk visits -/

/-- With enough room, a walk visits what it gets to. -/
theorem mem_walkWithin_iff {depth : Nat} (spot : names ∈ fs.spots)
    (enough : fs.room inside names ≤ depth) :
    v ∈ fs.walkWithin follow depth path names inside ↔ fs.Reaches follow inside path names v := by
  induction depth generalizing path names inside with
  | zero =>
    have some := below_pos spot
    rw [room] at enough
    omega
  | succ depth ih =>
    rw [walkWithin_succ, List.mem_cons, List.mem_flatMap]
    constructor
    · rintro (rfl | ⟨child, mem, visited⟩)
      · exact .here
      · cases way : fs.way follow path names inside child with
        | visit w =>
          rw [way] at visited
          exact .visit mem (List.mem_singleton.1 visited ▸ way)
        | enter deeper found =>
          rw [way] at visited
          obtain ⟨other, less⟩ := room_lt_of_enter spot mem way
          exact .enter mem way ((ih other (by omega)).1 visited)
    · intro reached
      cases reached with
      | here => exact .inl rfl
      | @visit _ _ _ child _ mem way =>
        refine .inr ⟨child, mem, ?_⟩
        rw [way]
        exact List.mem_singleton_self _
      | @enter _ _ deeper _ found child _ mem way below =>
        refine .inr ⟨child, mem, ?_⟩
        rw [way]
        obtain ⟨other, less⟩ := room_lt_of_enter spot mem way
        exact (ih other (by omega)).2 below

/-- A path that leads to a directory. -/
theorem exists_of_isDirectory {p : Path} (directory : fs.isDirectory p = true) :
    ∃ names, fs.resolve p = some names ∧ fs.node? names = some .directory := by
  unfold isDirectory at directory
  cases leads : fs.resolve p with
  | none =>
    rw [leads] at directory
    cases directory
  | some names =>
    rw [leads] at directory
    exact ⟨names, rfl, beq_iff_eq.1 directory⟩

/-- **A walk visits what it gets to from its start.** -/
theorem mem_walk_iff {start : Path} (leads : fs.resolve start = some names)
    (directory : fs.node? names = some .directory) :
    v ∈ fs.walk follow start ↔ fs.Reaches follow [] start names v := by
  have spot := mem_spots_of_node? directory
  rw [walk, leads]
  exact mem_walkWithin_iff spot (room_le_maxDepth spot)

end Files
end HomeMedia
