import HomeMedia.Path
import HomeMedia.Proofs.Text.Pieces
import Mathlib.Data.List.Induction
/-!
# The parts of a path

What stands behind a slash adds its own parts to those of what stands before it
(`parts_append_slash`). So a slash that is repeated or ends a path does not count, nor does a single
dot between slashes (`parts_of_doubled_slash`, `parts_of_last_slash`, `parts_of_inner_dot`).

The parts of a path without the last one are those of some path again, so whatever a path lies in
can be written down (`exists_parent`).

A path leads to the file whose name stands behind the last slash that counts
(`fileName?_eq_some_iff`), and the extension of a name is what stands behind its last dot
(`extensionOf_eq_some_iff`).
-/

namespace HomeMedia

open Text (Bytes)

namespace Path

/-- The parts that stand behind the one that may lead a path. -/
def inner (bytes : Bytes) : List Part := (Text.split slash bytes).filterMap part?

/-- The parts of a path are its leading one, if that is special, and those of its pieces. -/
theorem parts_eq (p : Path) : p.parts = p.lead ++ inner p.bytes := rfl

/-- Nothing has no parts. -/
@[simp] theorem inner_nil : inner [] = [] := rfl

/-- A slash separates parts. -/
theorem inner_append_slash (before after : Bytes) :
    inner (before ++ slash :: after) = inner before ++ inner after := by
  rw [inner, Text.split_append, List.filterMap_append]
  rfl

/-- What leads a path is settled before the first slash behind something. -/
theorem lead_append_slash {before : Bytes} (written : before ≠ []) (after : Bytes) :
    lead ⟨before ++ slash :: after⟩ = lead ⟨before⟩ := by
  unfold lead isAbsolute
  dsimp only
  rw [Text.split_append, List.head?_append_of_ne_nil _ (Text.split_ne_nil slash before),
    List.head?_append_of_ne_nil _ written]

/-- **What stands behind a slash** adds its parts to those of what stands before it. -/
theorem parts_append_slash {before : Bytes} (written : before ≠ []) (after : Bytes) :
    parts ⟨before ++ slash :: after⟩ = parts ⟨before⟩ ++ inner after := by
  rw [parts_eq, parts_eq, lead_append_slash written, inner_append_slash, List.append_assoc]

/-- The parts of an absolute path. -/
theorem parts_slash (after : Bytes) : parts ⟨slash :: after⟩ = .root :: inner after :=
  congrArg (Part.root :: ·) (inner_append_slash [] after)

/-- A slash after a slash does not count. -/
theorem parts_of_doubled_slash (before after : Bytes) :
    parts ⟨before ++ slash :: slash :: after⟩ = parts ⟨before ++ slash :: after⟩ := by
  have same : inner (slash :: after) = inner after := inner_append_slash [] after
  cases before with
  | nil => rw [List.nil_append, List.nil_append, parts_slash, parts_slash, same]
  | cons b before =>
    have written : b :: before ≠ [] := List.cons_ne_nil b before
    rw [parts_append_slash written, parts_append_slash written, same]

/-- A slash at the end does not count. -/
theorem parts_of_last_slash {before : Bytes} (written : before ≠ []) :
    parts ⟨before ++ [slash]⟩ = parts ⟨before⟩ := by
  rw [parts_append_slash written, inner_nil, List.append_nil]

/-- A single dot between slashes does not count. -/
theorem parts_of_inner_dot (before after : Bytes) :
    parts ⟨before ++ slash :: dot :: slash :: after⟩ = parts ⟨before ++ slash :: after⟩ := by
  have same : inner (dot :: slash :: after) = inner after := inner_append_slash [dot] after
  cases before with
  | nil => rw [List.nil_append, List.nil_append, parts_slash, parts_slash, same]
  | cons b before =>
    have written : b :: before ≠ [] := List.cons_ne_nil b before
    rw [parts_append_slash written, parts_append_slash written, same]

/-! ## Paths from parts -/

/-- A part that may stand behind another, and how it is written. -/
def IsWritten (part : Part) (piece : Bytes) : Prop := slash ∉ piece ∧ part? piece = some part

/-- What stands between slashes is how a part can be written. -/
theorem exists_written {part : Part} {bytes : Bytes} (mem : part ∈ inner bytes) :
    ∃ piece, IsWritten part piece := by
  obtain ⟨piece, split, named⟩ := List.mem_filterMap.1 mem
  exact ⟨piece, Text.not_mem_of_mem_split split, named⟩

/-- A part that is written down is read back. -/
theorem IsWritten.inner {part : Part} {piece : Bytes} (written : IsWritten part piece) :
    inner piece = [part] := by
  rw [Path.inner, Text.split_of_not_mem written.1, List.filterMap_cons_some written.2,
    List.filterMap_nil]

/-- A path of one part. -/
theorem IsWritten.parts {part : Part} {piece : Bytes} (written : IsWritten part piece) :
    parts ⟨piece⟩ = [part] := by
  have relative : isAbsolute ⟨piece⟩ = false := by
    cases piece with
    | nil => rfl
    | cons b more =>
      refine beq_eq_false_iff_ne.2 fun same => written.1 ?_
      rw [← Option.some.inj same]
      exact List.mem_cons_self ..
  have other : piece ≠ [dot] := by
    rintro rfl
    cases written.2
  rw [parts_eq, written.inner, lead, relative, if_neg (by decide),
    Text.split_of_not_mem written.1, List.head?_cons, if_neg fun same => other (Option.some.inj same)]
  rfl

/-- A leading part with parts that may stand behind it is a path. -/
theorem exists_path {lead : List Part} (leads : ∃ p : Path, p.bytes ≠ [] ∧ p.parts = lead)
    {parts : List Part} (written : ∀ part ∈ parts, ∃ piece, IsWritten part piece) :
    ∃ p : Path, p.bytes ≠ [] ∧ p.parts = lead ++ parts := by
  induction parts using List.reverseRecOn with
  | nil => rwa [List.append_nil]
  | append_singleton parts last ih =>
    obtain ⟨p, nonempty, same⟩ := ih fun part mem => written part (List.mem_append_left _ mem)
    obtain ⟨piece, named⟩ := written last (List.mem_append_right _ (List.mem_singleton_self _))
    refine ⟨⟨p.bytes ++ slash :: piece⟩, List.append_ne_nil_of_left_ne_nil nonempty _, ?_⟩
    rw [parts_append_slash nonempty, named.inner, same, List.append_assoc]

/-- **What a path lies in is a path.** -/
theorem exists_parent {p : Path} {parts : List Part} (lies : p.parent? = some parts) :
    ∃ dir : Path, dir.parts = parts := by
  have same : parts = p.parts.dropLast := by
    unfold parent? at lies
    split at lies <;> simp_all
  have written : ∀ part ∈ (inner p.bytes).dropLast, ∃ piece, IsWritten part piece :=
    fun part mem => exists_written (List.dropLast_subset _ mem)
  rw [same, parts_eq]
  if none : inner p.bytes = [] then
    rw [none, List.append_nil]
    have single : p.lead.dropLast = [] := by
      unfold lead
      split_ifs <;> rfl
    exact ⟨⟨[]⟩, single.symm⟩
  else
    rw [List.dropLast_append_of_ne_nil none]
    -- Without a leading part, the first of the others leads.
    have leads : p.lead = [] ∨ ∃ q : Path, q.bytes ≠ [] ∧ q.parts = p.lead := by
      unfold lead
      split_ifs
      · exact .inr ⟨⟨[slash]⟩, List.cons_ne_nil slash [], rfl⟩
      · exact .inr ⟨⟨[dot]⟩, List.cons_ne_nil dot [], rfl⟩
      · exact .inl rfl
    rcases leads with absent | leads
    · rw [absent, List.nil_append]
      cases rest : (inner p.bytes).dropLast with
      | nil => exact ⟨⟨[]⟩, rfl⟩
      | cons first more =>
        rw [rest] at written
        obtain ⟨piece, named⟩ := written first (List.mem_cons_self ..)
        have nonempty : piece ≠ [] := by
          rintro rfl
          cases named.2
        obtain ⟨q, -, parts⟩ := exists_path ⟨⟨piece⟩, nonempty, named.parts⟩ fun part mem =>
          written part (List.mem_cons_of_mem _ mem)
        exact ⟨q, parts⟩
    · obtain ⟨q, -, parts⟩ := exists_path leads written
      exact ⟨q, parts⟩

/-! ## The name of a file -/

/-- What may stand behind a name without counting: slashes, and single dots behind them. -/
inductive IsIdle : Bytes → Prop where
  /-- Nothing stands there. -/
  | nothing : IsIdle []
  /-- One more slash. -/
  | doubled {more : Bytes} (idle : IsIdle more) : IsIdle (slash :: more)
  /-- A dot between slashes, or at the end. -/
  | here {more : Bytes} (idle : IsIdle more) : IsIdle (slash :: dot :: more)

/-- A path leads to a file of a name: it is the last part that counts. -/
structure LeadsTo (p : Path) (file : Bytes) : Prop where
  /-- The name starts the path or stands behind a slash, and nothing that counts is behind it. -/
  last : ∃ front tail, p.bytes = front ++ (file ++ tail) ∧
    (front = [] ∨ front.getLast? = some slash) ∧ IsIdle tail
  /-- There is no slash in it. -/
  whole : slash ∉ file
  /-- It is neither nothing nor a dot nor a pair of dots. -/
  named : file ≠ [] ∧ file ≠ [dot] ∧ file ≠ [dot, dot]

/-- A piece is a name unless it is nothing, a dot or a pair of dots. -/
theorem part?_eq_name_iff {piece file : Bytes} : part? piece = some (.name file) ↔
    piece = file ∧ file ≠ [] ∧ file ≠ [dot] ∧ file ≠ [dot, dot] := by
  unfold part?
  split_ifs with none up
  · exact iff_of_false nofun fun ⟨same, named, one, _⟩ => none.elim (same ▸ named) (same ▸ one)
  · exact iff_of_false nofun fun ⟨same, _, _, two⟩ => two (same ▸ up)
  · rw [Option.some.injEq, Part.name.injEq]
    constructor
    · rintro rfl
      exact ⟨rfl, fun nothing => none (.inl nothing), fun one => none (.inr one), up⟩
    · exact And.left

/-- What is idle behind something adds no part. -/
theorem IsIdle.inner_append {tail : Bytes} (idle : IsIdle tail) (front : Bytes) :
    inner (front ++ tail) = inner front := by
  induction idle generalizing front with
  | nothing => rw [List.append_nil]
  | @doubled more _ ih =>
    have none : inner more = [] := ih []
    rw [inner_append_slash, none, List.append_nil]
  | @here more _ ih =>
    have none : inner (dot :: more) = [] := ih [dot]
    rw [inner_append_slash, none, List.append_nil]

/-- Pieces that are no parts are idle, each behind a slash. -/
theorem isIdle_flatMap {pieces : List Bytes} (idle : ∀ piece ∈ pieces, part? piece = none) :
    IsIdle (pieces.flatMap (slash :: ·)) := by
  induction pieces with
  | nil => exact .nothing
  | cons piece more ih =>
    obtain ⟨none, rest⟩ := List.forall_mem_cons.1 idle
    have plain : piece = [] ∨ piece = [dot] := by
      unfold part? at none
      split_ifs at none with plain
      exact plain
    rcases plain with rfl | rfl
    · exact .doubled (ih rest)
    · exact .here (ih rest)

/-- The name of the file is the last of the parts, if that is a name. -/
theorem fileName?_eq_some_iff_inner {p : Path} {file : Bytes} :
    p.fileName? = some file ↔ (inner p.bytes).getLast? = some (.name file) := by
  have last : p.fileName? = some file ↔ p.parts.getLast? = some (.name file) := by
    unfold fileName?
    split
    · rename_i found
      rw [found, Option.some.injEq, Option.some.injEq, Part.name.injEq]
    · rename_i other
      exact iff_of_false nofun (other file)
  rw [last, parts_eq, List.getLast?_append]
  cases (inner p.bytes).getLast? with
  | some part => rfl
  | none =>
    refine iff_of_false ?_ nofun
    unfold lead
    split_ifs <;> exact nofun

/-- **The name of the file** that a path leads to. -/
theorem fileName?_eq_some_iff {p : Path} {file : Bytes} :
    p.fileName? = some file ↔ p.LeadsTo file := by
  rw [fileName?_eq_some_iff_inner]
  constructor
  · intro found
    rw [inner, List.getLast?_filterMap, List.findSome?_eq_some_iff] at found
    obtain ⟨after, piece, before, cut, name, idle⟩ := found
    obtain ⟨rfl, named⟩ := part?_eq_name_iff.1 name
    have pieces : Text.split slash p.bytes = before.reverse ++ piece :: after.reverse := by
      rw [← List.reverse_reverse (Text.split slash p.bytes), cut]
      simp
    have bytes := Text.intercalate_split slash p.bytes
    rw [pieces, Text.intercalate_around] at bytes
    refine ⟨⟨_, _, bytes.symm, ?_, ?_⟩, ?_, named⟩
    · cases before with
      | nil => exact .inl rfl
      | cons last rest => exact .inr (by simp)
    · exact isIdle_flatMap fun other mem => idle other (List.mem_reverse.1 mem)
    · have mem : piece ∈ Text.split slash p.bytes := by
        rw [pieces]
        exact List.mem_append_right _ (List.mem_cons_self ..)
      exact Text.not_mem_of_mem_split mem
  · rintro ⟨⟨front, tail, bytes, start, idle⟩, whole, named⟩
    have name : inner file = [.name file] := by
      rw [inner, Text.split_of_not_mem whole,
        List.filterMap_cons_some (part?_eq_name_iff.2 ⟨rfl, named⟩), List.filterMap_nil]
    rw [bytes, ← List.append_assoc, idle.inner_append]
    rcases start with rfl | slashed
    · rw [List.nil_append, name]
      rfl
    · obtain ⟨before, rfl⟩ := List.getLast?_eq_some_iff.1 slashed
      rw [List.append_assoc, List.singleton_append, inner_append_slash, name,
        List.getLast?_append]
      rfl

/-- The extension of a name is what stands behind its last dot, unless that dot is its first
character. -/
theorem extensionOf_eq_some_iff {file ending : Bytes} : extensionOf file = some ending ↔
    ∃ stem, file = stem ++ dot :: ending ∧ stem ≠ [] ∧ dot ∉ ending := by
  constructor
  · intro found
    unfold extensionOf at found
    split at found
    · cases found
    · cases found
    · rename_i after b before cut
      obtain rfl := Option.some.inj found
      obtain ⟨reversed, absent⟩ := Text.splitOnce_eq_some_iff.1 cut
      refine ⟨(b :: before).reverse, ?_, by simp, fun mem => absent (List.mem_reverse.1 mem)⟩
      rw [← List.reverse_reverse file, reversed]
      simp
  · rintro ⟨stem, rfl, some, absent⟩
    have cut : Text.splitOnce dot (stem ++ dot :: ending).reverse =
        .some (ending.reverse, stem.reverse) := by
      refine Text.splitOnce_eq_some_iff.2 ⟨by simp, fun mem => absent (List.mem_reverse.1 mem)⟩
    unfold extensionOf
    rw [cut]
    cases stems : stem.reverse with
    | nil => exact absurd (List.reverse_eq_nil_iff.1 stems) some
    | cons b before => exact congrArg Option.some (List.reverse_reverse ending)

end Path
end HomeMedia
