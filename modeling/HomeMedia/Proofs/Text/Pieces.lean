import HomeMedia.Text.Blank
import Mathlib.Data.List.Basic
import Mathlib.Data.List.TakeWhile
/-!
# Pieces of a text

A text that is cut at a separator falls into pieces without separators, and pieces without
separators that are joined are cut again where they were joined (`split_intercalate`). At its first
separator a text falls into two parts, the first of them without separators (`splitOnce_append`).

Trimming takes blanks away at both ends and nothing else: a text is what is left of it between two
rows of blanks (`exists_around_trim`), whatever rows of blanks stand around it (`trim_around`).
-/

namespace HomeMedia
namespace Text

/-- Pieces that are joined, seen from one of them. -/
theorem intercalate_around {α : Type} (sep : α) (before : List (List α)) (piece : List α)
    (after : List (List α)) : [sep].intercalate (before ++ piece :: after) =
    before.flatMap (· ++ [sep]) ++ (piece ++ after.flatMap (sep :: ·)) := by
  induction before with
  | nil =>
    rw [List.nil_append, List.flatMap_nil, List.nil_append]
    induction after generalizing piece with
    | nil => simp [List.intercalate]
    | cons next after ih =>
      rw [List.intercalate_cons_cons, ih, List.flatMap_cons]
      simp
  | cons first before ih =>
    obtain ⟨second, more, pieces⟩ : ∃ second more, before ++ piece :: after = second :: more :=
      List.exists_cons_of_ne_nil (by simp)
    rw [List.cons_append, pieces, List.intercalate_cons_cons, ← pieces, ih, List.flatMap_cons]
    simp

section Separators

variable {α : Type} [DecidableEq α] {sep : α}

/-- A piece holds no separator. -/
theorem not_mem_of_mem_split {piece cs : List α} (mem : piece ∈ split sep cs) : sep ∉ piece := by
  induction cs generalizing piece with
  | nil => simp_all [split]
  | cons c cs ih =>
    unfold split at mem
    split_ifs at mem with same
    · rcases List.mem_cons.1 mem with rfl | later
      · exact List.not_mem_nil
      · exact ih later
    · obtain ⟨first, more, pieces⟩ := List.exists_cons_of_ne_nil (split_ne_nil sep cs)
      simp only [pieces] at mem
      rcases List.mem_cons.1 mem with rfl | later
      · have none : sep ∉ first := ih (pieces ▸ List.mem_cons_self ..)
        exact fun here => (List.mem_cons.1 here).elim (fun eq => same eq.symm) none
      · exact ih (pieces ▸ List.mem_cons_of_mem first later)

/-- A text without separators is one piece. -/
theorem split_of_not_mem {cs : List α} (absent : sep ∉ cs) : split sep cs = [cs] := by
  induction cs with
  | nil => rfl
  | cons c cs ih =>
    have differs : c ≠ sep := fun same => absent (same ▸ List.mem_cons_self ..)
    rw [split, if_neg differs, ih fun mem => absent (List.mem_cons_of_mem c mem)]

/-- **A separator cuts a text in two.** -/
theorem split_append (before after : List α) :
    split sep (before ++ sep :: after) = split sep before ++ split sep after := by
  induction before with
  | nil => simp [split]
  | cons c before ih =>
    rw [List.cons_append, split, split, ih]
    split_ifs
    · rfl
    · obtain ⟨first, more, pieces⟩ := List.exists_cons_of_ne_nil (split_ne_nil sep before)
      rw [pieces]
      rfl

/-- **Pieces that are joined are cut again.** -/
theorem split_intercalate {pieces : List (List α)} (some : pieces ≠ [])
    (clean : ∀ piece ∈ pieces, sep ∉ piece) : split sep ([sep].intercalate pieces) = pieces := by
  induction pieces with
  | nil => exact absurd rfl some
  | cons first more ih =>
    have one : split sep first = [first] := split_of_not_mem (clean first (List.mem_cons_self ..))
    cases more with
    | nil => simpa [List.intercalate] using one
    | cons second more =>
      have rest := ih (List.cons_ne_nil _ _) fun piece mem =>
        clean piece (List.mem_cons_of_mem first mem)
      rw [List.intercalate_cons_cons, List.append_assoc, List.singleton_append, split_append, one,
        rest]
      rfl

/-- A text is cut once at its first separator. -/
theorem splitOnce_append {before : List α} (absent : sep ∉ before) (after : List α) :
    splitOnce sep (before ++ sep :: after) = some (before, after) := by
  induction before with
  | nil => simp [splitOnce]
  | cons c before ih =>
    have differs : c ≠ sep := fun same => absent (same ▸ List.mem_cons_self ..)
    rw [List.cons_append, splitOnce, if_neg differs,
      ih fun mem => absent (List.mem_cons_of_mem c mem)]
    rfl

/-- A text without separators is not cut. -/
theorem splitOnce_of_not_mem {cs : List α} (absent : sep ∉ cs) : splitOnce sep cs = none := by
  induction cs with
  | nil => rfl
  | cons c cs ih =>
    have differs : c ≠ sep := fun same => absent (same ▸ List.mem_cons_self ..)
    rw [splitOnce, if_neg differs, ih fun mem => absent (List.mem_cons_of_mem c mem)]
    rfl

/-- **Where a text is cut once.** -/
theorem splitOnce_eq_some_iff {cs before after : List α} :
    splitOnce sep cs = some (before, after) ↔ cs = before ++ sep :: after ∧ sep ∉ before := by
  constructor
  · intro cut
    by_cases mem : sep ∈ cs
    · obtain ⟨front, rest, rfl, absent⟩ := List.eq_append_cons_of_mem mem
      rw [splitOnce_append absent, Option.some.injEq, Prod.mk.injEq] at cut
      obtain ⟨rfl, rfl⟩ := cut
      exact ⟨rfl, absent⟩
    · rw [splitOnce_of_not_mem mem] at cut
      cases cut
  · rintro ⟨rfl, absent⟩
    exact splitOnce_append absent after

end Separators

/-! ## Blanks -/

variable {cs before after : List Char}

/-- Of blanks nothing is left. -/
theorem trimStart_of_blank (blank : ∀ c ∈ cs, isBlank c = true) : trimStart cs = [] :=
  List.dropWhile_eq_nil_iff.2 blank

/-- Blanks at the start do not count. -/
theorem trimStart_append (blank : ∀ c ∈ before, isBlank c = true) (cs : List Char) :
    trimStart (before ++ cs) = trimStart cs :=
  List.dropWhile_append_of_pos blank

/-- Blanks at the end do not count. -/
theorem trimEnd_append (blank : ∀ c ∈ after, isBlank c = true) (cs : List Char) :
    trimEnd (cs ++ after) = trimEnd cs := by
  rw [trimEnd, List.reverse_append, trimStart_append fun c mem => blank c (List.mem_reverse.1 mem)]
  rfl

/-- What trimming takes away at the front. -/
theorem exists_before_trimStart (cs : List Char) :
    ∃ before, (∀ c ∈ before, isBlank c = true) ∧ cs = before ++ trimStart cs :=
  ⟨cs.takeWhile isBlank, fun _ => List.mem_takeWhile_imp, List.takeWhile_append_dropWhile.symm⟩

/-- What trimming takes away at the end. -/
theorem exists_after_trimEnd (cs : List Char) :
    ∃ after, (∀ c ∈ after, isBlank c = true) ∧ cs = trimEnd cs ++ after := by
  obtain ⟨before, blank, same⟩ := exists_before_trimStart cs.reverse
  refine ⟨before.reverse, fun c mem => blank c (List.mem_reverse.1 mem), ?_⟩
  rw [trimEnd, ← List.reverse_append, ← same, List.reverse_reverse]

/-- **A text is what is left of it between two rows of blanks.** -/
theorem exists_around_trim (cs : List Char) :
    ∃ before after, (∀ c ∈ before, isBlank c = true) ∧ (∀ c ∈ after, isBlank c = true) ∧
      cs = before ++ trim cs ++ after := by
  obtain ⟨before, front, start⟩ := exists_before_trimStart cs
  obtain ⟨after, back, rest⟩ := exists_after_trimEnd (trimStart cs)
  refine ⟨before, after, front, back, ?_⟩
  rw [trim, List.append_assoc, ← rest, ← start]

/-- **Blanks around a text do not count.** -/
theorem trim_around (front : ∀ c ∈ before, isBlank c = true) (back : ∀ c ∈ after, isBlank c = true)
    (cs : List Char) : trim (before ++ cs ++ after) = trim cs := by
  rw [List.append_assoc, trim, trimStart_append front, trim]
  unfold trimStart
  rw [List.dropWhile_append]
  split
  · rename_i nothing
    rw [List.isEmpty_iff.1 nothing, List.dropWhile_eq_nil_iff.2 back]
  · exact trimEnd_append back _

/-- Trimming twice makes no difference. -/
@[simp] theorem trim_trim (cs : List Char) : trim (trim cs) = trim cs := by
  obtain ⟨before, after, front, back, same⟩ := exists_around_trim cs
  conv_rhs => rw [same]
  exact (trim_around front back _).symm

/-- Nor does it for strings. -/
@[simp] theorem trimmed_trimmed (s : String) : trimmed (trimmed s) = trimmed s := by
  simp [trimmed]

/-- Nothing is left of blanks only. -/
theorem trim_eq_nil_iff : trim cs = [] ↔ ∀ c ∈ cs, isBlank c = true := by
  constructor
  · intro nothing
    obtain ⟨before, after, front, back, same⟩ := exists_around_trim cs
    rw [nothing, List.append_nil] at same
    intro c mem
    rw [same] at mem
    exact (List.mem_append.1 mem).elim (front c) (back c)
  · intro blank
    rw [trim, trimStart_of_blank blank]
    rfl

/-- A character that is not blank stays. -/
theorem mem_trim_iff {c : Char} (solid : isBlank c = false) : c ∈ trim cs ↔ c ∈ cs := by
  obtain ⟨before, after, front, back, same⟩ := exists_around_trim cs
  constructor
  · intro mem
    rw [same]
    simp [mem]
  · intro mem
    rw [same] at mem
    rcases List.mem_append.1 mem with mem | late
    · rcases List.mem_append.1 mem with early | mem
      · cases solid.symm.trans (front c early)
      · exact mem
    · cases solid.symm.trans (back c late)

/-- A text that goes on with a character that is not blank loses blanks before that only. -/
theorem trimStart_append_cons {c : Char} (solid : isBlank c = false) (before after : List Char) :
    trimStart (before ++ c :: after) = trimStart before ++ c :: after := by
  unfold trimStart
  rw [List.dropWhile_append]
  split
  · rename_i nothing
    rw [List.isEmpty_iff.1 nothing, List.dropWhile_cons_of_neg (by simp [solid])]
    rfl
  · rfl

/-- What stands before a character that is not blank loses blanks at the front only, and what stands
behind it loses blanks at the end only. -/
theorem trim_append_cons {c : Char} (solid : isBlank c = false) (before after : List Char) :
    trim (before ++ c :: after) = trimStart before ++ c :: trimEnd after := by
  rw [trim, trimStart_append_cons solid, trimEnd, List.reverse_append, List.reverse_cons,
    List.append_assoc, List.singleton_append, trimStart_append_cons solid]
  simp [trimEnd]

/-- A trimmed text does not begin with a blank. -/
theorem trimStart_of_trim (trimmed : trim cs = cs) : trimStart cs = cs := by
  refine (List.dropWhile_suffix isBlank).eq_of_length (Nat.le_antisymm
    (List.dropWhile_suffix isBlank).length_le ?_)
  obtain ⟨after, -, same⟩ := exists_after_trimEnd (trimStart cs)
  have lengths := congrArg List.length same
  rw [List.length_append, ← trim, trimmed] at lengths
  exact Nat.le.intro lengths.symm

/-- A text whose last character is no blank loses nothing at its end. -/
theorem trimEnd_of_getLast? (solid : ∀ c, cs.getLast? = some c → isBlank c = false) :
    trimEnd cs = cs := by
  obtain ⟨after, back, same⟩ := exists_after_trimEnd cs
  rcases List.eq_nil_or_concat after with rfl | ⟨front, c, rfl⟩
  · rw [List.append_nil] at same
    exact same.symm
  · have last : cs.getLast? = some c := by
      rw [same, List.concat_eq_append, ← List.append_assoc, List.getLast?_concat]
    cases (solid c last).symm.trans (back c (by simp))

end Text
end HomeMedia
