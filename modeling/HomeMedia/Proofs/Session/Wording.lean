import HomeMedia.Proofs.Number
import HomeMedia.Proofs.Session.Pending
import HomeMedia.Proofs.Text.Pieces
import Mathlib
/-!
# The text of what is told says what is told

What a session tells goes to the user interface as a text: nothing, the word `all`, or numbers with
commas between them. Not every text of that kind says what it was made from, since an empty list of
numbers is written like nothing at all. A session never tells an empty list, though
(`IsTold.isPlain`), and a list of numbers is read back from its text (`readAll_text`): commas stand
between the numbers only, and each number is read back with its sign. Neither the empty text nor the
word `all` is read as numbers, so the three kinds are told apart, and different answers have
different texts (`updates_of_text`).
-/

namespace HomeMedia

/-- The greatest number that a container can have; numbers have 32 bits with a sign. -/
def ObjectId.greatest : Nat := 2147483647

/-- A number of 32 bits with a sign. -/
structure ObjectId.IsWord (id : ObjectId) : Prop where
  /-- It is not too small. -/
  least : -(ObjectId.greatest + 1) ≤ id
  /-- It is not too great. -/
  most : id ≤ ObjectId.greatest

namespace Session
namespace Updates

/-! ## Texts of lists -/

/-- What is read between the commas of a text. -/
def readAll (text : String) : List (Except Number.Fault ObjectId) :=
  (Text.split ',' text.toList).map (Number.readInt ObjectId.greatest)

/-- There is no comma in a number. -/
theorem comma_not_mem_toString (id : ObjectId) : ',' ∉ (toString id).toList := by
  rw [Number.toList_toString]
  intro mem
  rcases List.mem_append.1 mem with sign | digit
  · split at sign
    · exact absurd (List.mem_singleton.1 sign) (by decide)
    · exact List.not_mem_nil sign
  · cases Nat.isDigit_of_mem_toDigits (by decide) (by decide) digit

/-- **The numbers of a list are read back from its text.** -/
theorem readAll_text {list : List ObjectId} (some : list ≠ [])
    (words : ∀ id ∈ list, ObjectId.IsWord id) : readAll (ids list).text = list.map .ok := by
  have pieces : (ids list).text.toList =
      [','].intercalate (list.map fun id => (toString id).toList) := by
    rw [text, String.toList_intercalate, List.map_map]
    rfl
  have clean : ∀ piece ∈ list.map fun id => (toString id).toList, ',' ∉ piece := by
    intro piece mem
    obtain ⟨id, -, rfl⟩ := List.mem_map.1 mem
    exact comma_not_mem_toString id
  rw [readAll, pieces, Text.split_intercalate (List.map_eq_nil_iff.not.2 some) clean, List.map_map]
  exact List.map_congr_left fun id mem =>
    Number.readInt_toString (words id mem).least (words id mem).most

/-- A text with something in it that is no number is the text of no list. -/
theorem text_ids_ne {list : List ObjectId} (some : list ≠ [])
    (words : ∀ id ∈ list, ObjectId.IsWord id) {other : String} {fault : Number.Fault}
    (faulty : .error fault ∈ readAll other) : (ids list).text ≠ other := by
  intro same
  rw [← same, readAll_text some words] at faulty
  obtain ⟨id, -, ok⟩ := List.mem_map.1 faulty
  cases ok

/-! ## What can be told -/

/-- A list that is told is ascending, and not empty. -/
inductive IsPlain : Updates → Prop where
  /-- Nothing changed. -/
  | none : IsPlain none
  /-- Everything may have changed. -/
  | all : IsPlain all
  /-- These containers changed. -/
  | ids (list : List ObjectId) (some : list ≠ []) (ascending : list.Pairwise (· < ·))
    (words : ∀ id ∈ list, ObjectId.IsWord id) : IsPlain (ids list)

namespace IsPlain

variable {told other : Updates}

/-- The empty text is told when nothing is pending. -/
theorem text_eq_empty_iff (plain : IsPlain told) : told.text = "" ↔ told = .none := by
  cases plain with
  | none => exact iff_of_true rfl rfl
  | all => exact iff_of_false (by decide) nofun
  | ids list some _ words =>
    have faulty : .error .empty ∈ readAll "" := by decide
    exact iff_of_false (text_ids_ne some words faulty) nofun

/-- The word for everything is told when there is too much to list. -/
theorem text_eq_all_iff (plain : IsPlain told) : told.text = "all" ↔ told = .all := by
  cases plain with
  | none => exact iff_of_false (by decide) nofun
  | all => exact iff_of_true rfl rfl
  | ids list some _ words =>
    have faulty : .error .badDigit ∈ readAll "all" := by decide
    exact iff_of_false (text_ids_ne some words faulty) nofun

/-- **Two answers with the same text are the same answer.** -/
theorem eq_of_text (plain : IsPlain told) (alike : IsPlain other) (same : other.text = told.text) :
    other = told := by
  cases plain with
  | none => exact alike.text_eq_empty_iff.1 same
  | all => exact alike.text_eq_all_iff.1 same
  | ids list some ascending words =>
    have plain : IsPlain (.ids list) := .ids list some ascending words
    cases alike with
    | none => exact (plain.text_eq_empty_iff.1 same.symm).symm
    | all => exact (plain.text_eq_all_iff.1 same.symm).symm
    | ids others more _ known =>
      have read : others.map Except.ok = list.map (Except.ok (ε := Number.Fault)) := by
        rw [← readAll_text more known, ← readAll_text some words, same]
      exact congrArg Updates.ids (List.map_injective_iff.2 (fun _ _ => Except.ok.inj) read)

end IsPlain
end Updates

/-- What commands have named, one of them named. -/
theorem mem_of_mem_named {commands : List Command} {id : ObjectId} (mem : id ∈ named commands) :
    ∃ command ∈ commands, id ∈ command.names := by
  obtain ⟨command, late, names⟩ :=
    List.mem_flatMap.1 (List.mem_toFinset.1 (Finset.mem_of_mem_erase mem))
  exact ⟨command, (List.rtakeWhile_suffix _ commands).subset late, names⟩

/-- What a session tells, whatever was asked of it since it was made, if the numbers of containers
have 32 bits. -/
def IsTold (told : Updates) : Prop :=
  ∃ (id : String) (timeout cap : Nat) (now : Int) (commands : List Command),
    (∀ command ∈ commands, ∀ id ∈ command.names, ObjectId.IsWord id) ∧
      let new : Session := { id, timeout, maxUpdates := cap, lastAccess := now }
      told = (new.runAll commands).2.updates

/-- **A list is told only if there is something in it.** -/
theorem IsTold.isPlain {told : Updates} (reached : IsTold told) : told.IsPlain := by
  obtain ⟨id, timeout, cap, now, commands, words, same⟩ := reached
  obtain ⟨same_cap, pending⟩ := runAll_pending
    (s := { id, timeout, maxUpdates := cap, lastAccess := now }) rfl commands
  rw [same, updates, pending, Pending.take_ofSet]
  dsimp only
  split_ifs with nothing many
  · exact .none
  · exact .all
  · refine .ids _ ?_ (Finset.sortedLT_sort _).pairwise fun id mem => ?_
    · rwa [ne_eq, ← List.length_eq_zero_iff, Finset.length_sort, Finset.card_eq_zero]
    · obtain ⟨command, known, names⟩ := mem_of_mem_named ((Finset.mem_sort _).1 mem)
      exact words command known id names

/-- **What is told can be told from its text.** The text is empty if nothing is told and only then,
it is the word `all` if everything is told and only then, and from any other text the numbers that
are told can be read between the commas: some, in ascending order, each once. So no other answer of
a session has the same text. -/
theorem updates_of_text {told : Updates} (reached : IsTold told) :
    (told.text = "" ↔ told = .none) ∧ (told.text = "all" ↔ told = .all) ∧
    (told.text ≠ "" → told.text ≠ "all" → ∃ list, told = .ids list ∧ list ≠ [] ∧
      list.Pairwise (· < ·) ∧ Updates.readAll told.text = list.map .ok) ∧
    ∀ other, IsTold other → other.text = told.text → other = told := by
  have plain := reached.isPlain
  refine ⟨plain.text_eq_empty_iff, plain.text_eq_all_iff, fun more few => ?_,
    fun other alike same => plain.eq_of_text alike.isPlain same⟩
  cases plain with
  | none => exact absurd rfl more
  | all => exact absurd rfl few
  | ids list some ascending words =>
    exact ⟨list, rfl, some, ascending, Updates.readAll_text some words⟩

/-- The least number and the greatest, named out of order, are told in order, and no other answer
has the text of this one. -/
theorem updates_of_text_extremes :
    let told : Updates := .ids [-2147483648, -7, 2147483647]
    IsTold told ∧ told.text = "-2147483648,-7,2147483647" ∧
      (∃ list, told = .ids list ∧ list ≠ [] ∧ list.Pairwise (· < ·) ∧
        Updates.readAll told.text = list.map .ok) ∧
      ∀ other, IsTold other → other.text = "-2147483648,-7,2147483647" → other = told := by
  intro told
  have reached : IsTold told := by
    refine ⟨"a", 60, 4, 0, [.changed 2147483647, .changedAll [-7, -2147483648]], ?_, by decide⟩
    intro command mem id names
    fin_cases mem <;> fin_cases names <;> exact ⟨by decide, by decide⟩
  have text : told.text = "-2147483648,-7,2147483647" := by decide
  obtain ⟨empty, all, listed, unique⟩ := updates_of_text reached
  refine ⟨reached, text, listed (empty.not.2 nofun) (all.not.2 nofun), fun other alike same => ?_⟩
  exact unique other alike (same.trans text.symm)

end Session
end HomeMedia
