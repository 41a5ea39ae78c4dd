import HomeMedia.Session.Command
import Mathlib
/-!
# What a session tells depends on the set of containers alone

Let `D` be the set of the containers, other than the invalid number, that were named to a session
since its changes were last handed out or forgotten (`named`). What is pending is a function of `D`
and the cap (`Pending.ofSet`): below the cap it lists `D` in ascending order, from the cap on it is
full, and nothing is listed then. Every notice keeps that form, a single one (`note_ofSet`) and a
batch (`noteAll_ofSet`), because the members of a batch that are new to the list are as many as `D`
gains. So neither the order of the notices nor repetitions nor the grouping into batches can be
seen in what is told (`told_eq_of_named`).
-/

namespace HomeMedia
namespace Session

/-! ## Ascending lists -/

/-- A list with one more container has that one and those that it had. -/
theorem mem_insertAscending {id other : ObjectId} {list : List ObjectId} :
    other ∈ insertAscending id list ↔ other = id ∨ other ∈ list := by
  induction list with
  | nil => simp [insertAscending]
  | cons first more ih =>
    unfold insertAscending
    split_ifs with hlt heq
    · simp
    · subst heq; simp
    · simp only [List.mem_cons, ih]; tauto

/-- It is still ascending. -/
theorem insertAscending_sortedLT {id : ObjectId} {list : List ObjectId} (h : list.SortedLT) :
    (insertAscending id list).SortedLT := by
  rw [List.sortedLT_iff_pairwise] at h ⊢
  induction list with
  | nil => simp [insertAscending]
  | cons first more ih =>
    obtain ⟨hfirst, hmore⟩ := List.pairwise_cons.1 h
    unfold insertAscending
    split_ifs with hlt heq
    · refine List.pairwise_cons.2 ⟨fun other hother => ?_, h⟩
      rcases List.mem_cons.1 hother with rfl | hother
      · exact hlt
      · exact hlt.trans (hfirst _ hother)
    · exact h
    · refine List.pairwise_cons.2 ⟨fun other hother => ?_, ih hmore⟩
      rcases mem_insertAscending.1 hother with rfl | hother
      · exact lt_of_le_of_ne (not_lt.1 hlt) (Ne.symm heq)
      · exact hfirst _ hother

/-- Inserting into the ascending list of a set gives the ascending list of the larger set. -/
theorem insertAscending_sort (id : ObjectId) (D : Finset ObjectId) :
    insertAscending id D.sort = (insert id D).sort := by
  refine (insertAscending_sortedLT D.sortedLT_sort).eq_of_mem_iff (Finset.sortedLT_sort _) ?_
  intro other
  rw [mem_insertAscending, Finset.mem_sort, Finset.mem_sort, Finset.mem_insert]

/-- Containers inserted one after the other make a sorted union. -/
theorem foldl_insertAscending_sort (ids : List ObjectId) (D : Finset ObjectId) :
    ids.foldl (fun list id => insertAscending id list) D.sort = (D ∪ ids.toFinset).sort := by
  induction ids generalizing D with
  | nil => simp
  | cons id more ih =>
    rw [List.foldl_cons, insertAscending_sort, ih, List.toFinset_cons, Finset.insert_union,
      Finset.union_insert]

/-- A list in ascending order is the sorted set of its containers. -/
theorem ascending_eq_sort (ids : List ObjectId) : ascending ids = ids.toFinset.sort := by
  have h := foldl_insertAscending_sort ids ∅
  rwa [Finset.sort_empty, Finset.empty_union] at h

namespace Pending

/-! ## Pending changes as a set -/

/-- What is pending when exactly the containers of `D` changed. -/
def ofSet (cap : Nat) (D : Finset ObjectId) : Pending :=
  if D.Nonempty ∧ cap ≤ D.card then full else { listed := D.sort }

variable {cap : Nat} {D : Finset ObjectId}

/-- Nothing is pending when nothing changed. -/
theorem ofSet_empty : ofSet cap ∅ = empty := by
  simp [ofSet, empty]

/-- Too much is pending when the set has reached the cap. -/
theorem ofSet_of_le (hD : D.Nonempty) (hcap : cap ≤ D.card) : ofSet cap D = full :=
  if_pos ⟨hD, hcap⟩

/-- Otherwise the set is listed. -/
theorem ofSet_of_lt (h : ¬(D.Nonempty ∧ cap ≤ D.card)) : ofSet cap D = { listed := D.sort } :=
  if_neg h

/-- Nothing is listed any more once there is too much to list. -/
theorem listed_ofSet_of_isFull (h : (ofSet cap D).isFull = true) : (ofSet cap D).listed = [] := by
  unfold ofSet at h ⊢
  split_ifs at h ⊢
  rfl

/-- Something is pending when something changed. -/
theorem isAny_ofSet : (ofSet cap D).isAny = true ↔ D.Nonempty := by
  by_cases h : D.Nonempty ∧ cap ≤ D.card
  · simp [ofSet_of_le h.1 h.2, isAny, full, h.1]
  · have hsort : D.sort = [] ↔ D = ∅ := by
      rw [← List.length_eq_zero_iff, Finset.length_sort, Finset.card_eq_zero]
    simp [ofSet_of_lt h, isAny, hsort, Finset.nonempty_iff_ne_empty]

/-- What is told of a set of changes. -/
theorem take_ofSet : (ofSet cap D).take =
    (if D = ∅ then .none else if cap ≤ D.card then .all else .ids D.sort, empty) := by
  by_cases hD : D = ∅
  · subst hD
    rw [ofSet_empty, if_pos rfl]
    rfl
  · have hne : D.Nonempty := Finset.nonempty_iff_ne_empty.2 hD
    rw [if_neg hD]
    by_cases hcap : cap ≤ D.card
    · rw [ofSet_of_le hne hcap, if_pos hcap]
      rfl
    · have hsort : D.sort ≠ [] := by
        rw [ne_eq, ← List.length_eq_zero_iff, Finset.length_sort, Finset.card_eq_zero]
        exact hD
      rw [ofSet_of_lt fun h => hcap h.2, if_neg hcap]
      simp [take, hsort, empty]

/-- What a batch adds to the list of a set, as a set. -/
theorem fresh_sort (D : Finset ObjectId) (batch : List ObjectId) :
    fresh D.sort batch = (batch.toFinset.erase ObjectId.invalid \ D).sort := by
  rw [fresh, ascending_eq_sort]
  congr 1
  ext id
  simp only [List.mem_toFinset, List.mem_filter, Bool.and_eq_true, bne_iff_ne, ne_eq,
    Bool.not_eq_true', List.contains_eq_mem, Finset.mem_sort, decide_eq_false_iff_not,
    Finset.mem_sdiff, Finset.mem_erase]
  tauto

/-- **A batch adds its members to the set.** -/
theorem noteAll_ofSet (batch : List ObjectId) :
    (ofSet cap D).noteAll cap batch = ofSet cap (D ∪ batch.toFinset.erase ObjectId.invalid) := by
  have hunion : D ∪ batch.toFinset.erase ObjectId.invalid =
      D ∪ (batch.toFinset.erase ObjectId.invalid \ D) := Finset.union_sdiff_self_eq_union.symm
  generalize hnew : batch.toFinset.erase ObjectId.invalid \ D = new at hunion
  have hcard : (D ∪ new).card = D.card + new.card :=
    Finset.card_union_of_disjoint (hnew ▸ Finset.disjoint_sdiff)
  rw [hunion]
  by_cases hfull : D.Nonempty ∧ cap ≤ D.card
  · rw [ofSet_of_le hfull.1 hfull.2, ofSet_of_le (hfull.1.mono Finset.subset_union_left) (by omega)]
    rfl
  · rw [ofSet_of_lt hfull, noteAll, fresh_sort, hnew]
    simp only [Bool.false_eq_true, if_false, Finset.length_sort]
    by_cases hempty : new = ∅
    · rw [hempty, Finset.sort_empty, if_pos rfl, Finset.union_empty, ofSet_of_lt hfull]
    · have hne : new.Nonempty := Finset.nonempty_iff_ne_empty.2 hempty
      have hsort : new.sort ≠ [] := by
        rwa [ne_eq, ← List.length_eq_zero_iff, Finset.length_sort, Finset.card_eq_zero]
      rw [if_neg hsort, foldl_insertAscending_sort, Finset.sort_toFinset]
      by_cases hcap : cap ≤ D.card + new.card
      · rw [if_pos hcap, ofSet_of_le (hne.mono Finset.subset_union_right) (by omega)]
      · rw [if_neg hcap, ofSet_of_lt (by omega)]

/-- A single notice is a batch of one. -/
theorem note_eq_noteAll (id : ObjectId) (p : Pending) : p.note cap id = p.noteAll cap [id] := by
  by_cases hfull : p.isFull = true
  · simp [note, noteAll, hfull]
  · by_cases hinvalid : id = ObjectId.invalid
    · simp [note, noteAll, fresh, ascending, hinvalid]
    · by_cases hlisted : id ∈ p.listed
      · simp [note, noteAll, fresh, ascending, hlisted]
      · simp [note, noteAll, fresh, ascending, insertAscending, hfull, hinvalid, hlisted]

/-- **Noting a container adds it to the set**, unless its number is the invalid one. -/
theorem note_ofSet (id : ObjectId) :
    (ofSet cap D).note cap id = ofSet cap (D ∪ [id].toFinset.erase ObjectId.invalid) := by
  rw [note_eq_noteAll, noteAll_ofSet]

/-- **The members of a batch may come one by one.** -/
theorem foldl_note_ofSet (batch : List ObjectId) :
    batch.foldl (fun p id => p.note cap id) (ofSet cap D) =
      ofSet cap (D ∪ batch.toFinset.erase ObjectId.invalid) := by
  induction batch generalizing D with
  | nil => simp
  | cons id more ih =>
    rw [List.foldl_cons, note_ofSet, ih, Finset.union_assoc]
    congr 2
    ext other
    simp only [Finset.mem_union, Finset.mem_erase, List.mem_toFinset, List.mem_cons,
      List.not_mem_nil, or_false]
    tauto

end Pending

/-! ## Histories -/

namespace Command

/-- The containers that a command names as changed. -/
def names : Command → List ObjectId
  | .changed id => [id]
  | .changedAll ids => ids
  | _ => []

/-- Whether a command hands the changes out or forgets them. -/
def drains : Command → Bool
  | .take => true
  | .clear => true
  | _ => false

end Command

/-- The containers named since the changes were last handed out or forgotten. -/
def named (commands : List Command) : Finset ObjectId :=
  ((commands.rtakeWhile fun command => !command.drains).flatMap Command.names).toFinset.erase
    ObjectId.invalid

/-- One more command names more, or hands out what was named. -/
theorem named_concat (commands : List Command) (command : Command) :
    named (commands ++ [command]) =
      if command.drains then ∅
      else named commands ∪ command.names.toFinset.erase ObjectId.invalid := by
  cases hdrains : command.drains with
  | true => simp [named, hdrains]
  | false => simp [named, hdrains, List.toFinset_append, Finset.erase_union_distrib]

/-- One more command is run after the others. -/
theorem runAll_concat (s : Session) (commands : List Command) (command : Command) :
    (s.runAll (commands ++ [command])).2 = ((s.runAll commands).2.run command).2 := by
  induction commands generalizing s with
  | nil => rfl
  | cons first more ih => exact ih (s.run first).2

/-- No command changes the cap. -/
theorem run_maxUpdates (s : Session) (command : Command) :
    (s.run command).2.maxUpdates = s.maxUpdates := by
  cases command <;> rfl

/-- One command keeps the pending changes in the form of a set. -/
theorem run_pending {s : Session} {D : Finset ObjectId}
    (h : s.pending = .ofSet s.maxUpdates D) (command : Command) :
    (s.run command).2.pending = .ofSet s.maxUpdates
      (if command.drains then ∅
        else D ∪ command.names.toFinset.erase ObjectId.invalid) := by
  cases command with
  | changed id => exact (congrArg (Pending.note _ id) h).trans (Pending.note_ofSet id)
  | changedAll ids => exact (congrArg (Pending.noteAll _ ids) h).trans (Pending.noteAll_ofSet ids)
  | take =>
    have htake : (s.run .take).2.pending = s.pending.take.2 := rfl
    rw [htake, h, Pending.take_ofSet]
    exact Pending.ofSet_empty.symm
  | clear => exact Pending.ofSet_empty.symm
  | _ => exact h.trans (by simp [Command.drains, Command.names])

/-- **Every history leaves the set of what it named.** -/
theorem runAll_pending {s : Session} (fresh : s.pending = .empty) (commands : List Command) :
    (s.runAll commands).2.maxUpdates = s.maxUpdates ∧
      (s.runAll commands).2.pending = .ofSet s.maxUpdates (named commands) := by
  induction commands using List.reverseRecOn with
  | nil => exact ⟨rfl, by simp [runAll, fresh, named, Pending.ofSet_empty]⟩
  | append_singleton commands command ih =>
    obtain ⟨hmax, hpending⟩ := ih
    rw [runAll_concat, run_maxUpdates, named_concat]
    refine ⟨hmax, ?_⟩
    rw [← hmax] at hpending ⊢
    exact run_pending hpending command

/-- A session that is told of containers one by one notes one after the other. -/
theorem foldl_changed (s : Session) (batch : List ObjectId) :
    batch.foldl (fun s id => s.changed id) s =
      { s with pending := batch.foldl (fun p id => p.note s.maxUpdates id) s.pending } := by
  induction batch generalizing s with
  | nil => rfl
  | cons id more ih => exact ih (s.changed id)

/-- **A session tells exactly the containers named since the last time.**  Whatever was asked of a
new session with the cap `cap`, and with `D` the set of the containers named since its changes were
last handed out or forgotten: something is pending iff `D` is not empty; what is told is nothing,
everything once `D` reaches the cap, and else `D` in ascending order; a full session lists nothing.
So a batch does what its members do one by one, and histories that name the same set leave the same
pending changes. -/
theorem told_eq_of_named (id : String) (timeout cap : Nat) (now : Int) (commands : List Command) :
    let new : Session := { id, timeout, maxUpdates := cap, lastAccess := now }
    let s := (new.runAll commands).2
    let D := named commands
    (s.run .has).1 = .flag (decide D.Nonempty) ∧
      (s.run .take).1 = .updates
        (if D = ∅ then .none else if cap ≤ D.card then .all else .ids D.sort) ∧
      (s.pending.isFull = true → s.pending.listed = []) ∧
      (∀ batch, s.changedAll batch = batch.foldl (fun s id => s.changed id) s) ∧
      ∀ others, named others = D → (new.runAll others).2.pending = s.pending := by
  intro new s D
  obtain ⟨hmax, hpending⟩ := runAll_pending (s := new) rfl commands
  change s.maxUpdates = cap at hmax
  change s.pending = .ofSet cap D at hpending
  refine ⟨?_, ?_, ?_, fun batch => ?_, fun others hothers => ?_⟩
  · have hany : s.pending.isAny = decide D.Nonempty := by
      rw [hpending, Bool.eq_iff_iff, Pending.isAny_ofSet, decide_eq_true_iff]
    exact congrArg Reply.flag hany
  · have htake : s.pending.take.1 = _ := congrArg Prod.fst (hpending ▸ Pending.take_ofSet)
    exact congrArg Reply.updates htake
  · rw [hpending]
    exact Pending.listed_ofSet_of_isFull
  · rw [foldl_changed, hmax, hpending, Pending.foldl_note_ofSet]
    change { s with pending := s.pending.noteAll s.maxUpdates batch } = _
    rw [hmax, hpending, Pending.noteAll_ofSet]
  · rw [(runAll_pending (s := new) rfl others).2, hothers, hpending]

/-- Below the cap the numbers are told in order and once, and the third of three is too many. -/
example :
    let s : Session := { id := "a", timeout := 60, maxUpdates := 3, lastAccess := 0 }
    (s.runAll [.changed 7, .changedAll [5, .invalid, 7], .take, .changedAll [9, 8, 7], .take]).1 =
      [.nothing, .nothing, .updates (.ids [5, 7]), .nothing, .updates .all] := by
  decide

end Session
end HomeMedia
