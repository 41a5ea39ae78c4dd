import HomeMedia.Proofs.Json.Values
/-!
# What a record reader makes of a value

The readers of records are matched here by functions on values: on the text of any value, in front
of whatever may follow it, a reader takes the whole value and gives what the function gives, or
refuses it where the function gives nothing. So what a body is read as can be said of the value that
it is the text of.
-/

namespace HomeMedia
namespace Json
namespace Reader

open Text (Bytes)

variable {α β S : Type} {rest between : Bytes}

/-- A value was read in front of the rest, or was refused. -/
def Answers (rest : Bytes) (x : Except Fault (α × Bytes)) : Option α → Prop
  | some a => x = .ok (a, rest)
  | none => ∃ fault, x = .error fault

/-- A reader after another answers what both functions answer, one after the other. -/
theorem Answers.bind {x : Except Fault (α × Bytes)} {a : Option α}
    {next : α × Bytes → Except Fault (β × Bytes)} {f : α → Option β} (first : Answers between x a)
    (second : ∀ a, Answers rest (next (a, between)) (f a)) :
    Answers rest (x >>= next) (a.bind f) := by
  cases a with
  | none =>
    obtain ⟨fault, rfl⟩ := first
    exact ⟨fault, rfl⟩
  | some a =>
    cases first
    exact second a

/-- What is made of an answer afterwards does not change what is left. -/
theorem Answers.map {x : Except Fault (α × Bytes)} {a : Option α} (answer : Answers rest x a)
    (f : α → β) : Answers rest (x.map fun read => (f read.1, read.2)) (a.map f) := by
  cases a with
  | none =>
    obtain ⟨fault, rfl⟩ := answer
    exact ⟨fault, rfl⟩
  | some a =>
    cases answer
    rfl

/-- A reader takes a value for what it is for a function on values. -/
def Reads (r : Reader α) (f : Json → Option α) : Prop :=
  ∀ v rest, Follows rest → Answers rest (r (written v ++ rest)) (f v)

/-! ## Strings -/

/-- The string that a value is. -/
def text? : Json → Option String
  | .text s => some s
  | _ => none

/-- The reader of strings takes a value for the string that it is. -/
theorem reads_text : Reads text text? := by
  intro v rest _
  by_cases string : ∃ s, v = .text s
  · obtain ⟨s, rfl⟩ := string
    rw [text, written_text, token_of_not_blank rfl]
    exact string_content s rest
  · have other : text? v = none := by
      cases v with
      | text s => exact absurd ⟨s, rfl⟩ string
      | _ => rfl
    obtain ⟨b, more, first, begins⟩ := exists_begins v
    rw [other, text, first, List.cons_append, token_of_not_blank begins.visible]
    split
    · rename_i same
      exact absurd (begins.text (List.cons.inj same).1) string
    · exact ⟨_, rfl⟩

/-! ## Lists -/

/-- With each part less is left. -/
theorem behind_lt {part : Bytes} (given : part ≠ []) (close : UInt8) (rest : Bytes)
    (isFirst : Bool) (parts : List Bytes) : (behind close rest false parts).length <
      (behind close rest isFirst (part :: parts)).length := by
  rw [behind, List.length_append]
  refine Nat.lt_add_of_pos_left ?_
  cases isFirst with
  | true => exact List.length_pos_iff.2 given
  | false => exact Nat.succ_pos _

/-- At the bracket there is no further element. -/
theorem hasElement_end (isFirst : Bool) (rest : Bytes) :
    hasElement isFirst (93 :: rest) = .ok (false, 93 :: rest) := rfl

/-- Before an element the comma is taken, if there has to be one. -/
theorem hasElement_written (isFirst : Bool) (v : Json) (vs : List Json) (rest : Bytes) :
    hasElement isFirst (behind 93 rest isFirst ((v :: vs).map written)) =
      .ok (true, written v ++ behind 93 rest false (vs.map written)) := by
  rw [List.map_cons]
  cases isFirst with
  | true =>
    change hasElement true (written v ++ behind 93 rest false (vs.map written)) = _
    rw [hasElement, token_written]
    split
    · rename_i empty
      exact absurd (List.append_eq_nil_iff.1 empty).1 (written_ne_nil v)
    · rename_i same
      exact absurd same (written_ne_close _ _ _)
    · rename_i same
      rw [if_pos rfl, same]
  | false =>
    change hasElement false (44 :: (written v ++ behind 93 rest false (vs.map written))) = _
    rw [hasElement, token_of_not_blank rfl]
    split
    · rename_i empty
      cases empty
    · rename_i same
      exact absurd (List.cons.inj same).1 (by decide)
    · rename_i same
      cases same
      rw [if_neg Bool.false_ne_true, if_pos rfl, token_written]
      split
      · rename_i empty
        exact absurd (List.append_eq_nil_iff.1 empty).1 (written_ne_nil v)
      · rename_i same
        exact absurd same (written_ne_close _ _ _)
      · rfl

/-- The reader of a list reads its elements one after the other. -/
theorem answers_elements {element : Reader α} {f : Json → Option α} (reads : Reads element f)
    (vs : List Json) (done : List α) {fuel : Nat}
    (enough : (behind 93 rest done.isEmpty (vs.map written)).length < fuel) :
    Answers (93 :: rest) (elements element fuel done (behind 93 rest done.isEmpty (vs.map written)))
      ((vs.mapM f).map (done.reverse ++ ·)) := by
  induction vs generalizing fuel done with
  | nil =>
    cases fuel with
    | zero => exact absurd enough (Nat.not_lt_zero _)
    | succ fuel => exact congrArg (fun all => Except.ok (all, 93 :: rest)) (List.append_nil _).symm
  | cons v vs ih =>
    cases fuel with
    | zero => exact absurd enough (Nat.not_lt_zero _)
    | succ fuel =>
      have left : (behind 93 rest false (vs.map written)).length < fuel :=
        Nat.lt_of_lt_of_le (behind_lt (written_ne_nil v) ..) (Nat.le_of_lt_succ enough)
      have split : ((v :: vs).mapM f).map (done.reverse ++ ·) =
          (f v).bind fun a => (vs.mapM f).map ((a :: done).reverse ++ ·) := by
        rw [List.mapM_cons]
        cases f v <;> cases vs.mapM f <;> simp
      rw [elements, hasElement_written, split]
      exact (reads v _ (follows_behind (.inl rfl) rest (vs.map written))).bind
        fun a => ih (a :: done) left

/-- The elements of a list, if all of them can be read. -/
def elements? (f : Json → Option α) : Json → Option (List α)
  | .list vs => vs.mapM f
  | _ => none

/-- What was read up to the bracket that ends a list. -/
def closed (x : Except Fault (α × Bytes)) : Except Fault (α × Bytes) := do
  let (a, rest) ← x
  let rest ← listEnd rest
  .ok (a, rest)

/-- The bracket is read behind the last of two readers. -/
theorem closed_bind (x : Except Fault β) (next : β → Except Fault (α × Bytes)) :
    closed (x >>= next) = x >>= fun b => closed (next b) := by
  cases x <;> rfl

/-- What answers in front of the bracket answers in front of what is behind it. -/
theorem Answers.closed {x : Except Fault (α × Bytes)} {a : Option α}
    (answer : Answers (93 :: rest) x a) : Answers rest (closed x) a := by
  cases a with
  | none =>
    obtain ⟨fault, rfl⟩ := answer
    exact ⟨fault, rfl⟩
  | some a =>
    cases answer
    rfl

/-- A list of values is read as the list of what they are. -/
theorem reads_listOf {element : Reader α} {f : Json → Option α} (reads : Reads element f) :
    Reads (listOf element) (elements? f) := by
  intro v rest _
  by_cases list : ∃ vs, v = .list vs
  · obtain ⟨vs, rfl⟩ := list
    have all := answers_elements reads vs [] (Nat.lt_succ_self (behind 93 rest true _).length)
    have found : ((vs.mapM f).map (([] : List α).reverse ++ ·)) = elements? f (.list vs) :=
      Option.map_id'
    rw [found] at all
    rw [listOf, written_list, token_of_not_blank rfl]
    exact all.closed
  · obtain ⟨b, more, first, begins⟩ := exists_begins v
    have other : elements? f v = none := by
      cases v with
      | list vs => exact absurd ⟨vs, rfl⟩ list
      | _ => rfl
    rw [other, listOf, first, List.cons_append, token_of_not_blank begins.visible]
    split
    · rename_i same
      exact absurd (begins.list (List.cons.inj same).1) list
    · exact ⟨_, rfl⟩

/-! ## Records -/

/-- One of the members of a record, with what it makes of a value. -/
structure Slot (S : Type) extends Member S where
  /-- The record with a value. -/
  put : S → Json → Option S
  reads : ∀ s, Reads (read s) (put s)

/-- The record with the values of its members in their order. -/
def ofElements : List (Slot S) → S → List Json → Option S
  | [], s, [] => some s
  | [], _, _ :: _ => none
  | slot :: slots, s, [] => if slot.isRequired then none else ofElements slots s []
  | slot :: slots, s, v :: vs => (slot.put s v).bind fun s => ofElements slots s vs

/-- The record with the members of an object, of which `seen` were there before. -/
def ofMembers (slots : List (Slot S)) : List String → S → List (String × Json) → Option S
  | seen, s, [] =>
    if slots.any fun slot => slot.isRequired && !seen.contains slot.name then none else some s
  | seen, s, m :: ms =>
    match slots.find? fun slot => slot.name == m.1 with
    | some slot =>
      if seen.contains m.1 then none
      else (slot.put s m.2).bind fun s => ofMembers slots (m.1 :: seen) s ms
    | none => ofMembers slots seen s ms

/-- The record that a value is. -/
def record? (slots : List (Slot S)) (s : S) : Json → Option S
  | .list vs => ofElements slots s vs
  | .object ms => ofMembers slots [] s ms
  | _ => none

/-- In front of an element no list ends. -/
theorem listEnd_behind (isFirst : Bool) (v : Json) (vs : List Json) (rest : Bytes) :
    ∃ fault, listEnd (behind 93 rest isFirst ((v :: vs).map written)) = .error fault := by
  cases isFirst with
  | false => exact ⟨_, rfl⟩
  | true =>
    change ∃ fault, listEnd (written v ++ behind 93 rest false (vs.map written)) = .error fault
    rw [listEnd, token_written]
    split
    · rename_i same
      exact absurd same (written_ne_close _ _ _)
    · exact ⟨_, rfl⟩

/-- The members of a record are read from a list in their order. -/
theorem answers_inOrder (slots : List (Slot S)) (isFirst : Bool) (s : S) (vs : List Json) :
    Answers rest
      (closed (inOrder isFirst (slots.map Slot.toMember) s
        (behind 93 rest isFirst (vs.map written))))
      (ofElements slots s vs) := by
  induction slots generalizing isFirst s vs with
  | nil =>
    cases vs with
    | nil => rfl
    | cons v vs =>
      obtain ⟨fault, refused⟩ := listEnd_behind isFirst v vs rest
      refine ⟨fault, ?_⟩
      change (listEnd _ >>= fun rest => .ok (s, rest)) = _
      rw [refused]
      rfl
  | cons slot slots ih =>
    rw [List.map_cons]
    cases vs with
    | nil =>
      change Answers rest (closed (inOrder isFirst (_ :: _) s (93 :: rest))) _
      rw [inOrder, hasElement_end, ofElements]
      change Answers rest (closed (if slot.isRequired then _ else _)) _
      split
      · exact ⟨_, rfl⟩
      · exact ih isFirst s []
    | cons v vs =>
      rw [inOrder, hasElement_written, ofElements, closed_bind]
      change Answers rest (closed (slot.read s _ >>= _)) _
      rw [closed_bind]
      exact (slot.reads s v _ (follows_behind (.inl rfl) rest (vs.map written))).bind
        fun s => ih false s vs

/-! ## Objects -/

/-- At the brace there is no further member. -/
theorem name?_end (isFirst : Bool) (rest : Bytes) :
    name? isFirst (125 :: rest) = .ok (none, 125 :: rest) := rfl

/-- Before a member the comma is taken, if there has to be one, and its name. -/
theorem name?_writtenMember (isFirst : Bool) (m : String × Json) (ms : List (String × Json))
    (rest : Bytes) : name? isFirst (behind 125 rest isFirst ((m :: ms).map writtenMember)) =
      .ok (some m.1, 58 :: (written m.2 ++ behind 125 rest false (ms.map writtenMember))) := by
  have name := string_content m.1
    (58 :: (written m.2 ++ behind 125 rest false (ms.map writtenMember)))
  have given : writtenMember m ++ behind 125 rest false (ms.map writtenMember) =
      34 :: (content m.1 ++ 34 :: 58 ::
        (written m.2 ++ behind 125 rest false (ms.map writtenMember))) := by
    simp [writtenMember]
  cases isFirst with
  | true =>
    change name? true (writtenMember m ++ behind 125 rest false (ms.map writtenMember)) = _
    rw [given]
    change (string _).map _ = _
    rw [name]
    rfl
  | false =>
    change name? false (44 :: (writtenMember m ++ behind 125 rest false (ms.map writtenMember))) = _
    rw [given]
    change (string _).map _ = _
    rw [name]
    rfl

/-- What was read up to the brace that ends an object. -/
def braced (x : Except Fault (α × Bytes)) : Except Fault (α × Bytes) := do
  let (a, rest) ← x
  match token rest with
  | 125 :: rest => .ok (a, rest)
  | _ => .error .malformed

/-- What answers in front of the brace answers in front of what is behind it. -/
theorem Answers.braced {x : Except Fault (α × Bytes)} {a : Option α}
    (answer : Answers (125 :: rest) x a) : Answers rest (braced x) a := by
  cases a with
  | none =>
    obtain ⟨fault, rfl⟩ := answer
    exact ⟨fault, rfl⟩
  | some a =>
    cases answer
    rfl

/-- The member that reads a name is the one of the slot with this name. -/
theorem find?_toMember (slots : List (Slot S)) (name : String) :
    ((slots.map Slot.toMember).find? fun m => m.name == name) =
      (slots.find? fun slot => slot.name == name).map Slot.toMember := List.find?_map ..

/-- The members of a record are found in an object by name, and what is unknown is skipped. -/
theorem answers_byName (slots : List (Slot S)) (ms : List (String × Json)) (seen : List String)
    (isFirst : Bool) (s : S) {fuel : Nat}
    (enough : (behind 125 rest isFirst (ms.map writtenMember)).length < fuel) :
    Answers (125 :: rest)
      (byName (slots.map Slot.toMember) fuel seen isFirst s
        (behind 125 rest isFirst (ms.map writtenMember)))
      (ofMembers slots seen s ms) := by
  induction ms generalizing fuel seen isFirst s with
  | nil =>
    cases fuel with
    | zero => exact absurd enough (Nat.not_lt_zero _)
    | succ fuel =>
      change Answers (125 :: rest) (byName _ (fuel + 1) seen isFirst s (125 :: rest)) _
      rw [byName, name?_end, ofMembers]
      change Answers _ (if (List.any _ _) = true then _ else _) _
      rw [List.any_map]
      change Answers _ (if (slots.any fun slot => slot.isRequired && !seen.contains slot.name) = true
        then _ else _) _
      split
      · exact ⟨_, rfl⟩
      · rfl
  | cons m ms ih =>
    cases fuel with
    | zero => exact absurd enough (Nat.not_lt_zero _)
    | succ fuel =>
      have left : (behind 125 rest false (ms.map writtenMember)).length < fuel :=
        Nat.lt_of_lt_of_le (behind_lt (List.cons_ne_nil _ _) ..) (Nat.le_of_lt_succ enough)
      have follows := follows_behind (.inr rfl) rest (ms.map writtenMember)
      rw [byName, name?_writtenMember, ofMembers]
      dsimp only [bind, Except.bind]
      rw [find?_toMember]
      cases slots.find? fun slot => slot.name == m.1 with
      | some slot =>
        dsimp only [Option.map_some]
        split
        · exact ⟨_, rfl⟩
        · exact (slot.reads s m.2 _ follows).bind fun s => ih (m.1 :: seen) false s left
      | none =>
        dsimp only [Option.map_none]
        change Answers (125 :: rest) (skip _ >>= _) _
        rw [skip_written m.2 follows]
        exact ih seen false s left

/-- **What a record reader makes of a value.** -/
theorem reads_record (slots : List (Slot S)) (s : S) :
    Reads (record (slots.map Slot.toMember) s) (record? slots s) := by
  intro v rest _
  by_cases compound : (∃ vs, v = .list vs) ∨ ∃ ms, v = .object ms
  · rcases compound with ⟨vs, rfl⟩ | ⟨ms, rfl⟩
    · rw [record, written_list, token_of_not_blank rfl]
      exact answers_inOrder slots true s vs
    · rw [record, written_object, token_of_not_blank rfl]
      exact (answers_byName slots ms [] true s (Nat.lt_succ_self _)).braced
  · rw [not_or] at compound
    obtain ⟨b, more, first, begins⟩ := exists_begins v
    have other : record? slots s v = none := by
      cases v with
      | list vs => exact absurd ⟨vs, rfl⟩ compound.1
      | object ms => exact absurd ⟨ms, rfl⟩ compound.2
      | _ => rfl
    rw [other, record, first, List.cons_append, token_of_not_blank begins.visible]
    split
    · rename_i same
      exact absurd (begins.list (List.cons.inj same).1) compound.1
    · rename_i same
      exact absurd (begins.object (List.cons.inj same).1) compound.2
    · exact ⟨_, rfl⟩

end Reader
end Json
end HomeMedia
