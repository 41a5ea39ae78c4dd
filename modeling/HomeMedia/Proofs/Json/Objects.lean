import HomeMedia.Proofs.Json.Records
/-!
# Records that are given as objects

An object gives the members of a record in any order. Where the members of a record are apart, which
is to say have names of their own and parts of the record of their own, it is enough to know which
values the object gives under each name: of a member there must be one value at most, and of one
that is required there must be one. All else that the object holds does not matter.
-/

namespace HomeMedia
namespace Json

/-- The values that an object gives under a name. -/
def given (name : String) (ms : List (String × Json)) : List Json :=
  (ms.filter fun m => m.1 == name).map Prod.snd

/-- A first member of the name gives its value first. -/
theorem given_cons_self (name : String) (v : Json) (ms : List (String × Json)) :
    given name ((name, v) :: ms) = v :: given name ms := by
  simp [given]

/-- A first member of another name gives nothing. -/
theorem given_cons_of_ne {name : String} {m : String × Json} (differ : name ≠ m.1)
    (ms : List (String × Json)) : given name (m :: ms) = given name ms := by
  simp [given, differ.symm]

/-- The text that an object gives under a name, if it gives nothing else under it. -/
def textGiven? (name : String) (ms : List (String × Json)) : Option String :=
  match given name ms with
  | [.text s] => some s
  | _ => none

namespace Reader

variable {S : Type}

/-! ## Members that are apart -/

namespace Slot

/-- The record with the values that are given for a member, unless one was given before. -/
def take (f : Slot S) (isSeen : Bool) (vs : List Json) (s : S) : Option S :=
  match isSeen, vs with
  | true, [] => some s
  | false, [] => if f.isRequired then none else some s
  | false, [v] => f.put s v
  | _, _ => none

/-- The first of the values is put into the record, and there must be no other. -/
theorem take_cons (f : Slot S) (v : Json) (vs : List Json) (s : S) :
    f.take false (v :: vs) s = (f.put s v).bind (f.take true vs) := by
  cases vs with
  | nil => exact (Option.bind_fun_some _).symm
  | cons w vs => exact (Option.bind_fun_none _).symm

/-- Two members of a record, of which either may be given first. -/
structure Apart (f g : Slot S) : Prop where
  names : f.name ≠ g.name
  puts : ∀ s v w, (f.put s v).bind (g.put · w) = (g.put s w).bind (f.put · v)

/-- Which of two members comes first does not matter in either direction. -/
theorem Apart.symm {f g : Slot S} (apart : f.Apart g) : g.Apart f :=
  ⟨apart.names.symm, fun s v w => (apart.puts s w v).symm⟩

/-- A member that is put and values that are taken for another may change places. -/
theorem Apart.take {f g : Slot S} (apart : f.Apart g) (s : S) (v : Json) (isSeen : Bool)
    (vs : List Json) :
    (f.put s v).bind (g.take isSeen vs) = (g.take isSeen vs s).bind (f.put · v) := by
  unfold Slot.take
  split
  · exact Option.bind_fun_some _
  · split
    · exact Option.bind_fun_none _
    · exact Option.bind_fun_some _
  · exact apart.puts ..
  · exact Option.bind_fun_none _

end Slot

/-! ## One member after the other -/

/-- The record with what an object gives for each member, one after the other. -/
def ofGiven (seen : List String) (ms : List (String × Json)) : List (Slot S) → S → Option S
  | [], s => some s
  | f :: slots, s =>
    (f.take (seen.contains f.name) (given f.name ms) s).bind (ofGiven seen ms slots)

variable {seen : List String} {ms : List (String × Json)}

/-- The values are taken for some members and then for the others. -/
theorem ofGiven_append (before after : List (Slot S)) (s : S) :
    ofGiven seen ms (before ++ after) s =
      (ofGiven seen ms before s).bind (ofGiven seen ms after) := by
  induction before generalizing s with
  | nil => rfl
  | cons f before ih =>
    rw [List.cons_append, ofGiven, ofGiven, Option.bind_assoc]
    exact congrArg _ (funext ih)

/-- So any one member can be singled out. -/
theorem ofGiven_middle (before : List (Slot S)) (f : Slot S) (after : List (Slot S)) (s : S) :
    ofGiven seen ms (before ++ f :: after) s = (ofGiven seen ms before s).bind fun s =>
      (f.take (seen.contains f.name) (given f.name ms) s).bind (ofGiven seen ms after) :=
  ofGiven_append ..

/-- A member of another name is none of the record's. -/
theorem ofGiven_cons_of_ne {m : String × Json} {slots : List (Slot S)}
    (differ : ∀ f ∈ slots, f.name ≠ m.1) (s : S) :
    ofGiven seen (m :: ms) slots s = ofGiven seen ms slots s := by
  induction slots generalizing s with
  | nil => rfl
  | cons f slots ih =>
    obtain ⟨first, others⟩ := List.forall_mem_cons.1 differ
    rw [ofGiven, ofGiven, given_cons_of_ne first]
    exact congrArg _ (funext (ih others))

/-- That a name was seen matters only to the member of this name. -/
theorem ofGiven_seen_of_ne {name : String} {slots : List (Slot S)}
    (differ : ∀ f ∈ slots, f.name ≠ name) (s : S) :
    ofGiven (name :: seen) ms slots s = ofGiven seen ms slots s := by
  induction slots generalizing s with
  | nil => rfl
  | cons f slots ih =>
    obtain ⟨first, others⟩ := List.forall_mem_cons.1 differ
    have same : (name :: seen).contains f.name = seen.contains f.name := by
      simp [first]
    rw [ofGiven, ofGiven, same]
    exact congrArg _ (funext (ih others))

/-- A member may as well be put behind those that it is apart from. -/
theorem put_bind_ofGiven {f : Slot S} {others : List (Slot S)} (apart : ∀ g ∈ others, f.Apart g)
    (s : S) (v : Json) : (f.put s v).bind (ofGiven seen ms others) =
      (ofGiven seen ms others s).bind (f.put · v) := by
  induction others generalizing s with
  | nil => exact Option.bind_fun_some _
  | cons g others ih =>
    obtain ⟨first, more⟩ := List.forall_mem_cons.1 apart
    calc (f.put s v).bind (fun s => (g.take _ _ s).bind (ofGiven seen ms others))
        = ((f.put s v).bind (g.take _ _)).bind (ofGiven seen ms others) :=
          (Option.bind_assoc ..).symm
      _ = ((g.take _ _ s).bind (f.put · v)).bind (ofGiven seen ms others) := by rw [first.take]
      _ = (g.take _ _ s).bind fun s => (ofGiven seen ms others s).bind (f.put · v) := by
          rw [Option.bind_assoc]
          exact congrArg _ (funext (ih more))
      _ = (ofGiven seen ms (g :: others) s).bind (f.put · v) := (Option.bind_assoc ..).symm

/-- An object without members leaves the record as it is, if every required member was seen. -/
theorem ofGiven_nil (slots : List (Slot S)) (s : S) : ofGiven seen [] slots s =
    if slots.any fun f => f.isRequired && !seen.contains f.name then none else some s := by
  induction slots with
  | nil => rfl
  | cons f slots ih =>
    have first : f.take (seen.contains f.name) [] s =
        if f.isRequired && !seen.contains f.name then none else some s := by
      cases seen.contains f.name with
      | true => rw [Bool.not_true, Bool.and_false]; rfl
      | false => rw [Bool.not_false, Bool.and_true]; rfl
    rw [List.any_cons, ofGiven]
    change (f.take _ [] s).bind _ = _
    rw [first]
    cases f.isRequired && !seen.contains f.name with
    | true => rfl
    | false => exact ih

/-- **The order in which an object gives the members of a record does not matter.** -/
theorem ofMembers_eq {slots : List (Slot S)} (apart : slots.Pairwise Slot.Apart)
    (seen : List String) (s : S) (ms : List (String × Json)) :
    ofMembers slots seen s ms = ofGiven seen ms slots s := by
  induction ms generalizing seen s with
  | nil => exact (ofGiven_nil slots s).symm
  | cons m ms ih =>
    rw [ofMembers]
    cases found : slots.find? fun f => f.name == m.1 with
    | none =>
      dsimp only
      rw [ih, ofGiven_cons_of_ne]
      intro f mem same
      simpa [same] using List.find?_eq_none.1 found f mem
    | some f =>
      obtain ⟨name, v⟩ := m
      obtain ⟨same, before, after, rfl, -⟩ := List.find?_eq_some_iff_append.1 found
      have named : f.name = name := beq_iff_eq.1 same
      subst named
      obtain ⟨-, behind, across⟩ := List.pairwise_append.1 apart
      have later : ∀ g ∈ after, f.Apart g := fun _ => List.rel_of_pairwise_cons behind
      have earlier : ∀ g ∈ before, f.Apart g :=
        fun g mem => (across g mem f (List.mem_cons_self ..)).symm
      have untouched (s : S) :
          ofGiven seen ((f.name, v) :: ms) before s = ofGiven seen ms before s :=
        ofGiven_cons_of_ne (fun g mem => (earlier g mem).names.symm) s
      have beyond (s : S) : ofGiven seen ((f.name, v) :: ms) after s = ofGiven seen ms after s :=
        ofGiven_cons_of_ne (fun g mem => (later g mem).names.symm) s
      -- What is left to do once the value is put.
      let next (s : S) : Option S :=
        (f.take true (given f.name ms) s).bind (ofGiven seen ms after)
      rw [ofGiven_middle, untouched, given_cons_self, funext beyond]
      dsimp only
      cases known : seen.contains f.name with
      | true => exact (Option.bind_fun_none _).symm
      | false =>
        rw [if_neg Bool.false_ne_true]
        calc (f.put s v).bind (fun s => ofMembers (before ++ f :: after) (f.name :: seen) s ms)
            = (f.put s v).bind fun s => (ofGiven seen ms before s).bind next := by
              refine congrArg _ (funext fun s => ?_)
              rw [ih, ofGiven_middle, List.contains_cons, BEq.rfl, Bool.true_or,
                ofGiven_seen_of_ne fun g mem => (earlier g mem).names.symm,
                funext (ofGiven_seen_of_ne fun g mem => (later g mem).names.symm)]
          _ = ((f.put s v).bind (ofGiven seen ms before)).bind next := (Option.bind_assoc ..).symm
          _ = ((ofGiven seen ms before s).bind (f.put · v)).bind next := by
              rw [put_bind_ofGiven earlier]
          _ = (ofGiven seen ms before s).bind fun s => (f.put s v).bind next := Option.bind_assoc ..
          _ = (ofGiven seen ms before s).bind fun s =>
                (f.take false (v :: given f.name ms) s).bind (ofGiven seen ms after) := by
              refine congrArg _ (funext fun s => ?_)
              rw [Slot.take_cons, Option.bind_assoc]

/-! ## Members that are texts -/

namespace Slot

/-- A required string member. -/
def ofText (name : String) (set : String → S → S) : Slot S where
  toMember := textMember name set
  put s v := (text? v).map (set · s)
  reads s v rest follows := (reads_text v rest follows).map (set · s)

/-- Of a required string an object must give one value only, and that has to be a text. -/
theorem take_ofText (name : String) (set : String → S → S) (ms : List (String × Json)) (s : S) :
    (ofText name set).take false (given name ms) s = (textGiven? name ms).map (set · s) := by
  unfold textGiven?
  rcases given name ms with _ | ⟨v, _ | ⟨w, vs⟩⟩
  · rfl
  · cases v <;> rfl
  · cases v <;> rfl

/-- Two texts that set different parts of a record are apart. -/
theorem apart_ofText {name other : String} (names : name ≠ other) {set change : String → S → S}
    (sets : ∀ a b s, change b (set a s) = set a (change b s)) :
    (ofText name set).Apart (ofText other change) where
  names := names
  puts s v w := by
    change ((text? v).map (set · s)).bind (fun s => (text? w).map (change · s)) =
      ((text? w).map (change · s)).bind fun s => (text? v).map (set · s)
    cases text? v with
    | none => cases text? w <;> rfl
    | some a =>
      cases text? w with
      | none => rfl
      | some b => exact congrArg some (sets a b s)

end Slot

end Reader
end Json
end HomeMedia
