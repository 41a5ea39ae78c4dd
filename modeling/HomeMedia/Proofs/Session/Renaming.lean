import HomeMedia.Proofs.Session.Issuing
import HomeMedia.Proofs.Web.Header
/-!
# Renaming session ids

A proper id has 32 hexadecimal digits in lower case. A renaming takes proper ids to proper ids, one
to one; whatever else stands in the place of an id stays as it is. So applied to any two ids it
tells them apart as they were (`Renaming.apply_inj`), and all that a registry does with ids goes on
in the same way under a renaming: looking one up, finding it taken, and drawing until one is free
(`Registry.find?_renamed`, `Registry.isTaken_renamed`, `Registry.create_renamed`).

A request is renamed by writing the new id into its header, and then that is the id it shows
(`Request.sessionId?_renamed`).
-/

namespace HomeMedia

namespace Session

/-- The hexadecimal digits in lower case. -/
def idDigits : List Char :=
  ['0', '1', '2', '3', '4', '5', '6', '7', '8', '9', 'a', 'b', 'c', 'd', 'e', 'f']

/-- A proper id: 32 hexadecimal digits in lower case. -/
def IsId (id : String) : Prop :=
  id.toList.length = 32 ∧ id.toList.all (fun c => idDigits.contains c) = true

instance (id : String) : Decidable (IsId id) := inferInstanceAs (Decidable (_ ∧ _))

/-- The characters of an id are hexadecimal digits. -/
theorem IsId.mem_idDigits {id : String} (proper : IsId id) {c : Char} (mem : c ∈ id.toList) :
    c ∈ idDigits := List.contains_iff_mem.1 (List.all_eq_true.1 proper.2 c mem)

/-- A renaming of proper ids, one to one. -/
structure Renaming where
  /-- The new id in place of an old one. -/
  rename : String → String
  /-- Proper ids become proper ids. -/
  isId : ∀ {id}, IsId id → IsId (rename id)
  /-- Different ones become different ones. -/
  injective : ∀ {a b}, IsId a → IsId b → rename a = rename b → a = b

variable (ρ : Renaming)

/-- A renaming applied; what is no proper id stays as it is. -/
def Renaming.apply (id : String) : String := if IsId id then ρ.rename id else id

namespace Renaming

/-- A proper id is renamed. -/
theorem apply_of_isId {id : String} (proper : IsId id) : ρ.apply id = ρ.rename id :=
  if_pos proper

/-- Any other text stays. -/
theorem apply_of_not_isId {id : String} (improper : ¬IsId id) : ρ.apply id = id :=
  if_neg improper

/-- **Renamed ids are the same only if the ids are.** -/
theorem apply_inj {a b : String} : ρ.apply a = ρ.apply b ↔ a = b := by
  refine ⟨fun same => ?_, congrArg _⟩
  if ha : IsId a then
    if hb : IsId b then
      rw [ρ.apply_of_isId ha, ρ.apply_of_isId hb] at same
      exact ρ.injective ha hb same
    else
      rw [ρ.apply_of_isId ha, ρ.apply_of_not_isId hb] at same
      exact absurd (same ▸ ρ.isId ha) hb
  else
    if hb : IsId b then
      rw [ρ.apply_of_not_isId ha, ρ.apply_of_isId hb] at same
      exact absurd (same ▸ ρ.isId hb) ha
    else
      rwa [ρ.apply_of_not_isId ha, ρ.apply_of_not_isId hb] at same

/-- Renamed ids are compared as the ids were. -/
theorem beq_apply (a b : String) : (ρ.apply a == ρ.apply b) = (a == b) := by
  rw [Bool.eq_iff_iff, beq_iff_eq, beq_iff_eq, apply_inj]

/-- Two ids exchanged. -/
def swap {a b : String} (ha : IsId a) (hb : IsId b) : Renaming where
  rename := Equiv.swap a b
  isId {id} proper := by
    rw [Equiv.swap_apply_def]
    split
    · exact hb
    · split
      · exact ha
      · exact proper
  injective _ _ same := (Equiv.swap a b).injective same

end Renaming

/-- A session under another id. -/
def renamed (s : Session) : Session := { s with id := ρ.apply s.id }

/-- The renamed candidates. -/
def Candidates.renamed (c : Candidates) : Candidates :=
  { c with sequence := fun n => ρ.apply (c.sequence n) }

/-- The failure with a renamed candidate. -/
def IdsExhausted.renamed (cause : IdsExhausted) : IdsExhausted :=
  { cause with lastId := ρ.apply cause.lastId }

/-- From renamed candidates the renamed id is drawn, if what is taken was renamed, too. -/
theorem Candidates.drawFree_renamed {isTaken isTaken' : String → Bool}
    (same : ∀ id, isTaken' (ρ.apply id) = isTaken id) (attempts : Nat) (c : Candidates) :
    (c.renamed ρ).drawFree isTaken' (attempts + 1) =
      (((c.drawFree isTaken (attempts + 1)).1.map ρ.apply).mapError ρ.apply,
        (c.drawFree isTaken (attempts + 1)).2.renamed ρ) := by
  induction attempts generalizing c with
  | zero =>
    cases taken : isTaken (c.nth 0) with
    | false =>
      rw [drawFree_of_free taken, drawFree_of_free ((same _).trans taken)]
      rfl
    | true =>
      rw [drawFree_of_taken taken, drawFree_of_taken ((same _).trans taken)]
      rfl
  | succ attempts ih =>
    cases taken : isTaken (c.nth 0) with
    | false =>
      rw [drawFree_of_free taken, drawFree_of_free ((same _).trans taken)]
      rfl
    | true =>
      rw [drawFree_of_taken taken, drawFree_of_taken ((same _).trans taken),
        if_neg (Nat.succ_ne_zero attempts), if_neg (Nat.succ_ne_zero attempts)]
      exact ih (c.skip 1)

namespace Registry

/-- The registry with renamed sessions and candidates. -/
def renamed (r : Registry) : Registry :=
  { r with sessions := r.sessions.map (Session.renamed ρ), candidates := r.candidates.renamed ρ }

/-- A session is found under its new name where it was found under the old one. -/
theorem find?_renamed (id : String) (r : Registry) :
    (r.renamed ρ).find? (ρ.apply id) = (r.find? id).map (Session.renamed ρ) := by
  refine List.find?_map.trans ?_
  congr 2
  funext s
  exact ρ.beq_apply s.id id

/-- A renamed id is taken where the id was. -/
theorem isTaken_renamed (id : String) (r : Registry) :
    (r.renamed ρ).isTaken (ρ.apply id) = r.isTaken id := by
  refine List.any_map.trans ?_
  congr 1
  funext s
  exact ρ.beq_apply s.id id

/-- **A registry with renamed sessions creates the renamed session.** -/
theorem create_renamed (timeout : Nat) (now : Int) (r : Registry) :
    ((r.renamed ρ).create timeout now).1 =
      ((r.create timeout now).1.map (Session.renamed ρ)).mapError (IdsExhausted.renamed ρ) := by
  have drawn := Candidates.drawFree_renamed ρ (fun id => isTaken_renamed ρ id r)
    (maxIdAttempts - 1) r.candidates
  rw [show maxIdAttempts - 1 + 1 = maxIdAttempts from rfl] at drawn
  unfold create
  rw [show (r.renamed ρ).candidates = r.candidates.renamed ρ from rfl, drawn]
  cases r.candidates.drawFree r.isTaken maxIdAttempts with
  | mk result rest => cases result <;> rfl

end Registry
end Session

namespace Web.Request

open Session (IsId Renaming)

variable (ρ : Renaming)

/-- A header value with a renamed id, if it holds a proper one. -/
def renamedHeader (value : Text.Bytes) : Text.Bytes :=
  match (visible? value).map Text.trimmed with
  | none => value
  | some id => if IsId id then Text.Utf8.ofString (ρ.rename id) else value

/-- The request that shows the renamed id. -/
def renamed (r : Request) : Request := { r with sessions := r.sessions.map (renamedHeader ρ) }

/-- The id of a session has no part in the body. -/
@[simp] theorem json_renamed {α : Type} (reader : Json.Reader α) (r : Request) :
    (r.renamed ρ).json reader = r.json reader := rfl

/-- Neither has it in the query. -/
@[simp] theorem updatesWord_renamed (r : Request) :
    (r.renamed ρ).updatesWord = r.updatesWord := rfl

/-- Neither has it in the route. -/
@[simp] theorem ofRequest_renamed (r : Request) :
    Route.ofRequest (r.renamed ρ) = Route.ofRequest r := rfl

/-- A hexadecimal digit is a single byte that can be seen, and is not blank. -/
theorem of_mem_idDigits {c : Char} (digit : c ∈ Session.idDigits) :
    String.utf8EncodeChar c = [UInt8.ofNat c.toNat] ∧ isVisible (UInt8.ofNat c.toNat) = true ∧
      Char.ofNat (UInt8.ofNat c.toNat).toNat = c ∧ Text.isBlank c = false := by
  fin_cases digit <;> decide

/-- An id can be sent in a header. -/
theorem visible?_ofString {id : String} (proper : IsId id) :
    visible? (Text.Utf8.ofString id) = some id := by
  have bytes : Text.Utf8.ofString id = id.toList.map fun c => UInt8.ofNat c.toNat := by
    rw [Text.Utf8.ofString, Text.Utf8.encode, List.map_eq_flatMap]
    exact List.flatMap_congr fun c mem => (of_mem_idDigits (proper.mem_idDigits mem)).1
  refine visible?_eq_some_iff.2 ⟨fun b mem => ?_, ?_⟩
  · rw [bytes] at mem
    obtain ⟨c, written, rfl⟩ := List.mem_map.1 mem
    exact (of_mem_idDigits (proper.mem_idDigits written)).2.1
  · have spelled : Text.Utf8.ascii (Text.Utf8.ofString id) = id.toList := by
      rw [bytes, Text.Utf8.ascii, List.map_map]
      exact (List.map_congr_left fun c mem =>
        (of_mem_idDigits (proper.mem_idDigits mem)).2.2.1).trans (List.map_id' _)
    rw [spelled, String.ofList_toList]

/-- No blanks have to be taken from it. -/
theorem trimmed_of_isId {id : String} (proper : IsId id) : Text.trimmed id = id := by
  have kept : ∀ cs : List Char, (∀ c ∈ cs, c ∈ id.toList) → Text.trimStart cs = cs := by
    intro cs written
    cases cs with
    | nil => rfl
    | cons c cs =>
      have digit := of_mem_idDigits (proper.mem_idDigits (written c (List.mem_cons_self ..)))
      refine List.dropWhile_cons_of_neg ?_
      rw [digit.2.2.2]
      exact nofun
  rw [Text.trimmed, Text.trim, Text.trimEnd, kept _ fun c mem => mem,
    kept _ fun c mem => List.mem_reverse.1 mem, List.reverse_reverse, String.ofList_toList]

/-- It is not empty. -/
theorem ne_empty_of_isId {id : String} (proper : IsId id) : id ≠ "" := by
  rintro rfl
  exact absurd proper.1 (by decide)

/-- **A renamed request shows the renamed id.** -/
theorem sessionId?_renamed (r : Request) :
    (r.renamed ρ).sessionId? = r.sessionId?.map ρ.apply := by
  unfold sessionId? renamed
  cases r.sessions with
  | nil => rfl
  | cons value more =>
    rw [List.map_cons, List.head?_cons, List.head?_cons, Option.bind_some, Option.bind_some,
      renamedHeader]
    cases shown : visible? value with
    | none =>
      rw [Option.map_none]
      dsimp only
      rw [shown]
      rfl
    | some text =>
      rw [Option.map_some]
      dsimp only
      if proper : IsId (Text.trimmed text) then
        have renamed := ρ.isId proper
        rw [if_pos proper, visible?_ofString renamed]
        dsimp only
        rw [trimmed_of_isId renamed, if_neg (ne_empty_of_isId renamed),
          if_neg (ne_empty_of_isId proper), Option.map_some, ρ.apply_of_isId proper]
      else
        rw [if_neg proper, shown]
        dsimp only
        split
        · rfl
        · rw [Option.map_some, ρ.apply_of_not_isId proper]

end Web.Request

end HomeMedia
