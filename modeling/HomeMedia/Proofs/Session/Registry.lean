import HomeMedia.Proofs.Session.Pending
import HomeMedia.Session.Registry
import Mathlib.Data.List.Nodup
/-!
# The registry is a table of sessions

A registry is *tidy* if its sessions have different ids and the number that is kept beside the list
is its length. Then an id belongs to one session at most, so looking one up is membership
(`Tidy.find?_eq_some`), and a notice is never dropped while there is somebody to tell (`tell_eq`).
Everything that is done to a registry keeps it tidy: a new session gets an id that is free, others
leave, and what changes a session leaves its id alone.
-/

namespace HomeMedia
namespace Session

/-- A session keeps its id, whatever it is asked. -/
theorem id_run (s : Session) (command : Command) : (s.run command).2.id = s.id := by
  cases command <;> rfl

/-- A draw that succeeds gives an id that is free. -/
theorem Candidates.isTaken_of_drawFree {isTaken : String → Bool} {attempts : Nat} {c d : Candidates}
    {id : String} (drawn : c.drawFree isTaken attempts = (.ok id, d)) : isTaken id = false := by
  induction attempts generalizing c with
  | zero => cases drawn
  | succ attempts ih =>
    simp only [drawFree] at drawn
    split_ifs at drawn with free last
    · cases drawn
      simpa using free
    · cases drawn
    · exact ih drawn

namespace Registry

/-- The sessions have different ids, and they are counted. -/
structure Tidy (r : Registry) : Prop where
  /-- No two sessions share an id. -/
  nodup : (r.sessions.map Session.id).Nodup
  /-- The number of sessions. -/
  counted : r.count = r.sessions.length

variable {r : Registry}

/-- **How a session is created.**  Either all ids that were drawn are taken, and the registry has
drawn them; or the new session has an id that was free, and nothing pending. -/
theorem create_cases (timeout : Nat) (now : Int) (r : Registry) :
    (∃ cause candidates, r.create timeout now = (.error cause, { r with candidates })) ∨
      ∃ s candidates, r.create timeout now =
          (.ok s, { r with candidates }.withSessions (r.sessions ++ [s])) ∧
        r.isTaken s.id = false ∧ s.pending = .empty := by
  unfold create
  split
  · exact .inl ⟨_, _, rfl⟩
  · rename_i id candidates drawn
    exact .inr ⟨_, _, rfl, Candidates.isTaken_of_drawFree drawn, rfl⟩

/-- An id is free if no session has it. -/
theorem isTaken_eq_false {id : String} :
    r.isTaken id = false ↔ ∀ s ∈ r.sessions, s.id ≠ id := by
  simp [isTaken]

/-- A notice reaches everybody who is logged in. -/
theorem tell_eq (counted : r.count = r.sessions.length) (notice : Session → Session) :
    r.tell notice =
      { r with sessions := r.sessions.map fun s => if s.loggedIn then notice s else s } := by
  unfold tell
  split
  · rename_i nobody
    rw [counted, List.length_eq_zero_iff] at nobody
    cases r
    cases nobody
    rfl
  · rfl

/-- The short way of telling about one container makes no difference. -/
theorem changed_eq (id : ObjectId) : changed id = changedAll [id] := by
  have same : Session.changed id = Session.changedAll [id] := by
    funext s
    exact congrArg (fun p => { s with pending := p }) (Pending.note_eq_noteAll id s.pending)
  exact congrArg tell same

/-- Announcing changes one by one, all at once or not at all is to tell them as one batch. -/
theorem announce_eq (ids : List ObjectId) : announce ids = changedAll ids := by
  unfold announce
  split
  · exact changed_eq _
  · rfl

/-- Telling all is changing those who are logged in. -/
theorem map_changedAll {registry : Option Registry}
    (counted : ∀ r, registry = some r → r.count = r.sessions.length) (ids : List ObjectId) :
    registry.map (changedAll ids) = registry.map fun r => { r with
      sessions := r.sessions.map fun s => if s.loggedIn then s.changedAll ids else s } := by
  cases registry with
  | none => rfl
  | some r => exact congrArg some (tell_eq (counted r rfl) _)

namespace Tidy

/-- A new registry is tidy. -/
theorem ofSettings (ui : Settings.Ui) (candidates : Candidates) :
    Tidy (.ofSettings ui candidates) :=
  ⟨List.nodup_nil, rfl⟩

/-- Looking up a session is membership. -/
theorem find?_eq_some (tidy : Tidy r) {id : String} {s : Session} :
    r.find? id = some s ↔ s ∈ r.sessions ∧ s.id = id := by
  constructor
  · intro found
    have hid : (s.id == id) = true := List.find?_some (p := fun s : Session => s.id == id) found
    exact ⟨List.mem_of_find?_eq_some found, beq_iff_eq.1 hid⟩
  · rintro ⟨hs, rfl⟩
    cases found : r.find? s.id with
    | none => exact absurd (beq_self_eq_true s.id) (List.find?_eq_none.1 found s hs)
    | some other =>
      have hid : (other.id == s.id) = true :=
        List.find?_some (p := fun other : Session => other.id == s.id) found
      have hother := List.mem_of_find?_eq_some found
      rw [List.inj_on_of_nodup_map tidy.nodup hother hs (beq_iff_eq.1 hid)]

/-- Sessions may leave. -/
theorem withSublist (tidy : Tidy r) {sessions : List Session} (sub : sessions.Sublist r.sessions) :
    Tidy (r.withSessions sessions) :=
  ⟨tidy.nodup.sublist (sub.map _), rfl⟩

/-- A registry stays tidy when a session is removed. -/
theorem remove (tidy : Tidy r) (id : String) : Tidy (r.remove id) :=
  tidy.withSublist List.eraseP_sublist

/-- It stays so over a sweep. -/
theorem sweep (tidy : Tidy r) (now : Int) : Tidy (r.sweep now) :=
  tidy.withSublist List.filter_sublist

/-- Who is removed is not found. -/
theorem find?_remove (tidy : Tidy r) (id : String) : (r.remove id).find? id = none := by
  refine List.find?_eq_none.2 fun s mem same => ?_
  have left : (r.remove id).sessions.map Session.id = (r.sessions.map Session.id).erase id := by
    rw [List.erase_eq_eraseP', List.eraseP_map]
    rfl
  have gone : id ∉ (r.remove id).sessions.map Session.id :=
    left ▸ tidy.nodup.not_mem_erase
  exact gone (List.mem_map.2 ⟨s, mem, beq_iff_eq.1 same⟩)

/-- Who is swept is not found. -/
theorem find?_sweep (tidy : Tidy r) {now : Int} {s : Session} (mem : s ∈ r.sessions)
    (expired : s.isExpiredAt now = true) : (r.sweep now).find? s.id = none := by
  refine List.find?_eq_none.2 fun t stays same => ?_
  obtain ⟨old, fresh⟩ := List.mem_filter.1 stays
  have same : t = s := List.inj_on_of_nodup_map tidy.nodup old mem (beq_iff_eq.1 same)
  rw [same, expired] at fresh
  cases fresh

/-- Sessions may change. -/
theorem map (tidy : Tidy r) {f : Session → Session} (keepsId : ∀ s, (f s).id = s.id) :
    Tidy { r with sessions := r.sessions.map f } where
  nodup := by
    rw [List.map_map]
    exact (List.map_congr_left (f := Session.id ∘ f) (g := Session.id)
      fun s _ => keepsId s) ▸ tidy.nodup
  counted := tidy.counted.trans (List.length_map f).symm

/-- It stays tidy when the sessions are told something. -/
theorem tell (tidy : Tidy r) {notice : Session → Session} (keepsId : ∀ s, (notice s).id = s.id) :
    Tidy (r.tell notice) := by
  rw [tell_eq tidy.counted]
  exact tidy.map fun s => by split <;> simp [keepsId]

/-- A session with a free id may come. -/
theorem concat (tidy : Tidy r) {s : Session} (free : r.isTaken s.id = false) :
    Tidy (r.withSessions (r.sessions ++ [s])) where
  nodup := by
    change ((r.sessions ++ [s]).map Session.id).Nodup
    rw [List.map_append, List.map_singleton]
    refine List.nodup_append.2 ⟨tidy.nodup, List.nodup_singleton _, ?_⟩
    intro id hid other hother
    obtain ⟨t, ht, rfl⟩ := List.mem_map.1 hid
    rw [List.mem_singleton.1 hother]
    exact isTaken_eq_false.1 free t ht
  counted := rfl

end Tidy
end Registry
end Session
end HomeMedia
