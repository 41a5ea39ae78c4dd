import HomeMedia.Proofs.Session.Roll
import HomeMedia.Proofs.Session.Sweeping
/-!
# Where the ids of sessions come from

An id for a new session is drawn from the candidates until one is free, a hundred times at most. So
either the first free candidate is taken, or the next hundred candidates all belong to sessions
already (`drawFree_cases`, `create_eq`). In the first case the new session stands behind all others;
in the second nothing has changed but the number of draws, and in both all other ids lead to the
sessions that they led to before (`created_under_first_free`).

From then on a session keeps its id, and nothing else brings an id into the registry. So along every
run the registry *grows out of* what it was (`Registry.GrowsTo`, `after_growsTo`): it goes on
drawing from the same sequence, and each of its sessions has an id that was registered before or has
been drawn since.
-/

namespace HomeMedia

namespace Session

namespace Candidates

/-- The candidate that comes after a number of others. -/
def nth (n : Nat) (c : Candidates) : String := c.sequence (c.drawn + n)

/-- The candidates after a number of draws. -/
def skip (n : Nat) (c : Candidates) : Candidates := { c with drawn := c.drawn + n }

/-- After one draw, every candidate is one place nearer. -/
theorem nth_skip_one (n : Nat) (c : Candidates) : (c.skip 1).nth n = c.nth (n + 1) := by
  rw [nth, nth, skip, Nat.add_assoc, Nat.add_comm 1 n]

/-- One draw and some more are that many and one. -/
theorem skip_skip_one (n : Nat) (c : Candidates) : (c.skip 1).skip n = c.skip (n + 1) := by
  rw [skip, skip, skip, Nat.add_assoc, Nat.add_comm 1 n]

/-- A first candidate that is free is drawn. -/
theorem drawFree_of_free {isTaken : String → Bool} {c : Candidates}
    (free : isTaken (c.nth 0) = false) (attempts : Nat) :
    c.drawFree isTaken (attempts + 1) = (.ok (c.nth 0), c.skip 1) := by
  have first : c.next = (c.nth 0, c.skip 1) := rfl
  simp [drawFree, first, free]

/-- One that is taken is passed over, and drawing goes on if attempts are left. -/
theorem drawFree_of_taken {isTaken : String → Bool} {c : Candidates}
    (taken : isTaken (c.nth 0) = true) (attempts : Nat) :
    c.drawFree isTaken (attempts + 1) =
      if attempts = 0 then (.error (c.nth 0), c.skip 1)
      else (c.skip 1).drawFree isTaken attempts := by
  have first : c.next = (c.nth 0, c.skip 1) := rfl
  simp [drawFree, first, taken]

/-- **Drawing ends at the first free id**, or after all attempts, none of which was free. -/
theorem drawFree_cases (isTaken : String → Bool) (attempts : Nat) (c : Candidates) :
    (∃ n ≤ attempts, isTaken (c.nth n) = false ∧ (∀ m < n, isTaken (c.nth m) = true) ∧
      c.drawFree isTaken (attempts + 1) = (.ok (c.nth n), c.skip (n + 1))) ∨
    (∀ n ≤ attempts, isTaken (c.nth n) = true) ∧
      c.drawFree isTaken (attempts + 1) = (.error (c.nth attempts), c.skip (attempts + 1)) := by
  induction attempts generalizing c with
  | zero =>
    cases taken : isTaken (c.nth 0) with
    | false => exact .inl ⟨0, Nat.le_refl 0, taken, nofun, drawFree_of_free taken 0⟩
    | true =>
      refine .inr ⟨fun n small => ?_, drawFree_of_taken taken 0⟩
      rwa [Nat.le_zero.1 small]
  | succ attempts ih =>
    cases taken : isTaken (c.nth 0) with
    | false => exact .inl ⟨0, Nat.zero_le _, taken, nofun, drawFree_of_free taken _⟩
    | true =>
      rw [drawFree_of_taken taken, if_neg (Nat.succ_ne_zero attempts)]
      rcases ih (c.skip 1) with ⟨n, small, free, before, drawn⟩ | ⟨all, drawn⟩
      · rw [nth_skip_one] at free drawn
        rw [skip_skip_one] at drawn
        refine .inl ⟨n + 1, Nat.succ_le_succ small, free, fun m earlier => ?_, drawn⟩
        cases m with
        | zero => exact taken
        | succ m => exact nth_skip_one m c ▸ before m (Nat.lt_of_succ_lt_succ earlier)
      · rw [nth_skip_one, skip_skip_one] at drawn
        refine .inr ⟨fun n small => ?_, drawn⟩
        cases n with
        | zero => exact taken
        | succ n => exact nth_skip_one n c ▸ all n (Nat.le_of_succ_le_succ small)

end Candidates

namespace Registry

variable {r s t : Registry}

/-- **How a session gets its id.**  It is the first of the next hundred candidates that is free; if
none is, nothing happens but that they have been drawn. -/
theorem create_eq (timeout : Nat) (now : Int) (r : Registry) :
    (∃ n < maxIdAttempts, r.isTaken (r.candidates.nth n) = false ∧
      (∀ m < n, r.isTaken (r.candidates.nth m) = true) ∧ ∃ s : Session,
      s = { id := r.candidates.nth n, timeout, maxUpdates := r.ui.maxUpdates, lastAccess := now } ∧
      r.create timeout now = (.ok s,
        { r with candidates := r.candidates.skip (n + 1) }.withSessions (r.sessions ++ [s]))) ∨
    (∀ n < maxIdAttempts, r.isTaken (r.candidates.nth n) = true) ∧
      r.create timeout now = (.error ⟨maxIdAttempts, r.candidates.nth (maxIdAttempts - 1)⟩,
        { r with candidates := r.candidates.skip maxIdAttempts }) := by
  rcases r.candidates.drawFree_cases r.isTaken (maxIdAttempts - 1) with
    ⟨n, small, free, before, drawn⟩ | ⟨all, drawn⟩
  · refine .inl ⟨n, Nat.lt_succ_of_le small, free, before, _, rfl, ?_⟩
    rw [create, show maxIdAttempts = maxIdAttempts - 1 + 1 from rfl, drawn]
  · refine .inr ⟨fun n small => all n (Nat.le_of_lt_succ small), ?_⟩
    rw [create, show maxIdAttempts = maxIdAttempts - 1 + 1 from rfl, drawn]
    rfl

/-- One more session at the end is found under its own id, unless somebody else is. -/
theorem find?_of_concat {new : Session} (grown : t.sessions = r.sessions ++ [new]) (id : String) :
    t.find? id = (r.find? id).or (if new.id = id then some new else none) := by
  rw [find?, grown, List.find?_append, List.find?_singleton, ← find?]
  simp only [beq_iff_eq]

/-- Nobody is found under a free id. -/
theorem find?_eq_none_of_free {id : String} (free : r.isTaken id = false) : r.find? id = none :=
  List.find?_eq_none.2 fun s mem same => isTaken_eq_false.1 free s mem (beq_iff_eq.1 same)

/-- An id has been drawn on the way from one registry to another. -/
def Issued (id : String) (r t : Registry) : Prop :=
  ∃ n, r.candidates.drawn ≤ n ∧ n < t.candidates.drawn ∧ r.candidates.sequence n = id

/-- What becomes of a registry: it goes on drawing from the same sequence, and its sessions have ids
that were registered before or have been drawn since. -/
structure GrowsTo (r t : Registry) : Prop where
  /-- The candidates are the same. -/
  sequence : t.candidates.sequence = r.candidates.sequence
  /-- No draw is taken back. -/
  drawn : r.candidates.drawn ≤ t.candidates.drawn
  /-- An id that is registered was so before or has been drawn. -/
  known : ∀ s ∈ t.sessions, (∃ u ∈ r.sessions, u.id = s.id) ∨ Issued s.id r t

namespace GrowsTo

/-- A registry has grown out of itself. -/
theorem refl (r : Registry) : GrowsTo r r :=
  ⟨rfl, Nat.le_refl _, fun s hs => .inl ⟨s, hs, rfl⟩⟩

/-- What grows out of what has grown has grown out of the first. -/
theorem trans (rs : GrowsTo r s) (st : GrowsTo s t) : GrowsTo r t where
  sequence := st.sequence.trans rs.sequence
  drawn := Nat.le_trans rs.drawn st.drawn
  known u hu := by
    rcases st.known u hu with ⟨v, hv, same⟩ | ⟨n, late, early, same⟩
    · rw [← same]
      refine (rs.known v hv).imp_right fun ⟨n, late, early, same⟩ => ?_
      exact ⟨n, late, Nat.lt_of_lt_of_le early st.drawn, same⟩
    · exact .inr ⟨n, Nat.le_trans rs.drawn late, early, rs.sequence ▸ same⟩

/-- Nothing is drawn, and all ids were registered before. -/
theorem of_ids (candidates : t.candidates = r.candidates)
    (known : ∀ s ∈ t.sessions, ∃ u ∈ r.sessions, u.id = s.id) : GrowsTo r t :=
  ⟨by rw [candidates], by rw [candidates], fun s hs => .inl (known s hs)⟩

/-- Sessions may leave. -/
theorem withSublist (r : Registry) {sessions : List Session} (sub : sessions.Sublist r.sessions) :
    GrowsTo r (r.withSessions sessions) :=
  of_ids rfl fun s hs => ⟨s, sub.subset hs, rfl⟩

/-- Sessions may change. -/
theorem map (r : Registry) {change : Session → Session} (keepsId : ∀ s, (change s).id = s.id) :
    GrowsTo r { r with sessions := r.sessions.map change } :=
  of_ids rfl fun s hs => by
    obtain ⟨u, hu, rfl⟩ := List.mem_map.1 hs
    exact ⟨u, hu, (keepsId u).symm⟩

/-- Telling the sessions something leaves their ids. -/
theorem tell (r : Registry) {notice : Session → Session} (keepsId : ∀ s, (notice s).id = s.id) :
    GrowsTo r (r.tell notice) := by
  unfold Registry.tell
  split
  · exact refl r
  · exact map r fun s => by split <;> simp [keepsId]

/-- A new session has an id that has been drawn. -/
theorem create (timeout : Nat) (now : Int) (r : Registry) :
    GrowsTo r (r.create timeout now).2 := by
  rcases r.create_eq timeout now with ⟨n, -, -, -, s, rfl, created⟩ | ⟨-, failed⟩
  · rw [created]
    refine ⟨rfl, Nat.le_add_right .., fun t ht => ?_⟩
    rcases List.mem_append.1 ht with old | new
    · exact .inl ⟨t, old, rfl⟩
    · rw [List.mem_singleton.1 new]
      exact .inr ⟨r.candidates.drawn + n, Nat.le_add_right .., Nat.lt_succ_self _, rfl⟩
  · rw [failed]
    exact ⟨rfl, Nat.le_add_right .., fun t ht => .inl ⟨t, ht, rfl⟩⟩

end GrowsTo
end Registry
end Session

namespace Home

open Session (Registry)

namespace Front

/-- A registry that is there has grown out of one that was there. -/
def GrowsTo (f g : Front) : Prop :=
  ∀ t, g.registry = some t → ∃ r, f.registry = some r ∧ Registry.GrowsTo r t

namespace GrowsTo

variable {f g k : Front}

/-- A front has grown out of itself. -/
theorem refl (f : Front) : GrowsTo f f := fun t found => ⟨t, found, .refl t⟩

/-- What grows out of what has grown has grown out of the first. -/
theorem trans (fg : GrowsTo f g) (gk : GrowsTo g k) : GrowsTo f k := by
  intro u found
  obtain ⟨t, found, later⟩ := gk u found
  obtain ⟨r, found, before⟩ := fg t found
  exact ⟨r, found, before.trans later⟩

/-- A front with the same registry has grown out of the first. -/
theorem of_eq (same : g.registry = f.registry) : GrowsTo f g := fun t found =>
  ⟨t, same ▸ found, .refl t⟩

/-- The registry may change. -/
theorem map {change : Registry → Registry} (grows : ∀ r, Registry.GrowsTo r (change r))
    (same : g.registry = f.registry.map change) : GrowsTo f g := by
  intro t found
  rw [same] at found
  obtain ⟨r, hr, rfl⟩ := Option.map_eq_some_iff.1 found
  exact ⟨r, hr, grows r⟩

variable {h : Home}

/-- Seeing to the subscription is no draw. -/
theorem checkTimer (h : Home) : GrowsTo h.front h.checkTimer.front := by
  have renamed : ∀ (r : Registry) subscription, Registry.GrowsTo r { r with subscription } :=
    fun r _ => .of_ids rfl fun s hs => ⟨s, hs, rfl⟩
  unfold Home.checkTimer
  split
  · exact refl _
  · split
    · exact refl _
    · exact map (fun r => renamed r _) rfl
    · exact map (fun r => renamed r _) rfl

/-- Creating a session draws an id for it, or only draws. -/
theorem createSession (h : Home) (timeout : Nat) :
    GrowsTo h.front (h.createSession timeout).2.front := by
  unfold Home.createSession
  split
  · exact refl _
  · rename_i r found
    have grows := Registry.GrowsTo.create timeout h.now r
    split <;> rename_i created <;> rw [created] at grows
    · exact fun t same => ⟨r, found, by cases same; exact grows⟩
    · refine trans ?_ (checkTimer _)
      exact fun t same => ⟨r, found, by cases same; exact grows⟩

/-- Removing a session draws nothing. -/
theorem removeSession (h : Home) (id : String) :
    GrowsTo h.front (h.removeSession id).2.front := by
  unfold Home.removeSession
  split
  · exact refl _
  · exact trans (map (fun r => .withSublist r List.eraseP_sublist) rfl) (checkTimer _)

/-- Neither does a sweep. -/
theorem sweep (h : Home) (now : Int) : GrowsTo h.front (h.sweep now).2.front := by
  unfold Home.sweep
  split
  · exact refl _
  · rename_i r found
    refine trans ?_ (checkTimer { h with registry := _, released := _ })
    exact fun t same => ⟨r, found, by cases same; exact .withSublist r List.filter_sublist⟩

/-- Arming the schedule leaves the registry. -/
theorem arm (h : Home) : GrowsTo h.front h.arm.front := by
  rcases arm_cases h with same | ⟨s, nanos, -, -, -, -, armed⟩
  · rw [same]
    exact refl _
  · rw [armed]
    exact of_eq rfl

/-- So does disarming it. -/
theorem disarm (h : Home) : GrowsTo h.front h.disarm.front := by
  rcases disarm_cases h with same | ⟨id, stopped, -, disarmed⟩
  · rw [same]
    exact refl _
  · rw [disarmed]
    exact of_eq rfl

/-- Announcing changes leaves the ids. -/
theorem tell (h : Home) (ids : List ObjectId) :
    GrowsTo h.front (h.onRegistry (Registry.changedAll ids)).front := by
  have grows : ∀ r, Registry.GrowsTo r (Registry.changedAll ids r) := fun r =>
    .tell r fun _ => rfl
  exact map grows rfl

/-- **Every step to the front lets the registry grow.** -/
theorem step (step : Step f g) : GrowsTo f g := by
  cases step with
  | sweep h now => exact sweep h now
  | checkTimer h => exact checkTimer h
  | arm h => exact arm h
  | disarm h => exact disarm h
  | announce h ids =>
    have told := tell h ids
    rw [← Registry.announce_eq] at told
    exact told
  | _ => exact of_eq rfl

/-- So does every move. -/
theorem move {label : Label} (move : Move label f g) : GrowsTo f g := by
  cases move with
  | turn taken => exact step taken
  | create h timeout => exact createSession h timeout
  | remove h id => exact removeSession h id
  | dropRegistry h => exact nofun
  | ask h id command =>
    exact map (fun r => .map r fun s => by split <;> simp [Session.id_run]) rfl
  | tell h ids => exact tell h ids
  | drainAll h =>
    have grows : ∀ r : Registry,
        Registry.GrowsTo r { r with sessions := r.sessions.map Session.told } := fun r =>
      .map r fun _ => rfl
    exact map grows rfl
  | shutDown h => exact of_eq rfl

end GrowsTo
end Front

/-- **How the server creates a session**, if it has a registry: under a candidate that is free. If
all of them are taken, it reports that, and they have been drawn. -/
theorem createSession_cases (timeout : Nat) (h : Home) :
    (h.registry = none ∧ h.createSession timeout = (none, h)) ∨
    ∃ r, h.registry = some r ∧
      ((∃ n, r.isTaken (r.candidates.nth n) = false ∧ ∃ s released, s.id = r.candidates.nth n ∧
        h.createSession timeout = (some (.ok s), ({ h with
          registry := some ({ r with candidates := r.candidates.skip (n + 1) }.withSessions
            (r.sessions ++ [s])), released } : Home).checkTimer)) ∨
      (∀ n < Session.maxIdAttempts, r.isTaken (r.candidates.nth n) = true) ∧ ∃ cause,
        cause = ⟨Session.maxIdAttempts, r.candidates.nth (Session.maxIdAttempts - 1)⟩ ∧
        h.createSession timeout = (some (.error cause), (h.onRegistry fun r =>
          { r with candidates := r.candidates.skip Session.maxIdAttempts }).report
            [.idsExhausted cause])) := by
  unfold createSession
  cases found : h.registry with
  | none => exact .inl ⟨rfl, rfl⟩
  | some r =>
    refine .inr ⟨r, rfl, ?_⟩
    dsimp only
    rcases r.create_eq timeout h.now with ⟨n, -, free, -, s, same, created⟩ | ⟨all, exhausted⟩
    · rw [created]
      exact .inl ⟨n, free, s, _, congrArg Session.id same, rfl⟩
    · rw [exhausted, onRegistry, found]
      exact .inr ⟨all, _, rfl, rfl⟩

/-- **How the server looks for a free id.**  Let the candidates to come be looked at in their order.
If one of the next hundred is the first that is the id of no registered session, then exactly the
candidates up to it are drawn, and a session under that id, which is not logged in, has nothing
pending and was active just now, is registered behind all others, which stay as they are. Otherwise
exactly a hundred are drawn, the failure names that number and the last of them, and nothing else
has changed but the log. Either way all other ids lead to the sessions that they led to before. -/
theorem created_under_first_free (timeout : Nat) (h : Home) (r : Registry)
    (found : h.registry = some r) :
    let candidate (n : Nat) := r.candidates.nth n
    let isFree (n : Nat) := ∀ s ∈ r.sessions, s.id ≠ candidate n
    (∀ n < Session.maxIdAttempts, isFree n → (∀ m < n, ¬isFree m) →
      ∃ s g t, h.createSession timeout = (some (.ok s), g) ∧ g.registry = some t ∧
        s = { id := candidate n, timeout, maxUpdates := r.ui.maxUpdates, loggedIn := false,
              lastAccess := h.now, scratch := [], pending := .empty } ∧
        t = { ui := r.ui, sessions := r.sessions ++ [s], count := r.sessions.length + 1,
              subscription := some (r.subscription.getD (h.timer.created + 1)),
              candidates := r.candidates.skip (n + 1) } ∧
        t.find? (candidate n) = some s ∧ ∀ id ≠ candidate n, t.find? id = r.find? id) ∧
    ((∀ n < Session.maxIdAttempts, ¬isFree n) →
      ∃ cause t, cause = ⟨Session.maxIdAttempts, candidate (Session.maxIdAttempts - 1)⟩ ∧
        t = { r with candidates := r.candidates.skip Session.maxIdAttempts } ∧
        h.createSession timeout =
          (some (.error cause), ({ h with registry := some t } : Home).report [.idsExhausted cause]) ∧
        ∀ id, t.find? id = r.find? id) := by
  intro candidate isFree
  have isFree_iff (n : Nat) : isFree n ↔ r.isTaken (candidate n) = false :=
    Registry.isTaken_eq_false.symm
  unfold createSession
  rw [found]
  dsimp only
  rcases r.create_eq timeout h.now with
    ⟨first, small, free, before, s, same, created⟩ | ⟨all, exhausted⟩
  · have freeFirst : isFree first := (isFree_iff first).2 free
    rw [created]
    refine ⟨fun n _ freeNow taken => ?_, fun none => absurd freeFirst (none first small)⟩
    obtain rfl : n = first := by
      rcases Nat.lt_trichotomy n first with earlier | equal | later
      · exact absurd ((isFree_iff n).1 freeNow) (by rw [before n earlier]; decide)
      · exact equal
      · exact absurd freeFirst (taken first later)
    have id_eq : s.id = candidate n := congrArg Session.id same
    refine ⟨s, _, _, rfl, registry_checkTimer rfl, same, ?_, ?_, fun id other => ?_⟩
    · simp [Registry.withSessions]
    · rw [Registry.find?_of_concat rfl, Registry.find?_eq_none_of_free free, if_pos id_eq,
        Option.none_or]
    · rw [Registry.find?_of_concat rfl, id_eq, if_neg other.symm, Option.or_none]
  · refine ⟨fun n small free => ?_, fun _ => ?_⟩
    · exact absurd ((isFree_iff n).1 free) (by rw [all n small]; decide)
    · rw [exhausted]
      exact ⟨_, _, rfl, rfl, rfl, fun id => rfl⟩

/-- A server with the session `a`, and candidates that are `a` as often as said, and then `b`. -/
def retrying (times : Nat) : Home :=
  { registry := some {
      ui := {}, sessions := [{ id := "a", timeout := 60, maxUpdates := 10, lastAccess := 0 }],
      count := 1, candidates := .scripted (List.replicate times "a" ++ ["b"]) } }

/-- The hundredth candidate is accepted, and the next one would come too late. -/
theorem created_under_first_free_hundredth :
    (∃ s g t, (retrying 99).createSession 60 = (some (.ok s), g) ∧ g.registry = some t ∧
      s.id = "b" ∧ t.candidates.drawn = 100) ∧
    ∃ g, (retrying 100).createSession 60 = (some (.error ⟨100, "a"⟩), g) := by
  constructor
  · obtain ⟨s, g, t, created, registered, rfl, rfl, -⟩ :=
      (created_under_first_free 60 (retrying 99) _ rfl).1 99 (by decide) (by decide)
        (by decide +kernel)
    exact ⟨_, g, _, created, registered, rfl, rfl⟩
  · obtain ⟨cause, t, rfl, -, exhausted, -⟩ :=
      (created_under_first_free 60 (retrying 100) _ rfl).2 (by decide +kernel)
    exact ⟨_, exhausted⟩

/-- **No happening brings in an id that was not drawn.** -/
theorem next_growsTo (h : Home) (happening : Happening) :
    Front.GrowsTo h.front (h.next happening).front :=
  (next_moves happening h).keep (P := Front.GrowsTo h.front)
    (fun _ _ _ _ move grows => grows.trans (.move move)) (.refl _)

/-- **No run does.** -/
theorem after_growsTo (h : Home) (run : List Happening) :
    Front.GrowsTo h.front (h.after run).front :=
  after_of_next (P := fun g => Front.GrowsTo h.front g.front)
    (fun happening _ g grows => grows.trans (next_growsTo g happening)) (.refl _)

end Home
end HomeMedia
