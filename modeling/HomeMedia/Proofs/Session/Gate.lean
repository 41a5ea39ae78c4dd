import HomeMedia.Proofs.Session.Delivery
import HomeMedia.Proofs.Session.Issuing
import HomeMedia.Proofs.Web.Header
/-!
# Who is let in

A request to a route that is for sessions only is let in iff it presents a session: the first value
of its session header can be seen, it holds an id, and that is the id of a registered session that
is logged in (`letsIn_iff`). All other requests to such a route get the same refusal, and nothing
else about them matters (`respond_of_not_letsIn`).

Logging out, removal and eviction leave no session with the id behind (`session?_logOut`,
`session?_removeSession`, `session?_sweep`). A session is registered only under an id that is drawn
for it. So if a request with the id is let in later on, the id has been drawn again since, for a
session that is registered from then on (`exists_return`).
-/

namespace HomeMedia
namespace Home

open Front (Sound)
open Session (Registry)
open Web (Request Response Route)

variable {h : Home} {r : Request} {route : Route} {id : String}

/-! ## At the gate -/

/-- A request is let in: it is known who is calling. -/
def LetsIn (r : Request) (h : Home) : Prop := ∃ s g, h.authenticate r = (.ok s, g)

/-- A request presents a session: the first value of its session header can be seen, and without
blanks it is the id of a registered session that is logged in. -/
def Presents (r : Request) (h : Home) : Prop :=
  ∃ value registry s, r.sessions.head? = some value ∧
    (∀ b ∈ value, Request.isVisible b = true) ∧
    s.id = Text.trimmed (String.ofList (Text.Utf8.ascii value)) ∧ s.id ≠ "" ∧
    h.registry = some registry ∧ s ∈ registry.sessions ∧ s.loggedIn = true

/-- **A request is let in if its id is that of a session that is served.** -/
theorem letsIn_iff_serves (serves : h.servesSessions = true) :
    LetsIn r h ↔ ∃ id, r.sessionId? = some id ∧ Serves id h := by
  constructor
  · rintro ⟨s, g, accepted⟩
    rcases authenticate_cases r h with ⟨e, events, refused⟩ | ⟨id, t, shown, found, login, -⟩
    · cases refused.symm.trans accepted
    · exact ⟨id, shown, t, found, login⟩
  · rintro ⟨id, shown, s, found, login⟩
    exact ⟨_, _, authenticate_of_session? serves shown found login⟩

/-- **Who is let in.** -/
theorem letsIn_iff (sound : h.front.Sound) : LetsIn r h ↔ Presents r h := by
  rw [letsIn_iff_serves sound.serves]
  constructor
  · rintro ⟨id, shown, s, found, login⟩
    obtain ⟨value, head, visible, same, filled⟩ := Request.sessionId?_eq_some_iff.1 shown
    obtain ⟨registry, registered, found⟩ := Option.bind_eq_some_iff.1 found
    obtain ⟨mem, rfl⟩ := (sound.tidy registry registered).find?_eq_some.1 found
    exact ⟨value, registry, s, head, visible, same, filled, registered, mem, login⟩
  · rintro ⟨value, registry, s, head, visible, same, filled, registered, mem, login⟩
    refine ⟨s.id, Request.sessionId?_eq_some_iff.2 ⟨value, head, visible, same, filled⟩, s, ?_,
      login⟩
    rw [session?, registered]
    exact (sound.tidy registry registered).find?_eq_some.2 ⟨mem, rfl⟩

/-- Behind the gate, a request that is not let in is refused whatever it asks for. -/
theorem answer_of_refused (guarded : route.isProtected = true) {e : Web.Error} {g : Home}
    (refused : h.authenticate r = (.error e, g)) : h.answer r route = g.refuse e := by
  unfold answer
  split
  case h_5 => rw [refused]
  all_goals cases guarded

/-- One that is let in is answered for its session. -/
theorem answer_of_accepted (guarded : route.isProtected = true) {s : Session} {g : Home}
    (accepted : h.authenticate r = (.ok s, g)) : h.answer r route = g.answerSession s r route := by
  unfold answer
  split
  case h_5 => rw [accepted]
  all_goals cases guarded

/-- **Who is let in is answered** as the session that was presented, whose activity is recorded. -/
theorem respond_of_letsIn (serves : h.servesSessions = true)
    (wanted : Route.ofRequest r = .ok route) (guarded : route.isProtected = true)
    (letIn : LetsIn r h) :
    ∃ id s, r.sessionId? = some id ∧ h.session? id = some s ∧
      let answer := (h.touch id).answerSession (s.accessAt h.now) r route
      h.respond r = (bodyFor r answer.1, answer.2) := by
  obtain ⟨id, shown, s, found, login⟩ := (letsIn_iff_serves serves).1 letIn
  refine ⟨id, s, shown, found, ?_⟩
  rw [respond_of_route wanted h,
    answer_of_accepted guarded (authenticate_of_session? serves shown found login)]

/-- **Who is not let in is turned away**, and nothing happens but that this is reported. -/
theorem respond_of_not_letsIn (serves : h.servesSessions = true)
    (wanted : Route.ofRequest r = .ok route) (guarded : route.isProtected = true)
    (shut : ¬LetsIn r h) :
    h.respond r =
      (bodyFor r (.ofError .unauthorized), h.report [.refused .unauthorized]) := by
  have refused : h.authenticate r = (.error .unauthorized, h) := by
    unfold authenticate
    split
    · rfl
    · rename_i id shown
      rw [if_neg (by simp [serves])]
      split
      · rfl
      · rename_i s found
        refine if_neg fun login => shut ?_
        exact (letsIn_iff_serves serves).2 ⟨id, shown, s, found, login⟩
  rw [respond_of_route wanted h, answer_of_refused guarded refused]
  rfl

/-! ## Leaving -/

/-- **A session that is removed is gone.** -/
theorem session?_removeSession (sound : h.front.Sound) (id : String) :
    (h.removeSession id).2.session? id = none := by
  unfold removeSession
  split
  · assumption
  · rename_i s present
    refine (Front.session?_of_roll (roll_checkTimer (onRegistry _ _)) id).trans ?_
    change (h.registry.map fun r => r.remove id).bind (fun r => r.find? id) = none
    obtain ⟨registry, found, -⟩ := Option.bind_eq_some_iff.1 present
    rw [found]
    exact (sound.tidy registry found).find?_remove id

/-- **A session that is swept is gone.** -/
theorem session?_sweep (sound : h.front.Sound) {now : Int} {s : Session}
    (present : h.session? id = some s) (expired : s.isExpiredAt now = true) :
    (h.sweep now).2.session? id = none := by
  obtain ⟨registry, found, present⟩ := Option.bind_eq_some_iff.1 present
  have tidy := sound.tidy registry found
  obtain ⟨mem, rfl⟩ := tidy.find?_eq_some.1 present
  unfold sweep
  rw [found]
  refine (Front.session?_of_roll
    (roll_checkTimer { h with registry := _, released := _ }) s.id).trans ?_
  exact tidy.find?_sweep mem expired

/-- **A session that is logged out is gone.** -/
theorem session?_logOut (sound : h.front.Sound) (s : Session) :
    (h.logOut s).2.session? s.id = none :=
  session?_removeSession (sound.move (.ask h s.id (.logIn false))) s.id

/-- How the session with an id leaves the registry. -/
inductive Leaves (id : String) (h : Home) : Happening → Prop where
  /-- It is logged out by a request. -/
  | loggedOut (r : Request) (wanted : Route.ofRequest r = .ok .logout)
    (shown : r.sessionId? = some id) (letIn : LetsIn r h) : Leaves id h (.command (.request r))
  /-- It is removed. -/
  | removed : Leaves id h (.command (.removeSession id))
  /-- It is swept when it has expired. -/
  | swept (ms : Int) (s : Session) (present : h.session? id = some s)
    (expired : s.isExpiredAt ms = true) : Leaves id h (.command (.sweepAt ms))
  /-- It is evicted: it was there, and then it is not. -/
  | evicted (happening : Happening) (present : (h.session? id).isSome = true)
    (absent : (h.next happening).session? id = none) : Leaves id h happening

/-- Who is gone whatever the registry is, is gone, for without a registry nobody is there. -/
theorem session?_ofRegistry {reply : Registry → Reply × Home}
    (gone : ∀ registry, h.registry = some registry → (reply registry).2.session? id = none) :
    (h.ofRegistry reply).2.session? id = none := by
  unfold ofRegistry
  split
  · rename_i absent
    rw [session?, absent]
    rfl
  · exact gone _ ‹_›

/-- **Who leaves is gone.** -/
theorem session?_of_leaves (sound : h.front.Sound) {happening : Happening}
    (leaves : Leaves id h happening) : (h.next happening).session? id = none := by
  cases leaves with
  | loggedOut r wanted shown letIn =>
    obtain ⟨id', s, shown', found, answered⟩ := respond_of_letsIn sound.serves wanted rfl letIn
    cases shown.symm.trans shown'
    have same : s.id = id := id_of_session? found
    have gone := session?_logOut (sound.move (.ask h id (.accessAt h.now))) (s.accessAt h.now)
    change (h.respond r).2.session? id = none
    rw [answered, ← same]
    rw [← same] at gone
    exact gone
  | removed => exact session?_ofRegistry fun _ _ => session?_removeSession sound id
  | swept ms s present expired =>
    exact session?_ofRegistry fun _ _ => session?_sweep sound present expired
  | evicted happening present absent => exact absent

/-! ## Coming back -/

/-- An id has been drawn for a session on the way from one state to another. -/
def Issued (id : String) (h g : Home) : Prop :=
  ∃ r t, h.registry = some r ∧ g.registry = some t ∧ Registry.Issued id r t

/-- **Only an id that is drawn comes into the registry.** -/
theorem issued_of_next {happening : Happening} (gone : h.session? id = none) {s : Session}
    (back : (h.next happening).session? id = some s) : Issued id h (h.next happening) := by
  obtain ⟨t, after, present⟩ := Option.bind_eq_some_iff.1 back
  obtain ⟨r, before, grows⟩ := next_growsTo h happening t after
  refine ⟨r, t, before, after, ?_⟩
  have same : s.id = id := id_of_session? back
  have mem := List.mem_of_find?_eq_some present
  rcases grows.known s mem with ⟨u, hu, old⟩ | new
  · refine absurd gone ?_
    rw [session?, show h.registry = some r from before]
    exact fun absent => List.find?_eq_none.1 absent u hu (beq_iff_eq.2 (old.trans same))
  · rwa [same] at new

/-- **Who is gone comes back only under an id that is drawn again**, and stays from then on. -/
theorem exists_return {run : List Happening} (gone : h.session? id = none)
    (back : ((h.after run).session? id).isSome = true) :
    ∃ before happening later, run = before ++ happening :: later ∧
      (h.after before).session? id = none ∧
      Issued id (h.after before) (h.after (before ++ [happening])) ∧
      ∀ part, part <+: later →
        ((h.after (before ++ happening :: part)).session? id).isSome = true := by
  -- From the end of the run: its last happening brings the id back, or the id was back before.
  induction run using List.reverseRecOn with
  | nil =>
    rw [show h.after [] = h from rfl, gone] at back
    cases back
  | append_singleton run last ih =>
    cases present : (h.after run).session? id with
    | none =>
      obtain ⟨s, found⟩ := Option.isSome_iff_exists.1 back
      refine ⟨run, last, [], rfl, present, ?_, fun part hpart => ?_⟩
      · rw [after_concat] at found ⊢
        exact issued_of_next present found
      · rw [List.prefix_nil.1 hpart]
        exact back
    | some s =>
      obtain ⟨before, happening, later, rfl, absent, issued, stays⟩ :=
        ih (by rw [present]; rfl)
      refine ⟨before, happening, later ++ [last], by simp, absent, issued, fun part hpart => ?_⟩
      rcases List.prefix_concat_iff.1 hpart with rfl | short
      · simpa using back
      · exact stays part short

/-- **The gate of the sessions.**  At every moment of every run a request to a route for sessions is
let in iff it presents a session that is registered and logged in. It is then answered as that
session; otherwise it is refused as unauthorized, whatever else it says, and that is all.

Once a session was logged out, removed or evicted, a request that shows its id is let in only after
the id has been drawn again. From then on a session has been registered under it without a break,
and that session is logged in. -/
theorem let_in_by_session (h₀ : Home) (ui : Settings.Ui) (ids : Session.Candidates)
    (run : List Happening) :
    let h := (openRegistry ui ids { h₀ with servesSessions := true }).after run
    (∀ r route, Route.ofRequest r = .ok route → route.isProtected = true →
      (LetsIn r h ↔ Presents r h) ∧
      (LetsIn r h → ∃ id s, r.sessionId? = some id ∧ h.session? id = some s ∧
        let answer := (h.touch id).answerSession (s.accessAt h.now) r route
        h.respond r = (bodyFor r answer.1, answer.2)) ∧
      (¬LetsIn r h → h.respond r =
        (bodyFor r (.ofError .unauthorized), h.report [.refused .unauthorized]))) ∧
    ∀ id happening, Leaves id h happening →
      let left := h.next happening
      ∀ later r, r.sessionId? = some id → LetsIn r (left.after later) →
        ∃ before event rest, later = before ++ event :: rest ∧
          (left.after before).session? id = none ∧
          Issued id (left.after before) (left.after (before ++ [event])) ∧
          (∀ part, part <+: rest →
            ((left.after (before ++ event :: part)).session? id).isSome = true) ∧
          Serves id (left.after later) := by
  intro h
  have sound : h.front.Sound := after_sound (openRegistry_sound h₀ ui ids) run
  refine ⟨fun r route wanted guarded => ⟨letsIn_iff sound,
    respond_of_letsIn sound.serves wanted guarded,
    respond_of_not_letsIn sound.serves wanted guarded⟩, ?_⟩
  intro id happening leaves left later r shown letIn
  have serves := (after_sound (next_sound sound happening) later).serves
  obtain ⟨id', shown', s, found, login⟩ := (letsIn_iff_serves serves).1 letIn
  cases shown.symm.trans shown'
  have present : ((left.after later).session? id).isSome = true := by
    rw [found]
    rfl
  obtain ⟨before, event, rest, same, absent, issued, stays⟩ :=
    exists_return (session?_of_leaves sound leaves) present
  exact ⟨before, event, rest, same, absent, issued, stays, s, found, login⟩

/-- A session is let in; it is removed, and let in again when its id has been drawn again. -/
theorem let_in_by_session_again :
    let ids := Session.Candidates.scripted ["a"]
    let logsIn : List Happening :=
      [.command (.createSession none), .command (.onSession "a" (.logIn true))]
    let h := (openRegistry {} ids { ({} : Home) with servesSessions := true }).after logsIn
    Presents (question "GET") h ∧
      h.respond { question "GET" with sessions := [] } =
        (.ofError .unauthorized, h.report [.refused .unauthorized]) ∧
      ∃ before event rest, logsIn = before ++ event :: rest ∧
        Issued "a" ((h.next (.command (.removeSession "a"))).after before)
          ((h.next (.command (.removeSession "a"))).after (before ++ [event])) := by
  intro ids logsIn h
  obtain ⟨gate, leaving⟩ := let_in_by_session {} {} ids logsIn
  obtain ⟨presents, -, -⟩ := gate (question "GET") .updates rfl rfl
  obtain ⟨-, -, refused⟩ := gate { question "GET" with sessions := [] } .updates rfl rfl
  obtain ⟨before, event, rest, same, -, issued, -⟩ :=
    leaving "a" _ .removed logsIn (question "GET") (by decide) ⟨_, _, rfl⟩
  refine ⟨presents.1 ⟨_, _, rfl⟩, refused ?_, before, event, rest, same, issued⟩
  rintro ⟨s, g, accepted⟩
  cases accepted

end Home
end HomeMedia
