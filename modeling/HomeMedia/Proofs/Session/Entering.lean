import HomeMedia.Proofs.Home.Refusals
import HomeMedia.Proofs.Json.Objects
import HomeMedia.Proofs.Session.Disclosure
import HomeMedia.Proofs.Settings.Accounts
/-!
# Logging in, and staying logged in

A login succeeds iff it names a user, the accounts allow it, and one of the next hundred candidates
is free (`succeeds_iff`). Then one session is added, which is logged in as the user, without the
blanks around the name (`respond_of_admitted`).

From then on whoever is registered under the id of the session is logged in as that user
(`Front.Knows`): turns and sweeps change nobody's user (`Front.Knows.step`), and whatever clients
do, they do it to their own sessions (`Front.Holds.next`). So the session goes on answering for the
user until it ends, and it ends only if it is logged out, removed or evicted (`Ends`).
-/

namespace HomeMedia

open Session (Registry Candidates)
open Settings (Accounts)
open Web (Login Request Response Route)

/-! ## Requests that log in -/

namespace Web

/-- The members of a login. -/
def loginSlots : List (Json.Reader.Slot Login) := [
  .ofText "username" fun value l => { l with user := value },
  .ofText "password" fun value l => { l with password := value }]

/-- A login as JSON. -/
def Login.toJson (login : Login) : Json :=
  .object [("username", .text login.user), ("password", .text login.password)]

/-- A login as it is sent. -/
def Login.request (login : Login) : Request :=
  { method := "POST", target := Text.Utf8.ofString "/auth/login"
    contentType := some (Text.Utf8.ofString "application/json")
    body := Text.Utf8.ofString login.toJson.render }

/-- A request is a login. -/
structure Request.IsLogin (r : Request) (login : Login) : Prop where
  /-- It asks for one. -/
  wanted : Route.ofRequest r = .ok .login
  /-- This is what is read from its body. -/
  read : r.json Login.reader = .ok login

/-- A login is read from its text. -/
theorem Login.reader_render (login : Login) :
    Login.reader (Text.Utf8.ofString login.toJson.render) = .ok (login, []) := by
  have answer := Json.Reader.reads_record loginSlots {} login.toJson [] (.inl rfl)
  rw [List.append_nil] at answer
  exact answer

/-- A short body that is declared as JSON is read by its reader. -/
theorem Request.json_of_read {α : Type} {reader : Json.Reader α} {r : Request} {value : α}
    {rest : Text.Bytes} (declared : (r.contentType.any fun declared =>
      (visible? declared).isSome && MediaType.isJson declared) = true)
    (short : r.body.length ≤ maxBody) (read : reader r.body = .ok (value, rest)) :
    r.json reader = .ok value := by
  rw [Request.json, declared, if_neg (by decide), if_neg (Nat.not_lt.2 short), read]

/-- The body of a login is the login as JSON. -/
theorem Login.body_request (login : Login) :
    login.request.body = Text.Utf8.ofString login.toJson.render := by
  rw [Login.request]

/-- **Any login can be sent**, as long as it is not too long. -/
theorem Login.isLogin_request (login : Login)
    (short : (Text.Utf8.ofString login.toJson.render).length ≤ Request.maxBody) :
    login.request.IsLogin login where
  wanted := by rfl
  read := by
    have declared : ((some (Text.Utf8.ofString "application/json")).any fun declared =>
        (Request.visible? declared).isSome && MediaType.isJson declared) = true := by decide
    rw [← login.body_request] at short
    exact Request.json_of_read declared short (login.body_request ▸ login.reader_render)

end Web

/-! ## Who is admitted -/

namespace Session

/-- Who is logged in, and as whom. -/
def IsKnownAs (user : String) (s : Session) : Prop :=
  s.loggedIn = true ∧ s.get? Home.userKey = some user

namespace Registry

variable {r : Registry} {login : Login} {user password : String}

/-- One of the next candidates is the id of no session. -/
def HasFreeId (r : Registry) : Prop :=
  ∃ n < maxIdAttempts, ∀ s ∈ r.sessions, s.id ≠ r.candidates.nth n

/-- A login is admitted. -/
structure Admits (r : Registry) (login : Login) : Prop where
  /-- It names a user. -/
  named : Text.trimmed login.user ≠ ""
  /-- No account is needed, or the password is the one of the user. -/
  right : r.ui.accountsEnabled = false ∨
    r.ui.accounts.get? (Text.trimmed login.user) = some login.password
  /-- There is an id for another session. -/
  free : r.HasFreeId

/-- A password is accepted if no accounts are needed, or if it is the user's. -/
theorem accepts_iff : r.accepts user password = true ↔
    r.ui.accountsEnabled = false ∨ r.ui.accounts.get? user = some password := by
  unfold accepts password?
  cases r.ui.accountsEnabled <;> simp

end Registry
end Session

namespace Home

variable {h : Home} {r : Request} {login : Login} {registry : Registry} {id user : String}

/-- **Where there is a free id, a session is created**, behind all others. -/
theorem createSession_of_free (found : h.registry = some registry) (free : registry.HasFreeId)
    (timeout : Nat) : ∃ s g t, h.createSession timeout = (some (.ok s), g) ∧
      g.registry = some t ∧ t.sessions = registry.sessions ++ [s] ∧
      (∀ u ∈ registry.sessions, u.id ≠ s.id) ∧ g.servesSessions = h.servesSessions := by
  unfold createSession
  rw [found]
  dsimp only
  rcases registry.create_eq timeout h.now with ⟨n, -, absent, -, s, same, created⟩ | ⟨all, -⟩
  · have id_eq : s.id = registry.candidates.nth n := congrArg Session.id same
    rw [created]
    refine ⟨s, _, _, rfl, registry_checkTimer rfl, rfl, ?_, congrArg Prod.fst (roll_checkTimer _)⟩
    rw [id_eq]
    exact Registry.isTaken_eq_false.1 absent
  · obtain ⟨n, small, absent⟩ := free
    cases (Registry.isTaken_eq_false.2 absent).symm.trans (all n small)

/-- Where there is no free id, no session is created. -/
theorem createSession_of_not_free (found : h.registry = some registry)
    (full : ¬registry.HasFreeId) (timeout : Nat) :
    ∃ cause g, h.createSession timeout = (some (.error cause), g) := by
  unfold createSession
  rw [found]
  dsimp only
  rcases registry.create_eq timeout h.now with ⟨n, small, absent, -⟩ | ⟨-, exhausted⟩
  · exact absurd ⟨n, small, Registry.isTaken_eq_false.1 absent⟩ full
  · rw [exhausted]
    exact ⟨_, _, rfl⟩

/-- **A login that is admitted** adds one session, which is logged in as the user. -/
theorem respond_of_admitted (asked : r.IsLogin login) (found : h.registry = some registry)
    (admitted : registry.Admits login) :
    ∃ s t, (h.respond r).1 = .json 200 (.object [("session_id", .text s.id)]) ∧
      (h.respond r).2.registry = some t ∧ t.sessions = registry.sessions ++ [s] ∧
      (∀ u ∈ registry.sessions, u.id ≠ s.id) ∧ s.IsKnownAs (Text.trimmed login.user) ∧
      (h.respond r).2.servesSessions = h.servesSessions := by
  obtain ⟨s, g, t, created, registered, grown, others, serves⟩ :=
    createSession_of_free found admitted.free registry.ui.sessionTimeout
  have right : registry.accepts (Text.trimmed login.user) login.password = true :=
    Registry.accepts_iff.2 admitted.right
  rw [respond_of_login asked.wanted]
  unfold logIn
  rw [asked.read]
  dsimp only
  rw [if_neg admitted.named, found]
  dsimp only
  rw [right, if_neg (by decide), created]
  dsimp only
  let entered := (s.put userKey (Text.trimmed login.user)).setLoggedIn true
  refine ⟨entered, _, rfl, congrArg (Option.map _) registered, ?_, others, ⟨rfl, rfl⟩, serves⟩
  change t.sessions.map _ = _
  rw [grown, List.map_append, List.map_singleton, if_pos (beq_self_eq_true s.id)]
  congr 1
  exact (List.map_congr_left fun u mem =>
    if_neg fun same => others u mem (beq_iff_eq.1 same)).trans (List.map_id _)

/-- No answer to an error succeeds. -/
theorem succeeds_ofError (e : Web.Error) : ¬(Response.ofError e).Succeeds := by
  have high : 300 ≤ e.status := by cases e <;> exact Nat.le_of_ble_eq_true rfl
  exact fun success => Nat.not_lt.2 high success.2

/-- **Which logins succeed.** -/
theorem succeeds_iff (asked : r.IsLogin login) (found : h.registry = some registry) :
    (h.respond r).1.Succeeds ↔ registry.Admits login := by
  constructor
  · rw [respond_of_login asked.wanted]
    unfold logIn
    rw [asked.read]
    dsimp only
    split
    · exact fun success => absurd success (succeeds_ofError _)
    · rename_i named
      rw [found]
      dsimp only
      cases right : registry.accepts (Text.trimmed login.user) login.password with
      | false => exact fun success => absurd success (succeeds_ofError _)
      | true =>
        rw [if_neg (by decide)]
        by_cases free : registry.HasFreeId
        · exact fun _ => ⟨named, Registry.accepts_iff.1 right, free⟩
        · obtain ⟨cause, g, failed⟩ :=
            createSession_of_not_free found free registry.ui.sessionTimeout
          rw [failed]
          exact fun success => absurd success (succeeds_ofError _)
  · intro admitted
    obtain ⟨s, t, answer, -⟩ := respond_of_admitted asked found admitted
    rw [answer]
    exact ⟨Nat.le_refl 200, (by decide : 200 < 300)⟩

end Home

/-! ## Staying known -/

namespace Session

variable {id user : String}

/-- Who is logged in as a user stays so, unless he is logged out or given another user directly. -/
theorem IsKnownAs.run {s : Session} (known : s.IsKnownAs user) {command : Command}
    (stays : command ≠ .logIn false) (keeps : ∀ name, command ≠ .put Home.userKey name) :
    (s.run command).2.IsKnownAs user := by
  cases command with
  | put key value =>
    have other : Home.userKey ≠ key := fun same => keeps value (same ▸ rfl)
    refine ⟨known.1, ?_⟩
    change List.lookup Home.userKey ((key, value) :: s.scratch.filter fun entry => entry.1 != key) =
      some user
    rw [List.lookup_cons, beq_eq_false_iff_ne.2 other, Accounts.lookup_filter_of_ne other]
    exact known.2
  | logIn value =>
    cases value with
    | false => exact absurd rfl stays
    | true => exact ⟨rfl, known.2⟩
  | _ => exact known

namespace Registry

variable {r t : Registry}

/-- Whoever is registered under an id is logged in as a user. -/
def Knows (id user : String) (r : Registry) : Prop :=
  ∀ s ∈ r.sessions, s.id = id → s.IsKnownAs user

/-- Somebody is registered under an id, and is logged in as a user. -/
structure Holds (id user : String) (r : Registry) : Prop where
  /-- There is somebody. -/
  present : ∃ s ∈ r.sessions, s.id = id
  /-- It is the user. -/
  knows : r.Knows id user

/-- A change that keeps the ids and the user keeps who is known. -/
theorem Knows.map (knows : r.Knows id user) {change : Session → Session}
    (same : t.sessions = r.sessions.map change) (keepsId : ∀ s, (change s).id = s.id)
    (keeps : ∀ s, s.id = id → s.IsKnownAs user → (change s).IsKnownAs user) :
    t.Knows id user := by
  intro s mem own
  rw [same] at mem
  obtain ⟨u, old, rfl⟩ := List.mem_map.1 mem
  rw [keepsId] at own
  exact keeps u own (knows u old own)

/-- It also keeps that somebody is registered. -/
theorem Holds.map (holds : r.Holds id user) {change : Session → Session}
    (same : t.sessions = r.sessions.map change) (keepsId : ∀ s, (change s).id = s.id)
    (keeps : ∀ s, s.id = id → s.IsKnownAs user → (change s).IsKnownAs user) :
    t.Holds id user := by
  refine ⟨?_, holds.knows.map same keepsId keeps⟩
  obtain ⟨s, mem, own⟩ := holds.present
  exact ⟨change s, same ▸ List.mem_map_of_mem mem, (keepsId s).trans own⟩

/-- Telling changes the sessions, or nothing. -/
theorem exists_map_announce (user : String) (ids : List ObjectId) (r : Registry) :
    ∃ change : Session → Session, (r.announce ids).sessions = r.sessions.map change ∧
      ∀ s, (change s).id = s.id ∧ (s.IsKnownAs user → (change s).IsKnownAs user) := by
  rw [announce_eq, changedAll, tell]
  split
  · exact ⟨_, (List.map_id _).symm, fun s => ⟨rfl, fun known => known⟩⟩
  · refine ⟨_, rfl, fun s => ?_⟩
    split
    · exact ⟨rfl, fun known => known⟩
    · exact ⟨rfl, fun known => known⟩

/-- Removing another session keeps it, too. -/
theorem Holds.remove (holds : r.Holds id user) {other : String} (differ : other ≠ id) :
    (r.remove other).Holds id user := by
  refine ⟨?_, fun s mem => holds.knows s (List.mem_of_mem_eraseP mem)⟩
  obtain ⟨s, mem, own⟩ := holds.present
  have kept : ¬(s.id == other) = true := fun same =>
    differ ((beq_iff_eq.1 same).symm.trans own)
  have left : s ∈ r.sessions.eraseP fun s => s.id == other :=
    (List.mem_eraseP_of_neg (p := fun s : Session => s.id == other) kept).2 mem
  exact ⟨s, left, own⟩

end Registry
end Session

namespace Home

variable {h : Home} {r : Request} {login : Login} {registry : Registry} {id user : String}

namespace Front

variable {f g : Front}

/-- Sessions can be looked up, and whoever is registered under an id is logged in as a user. -/
def Knows (id user : String) (f : Front) : Prop :=
  f.servesSessions = true ∧ ∀ r, f.registry = some r → r.Knows id user

/-- Besides, somebody is registered under the id. -/
def Holds (id user : String) (f : Front) : Prop :=
  f.servesSessions = true ∧ ∃ r, f.registry = some r ∧ r.Holds id user

/-- Who is known depends on the roll alone. -/
theorem Knows.of_roll (knows : f.Knows id user) (same : g.roll = f.roll) : g.Knows id user := by
  refine ⟨(congrArg Prod.fst same).trans knows.1, fun r found => ?_⟩
  obtain ⟨s, old, sessions, -⟩ := registry_of_roll same found
  exact fun u mem => knows.2 s old u (sessions ▸ mem)

/-- So does whether anybody is registered. -/
theorem Holds.of_roll (holds : f.Holds id user) (same : g.roll = f.roll) : g.Holds id user := by
  obtain ⟨serves, r, found, holds⟩ := holds
  obtain ⟨t, new, sessions, -⟩ := registry_of_roll same.symm found
  refine ⟨(congrArg Prod.fst same).trans serves, t, new, ?_, fun s mem => ?_⟩
  · rw [sessions]
    exact holds.present
  · rw [sessions] at mem
    exact holds.knows s mem

/-- Whoever is registered is found, and as the same user. -/
theorem Holds.session? (holds : f.Holds id user) :
    ∃ s, f.session? id = some s ∧ s.IsKnownAs user := by
  obtain ⟨-, r, found, ⟨s, mem, own⟩, knows⟩ := holds
  unfold Front.session?
  rw [found]
  have present : (r.sessions.find? fun s => s.id == id).isSome = true :=
    List.find?_isSome.2 ⟨s, mem, beq_iff_eq.2 own⟩
  obtain ⟨u, shown⟩ := Option.isSome_iff_exists.1 present
  have same := List.find?_some (p := fun s : Session => s.id == id) shown
  exact ⟨u, shown, knows u (List.mem_of_find?_eq_some shown) (beq_iff_eq.1 same)⟩

/-- **Turns change nobody's user.** -/
theorem Knows.step (knows : f.Knows id user) (step : Step f g) : g.Knows id user := by
  cases step with
  | beat h _ => exact knows.of_roll rfl
  | sweep h now =>
    unfold Home.sweep
    split
    · exact knows
    · rename_i r found
      refine of_roll (f := { h.front with registry := some (r.sweep now) }) ?_
        (roll_checkTimer { h with registry := _, released := _ })
      refine ⟨knows.1, fun t same => ?_⟩
      cases same
      exact fun s mem => knows.2 r found s (List.mem_of_mem_filter mem)
  | checkTimer h => exact knows.of_roll (roll_checkTimer h)
  | arm h => exact knows.of_roll (roll_arm h)
  | disarm h => exact knows.of_roll (roll_disarm h)
  | setStopped h stopped => exact knows.of_roll rfl
  | dropSchedule h => exact knows.of_roll rfl
  | announce h ids =>
    refine ⟨knows.1, fun t same => ?_⟩
    obtain ⟨r, found, rfl⟩ := Option.map_eq_some_iff.1 same
    obtain ⟨change, mapped, keeps⟩ := Registry.exists_map_announce user ids r
    exact (knows.2 r found).map mapped (fun s => (keeps s).1) fun s _ => (keeps s).2
  | leave h trace quiet => exact knows

/-- Sessions may change. -/
theorem Holds.map (holds : h.front.Holds id user) {change : Registry → Registry}
    (keeps : ∀ r, r.Holds id user → (change r).Holds id user) :
    (h.onRegistry change).front.Holds id user := by
  obtain ⟨serves, r, found, holds⟩ := holds
  exact ⟨serves, change r, congrArg (Option.map change) found, keeps r holds⟩

/-- A session that is asked something, and is not logged out or given another user, stays. -/
theorem Holds.ask (holds : h.front.Holds id user) {other : String} {command : Session.Command}
    (stays : other = id → command ≠ .logIn false)
    (keeps : other = id → ∀ name, command ≠ .put userKey name) :
    (h.ask other command).front.Holds id user := by
  refine holds.map fun r holds => holds.map rfl (fun s => ?_) fun s own known => ?_
  · split
    · exact s.id_run command
    · rfl
  · split
    · rename_i same
      have same : other = id := (beq_iff_eq.1 same).symm.trans own
      exact known.run (stays same) (keeps same)
    · exact known

/-- The same for a session that has left the registry, perhaps. -/
theorem Holds.askSession (holds : h.front.Holds id user) {other : String}
    {command : Session.Command} (stays : other = id → command ≠ .logIn false)
    (keeps : other = id → ∀ name, command ≠ .put userKey name) :
    (h.askSession other command).2.front.Holds id user := by
  unfold Home.askSession
  split
  · exact holds.ask stays keeps
  · split <;> exact holds

/-- That any session is seen keeps everybody registered. -/
theorem Holds.touch (holds : h.front.Holds id user) (other : String) :
    (h.touch other).front.Holds id user := by
  have asked : (h.ask other (.accessAt h.now)).front.Holds id user :=
    holds.ask (fun _ => nofun) fun _ => nofun
  exact asked

/-- So does telling them about changes. -/
theorem Holds.announce (holds : h.front.Holds id user) (ids : List ObjectId) :
    (h.onRegistry (Registry.announce ids)).front.Holds id user :=
  holds.map fun r holds => by
    obtain ⟨change, mapped, keeps⟩ := Registry.exists_map_announce user ids r
    exact holds.map mapped (fun s => (keeps s).1) fun s _ => (keeps s).2

/-- Another session may leave. -/
theorem Holds.removeSession (holds : h.front.Holds id user) {other : String} (differ : other ≠ id) :
    (h.removeSession other).2.front.Holds id user := by
  unfold Home.removeSession
  split
  · exact holds
  · refine of_roll ?_ (roll_checkTimer (onRegistry _ _))
    exact holds.map (h := { h with released := _ }) fun r holds => holds.remove differ

/-- Another session may be created. -/
theorem Holds.createSession (holds : h.front.Holds id user) (timeout : Nat) :
    (h.createSession timeout).2.front.Holds id user := by
  obtain ⟨serves, r, found, holds⟩ := holds
  have found : h.registry = some r := found
  unfold Home.createSession
  rw [found]
  dsimp only
  rcases r.create_cases timeout h.now with
    ⟨cause, candidates, drawn⟩ | ⟨s, candidates, drawn, free, -⟩
  · rw [drawn]
    exact ⟨serves, _, rfl, holds.present, holds.knows⟩
  · rw [drawn]
    refine of_roll ?_ (roll_checkTimer { h with registry := _, released := _ })
    obtain ⟨u, mem, own⟩ := holds.present
    refine ⟨serves, _, rfl, ⟨u, List.mem_append_left _ mem, own⟩, fun t among same => ?_⟩
    rcases List.mem_append.1 among with old | new
    · exact holds.knows t old same
    · rw [List.mem_singleton.1 new] at same
      exact absurd (own.trans same.symm) (Registry.isTaken_eq_false.1 free u mem)

end Front

/-! ## What ends a session -/

/-- What ends a session: it is logged out, by a request that shows it or directly; it is removed,
alone or with the registry; or it is evicted, when sessions are swept. -/
inductive Ends (id : String) (h : Home) : Happening → Prop where
  /-- It is logged out by a request. -/
  | loggedOut (r : Request) (wanted : Route.ofRequest r = .ok .logout)
    (shown : r.sessionId? = some id) : Ends id h (.command (.request r))
  /-- It is logged out directly. -/
  | closed : Ends id h (.command (.onSession id (.logIn false)))
  /-- It is removed. -/
  | removed : Ends id h (.command (.removeSession id))
  /-- The registry is dropped. -/
  | dropped : Ends id h (.command .dropRegistry)
  /-- It was there, and after something that is not done for a client it is not. -/
  | evicted (happening : Happening) (other : happening.isForClients = false)
    (present : (h.session? id).isSome = true) (absent : (h.next happening).session? id = none) :
    Ends id h happening

/-- **Requests leave a session alone**, unless they log it out. -/
theorem Front.Holds.respond (holds : h.front.Holds id user)
    (stays : Route.ofRequest r = .ok .logout → r.sessionId? ≠ some id) :
    (h.respond r).2.front.Holds id user := by
  by_cases wanted : Route.ofRequest r = .ok .logout
  · by_cases letIn : LetsIn r h
    · obtain ⟨other, s, shown, found, answered⟩ := respond_of_letsIn holds.1 wanted rfl letIn
      obtain rfl : s.id = other := id_of_session? found
      have differ : s.id ≠ id := fun same => stays wanted (same ▸ shown)
      have closed : ((h.touch s.id).ask s.id (.logIn false)).front.Holds id user :=
        (holds.touch s.id).ask (fun same => absurd same differ) fun same => absurd same differ
      rw [answered]
      exact closed.removeSession differ
    · rw [respond_of_not_letsIn holds.1 wanted rfl letIn]
      exact holds
  · have visit := respond_visit r h
    generalize (h.respond r).2.front = f at visit
    cases visit with
    | nothing => exact holds
    | exhausted _ timeout => exact holds.createSession timeout
    | loggedIn _ timeout s name made =>
      have kept := holds.createSession timeout
      refine kept.map fun r kept => kept.map rfl (fun t => by split <;> rfl) fun t own known => ?_
      -- The session that was created has an id of its own.
      refine (congrArg (Session.IsKnownAs user) (if_neg fun same => ?_)).mpr known
      obtain ⟨u, present, -⟩ := holds.session?
      have created : h.createSession timeout = (some (.ok s), (h.createSession timeout).2) :=
        Prod.ext made rfl
      have absent : h.session? id = none :=
        own ▸ beq_iff_eq.1 same ▸ (session?_of_created created).1
      cases absent.symm.trans present
    | touched other => exact holds.touch other
    | loggedOut route => exact absurd route wanted
    | told other =>
      have asked : ((h.touch other).ask other .take).front.Holds id user :=
        (holds.touch other).ask (fun _ => nofun) fun _ => nofun
      exact asked
    | cleared other =>
      have asked : ((h.touch other).ask other .clear).front.Holds id user :=
        (holds.touch other).ask (fun _ => nofun) fun _ => nofun
      exact asked

/-- Turns, the clock and commands that are not for clients end a session by idle time only. -/
theorem Front.Holds.next_aside (holds : h.front.Holds id user) {happening : Happening}
    (clients : happening.isForClients = false) (stays : ¬Ends id h happening) :
    (h.next happening).front.Holds id user := by
  have knows : (h.next happening).front.Knows id user := by
    refine (next_moves happening h).keep (P := Front.Knows id user) ?_
      ⟨holds.1, fun r found => ?_⟩
    · intro label f g ok move knows
      cases Happening.eq_turn_of_allows clients ok
      cases move with
      | turn step => exact knows.step step
    · obtain ⟨-, t, same, holds⟩ := holds
      cases same.symm.trans found
      exact holds.knows
  cases left : (h.next happening).session? id with
  | none =>
    obtain ⟨s, present, -⟩ := holds.session?
    exact absurd (.evicted happening clients (Option.isSome_iff_exists.2 ⟨s, present⟩) left) stays
  | some s =>
    obtain ⟨r, found, shown⟩ := Option.bind_eq_some_iff.1 left
    exact ⟨knows.1, r, found,
      ⟨s, List.mem_of_find?_eq_some shown, id_of_session? left⟩, knows.2 r found⟩

/-- What is done to the registry keeps somebody registered, if it does so in every registry. -/
theorem Front.Holds.ofRegistry (holds : h.front.Holds id user) {reply : Registry → Reply × Home}
    (each : ∀ r, (reply r).2.front.Holds id user) :
    (h.ofRegistry reply).2.front.Holds id user := by
  unfold Home.ofRegistry
  split
  · exact holds
  · exact each _

/-- **A session stays, and stays whose it is, until it ends.** -/
theorem Front.Holds.next (holds : h.front.Holds id user) {happening : Happening}
    (stays : ¬Ends id h happening)
    (keeps : ∀ name, happening ≠ .command (.onSession id (.put userKey name))) :
    (h.next happening).front.Holds id user := by
  cases clients : happening.isForClients with
  | false => exact holds.next_aside clients stays
  | true =>
    cases happening with
    | turn agent => cases clients
    | reloop loop => cases clients
    | command command =>
      cases command with
      | shutDownTimer => exact holds
      | createSession timeout =>
        refine holds.ofRegistry fun r => ?_
        have created := holds.createSession (timeout.getD r.ui.sessionTimeout)
        split
        · rename_i made
          rwa [made] at created
        · rename_i made
          rwa [made] at created
      | removeSession other =>
        refine holds.ofRegistry fun _ => holds.removeSession fun same => stays ?_
        rw [same]
        exact .removed
      | changed container =>
        refine holds.ofRegistry fun _ => ?_
        rw [Registry.changed_eq, ← Registry.announce_eq]
        exact holds.announce [container]
      | changedAll containers =>
        refine holds.ofRegistry fun _ => ?_
        rw [← Registry.announce_eq]
        exact holds.announce containers
      | announce containers => exact holds.ofRegistry fun _ => holds.announce containers
      | takeAll => exact holds.map fun r holds =>
          holds.map rfl (fun _ => rfl) fun _ _ known => known
      | dropRegistry => exact absurd .dropped stays
      | onSession other command =>
        refine holds.askSession (fun same out => stays ?_) fun same name put => keeps name ?_
        · rw [same, out]
          exact .closed
        · rw [same, put]
      | accessNow other => exact holds.askSession (fun _ => nofun) fun _ => nofun
      | request r => exact holds.respond fun wanted shown => stays (.loggedOut r wanted shown)
      | _ => cases clients

/-- **Through a whole run.** -/
theorem Front.Holds.after (holds : h.front.Holds id user) {run : List Happening}
    (stays : ∀ before e rest, run = before ++ e :: rest → ¬Ends id (h.after before) e)
    (keeps : ∀ name, .command (.onSession id (.put userKey name)) ∉ run) :
    (h.after run).front.Holds id user := by
  induction run using List.reverseRecOn with
  | nil => exact holds
  | append_singleton run last ih =>
    have kept := ih (fun before e rest same => stays before e (rest ++ [last]) (by simp [same]))
      fun name mem => keeps name (List.mem_append_left _ mem)
    rw [after_concat]
    exact kept.next (stays run last [] rfl) fun name same => keeps name (by simp [same])

/-- **A session is answered for its user.** -/
theorem respond_of_holds (holds : h.front.Holds id user) (wanted : Route.ofRequest r = .ok .me)
    (get : r.method = "GET") (shown : r.sessionId? = some id) :
    (h.respond r).1 = .json 200 (.object [("username", .text user)]) := by
  obtain ⟨s, present, login, name⟩ := holds.session?
  have accepted := authenticate_of_session? holds.1 shown present login
  rw [respond_of_route wanted, answer_of_accepted rfl accepted, bodyFor,
    if_neg (by rw [get]; decide)]
  change Response.json 200 (.object [("username", .text ((s.get? userKey).getD ""))]) = _
  rw [name]
  rfl

/-- An id can be shown in a header as it is. -/
def IsShowable (id : String) : Prop :=
  id ≠ "" ∧ Text.trimmed id = id ∧ ∀ b ∈ Text.Utf8.ofString id, Request.isVisible b = true

/-- An id that can be shown is read from the header as it is. -/
theorem sessionId?_of_isShowable (showable : IsShowable id)
    (shown : r.sessions.head? = some (Text.Utf8.ofString id)) : r.sessionId? = some id := by
  obtain ⟨filled, trimmed, visible⟩ := showable
  have seen : Request.visible? (Text.Utf8.ofString id) = some id := by
    rw [Request.visible?, if_pos (List.all_eq_true.2 visible), Text.Utf8.ofString,
      Text.Utf8.toString?_encode, String.ofList_toList]
  refine Request.sessionId?_eq_some_iff.2 ⟨_, shown, visible, ?_, filled⟩
  rw [← (Request.visible?_eq_some_iff.1 seen).2, trimmed]

/-- **Who can log in, and for how long.**  Any user and password can be sent as a login, up to the
length of a body. A login succeeds iff it names a user, no account is needed or the password is that
of the user, and one of the next hundred candidates is free. If it succeeds, exactly one session is
added, and its id is answered. From then on, whatever happens, every request that shows this id and
asks who is logged in is answered with the name of the user, until the session is logged out,
removed or evicted; only the user's name must not be changed past the web interface.

If the accounts were read from a text, everybody who has one can log in with it, and where accounts
are needed nobody else can. -/
theorem login_lasts (h : Home) (registry : Registry) (found : h.registry = some registry)
    (serves : h.servesSessions = true) :
    (∀ login : Login, (Text.Utf8.ofString login.toJson.render).length ≤ Request.maxBody →
      login.request.IsLogin login) ∧
    (∀ r login, r.IsLogin login →
      ((h.respond r).1.Succeeds ↔ Text.trimmed login.user ≠ "" ∧
        (registry.ui.accountsEnabled = false ∨
          registry.ui.accounts.get? (Text.trimmed login.user) = some login.password) ∧
        ∃ n < Session.maxIdAttempts, ∀ s ∈ registry.sessions, s.id ≠ registry.candidates.nth n) ∧
      ((h.respond r).1.Succeeds → ∃ s t,
        (h.respond r).1 = .json 200 (.object [("session_id", .text s.id)]) ∧
        (h.respond r).2.registry = some t ∧ t.sessions = registry.sessions ++ [s] ∧
        ∀ later : List Happening,
          (∀ before e rest, later = before ++ e :: rest →
            ¬Ends s.id ((h.respond r).2.after before) e) →
          (∀ name, .command (.onSession s.id (.put userKey name)) ∉ later) →
          ∀ ask : Request, Route.ofRequest ask = .ok .me → ask.method = "GET" →
            (ask.sessionId? = some s.id ∨
              IsShowable s.id ∧ ask.sessions.head? = some (Text.Utf8.ofString s.id)) →
            (((h.respond r).2.after later).respond ask).1 =
              .json 200 (.object [("username", .text (Text.trimmed login.user))]))) ∧
    ∀ raw accounts, Accounts.ofString raw = .ok accounts → registry.ui.accounts = accounts →
      (∀ user password, accounts.get? user = some password →
        ∀ r, r.IsLogin ⟨user, password⟩ → ((h.respond r).1.Succeeds ↔ registry.HasFreeId)) ∧
      (registry.ui.accountsEnabled = true → ∀ r login, r.IsLogin login →
        (h.respond r).1.Succeeds →
          accounts.get? (Text.trimmed login.user) = some login.password) := by
  refine ⟨Login.isLogin_request, fun r login asked => ⟨(succeeds_iff asked found).trans
    ⟨fun ok => ⟨ok.named, ok.right, ok.free⟩, fun ok => ⟨ok.1, ok.2.1, ok.2.2⟩⟩,
    fun success => ?_⟩, ?_⟩
  · obtain ⟨s, t, answer, registered, grown, others, known, same⟩ :=
      respond_of_admitted asked found ((succeeds_iff asked found).1 success)
    refine ⟨s, t, answer, registered, grown, fun later stays keeps ask wanted get shown => ?_⟩
    have holds : (h.respond r).2.front.Holds s.id (Text.trimmed login.user) := by
      refine ⟨same.trans serves, t, registered, ⟨s, by simp [grown], rfl⟩, fun u mem own => ?_⟩
      rw [grown] at mem
      rcases List.mem_append.1 mem with old | new
      · exact absurd own (others u old)
      · rw [List.mem_singleton.1 new]
        exact known
    refine respond_of_holds (holds.after stays keeps) wanted get ?_
    exact shown.elim id fun ⟨showable, head⟩ => sessionId?_of_isShowable showable head
  · rintro raw accounts read rfl
    refine ⟨fun user password account r asked => ?_, fun needed r login asked success => ?_⟩
    · obtain ⟨named, trimmed⟩ := Accounts.named_of_get? read account
      rw [succeeds_iff asked found]
      refine ⟨Registry.Admits.free, fun free => ⟨?_, .inr ?_, free⟩⟩
      · exact trimmed.symm ▸ named
      · exact trimmed.symm ▸ account
    · have admitted := (succeeds_iff asked found).1 success
      exact admitted.right.resolve_left fun free => by cases needed.symm.trans free

/-- A server that needs accounts, and has one. -/
def accountServer : Home :=
  openRegistry { accountsEnabled := true, accounts := ⟨[("ann", "secret")]⟩ } (.scripted ["a"]) {}

/-- A session asks who is logged in. -/
def askMe (id : String) : Request :=
  { method := "GET", target := Text.Utf8.ofString "/auth/me", sessions := [Text.Utf8.ofString id] }

/-- Somebody logs in with blanks around the name, and is known by the name after another login
failed. -/
theorem login_lasts_ann :
    let left := (accountServer.respond (Login.request ⟨" ann ", "secret"⟩)).2
    let later := left.next (.command (.request (Login.request ⟨"ann", "guess"⟩)))
    (later.respond (askMe "a")).1 = .json 200 (.object [("username", .text "ann")]) := by
  intro left later
  obtain ⟨sent, entering, -⟩ := login_lasts accountServer _ rfl rfl
  obtain ⟨succeeds, lasting⟩ := entering _ _ (sent ⟨" ann ", "secret"⟩ (by decide +kernel))
  obtain ⟨s, t, -, registered, grown, stays⟩ :=
    lasting (succeeds.2 ⟨by decide, .inr (by decide), 0, by decide, nofun⟩)
  have ids : left.registry.map (fun r => r.sessions.map Session.id) = some ["a"] := by
    decide +kernel
  have own : s.id = "a" := by
    rw [show left.registry = some t from registered, Option.map_some, grown] at ids
    exact (List.cons.inj (Option.some.inj ids)).1
  rw [own] at stays
  have showable : IsShowable "a" := ⟨by decide, by decide, by decide +kernel⟩
  have other : ∀ (r : Request) (name : String),
      Happening.command (.onSession "a" (.put userKey name)) ≠ .command (.request r) := nofun
  refine stays [.command (.request (Login.request ⟨"ann", "guess"⟩))]
    (fun before e rest same ends => ?_) (fun name mem => other _ name (List.mem_singleton.1 mem))
    (askMe "a") (by rfl) rfl (.inr ⟨showable, rfl⟩)
  rcases before with _ | ⟨first, before⟩
  · cases same
    cases ends with
    | loggedOut _ wanted => exact absurd wanted (by decide)
    | evicted _ other => cases other
  · cases before <;> cases same

end Home
end HomeMedia
