import HomeMedia.Proofs.Session.Gate
import HomeMedia.Proofs.Session.Renaming
/-!
# What responses tell of session ids

Let the ids of all sessions, the candidates for new ids and the id that a request shows be renamed.
Then a response stays word by word the same, with two exceptions (`respond_renamed`). A login that
succeeds hands out the id of the session that it has just created. And a login that finds no free id
fails with a wording that ends with the last candidate: that candidate is the id of a registered
session, and whoever asked gets to see it (`exhausted_login_shows_id`).

Two servers that differ by a renaming are compared answer by answer. All parts of a response but the
two exceptions are read off the queue, the files, the settings and what is kept for the session that
is let in; a renaming leaves these alone.
-/

namespace HomeMedia
namespace Home

open Session (Registry Renaming IdsExhausted)
open Web (Request Response Route)

variable (ρ : Renaming) {h g : Home} {r : Request}

/-- The server with renamed sessions and candidates. -/
def renamed (h : Home) : Home := { h with registry := h.registry.map (Registry.renamed ρ) }

/-- A session is found under its new name where it was found under the old one. -/
theorem session?_renamed (id : String) (h : Home) :
    (h.renamed ρ).session? (ρ.apply id) = (h.session? id).map (Session.renamed ρ) := by
  unfold session? renamed
  cases h.registry with
  | none => rfl
  | some registry => exact Registry.find?_renamed ρ id registry

/-- Creating a session answers the renamed session, or the renamed failure. -/
theorem createSession_renamed (timeout : Nat) (h : Home) :
    ((h.renamed ρ).createSession timeout).1 = (h.createSession timeout).1.map fun result =>
      (result.map (Session.renamed ρ)).mapError (IdsExhausted.renamed ρ) := by
  unfold createSession renamed
  cases h.registry with
  | none => rfl
  | some registry =>
    have created := Registry.create_renamed ρ timeout h.now registry
    rw [Option.map_some]
    dsimp only
    rw [show ({ h with registry := some (registry.renamed ρ) } : Home).now = h.now from rfl]
    cases drawn : registry.create timeout h.now with
    | mk result rest =>
      cases drawn' : (registry.renamed ρ).create timeout h.now with
      | mk result' rest' =>
        rw [drawn, drawn'] at created
        cases created
        cases result <;> rfl

/-! ## Requests of sessions -/

/-- The same requests are let in, for the renamed session. -/
theorem authenticate_renamed (r : Request) (h : Home) :
    ((h.renamed ρ).authenticate (r.renamed ρ)).1 =
      (h.authenticate r).1.map (Session.renamed ρ) := by
  unfold authenticate
  rw [Request.sessionId?_renamed]
  cases r.sessionId? with
  | none => rfl
  | some id =>
    rw [Option.map_some]
    dsimp only
    rw [show (h.renamed ρ).servesSessions = h.servesSessions from rfl]
    split
    · rfl
    · have found := session?_renamed ρ id h
      unfold session? at found
      rw [found]
      cases h.registry.bind fun registry => registry.find? id with
      | none => rfl
      | some s =>
        rw [Option.map_some]
        dsimp only
        rw [show (s.renamed ρ).loggedIn = s.loggedIn from rfl]
        split <;> rfl

/-- **What a session is answered does not depend on its id.** -/
theorem answerSession_renamed (s : Session) (r : Request) (route : Route)
    (work : g.work = h.work) (files : g.files = h.files) (root : g.mediaRoot = h.mediaRoot) :
    (g.answerSession (s.renamed ρ) (r.renamed ρ) route).1 = (h.answerSession s r route).1 := by
  cases route with
  | tasks =>
    change Response.json 200 g.taskList = Response.json 200 h.taskList
    rw [taskList, taskList, work]
  | updates =>
    change (g.pollUpdates (s.renamed ρ) (r.renamed ρ)).1 = (h.pollUpdates s r).1
    unfold pollUpdates
    rw [Request.updatesWord_renamed]
    cases r.updatesWord with
    | error rejection => rfl
    | ok word =>
      dsimp only
      cases Web.UpdatesAction.ofString (word.getD "check") with
      | error e => rfl
      | ok action => cases action <;> rfl
  | rescan =>
    change (g.requestScan (s.renamed ρ) (r.renamed ρ)).1 = (h.requestScan s r).1
    unfold requestScan
    rw [Request.json_renamed]
    cases r.json Web.rescanReader with
    | error rejection => rfl
    | ok requested =>
      have same : g.scanPath requested = h.scanPath requested := by
        rw [scanPath, scanPath, files, root]
      dsimp only
      rw [same]
      cases h.scanPath requested with
      | error e => rfl
      | ok path =>
        dsimp only [addTask]
        rw [work]
  | cancel written =>
    change (g.cancelTask written).1 = (h.cancelTask written).1
    unfold cancelTask
    cases Route.taskId written <;> rfl
  | _ => rfl

/-- **Behind the gate no answer depends on the names of sessions.** -/
theorem answer_renamed_of_guarded {route : Route} (guarded : route.isProtected = true)
    (r : Request) (h : Home) :
    ((h.renamed ρ).answer (r.renamed ρ) route).1 = (h.answer r route).1 := by
  have same := authenticate_renamed ρ r h
  rcases authenticate_cases r h with ⟨e, events, refused⟩ | ⟨id, s, -, -, -, accepted⟩
  · rcases authenticate_cases (r.renamed ρ) (h.renamed ρ) with
      ⟨e', events', refused'⟩ | ⟨id', s', -, -, -, accepted'⟩
    · rw [refused, refused'] at same
      cases same
      rw [answer_of_refused guarded refused, answer_of_refused guarded refused']
      rfl
    · rw [refused, accepted'] at same
      cases same
  · rcases authenticate_cases (r.renamed ρ) (h.renamed ρ) with
      ⟨e', events', refused'⟩ | ⟨id', s', -, -, -, accepted'⟩
    · rw [accepted, refused'] at same
      cases same
    · rw [accepted, accepted'] at same
      rw [answer_of_accepted guarded accepted, answer_of_accepted guarded accepted',
        Except.ok.inj same]
      exact answerSession_renamed ρ _ r route rfl rfl rfl

/-! ## Logins -/

/-- What the answers before and after a renaming have to do with each other. -/
inductive Corresponds (ρ : Renaming) (h g : Home) : Response → Response → Prop where
  /-- They are the same. -/
  | same (response : Response) : Corresponds ρ h g response response
  /-- They hand out the id of a session that was not there before and is there now. -/
  | created (id : String) (absent : h.session? id = none)
    (present : (g.session? id).isSome = true) :
    Corresponds ρ h g (.json 200 (.object [("session_id", .text id)]))
      (.json 200 (.object [("session_id", .text (ρ.apply id))]))
  /-- They tell of the last candidate. It is the id of a session, as are all the candidates. -/
  | exhausted (registry : Registry) (found : h.registry = some registry)
    (taken : ∀ n < Session.maxIdAttempts, registry.isTaken (registry.candidates.nth n) = true)
    (cause : IdsExhausted) (last : cause =
      ⟨Session.maxIdAttempts, registry.candidates.nth (Session.maxIdAttempts - 1)⟩) :
    Corresponds ρ h g (.ofError (.session cause)) (.ofError (.session (cause.renamed ρ)))

/-- A session that is created was not there before. -/
theorem session?_of_created {timeout : Nat} {s : Session}
    (made : h.createSession timeout = (some (.ok s), g)) :
    h.session? s.id = none ∧ g.session? s.id = some s := by
  rcases createSession_cases timeout h with
    ⟨-, none⟩ | ⟨registry, found, ⟨n, free, t, released, id, created⟩ | ⟨-, cause, -, exhausted⟩⟩
  · cases made.symm.trans none
  · cases made.symm.trans created
    have absent : registry.sessions.find? (fun t => t.id == s.id) = none :=
      List.find?_eq_none.2 fun t mem same =>
        Registry.isTaken_eq_false.1 (id ▸ free) t mem (beq_iff_eq.1 same)
    refine ⟨by rw [session?, found]; exact absent, ?_⟩
    refine (Front.session?_of_roll
      (roll_checkTimer { h with registry := _, released := _ }) _).trans ?_
    change List.find? _ (registry.sessions ++ [s]) = some s
    rw [List.find?_append, absent, Option.none_or]
    exact List.find?_cons_of_pos (beq_self_eq_true s.id)
  · cases made.symm.trans exhausted

/-- If no session can be created, all candidates were taken, and the failure shows the last one. -/
theorem exhausted_of_createSession {timeout : Nat} {cause : IdsExhausted}
    (failed : h.createSession timeout = (some (.error cause), g)) :
    ∃ registry, h.registry = some registry ∧
      (∀ n < Session.maxIdAttempts, registry.isTaken (registry.candidates.nth n) = true) ∧
      cause = ⟨Session.maxIdAttempts, registry.candidates.nth (Session.maxIdAttempts - 1)⟩ := by
  rcases createSession_cases timeout h with
    ⟨-, none⟩ |
      ⟨registry, found, ⟨n, -, t, released, -, created⟩ | ⟨taken, cause', last, exhausted⟩⟩
  · cases failed.symm.trans none
  · cases failed.symm.trans created
  · cases failed.symm.trans exhausted
    exact ⟨registry, found, taken, last⟩

/-- A login answers the renamed id, the renamed failure, or the same as before. -/
theorem logIn_corresponds (r : Request) (h : Home) :
    Corresponds ρ h (h.logIn r).2 (h.logIn r).1 ((h.renamed ρ).logIn (r.renamed ρ)).1 := by
  unfold logIn
  rw [Request.json_renamed]
  cases r.json Web.Login.reader with
  | error rejection => exact .same _
  | ok login =>
    dsimp only
    if blank : Text.trimmed login.user = "" then
      rw [if_pos blank, if_pos blank]
      exact .same _
    else
      rw [if_neg blank, if_neg blank]
      cases found : h.registry with
      | none =>
        rw [show (h.renamed ρ).registry = none by rw [renamed, found]; rfl]
        exact .same _
      | some registry =>
        rw [show (h.renamed ρ).registry = some (registry.renamed ρ) by rw [renamed, found]; rfl]
        dsimp only
        rw [show (registry.renamed ρ).accepts = registry.accepts from rfl,
          show (registry.renamed ρ).ui = registry.ui from rfl]
        split
        · exact .same _
        · have same := createSession_renamed ρ registry.ui.sessionTimeout h
          cases made : h.createSession registry.ui.sessionTimeout with
          | mk result g =>
            cases made' : (h.renamed ρ).createSession registry.ui.sessionTimeout with
            | mk result' g' =>
              rw [made, made'] at same
              cases result with
              | none =>
                cases same
                exact .same _
              | some result =>
                cases result with
                | error cause =>
                  cases same
                  obtain ⟨_, found, taken, last⟩ := exhausted_of_createSession made
                  exact .exhausted _ found taken cause last
                | ok s =>
                  cases same
                  obtain ⟨absent, present⟩ := session?_of_created made
                  refine .created s.id absent ?_
                  have changed := Front.session?_map g.front
                    (fun t => if t.id == s.id then
                      (t.put userKey (Text.trimmed login.user)).setLoggedIn true else t)
                    (fun t => by split <;> rfl) s.id
                  refine (congrArg Option.isSome changed).trans ?_
                  rw [Option.isSome_map, show g.front.session? s.id = some s from present]
                  rfl

/-- Nobody logs in with `HEAD`. -/
theorem method_ne_of_login (wanted : Route.ofRequest r = .ok .login) : r.method ≠ "HEAD" := by
  unfold Route.ofRequest at wanted
  split at wanted
  · cases wanted
  · split at wanted
    · rename_i taken
      cases wanted
      intro head
      rw [head] at taken
      exact absurd taken (by decide)
    · cases wanted

/-- So the body of the answer to a login is sent. -/
theorem respond_of_login (wanted : Route.ofRequest r = .ok .login) (h : Home) :
    h.respond r = h.logIn r := by
  rw [respond_of_route wanted, bodyFor, if_neg (method_ne_of_login wanted)]
  rfl

/-- **What responses tell of session ids.**  Rename the ids of all sessions, the candidates for new
ids and the id that a request shows. The response is the same, but for two cases. A login that
creates a session hands out the id of that session. And a login for which the next hundred
candidates all belong to sessions tells the last of them. -/
theorem respond_renamed (ρ : Renaming) (r : Request) (h : Home) :
    Corresponds ρ h (h.respond r).2 (h.respond r).1 ((h.renamed ρ).respond (r.renamed ρ)).1 := by
  cases wanted : Route.ofRequest r with
  | error rejection =>
    rw [respond, respond, Request.ofRequest_renamed, wanted]
    exact .same _
  | ok route =>
    have wanted' : Route.ofRequest (r.renamed ρ) = .ok route := wanted
    cases guarded : route.isProtected with
    | true =>
      rw [respond_of_route wanted, respond_of_route wanted', answer_renamed_of_guarded ρ guarded]
      exact .same _
    | false =>
      cases route with
      | login =>
        rw [respond_of_login wanted, respond_of_login wanted']
        exact logIn_corresponds ρ r h
      | welcome | health | liveness =>
        rw [respond_of_route wanted, respond_of_route wanted']
        exact .same _
      | _ => cases guarded

/-! ## The last candidate -/

/-- A login that is right fails if all candidates are taken, and tells the last one. -/
theorem logIn_of_taken {login : Web.Login} {registry : Registry}
    (read : r.json Web.Login.reader = .ok login) (named : Text.trimmed login.user ≠ "")
    (found : h.registry = some registry)
    (right : registry.accepts (Text.trimmed login.user) login.password = true)
    (taken : ∀ n, registry.isTaken (registry.candidates.nth n) = true) :
    (h.logIn r).1 = .ofError (.session
      ⟨Session.maxIdAttempts, registry.candidates.nth (Session.maxIdAttempts - 1)⟩) := by
  unfold logIn
  rw [read]
  dsimp only
  rw [if_neg named, found]
  dsimp only
  rw [right, if_neg (by decide)]
  rcases createSession_cases registry.ui.sessionTimeout h with
    ⟨absent, -⟩ | ⟨other, same, ⟨n, free, _⟩ | ⟨-, cause, last, exhausted⟩⟩
  · cases found.symm.trans absent
  · cases found.symm.trans same
    cases (taken n).symm.trans free
  · cases found.symm.trans same
    rw [exhausted, last]
    rfl

/-- An id. -/
def shownId : String := "0123456789abcdef0123456789abcdef"

/-- Another id. -/
def otherId : String := "fedcba9876543210fedcba9876543210"

/-- Someone logs in. -/
def loginRequest : Request :=
  { method := "POST", target := Text.Utf8.ofString "/auth/login"
    contentType := some (Text.Utf8.ofString "application/json")
    body := Text.Utf8.ofString "[\"eve\", \"\"]" }

/-- A server with one session. All candidates for new ids are the id of that session. -/
def exhaustedServer : Home :=
  (openRegistry {} (.scripted [shownId]) { ({} : Home) with servesSessions := true }).after
    [.command (.createSession none)]

/-- The first of the two is an id. -/
theorem isId_shownId : Session.IsId shownId := by decide

/-- So is the second. -/
theorem isId_otherId : Session.IsId otherId := by decide

/-- All candidates of the server are taken, and it needs no accounts. -/
theorem exists_registry_exhaustedServer : ∃ registry,
    exhaustedServer.registry = some registry ∧ registry.ui.accountsEnabled = false ∧
      (∀ n, registry.candidates.nth n = shownId) ∧ registry.isTaken shownId = true := by
  refine ⟨_, rfl, rfl, fun n => ?_, by decide⟩
  change [shownId][1 + n]?.getD shownId = shownId
  rw [Nat.add_comm]
  rfl

/-- The login fails at a server whose candidates are all the id of one session. -/
theorem respond_of_one_candidate {registry : Session.Registry} {id : String}
    (wanted : Route.ofRequest r = .ok .login) (read : r.json Web.Login.reader = .ok ⟨"eve", ""⟩)
    (found : h.registry = some registry) (unguarded : registry.ui.accountsEnabled = false)
    (candidates : ∀ n, registry.candidates.nth n = id) (taken : registry.isTaken id = true) :
    (h.respond r).1 = .ofError (.session ⟨Session.maxIdAttempts, id⟩) := by
  have right : registry.accepts (Text.trimmed "eve") "" = true :=
    if_neg (by rw [unguarded]; exact nofun)
  rw [respond_of_login wanted, logIn_of_taken read (by decide) found right
    fun n => (candidates n).symm ▸ taken, candidates]

/-- **A login shows the id of a session that it did not create.**  The server has one session, and
all candidates are its id. Under another name of that id the response to the same login is another.
-/
theorem exhausted_login_shows_id :
    let ρ := Session.Renaming.swap isId_shownId isId_otherId
    let response := (exhaustedServer.respond loginRequest).1
    let response' := ((exhaustedServer.renamed ρ).respond (loginRequest.renamed ρ)).1
    (exhaustedServer.session? shownId).isSome = true ∧
      response = .json 500 (.object [("code", .text "SESSION_ID_EXHAUSTED"),
        ("message", .text ("session error: could not find a free session id after 100 attempts " ++
          "(last: 0123456789abcdef0123456789abcdef)"))]) ∧
      response' = .json 500 (.object [("code", .text "SESSION_ID_EXHAUSTED"),
        ("message", .text ("session error: could not find a free session id after 100 attempts " ++
          "(last: fedcba9876543210fedcba9876543210)"))]) ∧
      response' ≠ response := by
  intro ρ response response'
  obtain ⟨registry, found, unguarded, candidates, taken⟩ := exists_registry_exhaustedServer
  have wanted : Route.ofRequest loginRequest = .ok .login := by decide
  have read : loginRequest.json Web.Login.reader = .ok ⟨"eve", ""⟩ := by rfl
  have other : ρ.apply shownId = otherId :=
    (ρ.apply_of_isId isId_shownId).trans (Equiv.swap_apply_left shownId otherId)
  have found' : (exhaustedServer.renamed ρ).registry = some (registry.renamed ρ) := by
    rw [renamed, found]
    rfl
  have taken' : (registry.renamed ρ).isTaken otherId = true := by
    rw [← other, Session.Registry.isTaken_renamed, taken]
  have first : response = .ofError (.session ⟨Session.maxIdAttempts, shownId⟩) :=
    respond_of_one_candidate wanted read found unguarded candidates taken
  have second : response' = .ofError (.session ⟨Session.maxIdAttempts, otherId⟩) :=
    respond_of_one_candidate (r := loginRequest.renamed ρ) wanted read found' unguarded
      (fun n => (congrArg ρ.apply (candidates n)).trans other) taken'
  refine ⟨by decide, first, second, fun same => ?_⟩
  rw [first, second] at same
  simp only [Response.ofError, Response.json, Response.mk.injEq, Web.Content.json.injEq,
    Option.some.injEq, Json.object.injEq, List.cons.injEq, Prod.mk.injEq, Json.text.injEq] at same
  exact absurd same (by decide)

end Home
end HomeMedia
