import HomeMedia.Proofs.Home.Turns
/-!
# What a request does to the front of a home server

Most requests leave the front alone, or record that a session was active. Besides, a request may
create a session and log it in, log a session out and remove it, or hand out or forget the pending
changes of the session that it shows (`Visit`, `respond_visit`). Only requests that say so do the
last two (`Request.wish?`), and for a session that is logged in they are answered accordingly,
whatever their method is (`respond_of_wish`).
-/

namespace HomeMedia

open Web (Request Response Route UpdatesAction)

/-- The session that a request shows and what it wants to do about the pending changes, if it asks
for that. -/
def Web.Request.wish? (r : Request) : Option (String × UpdatesAction) :=
  match Route.ofRequest r, r.sessionId?, r.updatesWord with
  | .ok .updates, some id, .ok word =>
    match UpdatesAction.ofString (word.getD "check") with
    | .ok action => some (id, action)
    | .error _ => none
  | _, _, _ => none

/-- A request with a wish, taken apart. -/
theorem Web.Request.of_wish?_eq_some {r : Request} {id : String} {action : UpdatesAction}
    (wish : r.wish? = some (id, action)) :
    Route.ofRequest r = .ok .updates ∧ r.sessionId? = some id ∧
      ∃ word, r.updatesWord = .ok word ∧
        UpdatesAction.ofString (word.getD "check") = .ok action := by
  unfold wish? at wish
  split at wish
  · rename_i word route shown written
    split at wish
    · rename_i asked
      cases wish
      exact ⟨route, shown, word, written, asked⟩
    · cases wish
  · cases wish

/-- A request for updates that shows an id and whose action can be read has a wish. -/
theorem Web.Request.wish?_eq_some {r : Request} {id : String} {action : UpdatesAction}
    {word : Option String} (route : Route.ofRequest r = .ok .updates)
    (shown : r.sessionId? = some id) (written : r.updatesWord = .ok word)
    (asked : UpdatesAction.ofString (word.getD "check") = .ok action) :
    r.wish? = some (id, action) := by
  simp only [wish?, route, shown, written, asked]

namespace Home

/-- The registered session with an id. -/
def session? (id : String) (h : Home) : Option Session := h.registry.bind fun r => r.find? id

/-- What a request can make of the front. -/
inductive Visit (r : Request) (h : Home) : Front → Prop where
  /-- It does nothing. -/
  | nothing : Visit r h h.front
  /-- There is no id for another session. -/
  | exhausted (route : Route.ofRequest r = .ok .login) (timeout : Nat)
    (cause : Session.IdsExhausted)
    (failed : (h.createSession timeout).1 = some (.error cause)) :
    Visit r h (h.createSession timeout).2.front
  /-- A new session is logged in. -/
  | loggedIn (route : Route.ofRequest r = .ok .login) (timeout : Nat) (s : Session)
    (user : String)
    (made : (h.createSession timeout).1 = some (.ok s)) :
    Visit r h ((h.createSession timeout).2.onRegistry fun registry =>
      registry.update s.id fun s => (s.put userKey user).setLoggedIn true).front
  /-- A session shows itself. -/
  | touched (id : String) : Visit r h (h.touch id).front
  /-- A session is logged out. -/
  | loggedOut (route : Route.ofRequest r = .ok .logout) (id : String) :
    Visit r h (((h.touch id).onRegistry fun registry =>
      registry.update id (Session.setLoggedIn false)).removeSession id).2.front
  /-- The pending changes are handed out. -/
  | told (id : String) (wish : r.wish? = some (id, .get)) :
    Visit r h ((h.touch id).onRegistry fun registry => registry.update id Session.told).front
  /-- The pending changes are forgotten. -/
  | cleared (id : String) (wish : r.wish? = some (id, .clear)) :
    Visit r h ((h.touch id).onRegistry fun registry => registry.update id Session.clear).front

/-! ## Who is calling -/

/-- The session that is found under an id has this id. -/
theorem id_of_session? {id : String} {s : Session} {h : Home} (found : h.session? id = some s) :
    s.id = id := by
  obtain ⟨r, -, found⟩ := Option.bind_eq_some_iff.1 found
  exact beq_iff_eq.1 (List.find?_some (p := fun s : Session => s.id == id) found)

/-- **A request with the id of a session that is logged in is let in**, and the session was seen
just now. -/
theorem authenticate_of_session? {r : Request} {h : Home} {id : String} {s : Session}
    (serves : h.servesSessions = true) (shown : r.sessionId? = some id)
    (found : h.session? id = some s) (loggedIn : s.loggedIn = true) :
    h.authenticate r = (.ok (s.accessAt h.now), h.touch id) := by
  unfold session? at found
  simp only [authenticate, shown, serves, Bool.not_true, Bool.false_eq_true, if_false, found,
    loggedIn, if_true]
  rfl

/-- **Only a live session that is logged in is let in.** Who is turned away leaves a report at
most. -/
theorem authenticate_cases (r : Request) (h : Home) :
    (∃ e events, h.authenticate r = (.error e, h.report events)) ∨
      ∃ id s, r.sessionId? = some id ∧ h.session? id = some s ∧ s.loggedIn = true ∧
        h.authenticate r = (.ok (s.accessAt h.now), h.touch id) := by
  have turnedAway : ∀ e, ∃ e' events, ((.error e, h) : Except Web.Error Session × Home) =
      (.error e', h.report events) := fun e => ⟨e, [], by rw [report_nil]⟩
  unfold authenticate
  split
  · exact .inl (turnedAway _)
  · rename_i id shown
    split
    · exact .inl ⟨_, _, rfl⟩
    · split
      · exact .inl (turnedAway _)
      · rename_i s found
        split
        · exact .inr ⟨id, s, shown, found, ‹_›, rfl⟩
        · exact .inl (turnedAway _)

/-! ## What is asked for -/

/-- Asking for a scan leaves the sessions alone. -/
theorem front_requestScan (s : Session) (r : Request) (h : Home) :
    (h.requestScan s r).2.front = h.front := by
  unfold requestScan
  split
  · rfl
  · split <;> rfl

/-- So does cancelling a task. -/
theorem front_cancelTask (written : Text.Bytes) (h : Home) :
    (h.cancelTask written).2.front = h.front := by
  unfold cancelTask
  split
  · rfl
  · exact (Backstage.invalidate _ h).front

/-- A login creates a session or does nothing. -/
theorem logIn_visit {r : Request} (route : Route.ofRequest r = .ok .login) (h : Home) :
    Visit r h (h.logIn r).2.front := by
  unfold logIn
  split
  · exact .nothing
  · dsimp only
    split
    · exact .nothing
    · split
      · exact .nothing
      · rename_i registry found
        split
        · exact .nothing
        · have made := Visit.loggedIn (h := h) route registry.ui.sessionTimeout
          have failed := Visit.exhausted (h := h) route registry.ui.sessionTimeout
          split
          · rename_i s g created
            rw [created] at made
            exact made s _ rfl
          · rename_i cause g created
            rw [created] at failed
            exact failed cause rfl
          · rename_i g created
            unfold createSession at created
            rw [found] at created
            dsimp only at created
            split at created <;> cases created

/-- What the answer to a wish does to the front. -/
theorem pollUpdates_visit {r : Request} {h : Home} {id : String} (s : Session)
    (route : Route.ofRequest r = .ok .updates) (shown : r.sessionId? = some id) (same : s.id = id) :
    Visit r h ((h.touch id).pollUpdates s r).2.front := by
  unfold pollUpdates
  split
  · exact .touched id
  · rename_i word written
    split
    · exact .touched id
    · exact .touched id
    · rename_i asked
      rw [same]
      exact .told id (Request.wish?_eq_some route shown written asked)
    · rename_i asked
      rw [same]
      exact .cleared id (Request.wish?_eq_some route shown written asked)

/-- What a request for a route of sessions does to the front. -/
theorem answerSession_visit {r : Request} {h : Home} {id : String} {route : Route} (s : Session)
    (wanted : Route.ofRequest r = .ok route) (shown : r.sessionId? = some id) (same : s.id = id) :
    Visit r h ((h.touch id).answerSession s r route).2.front := by
  cases route with
  | logout =>
    unfold answerSession logOut
    rw [same]
    exact .loggedOut wanted id
  | updates => exact pollUpdates_visit s wanted shown same
  | rescan =>
    unfold answerSession
    rw [front_requestScan]
    exact .touched id
  | cancel written =>
    unfold answerSession
    rw [front_cancelTask]
    exact .touched id
  | _ => exact .touched id

/-- To the front, answering a request is a visit. -/
theorem answer_visit {r : Request} {route : Route} (wanted : Route.ofRequest r = .ok route)
    (h : Home) : Visit r h (h.answer r route).2.front := by
  obtain ⟨response, quiet⟩ | ⟨rfl, login⟩ | ⟨stranger, caller⟩ := answer_cases r route h
  · rw [quiet]
    exact .nothing
  · rw [login]
    exact logIn_visit wanted h
  · rcases authenticate_cases r h with ⟨e, events, refused⟩ | ⟨id, s, shown, found, -, accepted⟩
    · rw [stranger _ _ refused]
      exact .nothing
    · rw [caller _ _ accepted]
      exact answerSession_visit (s.accessAt h.now) wanted shown
        (id_of_session? (s := s) found)

/-- What `HEAD` asks for is answered without the body. -/
def bodyFor (r : Request) (response : Response) : Response :=
  if r.method = "HEAD" then response.withoutBody else response

/-- Leaving out the body for `HEAD` leaves the status. -/
theorem status_bodyFor (r : Request) (response : Response) :
    (bodyFor r response).status = response.status := by
  unfold bodyFor Response.withoutBody
  split
  · split <;> rfl
  · rfl

/-- A request with a route is answered by what serves the route. -/
theorem respond_of_route {r : Request} {route : Route} (wanted : Route.ofRequest r = .ok route)
    (h : Home) : h.respond r = (bodyFor r (h.answer r route).1, (h.answer r route).2) := by
  rw [respond, wanted]
  rfl

/-- **What a request does to the front.** -/
theorem respond_visit (r : Request) (h : Home) : Visit r h (h.respond r).2.front := by
  unfold respond
  split
  · exact .nothing
  · rename_i route wanted
    exact answer_visit wanted h

/-- **A session that is logged in is granted its wish.**  This goes for both methods that the route
takes; they differ in whether the answer has a body. -/
theorem respond_of_wish {r : Request} {h : Home} {id : String} {action : UpdatesAction}
    {s : Session} (wish : r.wish? = some (id, action)) (serves : h.servesSessions = true)
    (found : h.session? id = some s) (loggedIn : s.loggedIn = true) :
    let answer : Response × Home := match action with
      | .check => (.json 200 (.object [("pending", .bool s.hasUpdates)]), h.touch id)
      | .get => (.json 200 (.object [("updates", .text s.updates.text)]),
          (h.touch id).onRegistry fun registry => registry.update id Session.told)
      | .clear => (.json 200 (.object [("cleared", .bool true)]),
          (h.touch id).onRegistry fun registry => registry.update id Session.clear)
    h.respond r =
      (if r.method = "HEAD" then answer.1.withoutBody else answer.1, answer.2) := by
  obtain ⟨route, shown, word, written, asked⟩ := Request.of_wish?_eq_some wish
  have known := authenticate_of_session? serves shown found loggedIn
  have same : (s.accessAt h.now).id = id := id_of_session? (s := s) found
  simp only [respond, route, answer, known, answerSession, pollUpdates, written, asked]
  cases action <;> simp only [same] <;> rfl

end Home
end HomeMedia
