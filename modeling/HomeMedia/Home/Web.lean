import HomeMedia.Home.Basic
import HomeMedia.Rescan
import HomeMedia.Web.Response
import HomeMedia.Web.Route
/-!
# Answering requests

A request is first matched with a route. A route for sessions only then asks who is calling; only
after that are the query, the path and the body looked at, and nothing is done before all of them
are accepted. Showing a live, logged-in session counts as activity, whatever becomes of the request.
-/

namespace HomeMedia
namespace Home

open Web (Request Response Content Rejection Route Login UpdatesAction)

/-- The key under which a session keeps its user. -/
def userKey : String := "username"

/-- The version that the server reports. -/
def version : String := "0.1.0"

/-- Refuses a request. -/
def refuse (e : Web.Error) (h : Home) : Response × Home := (.ofError e, h.report [.refused e])

/-- Turns a request away by the rules of the protocol. -/
def reject (r : Rejection) (h : Home) : Response × Home := (⟨r.status, .none⟩, h)

/-- Who is calling: a live session that is logged in, whose activity is then recorded. -/
def authenticate (r : Request) (h : Home) : Except Web.Error Session × Home :=
  match r.sessionId? with
  | none => (.error .unauthorized, h)
  | some id =>
    if !h.servesSessions then
      (.error (.internal "session registry not configured"), h.report [.registryMissing])
    else
      match h.registry.bind fun registry => registry.find? id with
      | none => (.error .unauthorized, h)
      | some s =>
        if s.loggedIn then
          (.ok (s.accessAt h.now),
            h.onRegistry fun registry => registry.update id (Session.accessAt h.now))
        else (.error .unauthorized, h)

/-- Answers a login. -/
def logIn (r : Request) (h : Home) : Response × Home :=
  match r.json Login.reader with
  | .error rejection => h.reject rejection
  | .ok login =>
    let user := Text.trimmed login.user
    if user = "" then h.refuse (.invalid "username is required")
    else
      match h.registry with
      | none => h.refuse (.internal "session registry not configured")
      | some registry =>
        if !registry.accepts user login.password then
          (h.report [.loginRejected user]).refuse .invalidCredentials
        else
          match h.createSession registry.ui.sessionTimeout with
          | (some (.ok s), h) =>
            let h := h.onRegistry fun registry =>
              registry.update s.id fun s => (s.put userKey user).setLoggedIn true
            (.json 200 (.object [("session_id", .text s.id)]), h.report [.loggedIn user s.logId])
          | (some (.error cause), h) => h.refuse (.session cause)
          | (none, h) => h.refuse (.internal "session registry not configured")

/-- Answers a logout. -/
def logOut (s : Session) (h : Home) : Response × Home :=
  let h := h.onRegistry fun registry => registry.update s.id (Session.setLoggedIn false)
  (⟨204, .none⟩, (h.removeSession s.id).2.report [.loggedOut s.logId])

/-- Answers a question for pending changes. -/
def pollUpdates (s : Session) (r : Request) (h : Home) : Response × Home :=
  match r.updatesWord with
  | .error rejection => h.reject rejection
  | .ok word =>
    match UpdatesAction.ofString (word.getD "check") with
    | .error e => h.refuse e
    | .ok .check => (.json 200 (.object [("pending", .bool s.hasUpdates)]), h)
    | .ok .get => (.json 200 (.object [("updates", .text s.updates.text)]),
        h.onRegistry fun registry => registry.update s.id Session.told)
    | .ok .clear => (.json 200 (.object [("cleared", .bool true)]),
        h.onRegistry fun registry => registry.update s.id Session.clear)

/-- The task list. -/
def taskList (h : Home) : Json :=
  .object [("current", Json.ofOption (fun e => Web.taskJson (Work.Entry.view e)) h.work.current),
    ("queued", .list (h.work.list.map Web.taskJson))]

/-- The directory that a scan is asked for: absolute, or inside the media root. -/
def scanPath (requested : String) (h : Home) : Except Web.Error Path :=
  let requested := Text.trimmed requested
  if requested = "" then .error (.invalid "path is required")
  else
    let path := h.mediaRoot.join (Path.ofString requested)
    if h.files.isDirectory path then .ok path else .error (.notFound "directory" path.shown)

/-- A scan as a task. -/
def scanTask (path : Path) (cancellable : Bool) : Task :=
  { kind := .rescanDirectory, description := Rescan.description path, cancellable,
    scheduled := false, body := [.rescan path] }

/-- Answers a request for a scan. -/
def requestScan (s : Session) (r : Request) (h : Home) : Response × Home :=
  match r.json Web.rescanReader with
  | .error rejection => h.reject rejection
  | .ok requested =>
    match h.scanPath requested with
    | .error e => h.refuse e
    | .ok path =>
      let (id, h) := h.addTask (scanTask path true) none
      (.json 202 (.object [("task_id", .number id)]), h.report [.rescanRequested s.logId id path])

/-- Answers a request to cancel a task. -/
def cancelTask (written : Text.Bytes) (h : Home) : Response × Home :=
  match Route.taskId written with
  | .error rejection => h.reject rejection
  | .ok id => (⟨204, .none⟩, (h.invalidate id).2)

/-- Answers a request of a known session. -/
def answerSession (s : Session) (r : Request) (h : Home) : Route → Response × Home
  | .logout => h.logOut s
  | .me => (.json 200 (.object [("username", .text ((s.get? userKey).getD ""))]), h)
  | .updates => h.pollUpdates s r
  | .tasks => (.json 200 h.taskList, h)
  | .rescan => h.requestScan s r
  | .cancel id => h.cancelTask id
  | _ => h.reject ⟨404⟩

/-- Answers a request that matches a route. -/
def answer (r : Request) (h : Home) : Route → Response × Home
  | .welcome => (⟨200, .text "Welcome to Hearth - Home Media Server"⟩, h)
  | .health => (⟨200, .text "OK"⟩, h)
  | .liveness =>
    (.json 200 (.object [("status", .text "alive"), ("version", .text version)]), h)
  | .login => h.logIn r
  | route =>
    match h.authenticate r with
    | (.error e, h) => h.refuse e
    | (.ok s, h) => h.answerSession s r route

/-- Answers a request. -/
def respond (r : Request) (h : Home) : Response × Home :=
  match Route.ofRequest r with
  | .error rejection => h.reject rejection
  | .ok route =>
    let (response, h) := h.answer r route
    (if r.method = "HEAD" then response.withoutBody else response, h)

end Home
end HomeMedia
