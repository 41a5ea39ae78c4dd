import HomeMedia.Duration
import HomeMedia.Task.Basic
import HomeMedia.Web.Error
/-!
# The log

What the server reports while it runs is a list of events. An event is a fact; the line it is
written as (level, message and named fields) is worked out from it in one place. Some facts, such as
that a task was added, are kept without a line.
-/

namespace HomeMedia

/-- How loud a line is. -/
inductive Log.Level where
  | info
  | warn
  | error
  deriving DecidableEq, Repr

/-- The name of a level. -/
def Log.Level.name : Log.Level → String
  | info => "INFO"
  | warn => "WARN"
  | error => "ERROR"

/-- A line of the log. -/
structure Log.Line where
  /-- How loud it is. -/
  level : Log.Level
  /-- What happened. -/
  message : String
  /-- The particulars. -/
  fields : List (String × String) := []
  deriving DecidableEq, Repr

/-- Something worth reporting. -/
inductive Event where
  /-- A task was added to the queue. -/
  | taskQueued (id : Task.Id) (kind : Task.Kind) (description : String)
  /-- The worker took up a task. -/
  | taskStarted (id : Task.Id) (kind : Task.Kind) (description : String) (valid : Bool)
  /-- A task ended without failing. -/
  | taskEnded (id : Task.Id) (kind : String) (outcome : Task.Outcome)
  /-- A task failed. -/
  | taskFailed (id : Task.Id) (kind : String) (error : Task.Error)
  /-- Tasks were cancelled by the id of one. -/
  | tasksInvalidated (id : Task.Id) (count : Nat)
  /-- The worker was asked to stop once the queue is empty. -/
  | stopRequested (waiting : Nat)
  /-- The worker stopped because nobody is left to use it. -/
  | queueAbandoned
  /-- A subscription asked for too short an interval. -/
  | intervalRaised (subscription : Nat) (nanos : Nat)
  /-- A fetch turned to its service. -/
  | refreshStarted (service : String) (scheduled : Bool)
  /-- A fetch ended with an answer. -/
  | refreshEnded (service : String) (containers : Nat) (outcome : Task.Outcome)
  /-- A scan set out. -/
  | rescanStarted (path : Path)
  /-- A scan stopped early. -/
  | rescanCancelled (path : Path) (added : Nat)
  /-- A scan could not read an entry. -/
  | entrySkipped
  /-- The store refused a file. -/
  | fileRefused (path : Path) (error : Task.Error)
  /-- A scan got through. -/
  | rescanCompleted (path : Path) (added skipped errors containers : Nat)
  /-- Settings of the web interface were raised to usable ones. -/
  | settingsRaised (conflict : Settings.Conflict)
  /-- No free session id turned up. -/
  | idsExhausted (cause : Session.IdsExhausted)
  /-- Idle sessions were removed. -/
  | sessionsSwept (evicted remaining : Nat)
  /-- Someone failed to log in. -/
  | loginRejected (user : String)
  /-- Someone logged in. -/
  | loggedIn (user session : String)
  /-- Someone logged out. -/
  | loggedOut (session : String)
  /-- Someone asked for a scan. -/
  | rescanRequested (session : String) (id : Task.Id) (path : Path)
  /-- The web interface has no registry of sessions. -/
  | registryMissing
  /-- A request was refused. -/
  | refused (error : Web.Error)
  /-- Anyone may log in to a server that runs in production. -/
  | openProduction
  /-- An allowed origin cannot stand in a header. -/
  | originSkipped (origin : String)
  /-- No allowed origin can stand in a header. -/
  | noOriginLeft
  /-- Some origins are allowed. -/
  | originsAllowed (count : Nat) (origins : List String)
  /-- No origins were listed in production. -/
  | originsUnset
  /-- No origins were listed elsewhere, and all are allowed. -/
  | originsOpen
  /-- The server starts. -/
  | serverStarting (port : Nat) (stage : String) (library : Path)
  /-- The first scan of the library is queued. -/
  | initialScan (id : Task.Id)
  /-- There is no library to scan. -/
  | noLibrary (path : Path)
  /-- The first refresh of the catalog is queued. -/
  | initialRefresh (id : Task.Id) (scheduled : Bool)
  deriving DecidableEq, Repr

namespace Event

/-- The line of a failed task, as loud as the failure is serious. -/
def failureLine (id : Task.Id) (kind : String) (error : Task.Error) : Log.Line :=
  let fields := [("error", error.message), ("task_id", toString id), ("kind", kind)]
  match error.severity with
  | .critical => ⟨.error, "Critical task failure", fields⟩
  | .error => ⟨.error, "Task failed", fields⟩
  | .warning => ⟨.warn, "Task failed", fields⟩
  | .info => ⟨.info, "Task did not run", fields⟩

/-- The line of a refused request, if it is worth one. -/
def refusalLine? (error : Web.Error) : Option Log.Line :=
  let fields :=
    [("error", error.message), ("code", error.code), ("status", toString error.status)]
  if 500 ≤ error.status then some ⟨.error, "Server error occurred", fields⟩
  else if error.status = 401 then some ⟨.warn, "Authorization error", fields⟩
  else none

/-- The line of an event, if it is worth one. -/
def line? : Event → Option Log.Line
  | taskQueued _ _ _ => none
  | taskStarted id kind description valid => some ⟨.info, "Task started",
      [("task_id", toString id), ("kind", kind.name), ("description", description),
        ("valid", Text.truth valid)]⟩
  | taskEnded id kind .completed => some ⟨.info, "Task completed",
      [("task_id", toString id), ("kind", kind)]⟩
  | taskEnded id kind .cancelled => some ⟨.info, "Task cancelled",
      [("task_id", toString id), ("kind", kind)]⟩
  | taskFailed id kind error => some (failureLine id kind error)
  | tasksInvalidated id count => some ⟨.info, "Task invalidated",
      [("task_id", toString id), ("invalidated", toString count)]⟩
  | stopRequested waiting => some ⟨.info, "Task processor shutting down",
      [("pending", toString waiting)]⟩
  | queueAbandoned => some
      ⟨.warn, "Task processor dropped without shutdown, abandoning queue", []⟩
  | intervalRaised subscription nanos => some
      ⟨.warn, "Timer interval too short, using minimum",
        [("subscription", "sub-" ++ toString subscription), ("requested", Duration.text nanos)]⟩
  | refreshStarted service scheduled => some ⟨.info, "Refreshing online service",
      [("service", service), ("scheduled", Text.truth scheduled)]⟩
  | refreshEnded service containers .completed => some ⟨.info, "Online refresh completed",
      [("service", service), ("containers", toString containers)]⟩
  | refreshEnded service containers .cancelled => some ⟨.info, "Online refresh cancelled",
      [("service", service), ("containers", toString containers)]⟩
  | rescanStarted path => some ⟨.info, "Starting directory rescan", [("path", path.shown)]⟩
  | rescanCancelled path added => some ⟨.info, "Directory rescan cancelled",
      [("path", path.shown), ("added", toString added)]⟩
  | entrySkipped => some ⟨.warn, "Skipping unreadable directory entry", []⟩
  | fileRefused path error => some ⟨.warn, "Failed to add file",
      [("path", path.shown), ("error", error.message)]⟩
  | rescanCompleted path added skipped errors containers => some
      ⟨.info, "Directory rescan completed",
        [("path", path.shown), ("added", toString added), ("skipped", toString skipped),
          ("errors", toString errors), ("containers", toString containers)]⟩
  | settingsRaised conflict => some
      ⟨.warn, "Invalid UI configuration, clamping to usable values",
        [("error", (Settings.Error.conflict conflict).message)]⟩
  | idsExhausted cause => some
      ⟨.error, "Session id generator keeps returning ids already in use",
        [("attempts", toString cause.attempts), ("last_id", cause.lastId)]⟩
  | sessionsSwept evicted remaining => some ⟨.info, "Expired sessions swept",
      [("evicted", toString evicted), ("remaining", toString remaining)]⟩
  | loginRejected user => some ⟨.info, "Rejected UI login", [("username", user)]⟩
  | loggedIn user session => some ⟨.info, "UI login", [("username", user), ("session", session)]⟩
  | loggedOut session => some ⟨.info, "UI logout", [("session", session)]⟩
  | rescanRequested session id path => some ⟨.info, "Rescan requested from UI",
      [("session", session), ("task_id", toString id), ("path", path.shown)]⟩
  | registryMissing => some
      ⟨.error, "Session rejected: session manager missing from extensions", []⟩
  | refused error => refusalLine? error
  | openProduction => some ⟨.warn, "UI accounts are disabled in production mode. " ++
      "Set UI_ACCOUNTS_ENABLED and UI_ACCOUNTS to require a login.", []⟩
  | originSkipped origin => some ⟨.warn, "Invalid CORS origin '" ++ origin ++ "', skipping", []⟩
  | noOriginLeft => some
      ⟨.error, "No valid CORS origins configured, CORS requests will be rejected", []⟩
  | originsAllowed count origins => some ⟨.info, "CORS configured with " ++ toString count ++
      " allowed origin(s): " ++ Text.quotedList origins, []⟩
  | originsUnset => some ⟨.warn, "CORS_ORIGINS not configured in production mode. " ++
      "CORS requests will be rejected.", []⟩
  | originsOpen => some ⟨.warn, "Using permissive CORS in development mode", []⟩
  | serverStarting port stage library => some ⟨.info, "Starting Hearth server",
      [("port", toString port), ("environment", stage), ("library", library.shown)]⟩
  | initialScan id => some ⟨.info, "Initial library scan queued", [("task_id", toString id)]⟩
  | noLibrary path => some
      ⟨.warn, "Media library path is not a directory, skipping initial scan",
        [("path", path.shown)]⟩
  | initialRefresh id scheduled => some ⟨.info, "Initial catalog refresh queued",
      [("task_id", toString id), ("scheduled", Text.truth scheduled)]⟩

/-- The lines of a run of events. -/
def lines (events : List Event) : List Log.Line := events.filterMap line?

end Event
end HomeMedia
