import HomeMedia.Number
import HomeMedia.Web.Request
/-!
# Which request means what

Paths are compared byte by byte, so a slash more or less makes another path. The number of a task
may be percent-encoded. A known path takes its own method only; one that takes `GET` takes `HEAD`
as well.
-/

namespace HomeMedia
namespace Web

open Text (Bytes)

/-- What a request asks for. -/
inductive Route where
  | welcome
  | health
  | liveness
  | login
  | logout
  | me
  | updates
  | tasks
  | rescan
  /-- Cancelling a task, with its number as written. -/
  | cancel (id : Bytes)
  deriving DecidableEq, Repr

namespace Route

/-- The path in front of the number of a task. -/
def taskFront : Bytes := Text.Utf8.ofString "/ui/tasks/"

/-- The paths that mean one thing. -/
def fixed : List (String × Route) := [
  ("/", welcome), ("/health", health), ("/health/live", liveness), ("/auth/login", login),
  ("/auth/logout", logout), ("/auth/me", me), ("/ui/updates", updates), ("/ui/tasks", tasks),
  ("/ui/tasks/rescan", rescan)]

/-- What a path means. -/
def ofPath? (path : Bytes) : Option Route :=
  match fixed.find? fun entry => Text.Utf8.ofString entry.1 == path with
  | some (_, route) => some route
  | none =>
    match Text.after? taskFront path with
    | some id => if id = [] ∨ id.contains 47 then none else some (cancel id)
    | none => none

/-- The method of a route. -/
def method : Route → String
  | login => "POST"
  | logout => "DELETE"
  | rescan => "POST"
  | cancel _ => "DELETE"
  | _ => "GET"

/-- Whether a route takes a method. -/
def takes (route : Route) (method : String) : Bool :=
  method == route.method || (route.method == "GET" && method == "HEAD")

/-- Whether a route is for sessions only. -/
def isProtected : Route → Bool
  | welcome => false
  | health => false
  | liveness => false
  | login => false
  | _ => true

/-- What a request asks for, or the status of a request that asks for nothing. -/
def ofRequest (r : Request) : Except Rejection Route :=
  match ofPath? r.path with
  | none => .error ⟨404⟩
  | some route => if route.takes r.method then .ok route else .error ⟨405⟩

/-- The number of a task, as written in a path. -/
def taskId (written : Bytes) : Except Rejection Nat :=
  match Text.Utf8.toString? (percentDecode written) with
  | none => .error ⟨400⟩
  | some text => (Number.readNat Number.max64 text.toList).mapError fun _ => ⟨400⟩

end Route
end Web
end HomeMedia
