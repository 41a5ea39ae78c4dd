import HomeMedia.Duration
import HomeMedia.Session.Basic
import HomeMedia.Session.Candidates
import HomeMedia.Settings.Ui
/-!
# The registry of sessions

The sessions stand in the order of their creation, under ids that differ from each other. The
registry needs the timer exactly while it holds a session; what it has to do about its subscription
is worked out here and done by whoever owns the timer. The number of sessions is kept beside the
list, so that a notice can be dropped without looking at the list when there is nobody to tell.

Only sessions that are logged in are told about changes.
-/

namespace HomeMedia
namespace Session

/-- How many ids are drawn before giving up. -/
def maxIdAttempts : Nat := 100

/-- Every id that was drawn belongs to a session already. -/
structure IdsExhausted where
  /-- How many ids were drawn. -/
  attempts : Nat
  /-- The last of them. -/
  lastId : String
  deriving DecidableEq, Repr

/-- The wording of the failure. -/
def IdsExhausted.message (e : IdsExhausted) : String :=
  "could not find a free session id after " ++ toString e.attempts ++ " attempts (last: " ++
    e.lastId ++ ")"

/-- The live sessions and what they are created with. -/
structure Registry where
  /-- The settings, with a cap and a sweep interval of at least one. -/
  ui : Settings.Ui
  /-- The sessions, oldest first. -/
  sessions : List Session := []
  /-- The number of sessions. -/
  count : Nat := 0
  /-- The subscription of the timer. -/
  subscription : Option Nat := none
  /-- Where new ids come from. -/
  candidates : Candidates

/-- What a registry has to do about its subscription. -/
inductive TimerNeed where
  | nothing
  | subscribe
  | unsubscribe (id : Nat)
  deriving DecidableEq, Repr

namespace Registry

/-- A registry without sessions; a cap or an interval of zero is raised to one. -/
def ofSettings (ui : Settings.Ui) (candidates : Candidates) : Registry :=
  { ui := { ui with maxUpdates := max ui.maxUpdates 1, sweepInterval := max ui.sweepInterval 1 }
    candidates }

/-- The live session with an id. -/
def find? (r : Registry) (id : String) : Option Session := r.sessions.find? fun s => s.id == id

/-- Whether an id belongs to a live session. -/
def isTaken (r : Registry) (id : String) : Bool := r.sessions.any fun s => s.id == id

/-- The registry with other sessions. -/
def withSessions (r : Registry) (sessions : List Session) : Registry :=
  { r with sessions, count := sessions.length }

/-- Creates a session under the first free id. -/
def create (timeout : Nat) (now : Int) (r : Registry) : Except IdsExhausted Session × Registry :=
  match r.candidates.drawFree r.isTaken maxIdAttempts with
  | (.error lastId, candidates) => (.error ⟨maxIdAttempts, lastId⟩, { r with candidates })
  | (.ok id, candidates) =>
    let s : Session := { id, timeout, maxUpdates := r.ui.maxUpdates, lastAccess := now }
    (.ok s, { r with candidates }.withSessions (r.sessions ++ [s]))

/-- Removes the session with an id. -/
def remove (id : String) (r : Registry) : Registry :=
  r.withSessions (r.sessions.eraseP fun s => s.id == id)

/-- Changes the session with an id. -/
def update (id : String) (f : Session → Session) (r : Registry) : Registry :=
  { r with sessions := r.sessions.map fun s => if s.id == id then f s else s }

/-- The sessions that have been idle for too long. -/
def expired (now : Int) (r : Registry) : List Session := r.sessions.filter (isExpiredAt now)

/-- Removes the sessions that have been idle for too long. -/
def sweep (now : Int) (r : Registry) : Registry :=
  r.withSessions (r.sessions.filter fun s => !s.isExpiredAt now)

/-- Tells every session that is logged in. -/
def tell (notice : Session → Session) (r : Registry) : Registry :=
  if r.count = 0 then r
  else { r with sessions := r.sessions.map fun s => if s.loggedIn then notice s else s }

/-- Tells that a container changed. -/
def changed (id : ObjectId) : Registry → Registry := tell (Session.changed id)

/-- Tells that several containers changed. -/
def changedAll (ids : List ObjectId) : Registry → Registry := tell (Session.changedAll ids)

/-- Tells what a task reports, one container by the short way. -/
def announce : List ObjectId → Registry → Registry
  | [id] => changed id
  | ids => changedAll ids

/-- What there is to do about the subscription: there is one exactly while there are sessions. -/
def timerNeed (r : Registry) : TimerNeed :=
  match r.sessions.isEmpty, r.subscription with
  | false, none => .subscribe
  | true, some id => .unsubscribe id
  | _, _ => .nothing

/-- Nanoseconds between two sweeps. -/
def sweepNanos (r : Registry) : Nat := r.ui.sweepInterval * Duration.second

/-- The password of a user. -/
def password? (r : Registry) (user : String) : Option String := r.ui.accounts.get? user

/-- Whether a login is right; without accounts every login is. -/
def accepts (r : Registry) (user password : String) : Bool :=
  if r.ui.accountsEnabled then r.password? user == some password else true

end Registry
end Session
end HomeMedia
