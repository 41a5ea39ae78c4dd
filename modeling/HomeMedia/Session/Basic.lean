import HomeMedia.Number
import HomeMedia.Session.Updates
import HomeMedia.Text.Quoted
/-!
# Sessions

A session is one client of the web interface: its id, whether it is logged in, when it was last
active, a few texts kept for it, and the changes it has not been told yet. It ends when it has been
idle for longer than its timeout. Times are signed 64-bit milliseconds; a difference or a timeout
beyond that range counts as the greatest one.
-/

namespace HomeMedia

/-- One client of the web interface. -/
structure Session where
  /-- The id that the client shows. -/
  id : String
  /-- Seconds of idleness after which the session ends. -/
  timeout : Nat
  /-- The number of changes at which a full reload is asked for. -/
  maxUpdates : Nat
  /-- Whether someone is logged in. -/
  loggedIn : Bool := false
  /-- When the session was last active, in milliseconds. -/
  lastAccess : Int
  /-- Texts kept for the client, by key. -/
  scratch : List (String × String) := []
  /-- The changes it has not been told yet. -/
  pending : Session.Pending := .empty
  deriving DecidableEq, Repr

namespace Session

/-- The first characters of a text that take up exactly `size` bytes, if some do. -/
def front? : List Char → Nat → Option (List Char)
  | _, 0 => some []
  | [], _ + 1 => none
  | c :: cs, size + 1 =>
    if c.utf8Size ≤ size + 1 then (front? cs (size + 1 - c.utf8Size)).map (c :: ·) else none

/-- The id as log lines show it: its first eight bytes where they are characters, else all of it. -/
def logId (s : Session) : String :=
  match front? s.id.toList 8 with
  | some front => String.ofList front
  | none => s.id

/-- Records activity at a time. -/
def accessAt (now : Int) (s : Session) : Session := { s with lastAccess := now }

/-- Records that someone logged in or out. -/
def setLoggedIn (value : Bool) (s : Session) : Session := { s with loggedIn := value }

/-- Whether a session has been idle for longer than its timeout. -/
def isExpiredAt (now : Int) (s : Session) : Bool :=
  Number.clampSigned64 (1000 * s.timeout) < Number.clampSigned64 (now - s.lastAccess)

/-- Keeps a text under a key, in place of any other. -/
def put (key value : String) (s : Session) : Session :=
  { s with scratch := (key, value) :: s.scratch.filter fun entry => entry.1 != key }

/-- The text kept under a key. -/
def get? (s : Session) (key : String) : Option String := s.scratch.lookup key

/-- Notes that a container changed. -/
def changed (id : ObjectId) (s : Session) : Session :=
  { s with pending := s.pending.note s.maxUpdates id }

/-- Notes that several containers changed. -/
def changedAll (ids : List ObjectId) (s : Session) : Session :=
  { s with pending := s.pending.noteAll s.maxUpdates ids }

/-- Whether there is something to tell. -/
def hasUpdates (s : Session) : Bool := s.pending.isAny

/-- What there is to tell. -/
def updates (s : Session) : Updates := s.pending.take.1

/-- The session after it was told what there is to tell. -/
def told (s : Session) : Session := { s with pending := s.pending.take.2 }

/-- Forgets what there was to tell. -/
def clear (s : Session) : Session := { s with pending := .empty }

/-- A session in words; the id is shortened and the kept texts are left out. -/
def describe (s : Session) : String :=
  Text.record "Session" [
    ("id", Text.quoted s.logId),
    ("logged_in", Text.truth s.loggedIn),
    ("timeout_secs", toString s.timeout),
    ("last_access_ms", toString s.lastAccess)] true

end Session
end HomeMedia
