import HomeMedia.Session.Basic
/-!
# What can be asked of a session

Every use of a session is one command, answered by one reply. Times are given by the caller.
-/

namespace HomeMedia
namespace Session

/-- What can be asked of a session. -/
inductive Command where
  /-- Keeps a text under a key. -/
  | put (key value : String)
  /-- The text under a key. -/
  | get (key : String)
  /-- Notes that a container changed. -/
  | changed (id : ObjectId)
  /-- Notes that several containers changed. -/
  | changedAll (ids : List ObjectId)
  /-- Hands out the pending changes. -/
  | take
  /-- Whether changes are pending. -/
  | has
  /-- Forgets the pending changes. -/
  | clear
  /-- Records that someone logged in or out. -/
  | logIn (value : Bool)
  /-- Records activity. -/
  | accessAt (ms : Int)
  /-- Whether the session is expired. -/
  | isExpired (ms : Int)
  /-- All that is known of the session. -/
  | inspect
  deriving DecidableEq, Repr

/-- What a session answers. -/
inductive Reply where
  | nothing
  | text (value : Option String)
  | flag (value : Bool)
  | updates (value : Updates)
  | session (value : Session)
  deriving DecidableEq, Repr

/-- Does what is asked. -/
def run (s : Session) : Command → Reply × Session
  | .put key value => (.nothing, s.put key value)
  | .get key => (.text (s.get? key), s)
  | .changed id => (.nothing, s.changed id)
  | .changedAll ids => (.nothing, s.changedAll ids)
  | .take => (.updates s.updates, s.told)
  | .has => (.flag s.hasUpdates, s)
  | .clear => (.nothing, s.clear)
  | .logIn value => (.nothing, s.setLoggedIn value)
  | .accessAt ms => (.nothing, s.accessAt ms)
  | .isExpired ms => (.flag (s.isExpiredAt ms), s)
  | .inspect => (.session s, s)

/-- Asks one thing after the other. -/
def runAll (s : Session) : List Command → List Reply × Session
  | [] => ([], s)
  | command :: more =>
    let (reply, s) := s.run command
    let (replies, s) := s.runAll more
    (reply :: replies, s)

end Session
end HomeMedia
