import HomeMedia.Home.Web
import HomeMedia.Home.Worker
import HomeMedia.Session.Command
/-!
# What can be asked of a home server

Everything that happens to a home server from outside is one command, answered by one reply. Unless
it is asked not to wait, a command is followed by letting all agents have their turns until they
wait.

Sessions are known to their clients by id and stay usable after they have left the registry; what
belongs to the registry, the schedule or the queue is gone once that is dropped.
-/

namespace HomeMedia
namespace Home

/-- What can be asked of a home server. -/
inductive Command where
  /-- Does nothing. -/
  | settle
  | sleep (ms : Nat)
  | jump (ms : Nat)
  | fire
  | fireTimes (times : Nat)
  | intervalOf (id : Timer.SubscriptionId)
  | shutDownTimer
  /-- Creates a session, by default with the timeout of the settings. -/
  | createSession (timeout : Option Nat)
  | findSession (id : String)
  | removeSession (id : String)
  | changed (id : ObjectId)
  | changedAll (ids : List ObjectId)
  | announce (ids : List ObjectId)
  | sweepAt (ms : Int)
  | sweep
  | checkTimer
  | password (user : String)
  | accepts (user password : String)
  | settings
  | liveSessions
  | takeAll
  | dropRegistry
  | onSession (id : String) (command : Session.Command)
  | accessNow (id : String)
  | lastAccess (id : String)
  | addTask (task : Task) (parent : Option Task.Id)
  | listTasks
  | currentTask
  | invalidate (id : Task.Id)
  | release (gate : String)
  | requestStop
  | dropWork
  | startSchedule
  | stopSchedule
  | refreshNow (unscheduled : Bool)
  | dropSchedule
  | directoryId (path : Path)
  | request (request : Web.Request)

/-- What a home server answers. -/
inductive Reply where
  | nothing
  /-- What was asked is not there any more. -/
  | gone
  /-- No client knows of the session. -/
  | noSession
  | flag (value : Bool)
  | count (value : Nat)
  | number (value : Option Int)
  | created (result : Except Session.IdsExhausted String)
  | text (value : Option String)
  | settings (timeout : Nat) (accountsEnabled : Bool)
  | ids (ids : List String)
  | updates (updates : List (String × Session.Updates))
  | session (reply : Session.Reply)
  | task (id : Task.Id)
  | tasks (views : List Task.View)
  | current (view : Option Task.View)
  | response (response : Web.Response)

/-- The sessions that clients know of, in the order of their ids. -/
def held (h : Home) : List Session :=
  (((h.registry.map Session.Registry.sessions).getD []) ++ h.released).mergeSort
    fun s t => !decide (t.id < s.id)

/-- Something asked of a session. -/
def askSession (id : String) (command : Session.Command) (h : Home) : Reply × Home :=
  match h.registry.bind fun r => r.find? id with
  | some s =>
    (.session (s.run command).1, h.onRegistry fun r => r.update id fun s => (s.run command).2)
  | none =>
    match h.released.find? fun s => s.id == id with
    | some s => (.session (s.run command).1, { h with
        released := h.released.map fun s => if s.id == id then (s.run command).2 else s })
    | none => (.noSession, h)

/-- Something asked of the registry. -/
def ofRegistry (h : Home) (f : Session.Registry → Reply × Home) : Reply × Home :=
  match h.registry with
  | none => (.gone, h)
  | some r => f r

/-- Something asked of the queue. -/
def ofWork (h : Home) (reply : Unit → Reply × Home) : Reply × Home :=
  if h.holdsWork then reply () else (.gone, h)

/-- Something asked of the schedule. -/
def ofSchedule (h : Home) (reply : Unit → Reply × Home) : Reply × Home :=
  if h.schedule.isSome then reply () else (.gone, h)

/-- The registry is dropped; its sessions stay with their clients. -/
def dropRegistry (h : Home) : Home :=
  { h with
    registry := none
    released := h.released ++ (h.registry.map Session.Registry.sessions).getD [] }

/-- Does what is asked, without letting the agents have their turns. -/
def act (h : Home) : Command → Reply × Home
  | .settle => h.ofWork fun _ => (.nothing, h)
  | .sleep ms => (.nothing, Live.sleep ms h)
  | .jump ms => (.nothing, Live.jump ms h)
  | .fire =>
    let (count, h) := h.fire
    (.count count, h)
  | .fireTimes times => (.nothing, h.fireTimes times)
  | .intervalOf id => (.number ((h.timer.interval? id).map Int.ofNat), h)
  | .shutDownTimer => (.nothing, { h with timer := h.timer.shutDown })
  | .createSession timeout => h.ofRegistry fun r =>
    match h.createSession (timeout.getD r.ui.sessionTimeout) with
    | (some result, h) => (.created (result.map Session.id), h)
    | (none, h) => (.gone, h)
  | .findSession id => h.ofRegistry fun r => (.flag (r.find? id).isSome, h)
  | .removeSession id => h.ofRegistry fun _ =>
    let (found, h) := h.removeSession id
    (.flag found, h)
  | .changed id => h.ofRegistry fun _ => (.nothing, h.onRegistry (Session.Registry.changed id))
  | .changedAll ids => h.ofRegistry fun _ =>
    (.nothing, h.onRegistry (Session.Registry.changedAll ids))
  | .announce ids => h.ofRegistry fun _ =>
    (.nothing, h.onRegistry (Session.Registry.announce ids))
  | .sweepAt ms => h.ofRegistry fun _ =>
    let (count, h) := h.sweep ms
    (.count count, h)
  | .sweep => h.ofRegistry fun _ => (.nothing, h.tick .sweep)
  | .checkTimer => h.ofRegistry fun _ => (.nothing, h.checkTimer)
  | .password user => h.ofRegistry fun r => (.text (r.password? user), h)
  | .accepts user password => h.ofRegistry fun r => (.flag (r.accepts user password), h)
  | .settings => h.ofRegistry fun r => (.settings r.ui.sessionTimeout r.ui.accountsEnabled, h)
  | .liveSessions => h.ofRegistry fun r =>
    (.ids ((h.held.filter fun s => r.isTaken s.id).map Session.id), h)
  | .takeAll =>
    (.updates (h.held.map fun s => (s.id, s.updates)),
      { h.onRegistry (fun r => { r with sessions := r.sessions.map Session.told }) with
        released := h.released.map Session.told })
  | .dropRegistry => (.nothing, h.dropRegistry)
  | .onSession id command => h.askSession id command
  | .accessNow id => h.askSession id (.accessAt h.now)
  | .lastAccess id =>
    (.number ((h.registry.bind fun r => r.find? id).map Session.lastAccess), h)
  | .addTask task parent => h.ofWork fun _ =>
    let (id, h) := h.addTask task parent
    (.task id, h)
  | .listTasks => h.ofWork fun _ => (.tasks h.work.list, h)
  | .currentTask => h.ofWork fun _ => (.current (h.work.current.map Work.Entry.view), h)
  | .invalidate id => h.ofWork fun _ =>
    let (any, h) := h.invalidate id
    (.flag any, h)
  | .release gate => (.nothing, h.release gate)
  | .requestStop => h.ofWork fun _ => (.nothing, h.requestStop)
  | .dropWork => h.ofWork fun _ => (.nothing, h.letGo fun h => { h with holdsWork := false })
  | .startSchedule => h.ofSchedule fun _ =>
    let (armed, h) := h.startSchedule
    (.flag armed, h)
  | .stopSchedule => h.ofSchedule fun _ => (.nothing, h.stopSchedule)
  | .refreshNow unscheduled => h.ofSchedule fun _ =>
    let (id, h) := h.refreshNow unscheduled
    (.task id, h)
  | .dropSchedule => (.nothing, h.letGo fun h => { h with schedule := none })
  | .directoryId path => (.number (h.library.directoryId? path), h)
  | .request request =>
    let (response, h) := h.respond request
    (.response response, h)

/-- Does what is asked and, unless asked not to wait, lets the agents have their turns. -/
def run (waits : Bool) (command : Command) (h : Home) : Reply × Home :=
  let (reply, h) := h.act command
  (reply, if waits then Live.settle h else h)

end Home
end HomeMedia
