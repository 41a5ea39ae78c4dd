import HomeMedia.Home.Basic
import HomeMedia.Rescan
/-!
# The agents of a home server

The worker looks at the queue, takes a task, does its steps one a turn, and looks again. It goes on
before all other agents as long as it does not have to wait. When nobody holds on to the queue any
more it stops without looking at it; when it was asked to stop it does so once the queue is empty.

However a task ends, its end is reported. Then it is put away, and the next one is taken. A
scheduled fetch first arms its schedule again.

A pulse sends its ticks, and a call that asks the worker to stop does so at its first turn and then
waits until the worker has.
-/

namespace HomeMedia
namespace Home

/-- The worker goes on at once with some steps. -/
def continueWith (rest : List Task.Action) (h : Home) : Home :=
  { h with work := { h.work with worker := .running rest }, loop := h.loop.goOn .worker }

/-- What is logged about the end of a task. -/
def endEvent (e : Work.Entry) : Except Task.Error Task.Outcome → Event
  | .ok outcome => .taskEnded e.id e.kind.name outcome
  | .error error => .taskFailed e.id e.kind.name error

/-- The run of the current task ends. -/
def finish (outcome : Except Task.Error Task.Outcome) (h : Home) : Home :=
  match h.work.current with
  | none => h
  | some e =>
    let h := (if e.scheduled then h.arm else h).report [endEvent e outcome]
    { h with work := { h.work with worker := .ended }, loop := h.loop.goOn .worker }

/-- The worker puts the current task away, as long as anybody holds on to the queue. -/
def putAway (h : Home) : Home :=
  let current := if h.usesWork then none else h.work.current
  { h with work := { h.work with current, worker := .looking }, loop := h.loop.goOn .worker }

/-- The library as a store for scans that nobody cancels meanwhile. -/
def libraryStore (valid : Bool) : Rescan.Store Library where
  offer path l :=
    let (id, l) := l.addFile path
    (.ok id, l)
  isCancelled _ _ := !valid

/-- Tells about containers, if there is something to tell. -/
def announceAny (ids : Option (List ObjectId)) (h : Home) : Home :=
  match ids with
  | none => h
  | some ids => h.announce ids

/-- Scans a directory into the library. -/
def scan (path : Path) (h : Home) : Home :=
  let report := Rescan.run (libraryStore h.work.isValid) h.files true path h.library
  (({ h with library := report.store }.report report.events).announceAny report.announced).finish
    report.outcome

/-- Turns to the online service. -/
def fetch (e : Work.Entry) (rest : List Task.Action) (h : Home) : Home :=
  let (script, service) := h.service.next
  let h := { h with service }.report [.refreshStarted service.name e.scheduled]
  (h.leave .refreshed).continueWith (script.steps ++ rest)

/-- Takes the answer of the online service. -/
def conclude (answer : Except Task.Error (List ObjectId)) (h : Home) : Home :=
  let c := Refresh.conclude h.service.name h.work.isValid answer
  ((h.announceAny c.announced).report c.events).finish c.outcome

/-- The failure of a step that needs the queue when nobody holds on to it. -/
def queueGone : Task.Error := .panicked "nobody holds the task queue"

/-- One step of the current task `e`, with the steps `rest` after it. -/
def step (e : Work.Entry) (rest : List Task.Action) (h : Home) : Task.Action → Home
  | .check => if h.work.isValid then h.continueWith rest else h.finish (.ok .cancelled)
  | .note text => (h.leave (.note text)).continueWith rest
  | .noteValidity => (h.leave (.validity h.work.isValid)).continueWith rest
  | .sleep ms =>
    if ms = 0 then h.continueWith rest
    else
      { h with
        work := { h.work with worker := .running rest }
        loop := h.loop.wakeAt (h.loop.now + ms) .worker }
  | .await gate =>
    if h.openGates.contains gate then h.continueWith rest
    else { h with work := { h.work with worker := .atGate gate rest } }
  | .fail error => h.finish (.error error)
  | .panic payload => h.finish (.error (.panicked payload.message))
  | .spawn header body =>
    if h.usesWork then
      let (id, h) := h.addTask { toHeader := header, body } (some e.id)
      (h.leave (.spawned id)).continueWith rest
    else h.finish (.error queueGone)
  | .add header body =>
    if h.usesWork then
      let (id, h) := h.addTask { toHeader := header, body } none
      (h.leave (.added id)).continueWith rest
    else h.finish (.error queueGone)
  | .invalidate id =>
    if h.usesWork then
      let id := id.getD e.id
      let (any, h) := h.invalidate id
      (h.leave (.invalidated id any)).continueWith rest
    else h.finish (.error queueGone)
  | .giveUp => h.finish (.ok .cancelled)
  | .rescan path => h.scan path
  | .fetch => if h.work.isValid then h.fetch e rest else h.finish (.ok .cancelled)
  | .interrupt => { h with work := h.work.interrupt }.continueWith rest
  | .conclude answer => h.conclude answer

/-- The worker looks at the queue. -/
def look (h : Home) : Home :=
  if !h.usesWork then { h with work := h.work.stop }.report [.queueAbandoned]
  else
    match h.work.queue with
    | e :: queue =>
      ({ h with work := { h.work with queue, current := some e } }.report
        [.taskStarted e.id e.kind e.description e.valid]).continueWith e.body
    | [] =>
      if h.work.stopping then { h with work := h.work.stop }
      else if h.work.permit then
        { h with work := { h.work with permit := false }, loop := h.loop.goOn .worker }
      else { h with work := { h.work with worker := .parked } }

/-- The turn of the worker. -/
def pollWorker (h : Home) : Home :=
  match h.work.worker with
  | .looking => h.look
  | .running rest =>
    match h.work.current, rest with
    | some _, [] => h.finish (.ok .completed)
    | some e, action :: rest => h.step e rest action
    | none, _ => h
  | .ended => h.putAway
  | _ => h

/-- The turn of a pulse. -/
def pollPulse (id : Timer.SubscriptionId) (h : Home) : Home :=
  let (beat, timer) := h.timer.beat h.nanos h.isAlive id
  let h := { h with timer }
  match beat with
  | .over => h
  | .rest ms => { h with loop := h.loop.wakeAt ms (.pulse id) }
  | .tick subscriber =>
    let h := h.tick subscriber
    { h with loop := h.loop.goOn (.pulse id) }

/-- The turn of a call that asks the worker to stop. -/
def pollCall (index : Nat) (h : Home) : Home :=
  let events := if h.work.stopping then [] else [Event.stopRequested h.work.queue.length]
  let state := if h.work.isStopped then Work.Call.returned else .waiting
  let h := h.report events
  let calls := h.work.calls.set index state
  { h with work := { h.work with stopping := true, calls } }.wakeWorker

/-- The turn of an agent. -/
def poll : Agent → Home → Home
  | .worker => pollWorker
  | .pulse id => pollPulse id
  | .call index => pollCall index

/-- A bound on the turns that an agent and those it wakes can need. -/
def agentEffort (h : Home) : Agent → Nat
  | .worker => 1
  | .pulse id => h.timer.pulseEffort 40 h.nanos id
  | .call _ => 6

/-- A bound on the turns until all agents wait. -/
def effort (h : Home) : Nat := h.work.effort + EventLoop.total h.agentEffort h.loop.ready

instance : Live Home Agent where
  loop := Home.loop
  withLoop loop h := { h with loop }
  poll := poll
  effort := effort

/-- Opens a gate; the worker goes on if it waits there. -/
def release (gate : String) (h : Home) : Home :=
  let h := { h with openGates := gate :: h.openGates }
  match h.work.worker with
  | .atGate other rest =>
    if other = gate then
      { h with work := { h.work with worker := .running rest }, loop := h.loop.wake .worker }
    else h
  | _ => h

end Home
end HomeMedia
