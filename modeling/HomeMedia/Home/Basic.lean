import HomeMedia.EventLoop
import HomeMedia.Files.Basic
import HomeMedia.Library
import HomeMedia.Refresh
import HomeMedia.Session.Registry
import HomeMedia.Timer.Source
import HomeMedia.Work
/-!
# The parts of a home server and how they call each other

A home server has a timer, a registry of sessions, a queue of tasks, a schedule for an online
service and a library. This module holds them together: making and ending subscriptions, adding
tasks, telling sessions about changes, and what a tick means to its subscriber.

The registry and the schedule are the two subscribers of the timer. The queue can be used as long as
somebody holds on to it: the owner of the server, the schedule, or a call that waits for the worker
to stop. When the last of them is gone the worker is woken up to find that out.
-/

namespace HomeMedia

/-- Who runs on the event loop of a home server. -/
inductive Home.Agent where
  /-- The worker of the queue. -/
  | worker
  /-- The pulse of a subscription. -/
  | pulse (id : Timer.SubscriptionId)
  /-- A call that asks the worker to stop, by its place among all such calls. -/
  | call (index : Nat)
  deriving DecidableEq, Repr

/-- Who gets ticks in a home server. -/
inductive Home.Subscriber where
  /-- The registry, which then removes idle sessions. -/
  | sweep
  /-- The schedule, which then queues a fetch. -/
  | refresh
  deriving DecidableEq, Repr

/-- What tasks leave behind. -/
inductive Home.Trace where
  | note (text : String)
  | validity (valid : Bool)
  | spawned (id : Task.Id)
  | added (id : Task.Id)
  | invalidated (id : Task.Id) (any : Bool)
  | refreshed
  | announced (ids : List ObjectId)
  deriving DecidableEq, Repr

/-- A home server. -/
structure Home where
  /-- The clock and the agents. -/
  loop : EventLoop Home.Agent := {}
  /-- The gates that are open; they stay open. -/
  openGates : List String := []
  /-- The timer. -/
  timer : Timer.Source Home.Subscriber := .manual {}
  /-- The registry of sessions, while it exists. -/
  registry : Option Session.Registry := none
  /-- Sessions that have left the registry and are still held by their clients. -/
  released : List Session := []
  /-- The queue of tasks. -/
  work : Work := {}
  /-- Whether the owner of the server holds on to the queue. -/
  holdsWork : Bool := true
  /-- The online service. -/
  service : Refresh.Service := { name := "" }
  /-- The schedule of the online service, while it exists. -/
  schedule : Option Refresh.Schedule := none
  /-- The library. -/
  library : Library := {}
  /-- The files on disk. -/
  files : Files := {}
  /-- The directory that relative paths are read in. -/
  mediaRoot : Path := ⟨[]⟩
  /-- Whether the web interface can look sessions up. -/
  servesSessions : Bool := true
  /-- What was reported. -/
  log : List Event := []
  /-- What tasks left behind. -/
  traces : List Home.Trace := []

namespace Home

/-- Reports events. -/
def report (events : List Event) (h : Home) : Home := { h with log := h.log ++ events }

/-- Leaves a trace. -/
def leave (trace : Trace) (h : Home) : Home := { h with traces := h.traces ++ [trace] }

/-- The time in nanoseconds. -/
def nanos (h : Home) : Nat := h.loop.now * Duration.milli

/-- The time on the clock of the sessions, which stays at the greatest signed 64-bit number when it
gets there. -/
def now (h : Home) : Int := Number.clampSigned64 (Int.ofNat h.loop.now)

/-! ## Subscriptions -/

/-- Whether a subscriber is still there. -/
def isAlive (h : Home) : Subscriber → Bool
  | .sweep => h.registry.isSome
  | .refresh => h.schedule.isSome

/-- A new subscription; its pulse becomes ready. -/
def subscribe (subscriber : Subscriber) (nanos : Nat) (h : Home) : Timer.SubscriptionId × Home :=
  let (made, timer) := h.timer.subscribe subscriber nanos
  let loop := if made.hasPulse then h.loop.wake (.pulse made.id) else h.loop
  let events := if made.wasRaised then [Event.intervalRaised made.id nanos] else []
  (made.id, { h with timer, loop }.report events)

/-- Ends a subscription. -/
def unsubscribe (id : Timer.SubscriptionId) (h : Home) : Home :=
  { h with timer := (h.timer.unsubscribe id).2 }

/-! ## The queue -/

/-- Wakes the worker. -/
def wakeWorker (h : Home) : Home :=
  let (isReady, work) := h.work.notify
  { h with work, loop := if isReady then h.loop.wake .worker else h.loop }

/-- Whether anybody holds on to the queue. -/
def usesWork (h : Home) : Bool := h.holdsWork || h.schedule.isSome || h.work.hasOpenCall

/-- Lets go of something that may have held on to the queue; if nobody does any more, the worker is
woken up. -/
def letGo (release : Home → Home) (h : Home) : Home :=
  let after := release h
  if h.usesWork && !after.usesWork then after.wakeWorker else after

/-- Adds a task. -/
def addTask (task : Task) (parent : Option Task.Id) (h : Home) : Task.Id × Home :=
  let (id, work) := h.work.enqueue task parent
  (id, ({ h with work }.report [.taskQueued id task.kind task.description]).wakeWorker)

/-- Cancels by a number; tells whether a task became invalid. -/
def invalidate (id : Task.Id) (h : Home) : Bool × Home :=
  let (count, work) := h.work.invalidate id
  let h := { h with work }
  if count = 0 then (false, h) else (true, h.report [.tasksInvalidated id count])

/-- Asks the worker to stop; the call waits in the background. -/
def requestStop (h : Home) : Home :=
  { h with
    loop := h.loop.wake (.call h.work.calls.length)
    work := { h.work with calls := h.work.calls ++ [.requested] } }

/-! ## Sessions -/

/-- Opens a registry of sessions; a cap or an interval that settings must not have is raised, and
what is wrong with the settings is reported. -/
def openRegistry (ui : Settings.Ui) (ids : Session.Candidates) (h : Home) : Home :=
  { h with registry := some (.ofSettings ui ids) }.report
    (ui.conflict?.toList.map Event.settingsRaised)

/-- Changes the registry, if there is one. -/
def onRegistry (f : Session.Registry → Session.Registry) (h : Home) : Home :=
  { h with registry := h.registry.map f }

/-- Makes or ends the subscription of the registry, whichever it needs. -/
def checkTimer (h : Home) : Home :=
  match h.registry with
  | none => h
  | some r =>
    match r.timerNeed with
    | .nothing => h
    | .subscribe =>
      let (id, h) := h.subscribe .sweep r.sweepNanos
      h.onRegistry fun r => { r with subscription := some id }
    | .unsubscribe id =>
      (h.unsubscribe id).onRegistry fun r => { r with subscription := none }

/-- Creates a session. -/
def createSession (timeout : Nat) (h : Home) :
    Option (Except Session.IdsExhausted Session) × Home :=
  match h.registry with
  | none => (none, h)
  | some r =>
    match r.create timeout h.now with
    | (.error cause, r) =>
      (some (.error cause), { h with registry := some r }.report [.idsExhausted cause])
    | (.ok s, r) =>
      let released := h.released.filter fun other => other.id != s.id
      (some (.ok s), { h with registry := some r, released }.checkTimer)

/-- Removes a session; tells whether there was one. -/
def removeSession (id : String) (h : Home) : Bool × Home :=
  match h.registry.bind fun r => r.find? id with
  | none => (false, h)
  | some s =>
    (true, ({ h with released := h.released ++ [s] }.onRegistry fun r => r.remove id).checkTimer)

/-- Removes the sessions that have been idle for too long; tells how many. -/
def sweep (now : Int) (h : Home) : Nat × Home :=
  match h.registry with
  | none => (0, h)
  | some r =>
    let gone := r.expired now
    let r := r.sweep now
    let h := { h with registry := some r, released := h.released ++ gone }.checkTimer
    let events := if gone = [] then [] else [Event.sessionsSwept gone.length r.count]
    (gone.length, h.report events)

/-- Tells the sessions, and leaves a trace, that containers changed. -/
def announce (ids : List ObjectId) (h : Home) : Home :=
  (h.onRegistry (Session.Registry.announce ids)).leave (.announced ids)

/-! ## The schedule -/

/-- Arms the schedule, unless it is stopped, armed already, or its service has no interval. -/
def arm (h : Home) : Home :=
  match h.service.period?, h.schedule with
  | some nanos, some s =>
    if s.stopped || s.armed.isSome then h
    else
      let (id, h) := h.subscribe .refresh nanos
      { h with schedule := some { s with armed := some id } }
  | _, _ => h

/-- Disarms the schedule. -/
def disarm (h : Home) : Home :=
  match h.schedule with
  | some { armed := some id, stopped } =>
    { h.unsubscribe id with schedule := some { armed := none, stopped } }
  | _ => h

/-- Queues a fetch. -/
def queueFetch (scheduled : Bool) (h : Home) : Task.Id × Home :=
  h.addTask (Refresh.fetchTask h.service.name scheduled) none

/-- Starts the schedule; tells whether it is armed. -/
def startSchedule (h : Home) : Bool × Home :=
  let h := { h with schedule := h.schedule.map (Refresh.Schedule.setStopped false) }.arm
  ((h.schedule.bind Refresh.Schedule.armed).isSome, h)

/-- Stops the schedule. -/
def stopSchedule (h : Home) : Home :=
  { h with schedule := h.schedule.map (Refresh.Schedule.setStopped true) }.disarm

/-- Queues a fetch now; unless it is unscheduled, the schedule starts again at its end. -/
def refreshNow (unscheduled : Bool) (h : Home) : Task.Id × Home :=
  (if unscheduled then h else h.disarm).queueFetch !unscheduled

/-! ## Ticks -/

/-- A subscriber gets a tick. -/
def tick (h : Home) : Subscriber → Home
  | .sweep => (h.sweep h.now).2
  | .refresh =>
    if (h.schedule.bind Refresh.Schedule.armed).isSome then (h.disarm.queueFetch true).2 else h

/-- Fires the timer: everybody who is there gets a tick. -/
def fire (h : Home) : Nat × Home :=
  let targets := h.timer.targets h.isAlive
  (targets.length, targets.foldl tick h)

/-- Fires the timer several times. -/
def fireTimes : Nat → Home → Home
  | 0, h => h
  | times + 1, h => fireTimes times h.fire.2

end Home
end HomeMedia
