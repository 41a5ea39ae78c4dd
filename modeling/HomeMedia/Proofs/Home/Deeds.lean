import HomeMedia.Proofs.Home.Run
import HomeMedia.Proofs.Session.Registry
import Mathlib.Logic.Relation
/-!
# Everything a home server does is made of a few deeds

A *deed* is the smallest thing a home server does as a whole: the worker takes the next task, a
fetch ends and arms its schedule again, a session is created and the registry sees to its
subscription. A turn of an agent is a sequence of deeds (`poll_deeds`), and so is every command that
takes no time (`act_deeds`). What may become of a property of home servers is therefore settled deed
by deed, once and for all runs (`next_keeps`).

Deeds have labels, and a turn or a command makes only deeds whose labels it permits: tasks are added
under their own label when they come from outside, the schedule is started by a command only and
gets ticks from pulses or a timer that is fired, only the worker looks at the queue, and so on. Many
deeds are *aside*: they concern sessions, the timer or what is reported, and leave the queue and the
schedule alone (`Aside.aloof`).

What each of the others can come to is said once, with what it requires: `arm_cases`,
`disarm_cases`, `wakeWorker_cases`, `letGo_cases`, `release_cases`, `finish_cases`,
`exists_invalidate`, and `looked` for a look at the queue.
-/

namespace HomeMedia

/-- Whether an event tells the course of a task. -/
def Event.ofTask : Event → Bool
  | .taskQueued _ _ _ => true
  | .tasksInvalidated _ _ => true
  | .taskStarted _ _ _ _ => true
  | .taskEnded _ _ _ => true
  | .taskFailed _ _ _ => true
  | _ => false

/-- Whether an event tells the course of a task, or that the queue was abandoned. -/
def Event.ofQueue : Event → Bool
  | .queueAbandoned => true
  | event => event.ofTask

/-- Events that are not about the queue are not about tasks. -/
theorem Event.filter_ofTask {events : List Event} (quiet : events.filter Event.ofQueue = []) :
    events.filter Event.ofTask = [] := by
  refine List.filter_eq_nil_iff.2 fun event mem told => ?_
  refine List.filter_eq_nil_iff.1 quiet event mem ?_
  cases event with
  | queueAbandoned => rfl
  | _ => exact told

/-- Whether the worker is in the middle of a task. -/
def Work.Worker.isBusy : Work.Worker → Bool
  | .running _ => true
  | .atGate _ _ => true
  | _ => false

/-- The tasks that a step of a task adds. -/
def Task.Action.tasks : Task.Action → List Task
  | .spawn header body => [{ toHeader := header, body }]
  | .add header body => [{ toHeader := header, body }]
  | _ => []

/-- Every step weighs something. -/
theorem Task.Action.weight_pos (action : Task.Action) : 0 < action.weight := by
  cases action <;> simp [weight]

/-- The steps of two rows weigh as much as both. -/
theorem Task.weigh_append (steps more : List Task.Action) :
    Task.weigh (steps ++ more) = Task.weigh steps + Task.weigh more := by
  induction steps with
  | nil => simp [weigh]
  | cons step steps ih => simp [weigh, ih, Nat.add_assoc]

/-- A fetch was weighed for four steps of its service. -/
theorem Refresh.Script.weigh_steps_le (script : Refresh.Script) :
    Task.weigh script.steps ≤ 8 := by
  rcases script with ⟨_ | _, _ | _, _ | _, _ | _⟩ <;>
    simp [steps, Task.weigh, Task.Action.weight]

/-- The steps of a refresh add no tasks. -/
theorem Refresh.Script.tasks_of_mem_steps {script : Refresh.Script} {action : Task.Action}
    (mem : action ∈ script.steps) : action.tasks = [] := by
  simp only [steps, List.mem_append, List.mem_map] at mem
  rcases mem with ((⟨_, _, rfl⟩ | ⟨_, _, rfl⟩) | mem) | mem
  · rfl
  · rfl
  · split at mem
    · rw [List.mem_singleton.1 mem]
      rfl
    · cases mem
  · split at mem <;> rw [List.mem_singleton.1 mem] <;> rfl

/-- A service behaves as its scripts say, one after the other. -/
theorem Refresh.Service.next_cases (s : Refresh.Service) :
    s.scripts = [] ∧ s.next = (.idle, s) ∨
      ∃ script more, s.scripts = script :: more ∧
        s.next = (script, { s with scripts := more }) := by
  unfold next
  split
  · exact .inl ⟨‹_›, rfl⟩
  · exact .inr ⟨_, _, ‹_›, rfl⟩

/-- A worker that does not wait to be woken goes on as before. -/
theorem Work.worker_notify {w : Work} (awake : w.worker ≠ .parked) :
    w.notify.2.worker = w.worker := by
  unfold notify
  split
  · rename_i parked
    exact absurd parked awake
  · rfl

/-- A busy worker goes on with its task when it is woken. -/
theorem Work.notify_worker_of_busy {w : Work} (busy : w.worker.isBusy = true) :
    w.notify.2.worker = w.worker :=
  worker_notify fun parked => by
    rw [parked] at busy
    cases busy

/-- What is reported when tasks are cancelled by a number. -/
def Work.cancellings (id : Task.Id) (w : Work) : List Event :=
  if (w.invalidate id).1 = 0 then [] else [.tasksInvalidated id (w.invalidate id).1]

/-- A scan reports nothing of tasks or their queue. -/
theorem Rescan.scan_quiet {S : Type} (store : Rescan.Store S) (root : Path)
    (visits : List Files.Visit) (looks : Nat) (p : Rescan.Progress) (events : List Event) (s : S)
    (quiet : events.filter Event.ofQueue = []) :
    (Rescan.scan store root visits looks p events s).events.filter Event.ofQueue = [] := by
  induction visits generalizing looks p events s with
  | nil => simp [Rescan.scan, quiet, Event.ofQueue, Event.ofTask]
  | cons visit more ih =>
    unfold Rescan.scan
    split
    · simp [quiet, Event.ofQueue, Event.ofTask]
    · cases visit with
      | unreadable => exact ih _ _ _ _ (by simp [quiet, Event.ofQueue, Event.ofTask])
      | other => exact ih _ _ _ _ quiet
      | file path =>
        dsimp only
        split
        · refine ih _ _ _ _ ?_
          rw [List.filter_append, quiet, List.nil_append]
          cases (store.offer path s).1 <;> rfl
        · exact ih _ _ _ _ quiet

/-- A whole scan reports nothing of the queue. -/
theorem Rescan.run_quiet {S : Type} (store : Rescan.Store S) (fs : Files) (follow : Bool)
    (root : Path) (s : S) :
    (Rescan.run store fs follow root s).events.filter Event.ofQueue = [] := by
  unfold Rescan.run
  split
  · rfl
  · split
    · rfl
    · exact Rescan.scan_quiet _ _ _ _ _ _ _ rfl

/-- Nor does the conclusion of a refresh. -/
theorem Refresh.conclude_quiet (service : String) (valid : Bool)
    (answer : Except Task.Error (List ObjectId)) :
    (Refresh.conclude service valid answer).events.filter Event.ofQueue = [] := by
  cases answer <;> rfl

namespace Home

/-- The containers that a trace tells about. -/
def Trace.containers : Trace → List ObjectId
  | .announced ids => ids
  | _ => []

/-- Whether an agent is the pulse of a subscription. -/
def Agent.isPulse : Agent → Bool
  | .pulse _ => true
  | _ => false

/-- Something asked of one session of the registry. -/
def ask (id : String) (command : Session.Command) (h : Home) : Home :=
  h.onRegistry fun r => r.update id fun s => (s.run command).2

/-- The server after a session has shown itself. -/
def touch (id : String) (h : Home) : Home :=
  h.onRegistry fun r => r.update id (Session.accessAt h.now)

/-- Steps that the worker has planned: they were left before, or they are those of the next refresh
and a fetch was left before. All in all they are lighter. -/
structure Planned (h : Home) (rest : List Task.Action) : Prop where
  /-- Each of the steps was planned. -/
  known : ∀ action ∈ rest, action ∈ h.work.worker.rest ∨
    .fetch ∈ h.work.worker.rest ∧ action ∈ h.service.next.1.steps
  /-- Less is left to do. -/
  lighter : Task.weigh rest < Task.weigh h.work.worker.rest

namespace Deed

/-- What a deed is. -/
inductive Label where
  /-- Something that a home server does by itself. -/
  | own
  /-- The worker looks at the queue. -/
  | look
  /-- Something is done for a client, or to all of them. -/
  | client
  /-- A session is asked something. -/
  | ask (command : Session.Command)
  /-- The timer is shut down. -/
  | shutDown
  /-- A part of the turn of a pulse. -/
  | beat
  /-- A call asks the worker to stop. -/
  | call (index : Nat)
  /-- A task is added from outside. -/
  | add (task : Task)
  /-- The schedule is started. -/
  | start
  /-- The schedule is stopped. -/
  | stop
  /-- A fetch is asked for in place of the next scheduled one. -/
  | refresh
  /-- The schedule gets a tick. -/
  | tick

end Deed

open Deed (Label)

/-- Deeds that leave the queue and the schedule alone. What a task does to other things is done
while the worker is busy with it. -/
inductive Aside : Label → Home → Home → Prop where
  /-- Something that is not about tasks or their queue is reported. -/
  | report (h : Home) (events : List Event) (other : events.filter Event.ofQueue = []) :
    Aside .own h (h.report events)
  | leave (h : Home) (trace : Trace) (quiet : trace.containers = [])
      (busy : h.work.worker.isBusy = true) : Aside .own h (h.leave trace)
  | store (h : Home) (library : Library) (busy : h.work.worker.isBusy = true) :
    Aside .own h { h with library }
  /-- The service gives its next answer. -/
  | consult (h : Home) (busy : h.work.worker.isBusy = true) :
    Aside .own h { h with service := h.service.next.2 }
  | createSession (h : Home) (timeout : Nat) : Aside .client h (h.createSession timeout).2
  | removeSession (h : Home) (id : String) : Aside .client h (h.removeSession id).2
  | sweep (h : Home) (now : Int) : Aside .own h (h.sweep now).2
  | checkTimer (h : Home) : Aside .own h h.checkTimer
  | touch (h : Home) (id : String) : Aside .client h (h.touch id)
  | ask (h : Home) (id : String) (command : Session.Command) :
    Aside (.ask command) h (h.ask id command)
  /-- Sessions that have left the registry may change or be replaced. -/
  | release (h : Home) (released : List Session) : Aside .client h { h with released }
  | announce (h : Home) (ids : List ObjectId) (busy : h.work.worker.isBusy = true) :
    Aside .own h (h.announce ids)
  | tell (h : Home) (ids : List ObjectId) :
    Aside .client h (h.onRegistry (Session.Registry.changedAll ids))
  | drainAll (h : Home) :
    Aside .client h (h.onRegistry fun r => { r with sessions := r.sessions.map Session.told })
  | dropRegistry (h : Home) : Aside .client h { h with registry := none }
  | beat (h : Home) (id : Timer.SubscriptionId) :
    Aside .beat h { h with timer := (h.timer.beat h.nanos h.isAlive id).2 }
  /-- A pulse waits for its next tick. -/
  | rest (h : Home) (ms : Nat) (id : Timer.SubscriptionId) :
    Aside .beat h { h with loop := h.loop.wakeAt ms (.pulse id) }
  /-- A pulse goes on. -/
  | goOn (h : Home) (id : Timer.SubscriptionId) :
    Aside .beat h { h with loop := h.loop.goOn (.pulse id) }
  | shutDown (h : Home) : Aside .shutDown h { h with timer := h.timer.shutDown }

/-- Sessions may have come, gone or changed, and the registry may have seen to its subscription. -/
def SeenTo (h g : Home) : Prop :=
  ∃ registry released events, events.filter Event.ofQueue = [] ∧
    (g = ({ h with registry, released } : Home).report events ∨
      g = ({ h with registry, released } : Home).checkTimer.report events)

/-- To report nothing makes no difference. -/
theorem report_nil (h : Home) : h.report [] = h := by
  simp [report]

namespace SeenTo

/-- Creating a session comes to sessions and the subscription. -/
theorem createSession (timeout : Nat) (h : Home) : SeenTo h (h.createSession timeout).2 := by
  unfold Home.createSession
  split
  · exact ⟨h.registry, h.released, [], rfl, .inl (report_nil _).symm⟩
  · split
    · exact ⟨_, _, [.idsExhausted _], rfl, .inl rfl⟩
    · exact ⟨_, _, [], rfl, .inr (report_nil _).symm⟩

/-- So does removing one. -/
theorem removeSession (id : String) (h : Home) : SeenTo h (h.removeSession id).2 := by
  unfold Home.removeSession
  split
  · exact ⟨h.registry, h.released, [], rfl, .inl (report_nil _).symm⟩
  · exact ⟨h.registry.map fun r => r.remove id, _, [], rfl, .inr (report_nil _).symm⟩

/-- So does removing the idle ones. -/
theorem sweep (now : Int) (h : Home) : SeenTo h (h.sweep now).2 := by
  unfold Home.sweep
  split
  · exact ⟨h.registry, h.released, [], rfl, .inl (report_nil _).symm⟩
  · exact ⟨_, _, _, by split <;> rfl, .inr rfl⟩

end SeenTo

/-- The agents that are ready, but for the pulses. -/
def othersReady (h : Home) : List Agent := h.loop.ready.filter fun agent => !agent.isPulse

/-- The alarms that are set, but for those of pulses. -/
def othersAlarms (h : Home) : List (Alarm Agent) := h.loop.alarms.filter fun a => !a.agent.isPulse

/-- How often it was reported that the queue was abandoned. -/
def abandonings (h : Home) : Nat := h.log.count .queueAbandoned

/-- Reports count by how often they say that the queue was abandoned. -/
theorem abandonings_report (events : List Event) (h : Home) :
    (h.report events).abandonings = h.abandonings + events.count .queueAbandoned :=
  List.count_append

/-- Nothing is said of an abandoned queue if nothing is said of the queue. -/
theorem abandonings_report_of_quiet {events : List Event}
    (other : events.filter Event.ofQueue = []) (h : Home) :
    (h.report events).abandonings = h.abandonings := by
  have none : events.count .queueAbandoned = 0 := List.count_eq_zero.2 fun mem =>
    List.filter_eq_nil_iff.1 other _ mem rfl
  rw [abandonings_report, none, Nat.add_zero]

/-- What the queue and the schedule have to do with is as it was. -/
structure Aloof (h g : Home) : Prop where
  /-- The queue is the same. -/
  work : g.work = h.work
  /-- The same was reported of tasks. -/
  events : g.log.filter Event.ofTask = h.log.filter Event.ofTask
  /-- The schedule is the same. -/
  schedule : g.schedule = h.schedule
  /-- The owner holds on to the queue or not, as before. -/
  holdsWork : g.holdsWork = h.holdsWork
  /-- The service has the same name. -/
  name : g.service.name = h.service.name
  /-- The service has the same interval. -/
  interval : g.service.interval = h.service.interval
  /-- The service behaves as it was going to. -/
  scripts : g.service.scripts ⊆ h.service.scripts
  /-- It is the same time. -/
  now : g.loop.now = h.loop.now
  /-- The same agents are ready, but for the pulses. -/
  ready : g.othersReady = h.othersReady
  /-- The same alarms are set, but for those of pulses. -/
  alarms : g.othersAlarms = h.othersAlarms
  /-- The same gates are open. -/
  openGates : g.openGates = h.openGates
  /-- That the queue was abandoned was reported as often. -/
  abandonings : g.abandonings = h.abandonings

namespace Aloof

variable {h g k : Home}

/-- Without a deed everything is as it was. -/
theorem refl (h : Home) : Aloof h h :=
  ⟨rfl, rfl, rfl, rfl, rfl, rfl, List.Subset.refl _, rfl, rfl, rfl, rfl, rfl⟩

/-- What leaves the queue and the schedule alone twice leaves them alone. -/
theorem trans (a : Aloof h g) (b : Aloof g k) : Aloof h k where
  work := b.work.trans a.work
  events := b.events.trans a.events
  schedule := b.schedule.trans a.schedule
  holdsWork := b.holdsWork.trans a.holdsWork
  name := b.name.trans a.name
  interval := b.interval.trans a.interval
  scripts := List.Subset.trans b.scripts a.scripts
  now := b.now.trans a.now
  ready := b.ready.trans a.ready
  alarms := b.alarms.trans a.alarms
  openGates := b.openGates.trans a.openGates
  abandonings := b.abandonings.trans a.abandonings

/-- Reports of other things leave them alone. -/
theorem report (h : Home) {events : List Event} (other : events.filter Event.ofQueue = []) :
    Aloof h (h.report events) :=
  { refl h with
    events := by
      change (h.log ++ events).filter Event.ofTask = _
      rw [List.filter_append, Event.filter_ofTask other, List.append_nil]
    abandonings := abandonings_report_of_quiet other h }

/-- Subscriptions are made without them. -/
theorem subscribe (subscriber : Subscriber) (nanos : Nat) (h : Home) :
    Aloof h (h.subscribe subscriber nanos).2 := by
  have quiet : ∀ (raised : Bool) (id : Timer.SubscriptionId),
      (if raised then [Event.intervalRaised id nanos] else []).filter Event.ofQueue = [] := by
    intro raised id
    cases raised <;> rfl
  have woken : ∀ (hasPulse : Bool) (id : Timer.SubscriptionId),
      Aloof h { h with loop := if hasPulse then h.loop.wake (.pulse id) else h.loop } := by
    intro hasPulse id
    cases hasPulse with
    | false => exact refl h
    | true => exact { refl h with
        ready := by simp [othersReady, EventLoop.wake, Agent.isPulse] }
  have made := woken (h.timer.subscribe subscriber nanos).1.hasPulse
    (h.timer.subscribe subscriber nanos).1.id
  exact (show Aloof h { h with
    timer := (h.timer.subscribe subscriber nanos).2
    loop := _ } from { made with }).trans (report _ (quiet _ _))

/-- They are ended without them. -/
theorem unsubscribe (id : Timer.SubscriptionId) (h : Home) : Aloof h (h.unsubscribe id) :=
  { refl h with }

/-- The registry is changed without them. -/
theorem onRegistry (f : Session.Registry → Session.Registry) (h : Home) :
    Aloof h (h.onRegistry f) :=
  { refl h with }

/-- The registry sees to its subscription without them. -/
theorem checkTimer (h : Home) : Aloof h h.checkTimer := by
  unfold Home.checkTimer
  split
  · exact refl h
  · rename_i r _
    split
    · exact refl h
    · exact (subscribe .sweep r.sweepNanos h).trans (onRegistry _ _)
    · exact (unsubscribe _ h).trans (onRegistry _ _)

/-- So do sessions come and go. -/
theorem seenTo {h g : Home} (seen : SeenTo h g) : Aloof h g := by
  obtain ⟨registry, released, events, other, rfl | rfl⟩ := seen
  · exact (show Aloof h { h with registry, released } from { refl h with }).trans (report _ other)
  · exact (show Aloof h { h with registry, released } from { refl h with }).trans
      ((checkTimer _).trans (report _ other))

end Aloof

/-- **Deeds aside leave the queue and the schedule alone.** -/
theorem Aside.aloof {label : Label} {h g : Home} (aside : Aside label h g) : Aloof h g := by
  cases aside with
  | report h events other => exact .report h other
  | createSession h timeout => exact .seenTo (.createSession timeout h)
  | removeSession h id => exact .seenTo (.removeSession id h)
  | sweep h now => exact .seenTo (.sweep now h)
  | checkTimer h => exact .checkTimer h
  | consult h =>
    rcases h.service.next_cases with ⟨-, same⟩ | ⟨script, more, left, next⟩
    · exact same ▸ .refl h
    · rw [next]
      exact { Aloof.refl h with scripts := left ▸ List.subset_cons_self _ _ }
  | rest h ms id =>
    refine { Aloof.refl h with alarms := ?_ }
    simp [othersAlarms, EventLoop.wakeAt, Agent.isPulse]
  | goOn h id =>
    refine { Aloof.refl h with ready := ?_ }
    simp [othersReady, EventLoop.goOn, Agent.isPulse]
  | _ => exact { Aloof.refl _ with }

/-- One deed of a home server. -/
inductive Deed : Label → Home → Home → Prop where
  | aside {label : Label} {h g : Home} (aside : Aside label h g) : Deed label h g
  | addTask (h : Home) (task : Task) (parent : Option Task.Id) :
    Deed (.add task) h (h.addTask task parent).2
  | invalidate (h : Home) (id : Task.Id) : Deed .own h (h.invalidate id).2
  | requestStop (h : Home) (held : h.holdsWork = true) : Deed .own h h.requestStop
  | call (h : Home) (index : Nat) : Deed (.call index) h (h.pollCall index)
  | dropWork (h : Home) : Deed .own h (h.letGo fun h => { h with holdsWork := false })
  | release (h : Home) (gate : String) : Deed .own h (h.release gate)
  | look (h : Home) (looking : h.work.worker = .looking) : Deed .look h h.look
  | putAway (h : Home) (ended : h.work.worker = .ended) : Deed .own h h.putAway
  | goOn (h : Home) (rest : List Task.Action) (busy : h.work.worker.isBusy = true)
      (planned : h.Planned rest) : Deed .own h (h.continueWith rest)
  /-- The worker sleeps in the middle of a task. -/
  | sleep (h : Home) (ms : Nat) (rest : List Task.Action) (busy : h.work.worker.isBusy = true)
      (planned : h.Planned rest) (later : ms ≠ 0) :
    Deed .own h { h with
      work := { h.work with worker := .running rest }
      loop := h.loop.wakeAt (h.loop.now + ms) .worker }
  /-- The worker waits for a gate that is closed. -/
  | await (h : Home) (gate : String) (rest : List Task.Action)
      (busy : h.work.worker.isBusy = true) (planned : h.Planned rest)
      (closed : h.openGates.contains gate = false) :
    Deed .own h { h with work := { h.work with worker := .atGate gate rest } }
  /-- The current task adds a task. -/
  | spawn (h : Home) (task : Task) (parent : Option Task.Id)
      (planned : ∃ action ∈ h.work.worker.rest, task ∈ action.tasks) :
    Deed .own h (h.addTask task parent).2
  /-- The current task sets its own token. -/
  | interrupt (h : Home) (busy : h.work.worker.isBusy = true)
      (planned : .interrupt ∈ h.work.worker.rest) :
    Deed .own h { h with work := h.work.interrupt }
  | finish (h : Home) (outcome : Except Task.Error Task.Outcome)
      (busy : h.work.worker.isBusy = true) : Deed .own h (h.finish outcome)
  | start (h : Home) : Deed .start h h.startSchedule.2
  | stop (h : Home) : Deed .stop h h.stopSchedule
  | refresh (h : Home) : Deed .refresh h (h.refreshNow false).2
  /-- The schedule gets a tick while it is armed. -/
  | tick (h : Home) (armed : (h.schedule.bind Refresh.Schedule.armed).isSome = true) :
    Deed .tick h (h.refreshNow false).2
  | dropSchedule (h : Home) : Deed .own h (h.letGo fun h => { h with schedule := none })

/-- Any number of deeds with labels that are permitted. -/
def Deeds (permits : Label → Prop) : Home → Home → Prop :=
  Relation.ReflTransGen fun h g => ∃ label, permits label ∧ Deed label h g

namespace Deeds

variable {permits : Label → Prop} {h g k : Home}

/-- No deed is needed where nothing is different. -/
theorem refl : Deeds permits h h := Relation.ReflTransGen.refl

/-- One deed that is permitted. -/
theorem single {label : Label} (deed : Deed label h g) (ok : permits label) :
    Deeds permits h g :=
  Relation.ReflTransGen.single ⟨label, ok, deed⟩

/-- One deed more. -/
theorem tail {label : Label} (deeds : Deeds permits h g) (deed : Deed label g k)
    (ok : permits label) : Deeds permits h k :=
  Relation.ReflTransGen.tail deeds ⟨label, ok, deed⟩

/-- Deeds after deeds. -/
theorem trans (deeds : Deeds permits h g) (more : Deeds permits g k) : Deeds permits h k :=
  Relation.ReflTransGen.trans deeds more

/-- **What all permitted deeds keep.** -/
theorem keep {P : Home → Prop} (deeds : Deeds permits h g)
    (each : ∀ label h g, permits label → Deed label h g → P h → P g) (start : P h) : P g := by
  induction deeds with
  | refl => exact start
  | tail _ deed ih =>
    obtain ⟨label, ok, deed⟩ := deed
    exact each label _ _ ok deed ih

end Deeds

variable {permits : Label → Prop}

/-! ## The worker -/

section Turns

variable (own : permits .own)
include own

/-- To announce what changed is a deed of a busy worker, or none. -/
theorem announceAny_deeds (ids : Option (List ObjectId)) {h : Home}
    (busy : h.work.worker.isBusy = true) : Deeds permits h (h.announceAny ids) := by
  cases ids with
  | none => exact .refl
  | some ids => exact .single (.aside (.announce h ids busy)) own

section Ticks

variable (ticks : permits .tick)
include ticks

/-- A tick comes to deeds of its own kind. -/
theorem tick_deeds (subscriber : Subscriber) (h : Home) : Deeds permits h (h.tick subscriber) := by
  cases subscriber with
  | sweep => exact .single (.aside (.sweep h h.now)) own
  | refresh =>
    unfold tick
    dsimp only
    split
    · exact .single (.tick h ‹_›) ticks
    · exact .refl

/-- So do the ticks of several subscribers. -/
theorem foldl_tick_deeds (targets : List Subscriber) (h : Home) :
    Deeds permits h (targets.foldl tick h) := by
  induction targets generalizing h with
  | nil => exact .refl
  | cons first more ih => exact (tick_deeds own ticks first h).trans (ih _)

/-- So does firing the timer several times. -/
theorem fireTimes_deeds (times : Nat) (h : Home) : Deeds permits h (h.fireTimes times) := by
  induction times generalizing h with
  | zero => exact .refl
  | succ times ih => exact (foldl_tick_deeds own ticks _ h).trans (ih _)

end Ticks
end Turns

/-- Announcing leaves the queue alone. -/
theorem announceAny_work (ids : Option (List ObjectId)) (h : Home) :
    (h.announceAny ids).work = h.work := by
  cases ids <;> rfl

/-- A schedule is armed if it is neither stopped nor armed, and its service has an interval. -/
theorem arm_cases (h : Home) : h.arm = h ∨
    ∃ s nanos, h.schedule = some s ∧ s.stopped = false ∧ s.armed = none ∧
      h.service.period? = some nanos ∧ h.arm = { (h.subscribe .refresh nanos).2 with
        schedule := some { s with armed := some (h.subscribe .refresh nanos).1 } } := by
  unfold arm
  split
  · rename_i nanos s period found
    split
    · exact .inl rfl
    · rename_i fit
      rw [Bool.or_eq_true, not_or, Bool.not_eq_true, Option.not_isSome_iff_eq_none] at fit
      exact .inr ⟨s, nanos, found, fit.1, fit.2, period, rfl⟩
  · exact .inl rfl

/-- A schedule is disarmed if it is armed. -/
theorem disarm_cases (h : Home) : h.disarm = h ∨
    ∃ id stopped, h.schedule = some { armed := some id, stopped } ∧
      h.disarm = { h.unsubscribe id with schedule := some { armed := none, stopped } } := by
  unfold disarm
  split
  · exact .inr ⟨_, _, ‹_›, rfl⟩
  · exact .inl rfl

/-- Arming the schedule does nothing to the queue. -/
theorem work_arm (h : Home) : h.arm.work = h.work := by
  rcases arm_cases h with same | ⟨s, nanos, -, -, -, -, armed⟩
  · rw [same]
  · rw [armed]
    rfl

/-- Neither does disarming it. -/
theorem work_disarm (h : Home) : h.disarm.work = h.work := by
  rcases disarm_cases h with same | ⟨id, stopped, -, disarmed⟩
  · rw [same]
  · rw [disarmed]
    rfl

/-- Waking the worker makes it ready if it waits, and else leaves it a wake-up. -/
theorem wakeWorker_cases (h : Home) :
    (h.work.worker = .parked ∧ h.wakeWorker = { h with
      work := { h.work with worker := .looking }
      loop := h.loop.wake .worker }) ∨
    (h.work.worker ≠ .parked ∧ h.wakeWorker = { h with
      work := { h.work with permit := true } }) := by
  unfold wakeWorker Work.notify
  cases worker : h.work.worker with
  | parked => exact .inl ⟨rfl, rfl⟩
  | _ => exact .inr ⟨nofun, by simp [worker]⟩

/-! ## What can become of the queue -/

/-- Cancelling changes the queue and reports how much it did, unless that is nothing. -/
theorem exists_invalidate (id : Task.Id) (h : Home) :
    ∃ events, events = h.work.cancellings id ∧
      (h.invalidate id).2 = ({ h with work := (h.work.invalidate id).2 } : Home).report events := by
  unfold invalidate Work.cancellings
  dsimp only
  split
  · exact ⟨[], rfl, (report_nil _).symm⟩
  · exact ⟨_, rfl, rfl⟩

/-- Letting go may wake the worker. -/
theorem letGo_cases (release : Home → Home) (h : Home) :
    h.letGo release = (release h).wakeWorker ∨ h.letGo release = release h := by
  unfold letGo
  dsimp only
  split
  · exact .inl rfl
  · exact .inr rfl

/-- The worker goes on if it waits at the gate that is opened. -/
theorem release_cases (gate : String) (h : Home) :
    (∃ rest, h.work.worker = .atGate gate rest ∧ h.release gate = { h with
      openGates := gate :: h.openGates
      work := { h.work with worker := .running rest }
      loop := h.loop.wake .worker }) ∨
    h.release gate = { h with openGates := gate :: h.openGates } := by
  unfold release
  dsimp only
  split
  · rename_i other rest waits
    split
    · rename_i same
      exact .inl ⟨rest, same ▸ waits, rfl⟩
    · exact .inr rfl
  · exact .inr rfl

/-- The end of a task is reported; a scheduled fetch arms the schedule before. -/
theorem finish_cases (outcome : Except Task.Error Task.Outcome) (h : Home) :
    h.work.current = none ∧ h.finish outcome = h ∨
    ∃ e armed, h.work.current = some e ∧
      (e.scheduled = true ∧ armed = h.arm ∨ e.scheduled = false ∧ armed = h) ∧
      h.finish outcome = { armed.report [endEvent e outcome] with
        work := { h.work with worker := .ended }
        loop := armed.loop.goOn .worker } := by
  unfold finish
  cases current : h.work.current with
  | none => exact .inl ⟨rfl, rfl⟩
  | some e =>
    have work : (if e.scheduled then h.arm else h).work = h.work := by
      split
      · exact work_arm h
      · rfl
    refine .inr ⟨e, if e.scheduled then h.arm else h, rfl, ?_, ?_⟩
    · cases e.scheduled with
      | true => exact .inl ⟨rfl, rfl⟩
      | false => exact .inr ⟨rfl, rfl⟩
    · rw [← work]
      rfl

/-- What a look at the queue comes to. -/
inductive Looked (h : Home) : Home → Prop where
  /-- Nobody holds on to the queue, and the worker stops. -/
  | abandon (unused : h.usesWork = false) :
    Looked h (({ h with work := h.work.stop } : Home).report [.queueAbandoned])
  /-- The worker takes the first of the tasks that wait. -/
  | take {e : Work.Entry} {queue : List Work.Entry} (inUse : h.usesWork = true)
      (waiting : h.work.queue = e :: queue) :
    Looked h { h.report [.taskStarted e.id e.kind e.description e.valid] with
      work := { h.work with queue, current := some e, worker := .running e.body }
      loop := h.loop.goOn .worker }
  /-- No task waits, and the worker stops because it was asked to. -/
  | stop (empty : h.work.queue = []) (asked : h.work.stopping = true) :
    Looked h { h with work := h.work.stop }
  /-- No task waits, but a wake-up is left. -/
  | again (empty : h.work.queue = []) (free : h.work.stopping = false)
      (woken : h.work.permit = true) :
    Looked h { h with
      work := { h.work with permit := false }
      loop := h.loop.goOn .worker }
  /-- No task waits, and the worker waits for one. -/
  | park (empty : h.work.queue = []) (free : h.work.stopping = false) :
    Looked h { h with work := { h.work with worker := .parked } }

/-- **What a look at the queue comes to.** -/
theorem looked (h : Home) : Looked h h.look := by
  unfold look
  cases inUse : h.usesWork with
  | false => exact .abandon inUse
  | true =>
    cases waiting : h.work.queue with
    | cons e queue => exact .take inUse waiting
    | nil =>
      cases asked : h.work.stopping with
      | true => exact .stop waiting asked
      | false =>
        cases woken : h.work.permit with
        | true => exact .again waiting asked woken
        | false => exact .park waiting asked

/-! ## Behind the front -/

/-- Nothing is different but the queue, the clock and the agents, the gates and the log. -/
def Backstage (h g : Home) : Prop :=
  ∃ work loop openGates log, g = { h with work, loop, openGates, log }

namespace Backstage

/-- Adding a task is done backstage. -/
theorem addTask (task : Task) (parent : Option Task.Id) (h : Home) :
    Backstage h (h.addTask task parent).2 :=
  ⟨_, _, _, _, rfl⟩

/-- So is cancelling. -/
theorem invalidate (id : Task.Id) (h : Home) : Backstage h (h.invalidate id).2 := by
  obtain ⟨events, -, cancelled⟩ := exists_invalidate id h
  exact ⟨_, _, _, _, cancelled⟩

/-- So is waking the worker when something lets go of the queue. -/
theorem letGo (release : Home → Home) (h : Home) : Backstage (release h) (h.letGo release) := by
  rcases letGo_cases release h with woken | kept
  · exact ⟨_, _, _, _, woken⟩
  · exact ⟨_, _, _, _, kept⟩

/-- So is opening a gate. -/
theorem release (gate : String) (h : Home) : Backstage h (h.release gate) := by
  rcases release_cases gate h with ⟨rest, -, woken⟩ | opened
  · exact ⟨_, _, _, _, woken⟩
  · exact ⟨_, _, _, _, opened⟩

/-- So is a look at the queue. -/
theorem look (h : Home) : Backstage h h.look := by
  have looked := h.looked
  generalize h.look = g at looked ⊢
  cases looked <;> exact ⟨_, _, _, _, rfl⟩

/-- The end of a task may arm the schedule first. -/
theorem finish (outcome : Except Task.Error Task.Outcome) (h : Home) :
    Backstage h (h.finish outcome) ∨ Backstage h.arm (h.finish outcome) := by
  rcases finish_cases outcome h with ⟨-, same⟩ | ⟨e, _, -, ⟨-, rfl⟩ | ⟨-, rfl⟩, ended⟩
  · exact .inl ⟨_, _, _, _, same⟩
  · exact .inr ⟨_, _, _, _, ended⟩
  · exact .inl ⟨_, _, _, _, ended⟩

end Backstage

/-! ## Steps of a task -/

/-- What is left of a task that runs is planned. -/
theorem Planned.of_running {h : Home} {action : Task.Action} {rest : List Task.Action}
    (running : h.work.worker = .running (action :: rest)) : h.Planned rest where
  known _ mem := .inl (running ▸ List.mem_cons_of_mem action mem)
  lighter := running ▸ Nat.lt_add_of_pos_left action.weight_pos

/-- Plans depend on the worker and the service alone. -/
theorem Planned.congr {g h : Home} {rest : List Task.Action} (planned : h.Planned rest)
    (same : g.work.worker = h.work.worker) (service : g.service = h.service) :
    g.Planned rest where
  known := by
    rw [same, service]
    exact planned.known
  lighter := by
    rw [same]
    exact planned.lighter

section Turns

variable (own : permits .own)
include own

/-- A scan comes to what it adds and says, and to the end of its task. -/
theorem scan_deeds {h : Home} (busy : h.work.worker.isBusy = true) (path : Path) :
    Deeds permits h (h.scan path) := by
  unfold scan
  dsimp only
  have quiet := Rescan.run_quiet (libraryStore h.work.isValid) h.files true path h.library
  generalize Rescan.run (libraryStore h.work.isValid) h.files true path h.library = r at quiet ⊢
  have stored : Deeds permits h { h with library := r.store } :=
    .single (.aside (.store h _ busy)) own
  have reported := stored.tail (.aside (.report _ _ quiet)) own
  refine (reported.trans (announceAny_deeds own r.announced busy)).tail (.finish _ _ ?_) own
  rw [announceAny_work]
  exact busy

/-- What the service is going to do is planned before it is asked. -/
theorem fetch_deeds {h : Home} {rest : List Task.Action}
    (running : h.work.worker = .running (.fetch :: rest)) (e : Work.Entry) :
    Deeds permits h (h.fetch e rest) := by
  have fetching : .fetch ∈ h.work.worker.rest := running ▸ List.mem_cons_self ..
  have planned : h.Planned (h.service.next.1.steps ++ rest) := by
    refine ⟨fun other mem => ?_, ?_⟩
    · rcases List.mem_append.1 mem with mem | mem
      · exact .inr ⟨fetching, mem⟩
      · exact (Planned.of_running running).known other mem
    · have steps := Refresh.Script.weigh_steps_le h.service.next.1
      rw [running, Task.weigh_append]
      change _ < 16 + Task.weigh rest
      omega
  have busy : h.work.worker.isBusy = true := congrArg Work.Worker.isBusy running
  have planned := Deeds.single (.goOn h _ busy planned) own
  have consulted := planned.tail (.aside (.consult _ rfl)) own
  have reported := consulted.tail (.aside (.report _
    [.refreshStarted h.service.next.2.name e.scheduled] rfl)) own
  exact reported.tail (.aside (.leave _ .refreshed rfl rfl)) own

/-- The conclusion of a refresh comes to what it announces and says, and to the end of its task. -/
theorem conclude_deeds {h : Home} (busy : h.work.worker.isBusy = true)
    (answer : Except Task.Error (List ObjectId)) : Deeds permits h (h.conclude answer) := by
  unfold conclude
  dsimp only
  have quiet := Refresh.conclude_quiet h.service.name h.work.isValid answer
  generalize Refresh.conclude h.service.name h.work.isValid answer = c at quiet ⊢
  have reported := (announceAny_deeds own c.announced busy).tail (.aside (.report _ _ quiet)) own
  refine reported.tail (.finish _ _ ?_) own
  change (h.announceAny c.announced).work.worker.isBusy = true
  rw [announceAny_work]
  exact busy

/-- The current task adds a task, leaves a trace and goes on. -/
theorem spawn_deeds {h : Home} {action : Task.Action} {rest : List Task.Action}
    (running : h.work.worker = .running (action :: rest)) {task : Task}
    (adds : task ∈ action.tasks) (parent : Option Task.Id) (trace : Trace)
    (quiet : trace.containers = []) :
    Deeds permits h (((h.addTask task parent).2.leave trace).continueWith rest) := by
  have busy : h.work.worker.isBusy = true := congrArg Work.Worker.isBusy running
  have same : (h.addTask task parent).2.work.worker = h.work.worker :=
    Work.notify_worker_of_busy (w := (h.work.enqueue task parent).2) busy
  have added : Deeds permits h (h.addTask task parent).2 :=
    .single (.spawn h task parent ⟨action, running ▸ List.mem_cons_self .., adds⟩) own
  have still := (congrArg Work.Worker.isBusy same).trans busy
  have left := added.tail (.aside (.leave _ trace quiet still)) own
  exact left.tail (.goOn _ rest still ((Planned.of_running running).congr same rfl)) own

/-- **A step of a task.**  Whatever the task does, it ends or goes on. -/
theorem step_deeds {h : Home} (e : Work.Entry) {action : Task.Action} {rest : List Task.Action}
    (running : h.work.worker = .running (action :: rest)) :
    Deeds permits h (h.step e rest action) := by
  have busy : h.work.worker.isBusy = true := congrArg Work.Worker.isBusy running
  have planned : h.Planned rest := .of_running running
  have goesOn : Deeds permits h (h.continueWith rest) := .single (.goOn h rest busy planned) own
  have ends : ∀ outcome, Deeds permits h (h.finish outcome) := fun outcome =>
    .single (.finish h outcome busy) own
  have leaves : ∀ trace : Trace, trace.containers = [] →
      Deeds permits h ((h.leave trace).continueWith rest) := fun trace quiet =>
    (Deeds.single (.aside (.leave h trace quiet busy)) own).tail
      (.goOn _ rest busy (planned.congr rfl rfl)) own
  cases action with
  | check =>
    unfold step
    dsimp only
    split
    · exact goesOn
    · exact ends _
  | note text => exact leaves _ rfl
  | noteValidity => exact leaves _ rfl
  | sleep ms =>
    unfold step
    dsimp only
    split
    · exact goesOn
    · exact .single (.sleep h ms rest busy planned ‹_›) own
  | await gate =>
    unfold step
    dsimp only
    split
    · exact goesOn
    · rename_i closed
      exact .single (.await h gate rest busy planned (Bool.eq_false_iff.2 closed)) own
  | fail error => exact ends _
  | panic payload => exact ends _
  | spawn header body =>
    unfold step
    dsimp only
    split
    · exact spawn_deeds own running (List.mem_singleton_self _) (some e.id) _ rfl
    · exact ends _
  | add header body =>
    unfold step
    dsimp only
    split
    · exact spawn_deeds own running (List.mem_singleton_self _) none _ rfl
    · exact ends _
  | invalidate id =>
    unfold step
    dsimp only
    split
    · have same : (h.invalidate (id.getD e.id)).2.work.worker = h.work.worker := by
        obtain ⟨events, -, cancelled⟩ := exists_invalidate (id.getD e.id) h
        rw [cancelled]
        rfl
      have service : (h.invalidate (id.getD e.id)).2.service = h.service := by
        obtain ⟨events, -, cancelled⟩ := exists_invalidate (id.getD e.id) h
        rw [cancelled]
        rfl
      have still := (congrArg Work.Worker.isBusy same).trans busy
      have cancelled := Deeds.single (.invalidate h (id.getD e.id)) own
      have left := cancelled.tail (.aside (.leave _
        (.invalidated (id.getD e.id) (h.invalidate (id.getD e.id)).1) rfl still)) own
      exact left.tail (.goOn _ rest still (planned.congr same service)) own
    · exact ends _
  | giveUp => exact ends _
  | rescan path => exact scan_deeds own busy path
  | fetch =>
    unfold step
    dsimp only
    split
    · exact fetch_deeds own running e
    · exact ends _
  | interrupt =>
    have set := Deeds.single (.interrupt h busy (running ▸ List.mem_cons_self ..)) own
    exact set.tail (.goOn _ rest busy (planned.congr rfl rfl)) own
  | conclude answer => exact conclude_deeds own busy answer

/-- The worker looks at the queue only if that is its turn. -/
theorem pollWorker_deeds {h : Home} (look : h.work.worker = .looking → permits .look) :
    Deeds permits h h.pollWorker := by
  unfold pollWorker
  split
  · rename_i looking
    exact .single (.look h looking) (look looking)
  · rename_i rest running
    split
    · exact .single (.finish h _ (congrArg Work.Worker.isBusy running)) own
    · exact step_deeds own _ running
    · exact .refl
  · exact .single (.putAway h ‹_›) own
  · exact .refl

end Turns

/-- The turn of a pulse comes to its beat and a tick, if it sends one. -/
theorem pollPulse_deeds (own : permits .own) (ticks : permits .tick) (beat : permits .beat)
    (id : Timer.SubscriptionId) (h : Home) : Deeds permits h (h.pollPulse id) := by
  have beaten : Deeds permits h { h with timer := (h.timer.beat h.nanos h.isAlive id).2 } :=
    .single (.aside (.beat h id)) beat
  unfold pollPulse
  dsimp only
  split
  · exact beaten
  · exact beaten.tail (.aside (.rest _ _ id)) beat
  · exact (beaten.trans (tick_deeds own ticks _ _)).tail (.aside (.goOn _ id)) beat

/-- What the turn of an agent permits. -/
def Agent.Permits : Agent → Label → Prop
  | .worker, label => label = .own ∨ label = .look
  | .pulse _, label => label = .own ∨ label = .tick ∨ label = .beat
  | .call index, label => label = .call index

/-- **A turn is a few deeds.** -/
theorem poll_deeds (agent : Agent) (h : Home) : Deeds agent.Permits h (poll agent h) := by
  cases agent with
  | worker =>
    exact pollWorker_deeds (show Agent.worker.Permits .own from .inl rfl) fun _ => .inr rfl
  | pulse id => exact pollPulse_deeds (.inl rfl) (.inr (.inl rfl)) (.inr (.inr rfl)) id h
  | call index => exact .single (.call h index) rfl

end Home
end HomeMedia
