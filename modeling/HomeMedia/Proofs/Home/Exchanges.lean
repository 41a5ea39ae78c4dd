import HomeMedia.Proofs.Home.Acts
import HomeMedia.Startup
/-!
# What does not notice an exchange

Hardly anything looks at the accounts of a home server, at the steps that its tasks have before
them, at what its online service is going to do, or at what was logged. All
this may be exchanged for something else (`Exchange`), and the server goes on in the same way:
subscriptions, tasks, sessions, the schedule, ticks and pulses, and whatever is asked of it
(`act_exchanged`), but for the three commands that are about passwords (`Command.usesAccounts`) if
the accounts are among what is exchanged. Only the worker looks at steps and at the service.

There is one lemma for each function: doing it after the exchange is doing it and then exchanging,
and what is answered is the same. Where nothing on the way is exchanged, that is so by definition.
-/

namespace HomeMedia

open Settings (Accounts)

/-- Whether an event is one that the worker reports of a task: its start or its end. -/
def Event.ofWorker : Event → Bool
  | .taskStarted _ _ _ _ => true
  | .taskEnded _ _ _ => true
  | .taskFailed _ _ _ => true
  | _ => false

/-- What is exchanged for what. The tasks that the server makes for itself have one step, and stay
as they are. Events that the worker does not report are logged as before. -/
structure Home.Exchange where
  /-- The accounts. -/
  accounts : Accounts → Accounts := id
  /-- The steps that a task has before it. -/
  body : List Task.Action → List Task.Action := id
  /-- What the online service is going to do. -/
  script : Refresh.Script → Refresh.Script := id
  /-- What was reported. -/
  log : List Event → List Event := id
  fetch : body [.fetch] = [.fetch]
  rescan : ∀ path, body [.rescan path] = [.rescan path]
  report : ∀ before events, events.filter Event.ofWorker = [] →
    log (before ++ events) = log before ++ events

/-- The registry with other accounts. -/
def Session.Registry.onAccounts (f : Accounts → Accounts) (r : Registry) : Registry :=
  { r with ui := { r.ui with accounts := f r.ui.accounts } }

/-- The task with another body. -/
def Task.mapBody (f : List Task.Action → List Task.Action) (task : Task) : Task :=
  { task with body := f task.body }

/-- The service with other scripts. -/
def Refresh.Service.mapScripts (f : Refresh.Script → Refresh.Script) (s : Service) : Service :=
  { s with scripts := s.scripts.map f }

namespace Work

variable (f : List Task.Action → List Task.Action)

/-- The task in the queue with another body. -/
def Entry.mapBody (e : Entry) : Entry := { e with body := f e.body }

/-- The worker with other steps left. -/
def Worker.mapRest : Worker → Worker
  | .running rest => .running (f rest)
  | .atGate gate rest => .atGate gate (f rest)
  | .looking => .looking
  | .parked => .parked
  | .ended => .ended
  | .stopped => .stopped

/-- The queue with other steps in all tasks. -/
def mapBodies (w : Work) : Work :=
  { w with
    queue := w.queue.map (Entry.mapBody f)
    current := w.current.map (Entry.mapBody f)
    worker := w.worker.mapRest f }

variable (w : Work)

/-- A task with other steps is queued like the task. -/
theorem enqueue_mapBodies (task : Task) (parent : Option Task.Id) :
    (w.mapBodies f).enqueue (task.mapBody f) parent =
      ((w.enqueue task parent).1, (w.enqueue task parent).2.mapBodies f) := by
  unfold enqueue mapBodies
  dsimp only
  rw [List.map_append]
  rfl

/-- The list of tasks does not show their steps. -/
theorem list_mapBodies : (w.mapBodies f).list = w.list := List.map_map

/-- The worker is woken whatever the steps. -/
theorem notify_mapBodies :
    (w.mapBodies f).notify = (w.notify.1, w.notify.2.mapBodies f) := by
  unfold notify mapBodies
  dsimp only
  cases w.worker <;> rfl

/-- Whether it has stopped does not depend on them. -/
theorem isStopped_mapBodies : (w.mapBodies f).isStopped = w.isStopped := by
  unfold isStopped mapBodies
  dsimp only
  cases w.worker <;> rfl

/-- A task is hit whatever its steps. -/
theorem Entry.hit_mapBody (id : Task.Id) (e : Entry) :
    (e.mapBody f).hit id = (e.hit id).mapBody f := by
  unfold hit
  rw [apply_ite (Entry.mapBody f)]
  rfl

/-- Tasks are cancelled whatever their steps. -/
theorem invalidate_mapBodies (id : Task.Id) :
    (w.mapBodies f).invalidate id = ((w.invalidate id).1, (w.invalidate id).2.mapBodies f) := by
  have entries : (w.mapBodies f).entries = w.entries.map (Entry.mapBody f) := by
    unfold entries mapBodies
    cases w.current <;> simp
  have hits : Entry.hit id ∘ Entry.mapBody f = Entry.mapBody f ∘ Entry.hit id :=
    funext (Entry.hit_mapBody f id)
  unfold invalidate
  rw [entries, List.filter_map, List.length_map]
  unfold mapBodies
  dsimp only
  rw [List.map_map, List.map_map, Option.map_map, Option.map_map, hits]
  rfl

/-- Whether the current task is valid does not depend on them. -/
theorem isValid_mapBodies : (w.mapBodies f).isValid = w.isValid := by
  unfold isValid mapBodies
  rw [Option.map_map]
  rfl

end Work

namespace Session.Registry

variable (f : Accounts → Accounts) (r : Registry)

/-- A session is created with any accounts. -/
theorem create_onAccounts (timeout : Nat) (now : Int) :
    (r.onAccounts f).create timeout now =
      ((r.create timeout now).1, (r.create timeout now).2.onAccounts f) := by
  unfold create
  rw [show (r.onAccounts f).isTaken = r.isTaken from rfl,
    show (r.onAccounts f).candidates = r.candidates from rfl]
  cases r.candidates.drawFree r.isTaken maxIdAttempts with
  | mk drawn candidates => cases drawn <;> rfl

/-- Sessions are told with any accounts. -/
theorem tell_onAccounts (notice : Session → Session) :
    (r.onAccounts f).tell notice = (r.tell notice).onAccounts f := by
  unfold tell
  rw [show (r.onAccounts f).count = r.count from rfl]
  split
  · rfl
  · rfl

/-- Changes are announced with any accounts. -/
theorem announce_onAccounts (ids : List ObjectId) :
    announce ids (r.onAccounts f) = (announce ids r).onAccounts f := by
  unfold announce
  split
  · exact tell_onAccounts f r _
  · exact tell_onAccounts f r _

end Session.Registry

namespace Home

/-- The server after an exchange. -/
def exchanged (x : Exchange) (h : Home) : Home :=
  { h with
    registry := h.registry.map (Session.Registry.onAccounts x.accounts)
    work := h.work.mapBodies x.body
    service := h.service.mapScripts x.script
    log := x.log h.log }

/-- The exchange of the accounts alone. -/
def Exchange.ofAccounts (f : Accounts → Accounts) : Exchange where
  accounts := f
  fetch := rfl
  rescan _ := rfl
  report _ _ _ := rfl

/-- The exchange of the log alone. -/
def Exchange.ofLog (log : List Event → List Event)
    (report : ∀ before events, events.filter Event.ofWorker = [] →
      log (before ++ events) = log before ++ events) : Exchange where
  log
  fetch := rfl
  rescan _ := rfl
  report

variable (x : Exchange) (h : Home)

/-- The registry gets the other accounts. -/
theorem registry_exchanged :
    (h.exchanged x).registry = h.registry.map (Session.Registry.onAccounts x.accounts) := rfl

/-- The queue gets the other steps. -/
theorem work_exchanged : (h.exchanged x).work = h.work.mapBodies x.body := rfl

/-- Who holds on to the queue stays the same. -/
theorem usesWork_exchanged : (h.exchanged x).usesWork = h.usesWork := rfl

/-- So does the schedule. -/
theorem schedule_exchanged : (h.exchanged x).schedule = h.schedule := rfl

/-- An event that the worker does not report is logged before or after the exchange. -/
theorem report_exchanged {events : List Event} (other : events.filter Event.ofWorker = []) :
    (h.exchanged x).report events = (h.report events).exchanged x :=
  congrArg (fun log => ({ h.exchanged x with log } : Home)) (x.report h.log events other).symm

/-- A change of the registry that is the same with other accounts may be made before or after. -/
theorem onRegistry_exchanged {g : Session.Registry → Session.Registry}
    (commutes : ∀ r, g (r.onAccounts x.accounts) = (g r).onAccounts x.accounts) :
    (h.exchanged x).onRegistry g = (h.onRegistry g).exchanged x := by
  unfold exchanged onRegistry
  dsimp only
  rw [Option.map_map, Option.map_map]
  exact congrArg (fun g => ({ h.exchanged x with registry := h.registry.map g } : Home))
    (funext commutes)

/-- The same session has an id. -/
theorem find?_exchanged (id : String) :
    ((h.exchanged x).registry.bind fun r => r.find? id) = h.registry.bind fun r => r.find? id := by
  rw [registry_exchanged]
  cases h.registry <;> rfl

/-- The same subscribers are there. -/
theorem isAlive_exchanged : (h.exchanged x).isAlive = h.isAlive := by
  funext subscriber
  cases subscriber with
  | sweep => exact Option.isSome_map
  | refresh => rfl

/-- Either of two servers is exchanged. -/
theorem exchanged_ite (c : Prop) [Decidable c] (g : Home) :
    (if c then g else h).exchanged x = if c then g.exchanged x else h.exchanged x :=
  apply_ite (exchanged x) c g h

/-! ## Subscriptions, tasks and sessions -/

/-- The worker may be woken before or after the exchange. -/
theorem wakeWorker_exchanged : (h.exchanged x).wakeWorker = h.wakeWorker.exchanged x := by
  unfold wakeWorker
  rw [work_exchanged, Work.notify_mapBodies]
  rfl

/-- A task may be added before, or with other steps after it. -/
theorem addTask_exchanged (task : Task) (parent : Option Task.Id) :
    (h.exchanged x).addTask (task.mapBody x.body) parent =
      ((h.addTask task parent).1, (h.addTask task parent).2.exchanged x) := by
  unfold addTask
  rw [work_exchanged, Work.enqueue_mapBodies]
  dsimp only
  rw [← wakeWorker_exchanged, ← report_exchanged x _ rfl]
  rfl

/-- A task of one step is added before or after it. -/
theorem addTask_exchanged_of_eq {task : Task} (same : task.mapBody x.body = task)
    (parent : Option Task.Id) :
    (h.exchanged x).addTask task parent =
      ((h.addTask task parent).1, (h.addTask task parent).2.exchanged x) := by
  have added := addTask_exchanged x h task parent
  rwa [same] at added

/-- So is a fetch. -/
theorem queueFetch_exchanged (scheduled : Bool) :
    (h.exchanged x).queueFetch scheduled =
      ((h.queueFetch scheduled).1, (h.queueFetch scheduled).2.exchanged x) := by
  let task := Refresh.fetchTask h.service.name scheduled
  have same : task.mapBody x.body = task := congrArg (fun body => { task with body }) x.fetch
  exact addTask_exchanged_of_eq x h same none

/-- A scan has one step. -/
theorem mapBody_scanTask (path : Path) (cancellable : Bool) :
    (scanTask path cancellable).mapBody x.body = scanTask path cancellable :=
  congrArg (fun body => { scanTask path cancellable with body }) (x.rescan path)

/-- A subscription may be made before or after. -/
theorem subscribe_exchanged (subscriber : Subscriber) (nanos : Nat) :
    (h.exchanged x).subscribe subscriber nanos =
      ((h.subscribe subscriber nanos).1, (h.subscribe subscriber nanos).2.exchanged x) := by
  unfold subscribe
  dsimp only
  rw [← report_exchanged x]
  · rfl
  · split <;> rfl

/-- Something may let go of the queue before or after. -/
theorem letGo_exchanged {release : Home → Home}
    (commutes : release (h.exchanged x) = (release h).exchanged x) :
    (h.exchanged x).letGo release = (h.letGo release).exchanged x := by
  unfold letGo
  rw [commutes]
  dsimp only
  rw [wakeWorker_exchanged, exchanged_ite]
  rfl

/-- Tasks may be cancelled before or after. -/
theorem invalidate_exchanged (id : Task.Id) :
    (h.exchanged x).invalidate id = ((h.invalidate id).1, (h.invalidate id).2.exchanged x) := by
  unfold invalidate
  rw [work_exchanged, Work.invalidate_mapBodies]
  cases h.work.invalidate id with
  | mk count work =>
    dsimp only
    split
    · rfl
    · rw [← report_exchanged x { h with work } rfl]
      rfl

/-- The registry may see to its subscription before or after. -/
theorem checkTimer_exchanged : (h.exchanged x).checkTimer = h.checkTimer.exchanged x := by
  unfold checkTimer
  rw [registry_exchanged]
  cases found : h.registry with
  | none => rfl
  | some r =>
    rw [Option.map_some]
    dsimp only
    rw [show (r.onAccounts x.accounts).timerNeed = r.timerNeed from rfl,
      show (r.onAccounts x.accounts).sweepNanos = r.sweepNanos from rfl]
    cases r.timerNeed with
    | nothing => rfl
    | subscribe =>
      dsimp only
      rw [subscribe_exchanged]
      exact onRegistry_exchanged x (h.subscribe .sweep r.sweepNanos).2 fun _ => rfl
    | unsubscribe id => exact onRegistry_exchanged x (h.unsubscribe id) fun _ => rfl

/-- A session may be created before or after. -/
theorem createSession_exchanged (timeout : Nat) :
    (h.exchanged x).createSession timeout =
      ((h.createSession timeout).1, (h.createSession timeout).2.exchanged x) := by
  unfold createSession
  rw [registry_exchanged]
  cases h.registry with
  | none => rfl
  | some r =>
    rw [Option.map_some]
    dsimp only
    rw [Session.Registry.create_onAccounts, show (h.exchanged x).now = h.now from rfl]
    cases r.create timeout h.now with
    | mk result r =>
      cases result with
      | error cause =>
        dsimp only
        rw [← report_exchanged x _ rfl]
        rfl
      | ok s =>
        have same := checkTimer_exchanged x
          { h with registry := some r, released := h.released.filter fun other => other.id != s.id }
        exact congrArg (Prod.mk (some (Except.ok s))) same

/-- A session may be removed before or after. -/
theorem removeSession_exchanged (id : String) :
    (h.exchanged x).removeSession id =
      ((h.removeSession id).1, (h.removeSession id).2.exchanged x) := by
  unfold removeSession
  rw [find?_exchanged]
  cases h.registry.bind fun r => r.find? id with
  | none => rfl
  | some s =>
    have same := onRegistry_exchanged x (g := Session.Registry.remove id)
      { h with released := h.released ++ [s] } fun _ => rfl
    exact congrArg (Prod.mk true) ((congrArg checkTimer same).trans (checkTimer_exchanged x _))

/-- Idle sessions may be removed before or after. -/
theorem sweep_exchanged (now : Int) :
    (h.exchanged x).sweep now = ((h.sweep now).1, (h.sweep now).2.exchanged x) := by
  unfold sweep
  rw [registry_exchanged]
  cases h.registry with
  | none => rfl
  | some r =>
    rw [Option.map_some]
    dsimp only
    rw [show (r.onAccounts x.accounts).expired now = r.expired now from rfl,
      show (r.onAccounts x.accounts).sweep now = (r.sweep now).onAccounts x.accounts from rfl,
      show ({ h.exchanged x with
          registry := some ((r.sweep now).onAccounts x.accounts)
          released := (h.exchanged x).released ++ r.expired now } : Home) =
        ({ h with
          registry := some (r.sweep now)
          released := h.released ++ r.expired now } : Home).exchanged x from rfl,
      checkTimer_exchanged, report_exchanged]
    · rfl
    · split <;> rfl

/-- Changes may be announced before or after. -/
theorem announce_exchanged (ids : List ObjectId) :
    (h.exchanged x).announce ids = (h.announce ids).exchanged x := by
  unfold announce
  rw [onRegistry_exchanged x h (Session.Registry.announce_onAccounts x.accounts · ids)]
  rfl

/-! ## The schedule and ticks -/

/-- The schedule may be armed before or after. -/
theorem arm_exchanged : (h.exchanged x).arm = h.arm.exchanged x := by
  unfold arm
  rw [show (h.exchanged x).service.period? = h.service.period? from rfl, schedule_exchanged]
  cases h.service.period? with
  | none => rfl
  | some nanos =>
    cases h.schedule with
    | none => rfl
    | some s =>
      dsimp only
      rw [exchanged_ite, subscribe_exchanged]
      rfl

/-- It may be disarmed before or after. -/
theorem disarm_exchanged : (h.exchanged x).disarm = h.disarm.exchanged x := by
  unfold disarm
  rw [schedule_exchanged]
  cases h.schedule with
  | none => rfl
  | some s =>
    obtain ⟨armed, stopped⟩ := s
    cases armed <;> rfl

/-- It may be started before or after. -/
theorem startSchedule_exchanged :
    (h.exchanged x).startSchedule = (h.startSchedule.1, h.startSchedule.2.exchanged x) := by
  have same := arm_exchanged x
    { h with schedule := h.schedule.map (Refresh.Schedule.setStopped false) }
  exact congrArg (fun g : Home => ((g.schedule.bind Refresh.Schedule.armed).isSome, g)) same

/-- It may be stopped before or after. -/
theorem stopSchedule_exchanged : (h.exchanged x).stopSchedule = h.stopSchedule.exchanged x :=
  disarm_exchanged x { h with schedule := h.schedule.map (Refresh.Schedule.setStopped true) }

/-- A fetch may be asked for before or after. -/
theorem refreshNow_exchanged (unscheduled : Bool) :
    (h.exchanged x).refreshNow unscheduled =
      ((h.refreshNow unscheduled).1, (h.refreshNow unscheduled).2.exchanged x) := by
  cases unscheduled with
  | true => exact queueFetch_exchanged x h false
  | false =>
    exact (congrArg (queueFetch true) (disarm_exchanged x h)).trans
      (queueFetch_exchanged x h.disarm true)

/-- A tick may be sent before or after. -/
theorem tick_exchanged (subscriber : Subscriber) :
    (h.exchanged x).tick subscriber = (h.tick subscriber).exchanged x := by
  cases subscriber with
  | sweep => exact congrArg Prod.snd (sweep_exchanged x h h.now)
  | refresh =>
    unfold tick
    dsimp only
    rw [disarm_exchanged, queueFetch_exchanged, exchanged_ite]
    rfl

/-- The timer may be fired before or after. -/
theorem fire_exchanged : (h.exchanged x).fire = (h.fire.1, h.fire.2.exchanged x) := by
  have ticks (targets : List Subscriber) (h : Home) :
      targets.foldl tick (h.exchanged x) = (targets.foldl tick h).exchanged x := by
    induction targets generalizing h with
    | nil => rfl
    | cons subscriber more ih =>
      rw [List.foldl_cons, List.foldl_cons, tick_exchanged, ih]
  unfold fire
  rw [isAlive_exchanged]
  exact congrArg (Prod.mk _) (ticks _ h)

/-- So it may several times. -/
theorem fireTimes_exchanged (times : Nat) :
    (h.exchanged x).fireTimes times = (h.fireTimes times).exchanged x := by
  induction times generalizing h with
  | zero => rfl
  | succ times ih => rw [fireTimes, fireTimes, fire_exchanged, ih]

/-! ## The start -/

/-- The scan at the start may be queued before or after. -/
theorem queueScan_exchanged (library : Path) :
    Startup.queueScan library (h.exchanged x) = (Startup.queueScan library h).exchanged x := by
  unfold Startup.queueScan
  dsimp only
  rw [exchanged_ite, addTask_exchanged_of_eq x h (mapBody_scanTask x library false),
    report_exchanged x _ rfl, report_exchanged x _ rfl]
  rfl

/-- The catalog may be started before or after. -/
theorem startCatalog_exchanged (catalog : Settings.Catalog) :
    Startup.startCatalog catalog (h.exchanged x) =
      (Startup.startCatalog catalog h).exchanged x := by
  have refreshed (g : Home) :
      ((g.exchanged x).startSchedule.2.refreshNow false).2.report
          [.initialRefresh ((g.exchanged x).startSchedule.2.refreshNow false).1
            (g.exchanged x).startSchedule.1] =
        ((g.startSchedule.2.refreshNow false).2.report
          [.initialRefresh (g.startSchedule.2.refreshNow false).1 g.startSchedule.1]).exchanged
            x := by
    rw [startSchedule_exchanged, refreshNow_exchanged]
    exact report_exchanged x _ rfl
  exact refreshed { h with
    service := { name := "catalog", interval := some (catalog.refreshSeconds * Duration.second) }
    schedule := some {} }

/-! ## Turns of agents -/

/-- A gate may be opened before or after. -/
theorem release_exchanged (gate : String) :
    (h.exchanged x).release gate = (h.release gate).exchanged x := by
  unfold release
  dsimp only
  rw [show (h.exchanged x).work.worker = h.work.worker.mapRest x.body from rfl]
  cases h.work.worker with
  | atGate other rest =>
    dsimp only [Work.Worker.mapRest]
    rw [exchanged_ite]
    rfl
  | _ => rfl

/-- What changed, if anything, may be announced before or after. -/
theorem announceAny_exchanged (ids : Option (List ObjectId)) :
    (h.exchanged x).announceAny ids = (h.announceAny ids).exchanged x := by
  cases ids with
  | none => rfl
  | some ids => exact announce_exchanged x h ids

/-- The worker reports the start of a task when it looks at the queue. -/
theorem look_exchanged (started : ∀ before id kind description valid,
    x.log (before ++ [.taskStarted id kind description valid]) =
      x.log before ++ [.taskStarted id kind description valid]) :
    (h.exchanged x).look = h.look.exchanged x := by
  unfold look
  rw [exchanged_ite, usesWork_exchanged, ← report_exchanged x { h with work := h.work.stop } rfl]
  refine congrArg (ite _ _) ?_
  rw [show (h.exchanged x).work.queue = h.work.queue.map (Work.Entry.mapBody x.body) from rfl]
  cases h.work.queue with
  | cons e queue =>
    exact congrArg (fun log => ({ (h.exchanged x).continueWith (x.body e.body) with
      work := { h.work.mapBodies x.body with
        queue := queue.map (Work.Entry.mapBody x.body)
        current := some (e.mapBody x.body)
        worker := .running (x.body e.body) }
      log } : Home)) (started h.log e.id e.kind e.description e.valid).symm
  | nil =>
    dsimp only [List.map_nil]
    rw [exchanged_ite, exchanged_ite]
    rfl

/-- The queue may be put away before or after. -/
theorem putAway_exchanged : (h.exchanged x).putAway = h.putAway.exchanged x := by
  unfold putAway
  rw [usesWork_exchanged]
  cases h.usesWork <;> rfl

/-- A pulse may have its turn before or after. -/
theorem pollPulse_exchanged (id : Timer.SubscriptionId) :
    (h.exchanged x).pollPulse id = (h.pollPulse id).exchanged x := by
  unfold pollPulse
  rw [isAlive_exchanged, show (h.exchanged x).timer = h.timer from rfl,
    show (h.exchanged x).nanos = h.nanos from rfl]
  cases h.timer.beat h.nanos h.isAlive id with
  | mk beat timer =>
    cases beat with
    | tick subscriber =>
      exact congrArg (fun g : Home => { g with loop := g.loop.goOn (.pulse id) })
        (tick_exchanged x { h with timer } subscriber)
    | _ => rfl

/-- A call may have its turn before or after. -/
theorem pollCall_exchanged (index : Nat) :
    (h.exchanged x).pollCall index = (h.pollCall index).exchanged x := by
  unfold pollCall
  dsimp only
  rw [← wakeWorker_exchanged, work_exchanged, Work.isStopped_mapBodies,
    show (h.work.mapBodies x.body).queue.length = h.work.queue.length from List.length_map _,
    report_exchanged]
  · rfl
  · change (if h.work.stopping then _ else _ : List Event).filter Event.ofWorker = []
    split <;> rfl

/-! ## Requests -/

/-- A request may be refused before or after. -/
theorem refuse_exchanged (e : Web.Error) :
    (h.exchanged x).refuse e = ((h.refuse e).1, (h.refuse e).2.exchanged x) :=
  congrArg (Prod.mk _) (report_exchanged x h rfl)

/-- A session may be let in before or after. -/
theorem authenticate_exchanged (r : Web.Request) :
    (h.exchanged x).authenticate r =
      ((h.authenticate r).1, (h.authenticate r).2.exchanged x) := by
  unfold authenticate
  cases r.sessionId? with
  | none => rfl
  | some id =>
    dsimp only
    rw [show (h.exchanged x).servesSessions = h.servesSessions from rfl, find?_exchanged]
    cases h.servesSessions with
    | false => exact congrArg (Prod.mk _) (report_exchanged x h rfl)
    | true =>
      cases h.registry.bind fun r => r.find? id with
      | none => rfl
      | some s =>
        dsimp only
        cases s.loggedIn with
        | false => rfl
        | true =>
          exact congrArg (Prod.mk _)
            (onRegistry_exchanged x (g := Session.Registry.update id (Session.accessAt h.now)) h
              fun _ => rfl)

/-- It may log out before or after. -/
theorem logOut_exchanged (s : Session) :
    (h.exchanged x).logOut s = ((h.logOut s).1, (h.logOut s).2.exchanged x) := by
  have out := onRegistry_exchanged x
    (g := Session.Registry.update s.id (Session.setLoggedIn false)) h fun _ => rfl
  unfold logOut
  dsimp only
  rw [out, removeSession_exchanged]
  exact congrArg (Prod.mk _) (report_exchanged x _ rfl)

/-- It may ask for its changes before or after. -/
theorem pollUpdates_exchanged (s : Session) (r : Web.Request) :
    (h.exchanged x).pollUpdates s r =
      ((h.pollUpdates s r).1, (h.pollUpdates s r).2.exchanged x) := by
  unfold pollUpdates
  cases r.updatesWord with
  | error rejection => rfl
  | ok word =>
    dsimp only
    cases Web.UpdatesAction.ofString (word.getD "check") with
    | error e => exact refuse_exchanged x h e
    | ok action =>
      cases action with
      | check => rfl
      | get =>
        exact congrArg (Prod.mk _)
          (onRegistry_exchanged x (g := Session.Registry.update s.id Session.told) h fun _ => rfl)
      | clear =>
        exact congrArg (Prod.mk _)
          (onRegistry_exchanged x (g := Session.Registry.update s.id Session.clear) h fun _ => rfl)

/-- It may ask for a scan before or after. -/
theorem requestScan_exchanged (s : Session) (r : Web.Request) :
    (h.exchanged x).requestScan s r =
      ((h.requestScan s r).1, (h.requestScan s r).2.exchanged x) := by
  unfold requestScan
  cases r.json Web.rescanReader with
  | error rejection => rfl
  | ok requested =>
    dsimp only
    rw [show (h.exchanged x).scanPath requested = h.scanPath requested from rfl]
    cases h.scanPath requested with
    | error e => exact refuse_exchanged x h e
    | ok path =>
      dsimp only
      rw [addTask_exchanged_of_eq x h (mapBody_scanTask x path true)]
      exact congrArg (Prod.mk _) (report_exchanged x _ rfl)

/-- It may cancel tasks before or after. -/
theorem cancelTask_exchanged (written : Text.Bytes) :
    (h.exchanged x).cancelTask written =
      ((h.cancelTask written).1, (h.cancelTask written).2.exchanged x) := by
  unfold cancelTask
  cases Web.Route.taskId written with
  | error rejection => rfl
  | ok id =>
    dsimp only
    rw [invalidate_exchanged]

/-- It is shown the same tasks. -/
theorem taskList_exchanged : (h.exchanged x).taskList = h.taskList := by
  unfold taskList
  rw [work_exchanged, Work.list_mapBodies]
  unfold Work.mapBodies
  cases h.work.current <;> rfl

/-- So whatever it asks for may be answered before or after. -/
theorem answerSession_exchanged (s : Session) (r : Web.Request) (route : Web.Route) :
    (h.exchanged x).answerSession s r route =
      ((h.answerSession s r route).1, (h.answerSession s r route).2.exchanged x) := by
  cases route with
  | logout => exact logOut_exchanged x h s
  | updates => exact pollUpdates_exchanged x h s r
  | rescan => exact requestScan_exchanged x h s r
  | tasks =>
    unfold answerSession
    dsimp only
    rw [taskList_exchanged]
  | cancel written => exact cancelTask_exchanged x h written
  | _ => rfl

/-- Only a login looks at the accounts. -/
theorem answer_exchanged {route : Web.Route} (other : route ≠ .login) (r : Web.Request) :
    (h.exchanged x).answer r route =
      ((h.answer r route).1, (h.answer r route).2.exchanged x) := by
  cases route with
  | welcome | health | liveness => rfl
  | login => exact absurd rfl other
  | logout | me | updates | tasks | rescan | cancel =>
    dsimp only [answer]
    rw [authenticate_exchanged]
    cases h.authenticate r with
    | mk result g =>
      cases result with
      | error e => exact refuse_exchanged x g e
      | ok s => exact answerSession_exchanged x g s r _

/-- A login looks at the accounts. It is answered in the same way if the accounts accept what is
typed after the exchange as they accepted what was typed before. -/
theorem logIn_exchanged {typed : String → String}
    (accepts : ∀ (r : Session.Registry) (user password : String),
      (r.onAccounts x.accounts).accepts user (typed password) = r.accepts user password)
    {r r' : Web.Request} (read : r'.json Web.Login.reader =
      (r.json Web.Login.reader).map fun login => { login with password := typed login.password }) :
    (h.exchanged x).logIn r' = ((h.logIn r).1, (h.logIn r).2.exchanged x) := by
  unfold logIn
  rw [read]
  cases r.json Web.Login.reader with
  | error rejection => rfl
  | ok login =>
    dsimp only [Except.map]
    if blank : Text.trimmed login.user = "" then
      rw [if_pos blank, if_pos blank]
      exact refuse_exchanged x h _
    else
      rw [if_neg blank, if_neg blank, registry_exchanged]
      cases h.registry with
      | none => exact refuse_exchanged x h _
      | some registry =>
        dsimp only [Option.map_some]
        rw [accepts]
        cases registry.accepts (Text.trimmed login.user) login.password with
        | false =>
          rw [if_pos (by decide), if_pos (by decide), report_exchanged x h rfl]
          exact refuse_exchanged x _ _
        | true =>
          have created : (h.exchanged x).createSession
              (registry.onAccounts x.accounts).ui.sessionTimeout = _ :=
            createSession_exchanged x h registry.ui.sessionTimeout
          rw [if_neg (by decide), if_neg (by decide), created]
          cases h.createSession registry.ui.sessionTimeout with
          | mk result g =>
            cases result with
            | none => exact refuse_exchanged x g _
            | some result =>
              cases result with
              | error cause => exact refuse_exchanged x g _
              | ok s =>
                have changed := onRegistry_exchanged x
                  (g := Session.Registry.update s.id fun s =>
                    (s.put userKey (Text.trimmed login.user)).setLoggedIn true) g fun _ => rfl
                dsimp only
                rw [changed, report_exchanged x _ rfl]

/-! ## Commands -/

/-- Whether a command is about passwords. -/
def Command.usesAccounts : Command → Bool
  | .password _ => true
  | .accepts _ _ => true
  | .request r => match Web.Route.ofRequest r with
    | .ok .login => true
    | _ => false
  | _ => false

/-- A session may be asked directly before or after. -/
theorem askSession_exchanged (id : String) (command : Session.Command) :
    (h.exchanged x).askSession id command =
      ((h.askSession id command).1, (h.askSession id command).2.exchanged x) := by
  unfold askSession
  rw [find?_exchanged, show (h.exchanged x).released = h.released from rfl]
  cases h.registry.bind fun r => r.find? id with
  | some s =>
    exact congrArg (Prod.mk _)
      (onRegistry_exchanged x (g := Session.Registry.update id fun s => (s.run command).2) h
        fun _ => rfl)
  | none =>
    dsimp only
    cases h.released.find? fun s => s.id == id <;> rfl

/-- The registry may be asked before or after if the asking allows it. -/
theorem ofRegistry_exchanged {ask ask' : Session.Registry → Reply × Home}
    (same : ∀ r, ask' (r.onAccounts x.accounts) = ((ask r).1, (ask r).2.exchanged x)) :
    (h.exchanged x).ofRegistry ask' =
      ((h.ofRegistry ask).1, (h.ofRegistry ask).2.exchanged x) := by
  unfold ofRegistry
  rw [registry_exchanged]
  cases h.registry with
  | none => rfl
  | some r => exact same r

/-- So may the queue. -/
theorem ofWork_exchanged {ask ask' : Unit → Reply × Home}
    (same : ask' () = ((ask ()).1, (ask ()).2.exchanged x)) :
    (h.exchanged x).ofWork ask' = ((h.ofWork ask).1, (h.ofWork ask).2.exchanged x) := by
  unfold ofWork
  rw [show (h.exchanged x).holdsWork = h.holdsWork from rfl]
  split
  · exact same
  · rfl

/-- So may the schedule. -/
theorem ofSchedule_exchanged {ask ask' : Unit → Reply × Home}
    (same : ask' () = ((ask ()).1, (ask ()).2.exchanged x)) :
    (h.exchanged x).ofSchedule ask' =
      ((h.ofSchedule ask).1, (h.ofSchedule ask).2.exchanged x) := by
  unfold ofSchedule
  rw [schedule_exchanged]
  split
  · exact same
  · rfl

/-- The same sessions are held. -/
theorem held_exchanged : (h.exchanged x).held = h.held := by
  unfold held
  rw [registry_exchanged, Option.map_map]
  rfl

/-- The registry may be dropped before or after. -/
theorem dropRegistry_exchanged : (h.exchanged x).dropRegistry = h.dropRegistry.exchanged x := by
  unfold dropRegistry
  rw [registry_exchanged, Option.map_map]
  rfl

/-- Every request but a login may be answered before or after, and a login too if the accounts stay
the same. -/
theorem respond_exchanged {r : Web.Request}
    (other : Web.Route.ofRequest r ≠ .ok .login ∨ x.accounts = id) :
    (h.exchanged x).respond r = ((h.respond r).1, (h.respond r).2.exchanged x) := by
  unfold respond
  cases wanted : Web.Route.ofRequest r with
  | error rejection => rfl
  | ok route =>
    have answered : (h.exchanged x).answer r route =
        ((h.answer r route).1, (h.answer r route).2.exchanged x) := by
      rcases other with other | same
      · exact answer_exchanged x h (fun login => other (wanted.trans (congrArg _ login))) r
      · by_cases login : route = .login
        · subst login
          have read : r.json Web.Login.reader = (r.json Web.Login.reader).map
              fun login => { login with password := id login.password } := by
            cases r.json Web.Login.reader <;> rfl
          refine logIn_exchanged x h (fun r user password => ?_) read
          rw [same]
          rfl
        · exact answer_exchanged x h login r
    dsimp only
    rw [answered]

/-- The command with another body for the task that it adds. -/
def Command.mapBody (f : List Task.Action → List Task.Action) : Command → Command
  | .addTask task parent => .addTask (task.mapBody f) parent
  | command => command

/-- A command whose task keeps its steps is the same. -/
theorem Command.mapBody_id (command : Command) : command.mapBody id = command := by
  cases command <;> rfl

/-- **Commands do not notice an exchange,** if they take no time, and if they are not about
passwords or the accounts stay as they are. -/
theorem act_exchanged {command : Command} (brief : command.takesTime = false)
    (other : command.usesAccounts = false ∨ x.accounts = id) :
    (h.exchanged x).act (command.mapBody x.body) =
      ((h.act command).1, (h.act command).2.exchanged x) := by
  unfold act
  cases command with
  | settle => exact ofWork_exchanged x h rfl
  | sleep | jump => cases brief
  | fire =>
    dsimp only [Command.mapBody]
    rw [fire_exchanged]
  | fireTimes times => exact congrArg (Prod.mk _) (fireTimes_exchanged x h times)
  | createSession timeout =>
    refine ofRegistry_exchanged x h fun r => ?_
    rw [show (r.onAccounts x.accounts).ui.sessionTimeout = r.ui.sessionTimeout from rfl,
      createSession_exchanged]
    cases h.createSession (timeout.getD r.ui.sessionTimeout) with
    | mk result g => cases result <;> rfl
  | findSession id | settings => exact ofRegistry_exchanged x h fun r => rfl
  | removeSession id =>
    refine ofRegistry_exchanged x h fun r => ?_
    rw [removeSession_exchanged]
  | changed id =>
    exact ofRegistry_exchanged x h fun _ => congrArg (Prod.mk _)
      (onRegistry_exchanged x h (Session.Registry.tell_onAccounts x.accounts · _))
  | changedAll ids =>
    exact ofRegistry_exchanged x h fun _ => congrArg (Prod.mk _)
      (onRegistry_exchanged x h (Session.Registry.tell_onAccounts x.accounts · _))
  | announce ids =>
    exact ofRegistry_exchanged x h fun _ => congrArg (Prod.mk _)
      (onRegistry_exchanged x h (Session.Registry.announce_onAccounts x.accounts · ids))
  | sweepAt ms =>
    refine ofRegistry_exchanged x h fun r => ?_
    rw [sweep_exchanged]
  | sweep => exact ofRegistry_exchanged x h fun r => congrArg (Prod.mk _) (tick_exchanged x h _)
  | checkTimer =>
    exact ofRegistry_exchanged x h fun r => congrArg (Prod.mk _) (checkTimer_exchanged x h)
  | password | accepts =>
    refine ofRegistry_exchanged x h fun r => ?_
    rcases other with other | same
    · cases other
    · rw [same]
      rfl
  | liveSessions =>
    refine ofRegistry_exchanged x h fun r => ?_
    rw [held_exchanged]
    rfl
  | takeAll =>
    have told := onRegistry_exchanged x
      (g := fun r => { r with sessions := r.sessions.map Session.told }) h fun _ => rfl
    dsimp only
    rw [held_exchanged, told]
    rfl
  | dropRegistry => exact congrArg (Prod.mk _) (dropRegistry_exchanged x h)
  | onSession id command => exact askSession_exchanged x h id command
  | accessNow id => exact askSession_exchanged x h id _
  | lastAccess id =>
    dsimp only [Command.mapBody]
    rw [find?_exchanged]
  | addTask task parent =>
    refine ofWork_exchanged x h ?_
    dsimp only
    rw [addTask_exchanged]
  | listTasks =>
    exact ofWork_exchanged x h
      (congrArg (fun views => (Reply.tasks views, _)) (Work.list_mapBodies x.body h.work))
  | currentTask =>
    refine ofWork_exchanged x h (congrArg (fun view => (Reply.current view, _)) ?_)
    exact Option.map_map ..
  | requestStop => exact ofWork_exchanged x h rfl
  | invalidate id =>
    refine ofWork_exchanged x h ?_
    rw [invalidate_exchanged]
  | release gate => exact congrArg (Prod.mk _) (release_exchanged x h gate)
  | dropWork => exact ofWork_exchanged x h (congrArg (Prod.mk _) (letGo_exchanged x h rfl))
  | startSchedule =>
    refine ofSchedule_exchanged x h ?_
    rw [startSchedule_exchanged]
  | stopSchedule =>
    exact ofSchedule_exchanged x h (congrArg (Prod.mk _) (stopSchedule_exchanged x h))
  | refreshNow unscheduled =>
    refine ofSchedule_exchanged x h ?_
    rw [refreshNow_exchanged]
  | dropSchedule => exact congrArg (Prod.mk _) (letGo_exchanged x h rfl)
  | request r =>
    have same : (h.exchanged x).respond r = ((h.respond r).1, (h.respond r).2.exchanged x) :=
      respond_exchanged x h (other.imp_left fun plain login => by
        rw [Command.usesAccounts, login] at plain
        cases plain)
    dsimp only [Command.mapBody]
    rw [same]
  | intervalOf | shutDownTimer | directoryId => rfl

end Home
end HomeMedia
