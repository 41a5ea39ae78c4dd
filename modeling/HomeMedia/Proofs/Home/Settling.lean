import HomeMedia.Proofs.Home.Acts
import HomeMedia.Proofs.Timer.Pulses
/-!
# Letting the agents have their turns comes to an end

The effort of a home server bounds the turns until nobody is ready, and every turn wears it down
(`effort_lt_of_turn?`). What is done within a turn *costs* effort (`Costs`): an agent that becomes
ready costs what it needs, a task that is added costs its weight, a tick costs what its subscriber
does. A step of a task and a tick of a pulse pay for it, each as it was weighed beforehand.

Only pulses could go on forever, those of a timer that ticks without the clock moving; so the timer
has to be paced, which it stays whatever is done to it (`Deed.paced`).
-/

namespace HomeMedia

/-- What the worker still has to do for its task. -/
def Work.Worker.cost : Work.Worker → Nat
  | .looking => 2
  | .running rest => 8 + Task.weigh rest
  | .atGate _ rest => 8 + Task.weigh rest
  | .ended => 3
  | _ => 1

/-- The weight of the tasks that wait. -/
def Work.queueWeight (w : Work) : Nat := EventLoop.total (fun e => e.toTask.weight) w.queue

/-- What waits for the worker: tasks, and a wake-up. -/
def Work.load (w : Work) : Nat := w.queueWeight + if w.permit then 3 else 0

/-- What the worker still has to do is its own task and what waits for it. -/
theorem Work.effort_eq (w : Work) : w.effort = w.worker.cost + w.load := by
  unfold effort load queueWeight Worker.cost
  exact Nat.add_assoc ..

/-- A task that is added weighs on the queue. -/
theorem Work.queueWeight_enqueue (task : Task) (parent : Option Task.Id) (w : Work) :
    (w.enqueue task parent).2.queueWeight = w.queueWeight + task.weight :=
  EventLoop.total_append ..

/-- The weight of a queue is that of its first task and that of the others. -/
theorem Work.queueWeight_of_cons {w : Work} {e : Work.Entry} {queue : List Work.Entry}
    (waiting : w.queue = e :: queue) :
    w.queueWeight = e.toTask.weight + EventLoop.total (fun e => e.toTask.weight) queue := by
  rw [queueWeight, waiting]
  rfl

/-- Cancelled tasks weigh as much as before. -/
theorem Work.queueWeight_invalidate (id : Task.Id) (w : Work) :
    (w.invalidate id).2.queueWeight = w.queueWeight := by
  change EventLoop.total _ (w.queue.map (Work.Entry.hit id)) = _
  unfold Work.queueWeight
  induction w.queue with
  | nil => rfl
  | cons e more ih =>
    have same : (e.hit id).toTask = e.toTask := by
      unfold Work.Entry.hit
      split <;> rfl
    rw [List.map_cons, EventLoop.total, EventLoop.total, ih, same]

namespace Home

/-! ## The timer stays paced -/

/-- Nothing backstage changes the timer. -/
theorem Backstage.timer_eq {h g : Home} (backstage : Backstage h g) : g.timer = h.timer := by
  obtain ⟨work, loop, openGates, log, rfl⟩ := backstage
  rfl

/-- A timer that is paced stays paced when it is looked at. -/
theorem checkTimer_paced {h : Home} (paced : h.timer.Paced) : h.checkTimer.timer.Paced := by
  unfold checkTimer
  split
  · exact paced
  · split
    · exact paced
    · exact paced.subscribe ..
    · exact paced.unsubscribe _

/-- A timer that was seen to is paced if it was so before. -/
theorem SeenTo.paced {h g : Home} (seen : SeenTo h g) (paced : h.timer.Paced) : g.timer.Paced := by
  obtain ⟨registry, released, events, -, rfl | rfl⟩ := seen
  · exact paced
  · exact checkTimer_paced (h := { h with registry, released }) paced

/-- Arming the refresh leaves the timer paced. -/
theorem arm_paced {h : Home} (paced : h.timer.Paced) : h.arm.timer.Paced := by
  rcases arm_cases h with same | ⟨s, nanos, -, -, -, -, armed⟩
  · exact same.symm ▸ paced
  · exact armed ▸ paced.subscribe ..

/-- So does disarming it. -/
theorem disarm_paced {h : Home} (paced : h.timer.Paced) : h.disarm.timer.Paced := by
  rcases disarm_cases h with same | ⟨id, stopped, -, disarmed⟩
  · exact same.symm ▸ paced
  · exact disarmed ▸ paced.unsubscribe id

/-- **No deed makes a timer unpaced.** -/
theorem Deed.paced {label : Deed.Label} {h g : Home} (deed : Deed label h g)
    (paced : h.timer.Paced) : g.timer.Paced := by
  cases deed with
  | aside aside =>
    cases aside with
    | createSession h timeout => exact (SeenTo.createSession timeout h).paced paced
    | removeSession h id => exact (SeenTo.removeSession id h).paced paced
    | sweep h now => exact (SeenTo.sweep now h).paced paced
    | checkTimer h => exact checkTimer_paced paced
    | beat h id => exact paced.beat ..
    | shutDown h => exact paced.shutDown
    | _ => exact paced
  | invalidate h id => exact (Backstage.invalidate id h).timer_eq ▸ paced
  | dropWork h =>
    exact (Backstage.letGo (fun h => { h with holdsWork := false }) h).timer_eq ▸ paced
  | dropSchedule h =>
    exact (Backstage.letGo (fun h => { h with schedule := none }) h).timer_eq ▸ paced
  | release h gate => exact (Backstage.release gate h).timer_eq ▸ paced
  | look h looking => exact (Backstage.look h).timer_eq ▸ paced
  | finish h outcome busy =>
    rcases Backstage.finish outcome h with quiet | armed
    · exact quiet.timer_eq ▸ paced
    · exact armed.timer_eq ▸ arm_paced paced
  | start h => exact arm_paced (h := { h with schedule := _ }) paced
  | stop h => exact disarm_paced (h := { h with schedule := _ }) paced
  | refresh h => exact disarm_paced paced
  | tick h armed => exact disarm_paced paced
  | _ => exact paced

/-! ## Costs -/

/-- Something takes no time, gives no agent more to do, and adds some effort at most. -/
structure Costs (n : Nat) (h g : Home) : Prop where
  /-- It takes no time. -/
  now : g.loop.now = h.loop.now
  /-- No agent has more to do. -/
  agents : ∀ agent, g.agentEffort agent ≤ h.agentEffort agent
  /-- Some effort is added. -/
  effort : g.effort ≤ h.effort + n

namespace Costs

variable {m n : Nat} {h g k : Home}

/-- Doing nothing costs nothing. -/
theorem refl (h : Home) : Costs 0 h h := ⟨rfl, fun _ => Nat.le_refl _, Nat.le_refl _⟩

/-- One thing after the other costs what both cost. -/
theorem trans (a : Costs m h g) (b : Costs n g k) : Costs (m + n) h k where
  now := b.now.trans a.now
  agents agent := Nat.le_trans (b.agents agent) (a.agents agent)
  effort := by
    have := a.effort
    have := b.effort
    omega

/-- What costs little also costs no more than a larger bound. -/
theorem mono (a : Costs m h g) (le : m ≤ n) : Costs n h g :=
  ⟨a.now, a.agents, Nat.le_trans a.effort (Nat.add_le_add_left le _)⟩

/-- What leaves the queue, the timer and the loop alone costs nothing. -/
theorem of_same (work : g.work = h.work) (timer : g.timer = h.timer) (loop : g.loop = h.loop) :
    Costs 0 h g := by
  have agents : g.agentEffort = h.agentEffort := by
    funext agent
    cases agent <;> simp [agentEffort, nanos, timer, loop]
  exact ⟨congrArg EventLoop.now loop, fun agent => by rw [agents],
    by rw [Home.effort, Home.effort, work, loop, agents]; exact Nat.le_refl _⟩

/-- What leaves them alone afterwards costs no more. -/
theorem same (a : Costs n h g) (work : k.work = g.work) (timer : k.timer = g.timer)
    (loop : k.loop = g.loop) : Costs n h k :=
  a.trans (of_same work timer loop)

/-- Another timer, whose pulses have no more to do. -/
theorem withTimer {timer : Timer.Source Subscriber}
    (pulses : ∀ id, timer.pulseEffort 40 h.nanos id ≤ h.timer.pulseEffort 40 h.nanos id) :
    Costs 0 h { h with timer } := by
  have agents : ∀ agent, ({ h with timer } : Home).agentEffort agent ≤ h.agentEffort agent := by
    intro agent
    cases agent with
    | pulse id => exact pulses id
    | _ => exact Nat.le_refl _
  exact ⟨rfl, agents, Nat.add_le_add_left (EventLoop.total_le agents _) _⟩

/-- An agent becomes ready. -/
theorem wake (agent : Agent) (h : Home) :
    Costs (h.agentEffort agent) h { h with loop := h.loop.wake agent } := by
  refine ⟨rfl, fun other => Nat.le_refl _, Nat.le_of_eq ?_⟩
  change h.work.effort + EventLoop.total h.agentEffort (h.loop.ready ++ [agent]) = _
  rw [EventLoop.total_append, ← Nat.add_assoc]
  rfl

/-- An agent goes on within the effort that is left to it. -/
theorem goOn (agent : Agent) (h : Home) :
    Costs (h.agentEffort agent) h { h with loop := h.loop.goOn agent } := by
  refine ⟨rfl, fun other => Nat.le_refl _, Nat.le_of_eq ?_⟩
  change h.work.effort + (h.agentEffort agent + EventLoop.total h.agentEffort h.loop.ready) = _
  rw [Nat.add_comm (h.agentEffort agent), ← Nat.add_assoc]
  rfl

/-- Another queue. -/
theorem withWork {work : Work} (effort : work.effort ≤ h.work.effort + n) :
    Costs n h { h with work } := by
  refine ⟨rfl, fun agent => Nat.le_refl _, ?_⟩
  change work.effort + EventLoop.total h.agentEffort h.loop.ready ≤
    h.work.effort + EventLoop.total h.agentEffort h.loop.ready + n
  omega

/-! ### Subscriptions -/

/-- A pulse that starts has one turn. -/
theorem subscribe (paced : h.timer.Paced) (subscriber : Subscriber) (nanos : Nat) :
    Costs 1 h (h.subscribe subscriber nanos).2 := by
  have timed : Costs 0 h { h with timer := (h.timer.subscribe subscriber nanos).2 } :=
    withTimer fun id => Timer.Source.pulseEffort_subscribe subscriber nanos id
  have new : ({ h with timer := (h.timer.subscribe subscriber nanos).2 } : Home).agentEffort
      (.pulse (h.timer.subscribe subscriber nanos).1.id) = 1 := by
    rw [Timer.Source.id_subscribe]
    exact Timer.Source.pulseEffort_subscribe_new paced.toNumbered subscriber nanos
  have woken : Costs 1 h { h with
      timer := (h.timer.subscribe subscriber nanos).2
      loop := if (h.timer.subscribe subscriber nanos).1.hasPulse then
        h.loop.wake (.pulse (h.timer.subscribe subscriber nanos).1.id) else h.loop } := by
    split
    · exact timed.trans (new ▸ wake _ { h with timer := _ })
    · exact timed.mono (Nat.zero_le 1)
  exact woken.same rfl rfl rfl

/-- Ending a subscription costs nothing. -/
theorem unsubscribe (id : Timer.SubscriptionId) (h : Home) : Costs 0 h (h.unsubscribe id) :=
  withTimer fun other => Timer.Source.pulseEffort_unsubscribe id other

/-- Looking at the timer may wake its one agent. -/
theorem checkTimer (paced : h.timer.Paced) : Costs 1 h h.checkTimer := by
  unfold Home.checkTimer
  split
  · exact (refl h).mono (Nat.zero_le 1)
  · split
    · exact (refl h).mono (Nat.zero_le 1)
    · exact (subscribe paced .sweep _).same rfl rfl rfl
    · exact ((unsubscribe _ h).mono (Nat.zero_le 1)).same rfl rfl rfl

/-- So may everything that sees to the timer. -/
theorem seenTo (seen : SeenTo h g) (paced : h.timer.Paced) : Costs 1 h g := by
  obtain ⟨registry, released, events, -, rfl | rfl⟩ := seen
  · exact ((refl h).mono (Nat.zero_le 1)).same rfl rfl rfl
  · have changed : Costs 0 h { h with registry, released } := of_same rfl rfl rfl
    have seen := changed.trans (checkTimer (h := { h with registry, released }) paced)
    exact seen.same rfl rfl rfl

/-- Arming the refresh wakes the timer at most. -/
theorem arm (paced : h.timer.Paced) : Costs 1 h h.arm := by
  rcases arm_cases h with same | ⟨s, nanos, -, -, -, -, armed⟩
  · exact same.symm ▸ (refl h).mono (Nat.zero_le 1)
  · exact armed ▸ (subscribe paced .refresh nanos).same rfl rfl rfl

/-- Disarming it costs nothing. -/
theorem disarm (h : Home) : Costs 0 h h.disarm := by
  rcases disarm_cases h with same | ⟨id, stopped, -, disarmed⟩
  · exact same.symm ▸ refl h
  · exact disarmed ▸ (unsubscribe id h).same rfl rfl rfl

/-! ### The queue -/

/-- To wake the worker is to give it a permit. -/
theorem wakeWorker (h : Home) : Costs 3 h h.wakeWorker := by
  rcases wakeWorker_cases h with ⟨parked, eq⟩ | ⟨-, eq⟩ <;> rw [eq]
  · have looks : Costs 1 h { h with work := { h.work with worker := .looking } } := by
      refine withWork ?_
      rw [Work.effort_eq, Work.effort_eq, parked]
      change 2 + h.work.load ≤ 1 + h.work.load + 1
      omega
    exact (looks.trans (wake .worker _)).mono (show 1 + 1 ≤ 3 by decide)
  · refine withWork ?_
    rw [Work.effort_eq, Work.effort_eq]
    change h.work.worker.cost + (h.work.queueWeight + 3) ≤
      h.work.worker.cost + (h.work.queueWeight + _) + 3
    omega

/-- A task that is added costs its weight and the permit that comes with it. -/
theorem addTask (task : Task) (parent : Option Task.Id) (h : Home) :
    Costs (task.weight + 3) h (h.addTask task parent).2 := by
  have queued : Costs task.weight h { h with work := (h.work.enqueue task parent).2 } := by
    refine withWork (Nat.le_of_eq ?_)
    rw [Work.effort_eq, Work.effort_eq, Work.load, Work.load, Work.queueWeight_enqueue]
    change h.work.worker.cost + (_ + if h.work.permit = true then 3 else 0) = _
    omega
  have reported : Costs task.weight h ({ h with work := (h.work.enqueue task parent).2 }.report
      [.taskQueued (h.work.added + 1) task.kind task.description]) := queued.same rfl rfl rfl
  exact reported.trans (wakeWorker _)

/-- What a tick costs. -/
theorem tick (paced : h.timer.Paced) (subscriber : Subscriber) :
    Costs 27 h (h.tick subscriber) := by
  cases subscriber with
  | sweep => exact (seenTo (.sweep h.now h) paced).mono (by decide)
  | refresh =>
    unfold Home.tick
    dsimp only
    split
    · exact (disarm h).trans (addTask (Refresh.fetchTask h.disarm.service.name true) none h.disarm)
    · exact (refl h).mono (by decide)

/-- Taking back a task costs nothing: no action becomes heavier. -/
theorem invalidate (id : Task.Id) (h : Home) : Costs 0 h (h.invalidate id).2 := by
  have cancelled : Costs 0 h { h with work := (h.work.invalidate id).2 } := by
    refine withWork (Nat.le_of_eq ?_)
    rw [Work.effort_eq, Work.effort_eq, Work.load, Work.load, Work.queueWeight_invalidate]
    rfl
  obtain ⟨events, -, same⟩ := exists_invalidate id h
  exact same ▸ cancelled.same rfl rfl rfl

/-! ### The worker -/

/-- The worker is left with something else to do. -/
theorem withWorker (a : Costs m h g) (worker : Work.Worker)
    (pays : m + worker.cost ≤ n + g.work.worker.cost) :
    Costs n h { g with work := { g.work with worker } } := by
  have effort : ({ g.work with worker } : Work).effort + g.work.worker.cost =
      g.work.effort + worker.cost := by
    rw [Work.effort_eq, Work.effort_eq]
    change worker.cost + g.work.load + _ = _
    omega
  refine ⟨a.now, a.agents, ?_⟩
  have before := a.effort
  change ({ g.work with worker } : Work).effort + EventLoop.total g.agentEffort g.loop.ready ≤ _
  change g.work.effort + EventLoop.total g.agentEffort g.loop.ready ≤ _ at before
  omega

/-- What comes before the rest of a task is paid for by what the worker had to do. -/
theorem continueWith (a : Costs m h g) {rest : List Task.Action}
    (pays : m + (9 + Task.weigh rest) ≤ n + g.work.worker.cost) :
    Costs n h (g.continueWith rest) := by
  have turned : Costs (m + 1) h { g with loop := g.loop.goOn .worker } :=
    a.trans (goOn .worker g)
  refine turned.withWorker (.running rest) ?_
  change m + 1 + (8 + Task.weigh rest) ≤ n + g.work.worker.cost
  omega

end Costs

/-- A busy worker has still to end its task and to look again. -/
theorem Work.Worker.le_cost_of_busy {worker : Work.Worker} (busy : worker.isBusy = true) :
    8 ≤ worker.cost := by
  cases worker with
  | running rest => exact Nat.le_add_right ..
  | atGate gate rest => exact Nat.le_add_right ..
  | _ => cases busy

/-- **The end of a task** costs less than the task that ends. -/
theorem finish_costs {h : Home} (paced : h.timer.Paced) (busy : h.work.worker.isBusy = true)
    (outcome : Except Task.Error Task.Outcome) : Costs 0 h (h.finish outcome) := by
  have cost := Work.Worker.le_cost_of_busy busy
  rcases finish_cases outcome h with ⟨-, same⟩ | ⟨e, armed, -, scheduled, ended⟩
  · exact same.symm ▸ .refl h
  · have before : Costs 1 h armed ∧ armed.work = h.work := by
      rcases scheduled with ⟨-, rfl⟩ | ⟨-, rfl⟩
      · exact ⟨.arm paced, work_arm h⟩
      · exact ⟨(Costs.refl armed).mono (Nat.zero_le 1), rfl⟩
    obtain ⟨before, work⟩ := before
    have turned : Costs 2 h
        { armed.report [endEvent e outcome] with loop := armed.loop.goOn .worker } :=
      (before.same (k := armed.report [endEvent e outcome]) rfl rfl rfl).trans (.goOn .worker _)
    rw [ended, ← work]
    refine turned.withWorker .ended ?_
    change 2 + 3 ≤ 0 + armed.work.worker.cost
    rw [work]
    omega

/-- What is done before the end of a task is free, if it is not about the queue. -/
theorem finish_costs_of_same {g h : Home} (free : Costs 0 h g) (work : g.work = h.work)
    (timer : g.timer = h.timer) (paced : h.timer.Paced) (busy : h.work.worker.isBusy = true)
    (outcome : Except Task.Error Task.Outcome) : Costs 0 h (g.finish outcome) :=
  free.trans (finish_costs (timer ▸ paced) (work ▸ busy) outcome)

/-- Telling the sessions costs no agent anything. -/
theorem announceAny_costs (ids : Option (List ObjectId)) (h : Home) :
    Costs 0 h (h.announceAny ids) := by
  cases ids with
  | none => exact .refl h
  | some ids => exact .of_same rfl rfl rfl

/-- Telling the sessions does not reach the timer. -/
theorem announceAny_timer (ids : Option (List ObjectId)) (h : Home) :
    (h.announceAny ids).timer = h.timer := by
  cases ids <;> rfl

/-- A scan is paid for by the task that asked for it. -/
theorem scan_costs {h : Home} (paced : h.timer.Paced) (busy : h.work.worker.isBusy = true)
    (path : Path) : Costs 0 h (h.scan path) := by
  unfold scan
  dsimp only
  generalize Rescan.run (libraryStore h.work.isValid) h.files true path h.library = r
  have stored : Costs 0 h (({ h with library := r.store } : Home).report r.events) :=
    .of_same rfl rfl rfl
  exact finish_costs_of_same (stored.trans (announceAny_costs ..)) (announceAny_work ..)
    (announceAny_timer ..) paced busy _

/-- So is the end of a fetch, whatever was answered. -/
theorem conclude_costs {h : Home} (paced : h.timer.Paced) (busy : h.work.worker.isBusy = true)
    (answer : Except Task.Error (List ObjectId)) : Costs 0 h (h.conclude answer) := by
  unfold conclude
  dsimp only
  generalize Refresh.conclude h.service.name h.work.isValid answer = c
  have told := (announceAny_costs c.announced h).same
    (k := (h.announceAny c.announced).report c.events) rfl rfl rfl
  exact finish_costs_of_same told (announceAny_work c.announced h)
    (announceAny_timer c.announced h) paced busy _

/-- So is a fetch that begins. -/
theorem fetch_costs {h : Home} {rest : List Task.Action} (e : Work.Entry)
    (running : h.work.worker = .running (.fetch :: rest)) : Costs 0 h (h.fetch e rest) := by
  have steps := Refresh.Script.weigh_steps_le h.service.next.1
  have asked : Costs 0 h ((({ h with service := h.service.next.2 } : Home).report
      [.refreshStarted h.service.next.2.name e.scheduled]).leave .refreshed) :=
    .of_same rfl rfl rfl
  refine asked.continueWith ?_
  change 0 + (9 + Task.weigh (h.service.next.1.steps ++ rest)) ≤ 0 + h.work.worker.cost
  rw [running, Task.weigh_append]
  change _ ≤ 0 + (8 + (16 + Task.weigh rest))
  omega

/-- **A step of a task** costs no more than it was weighed. -/
theorem step_costs {h : Home} (paced : h.timer.Paced) (e : Work.Entry) {action : Task.Action}
    {rest : List Task.Action} (running : h.work.worker = .running (action :: rest)) :
    Costs 0 h (h.step e rest action) := by
  have busy : h.work.worker.isBusy = true := congrArg Work.Worker.isBusy running
  have cost : h.work.worker.cost = 8 + (action.weight + Task.weigh rest) := by
    rw [running]
    rfl
  have light : 2 ≤ action.weight := by cases action <;> simp [Task.Action.weight] <;> omega
  -- Going on after something that costs nothing and leaves the worker to its task.
  have goesOn : ∀ {g : Home}, Costs 0 h g → g.work.worker = h.work.worker →
      Costs 0 h (g.continueWith rest) := fun free worker =>
    free.continueWith (by rw [worker, cost]; omega)
  have ends : ∀ outcome, Costs 0 h (h.finish outcome) := finish_costs paced busy
  have adds : ∀ {header : Task.Header} {body : List Task.Action} (parent : Option Task.Id)
      (trace : Trace), action.weight = 12 + Task.weigh body →
      Costs 0 h (((h.addTask { toHeader := header, body } parent).2.leave trace).continueWith
        rest) := by
    intro header body parent trace weight
    have added := (Costs.addTask { toHeader := header, body } parent h).same
      (k := (h.addTask { toHeader := header, body } parent).2.leave trace) rfl rfl rfl
    refine added.continueWith ?_
    have same : (h.addTask { toHeader := header, body } parent).2.work.worker = h.work.worker :=
      Work.notify_worker_of_busy (w := (h.work.enqueue { toHeader := header, body } parent).2) busy
    change 8 + Task.weigh body + 3 + (9 + Task.weigh rest) ≤
      0 + (h.addTask { toHeader := header, body } parent).2.work.worker.cost
    rw [same, cost, weight]
    omega
  cases action with
  | check =>
    unfold step
    dsimp only
    split
    · exact goesOn (.refl h) rfl
    · exact ends _
  | note text => exact goesOn (.of_same rfl rfl rfl) rfl
  | noteValidity => exact goesOn (.of_same rfl rfl rfl) rfl
  | sleep ms =>
    unfold step
    dsimp only
    split
    · exact goesOn (.refl h) rfl
    · have later : Costs 0 h { h with loop := h.loop.wakeAt (h.loop.now + ms) .worker } :=
        ⟨rfl, fun _ => Nat.le_refl _, Nat.le_refl _⟩
      refine later.withWorker (.running rest) ?_
      change 0 + (8 + Task.weigh rest) ≤ 0 + h.work.worker.cost
      omega
  | await gate =>
    unfold step
    dsimp only
    split
    · exact goesOn (.refl h) rfl
    · refine (Costs.refl h).withWorker (.atGate gate rest) ?_
      change 0 + (8 + Task.weigh rest) ≤ 0 + h.work.worker.cost
      omega
  | fail error => exact ends _
  | panic payload => exact ends _
  | spawn header body =>
    unfold step
    dsimp only
    split
    · exact adds (some e.id) _ rfl
    · exact ends _
  | add header body =>
    unfold step
    dsimp only
    split
    · exact adds none _ rfl
    · exact ends _
  | invalidate id =>
    unfold step
    dsimp only
    split
    · refine goesOn ((Costs.invalidate (id.getD e.id) h).same rfl rfl rfl) ?_
      obtain ⟨events, -, cancelled⟩ := exists_invalidate (id.getD e.id) h
      change (h.invalidate (id.getD e.id)).2.work.worker = _
      rw [cancelled]
      rfl
    · exact ends _
  | giveUp => exact ends _
  | rescan path => exact scan_costs paced busy path
  | fetch =>
    unfold step
    dsimp only
    split
    · exact fetch_costs e running
    · exact ends _
  | interrupt =>
    refine goesOn (g := { h with work := h.work.interrupt }) (.withWork (Nat.le_of_eq ?_)) rfl
    rw [Work.effort_eq, Work.effort_eq]
    rfl
  | conclude answer => exact conclude_costs paced busy answer

/-- The worker goes on with a queue that is worn down. -/
theorem Costs.turn {h : Home} {work : Work} (pays : work.effort + 1 ≤ h.work.effort) :
    Costs 0 h { h with work, loop := h.loop.goOn .worker } := by
  refine ⟨rfl, fun _ => Nat.le_refl _, ?_⟩
  change work.effort + (1 + EventLoop.total h.agentEffort h.loop.ready) ≤
    h.work.effort + EventLoop.total h.agentEffort h.loop.ready + 0
  omega

/-- A worker that looks for a task has less to do afterwards. -/
theorem look_costs {h : Home} (looking : h.work.worker = .looking) : Costs 0 h h.look := by
  have effort : h.work.effort = 2 + h.work.load := by
    rw [Work.effort_eq, looking]
    rfl
  have stops : Costs 0 h { h with work := h.work.stop } := by
    refine .withWork ?_
    rw [effort, Work.effort_eq]
    change 1 + h.work.load ≤ _
    omega
  have looked := h.looked
  generalize h.look = g at looked ⊢
  cases looked with
  | abandon unused => exact stops.same rfl rfl rfl
  | @take e queue inUse waiting =>
    have taken : Costs 0 h { h with
        work := { h.work with queue, current := some e, worker := .running e.body }
        loop := h.loop.goOn .worker } := by
      refine .turn ?_
      rw [effort, Work.effort_eq, Work.load, Work.load, Work.queueWeight_of_cons waiting]
      change e.toTask.weight + (EventLoop.total (fun e => e.toTask.weight) queue +
        if h.work.permit = true then 3 else 0) + 1 ≤ _
      omega
    exact taken.same rfl rfl rfl
  | stop empty asked => exact stops
  | again empty free woken =>
    refine .turn ?_
    rw [effort, Work.effort_eq, Work.load, Work.load, if_pos woken]
    change h.work.worker.cost + (h.work.queueWeight + 0) + 1 ≤ _
    rw [looking]
    change 2 + _ + 1 ≤ _
    omega
  | park empty free =>
    refine (Costs.refl h).withWorker .parked ?_
    rw [looking]
    decide

/-- So has one that puts its task away. -/
theorem putAway_costs {h : Home} (ended : h.work.worker = .ended) : Costs 0 h h.putAway := by
  refine .turn ?_
  rw [Work.effort_eq, Work.effort_eq, ended]
  change 2 + h.work.load + 1 ≤ 3 + h.work.load
  omega

/-- **The turn of the worker** costs no more than the turn that it had. -/
theorem pollWorker_costs {h : Home} (paced : h.timer.Paced) : Costs 0 h h.pollWorker := by
  unfold pollWorker
  split
  · exact look_costs ‹_›
  · rename_i rest running
    split
    · exact finish_costs paced (congrArg Work.Worker.isBusy running) _
    · exact step_costs paced _ running
    · exact .refl h
  · exact putAway_costs ‹_›
  · exact .refl h

/-- Polling a call gives the worker a permit at most. -/
theorem pollCall_costs (index : Nat) (h : Home) : Costs 3 h (h.pollCall index) := by
  let asked : Work := { h.work with
    stopping := true
    calls := h.work.calls.set index (if h.work.isStopped then .returned else .waiting) }
  have reported : Costs 0 h (({ h with work := asked } : Home).report
      (if h.work.stopping then [] else [.stopRequested h.work.queue.length])) :=
    Costs.same (g := { h with work := asked }) (.withWork (Nat.le_refl _)) rfl rfl rfl
  exact reported.trans (.wakeWorker _)

/-- **The turn of a pulse** costs less than the pulse was said to need. -/
theorem pollPulse_costs {h : Home} (paced : h.timer.Paced) (id : Timer.SubscriptionId) :
    (h.pollPulse id).loop.now = h.loop.now ∧
      (h.pollPulse id).effort < h.effort + h.agentEffort (.pulse id) := by
  have beaten : Costs 0 h { h with timer := (h.timer.beat h.nanos h.isAlive id).2 } :=
    .withTimer fun other => Timer.Source.pulseEffort_beat paced h.isAlive id other
  have one : 1 ≤ h.agentEffort (.pulse id) := Timer.Source.one_le_pulseEffort ..
  unfold pollPulse
  dsimp only
  split
  · exact ⟨rfl, by have := beaten.effort; omega⟩
  · exact ⟨rfl, by
      have := beaten.effort
      change Home.effort { h with timer := (h.timer.beat h.nanos h.isAlive id).2 } < _
      omega⟩
  · rename_i subscriber ticks
    have ticked := Costs.tick (h := { h with timer := (h.timer.beat h.nanos h.isAlive id).2 })
      (paced.beat ..) subscriber
    have paid : (h.timer.beat h.nanos h.isAlive id).2.pulseEffort 40 h.nanos id + 40 ≤
        h.timer.pulseEffort 40 h.nanos id :=
      Timer.Source.pulseEffort_beat_tick paced h.isAlive id ticks
    generalize tick { h with timer := (h.timer.beat h.nanos h.isAlive id).2 } subscriber = g
      at ticked ⊢
    have goesOn := Costs.goOn (.pulse id) g
    refine ⟨goesOn.now.trans ticked.now, ?_⟩
    have before := beaten.effort
    have during := ticked.effort
    have later := ticked.agents (.pulse id)
    have after := goesOn.effort
    change (h.timer.beat h.nanos h.isAlive id).2.pulseEffort 40 h.nanos id + 40 ≤
      h.agentEffort (.pulse id) at paid
    change g.agentEffort (.pulse id) ≤
      (h.timer.beat h.nanos h.isAlive id).2.pulseEffort 40 h.nanos id at later
    omega

/-- **Every turn takes no time and wears the effort down.** -/
theorem effort_lt_of_turn? {h g : Home} (paced : h.timer.Paced) (turn : Live.turn? h = some g) :
    g.loop.now = h.loop.now ∧ g.effort < h.effort := by
  unfold Live.turn? at turn
  split at turn
  · cases turn
  · rename_i agent rest ready
    cases turn
    let waiting : Home := { h with loop := { h.loop with ready := rest } }
    have before : h.effort = waiting.effort + h.agentEffort agent := by
      change h.work.effort + EventLoop.total h.agentEffort h.loop.ready =
        h.work.effort + EventLoop.total h.agentEffort rest + _
      rw [show h.loop.ready = agent :: rest from ready, EventLoop.total]
      omega
    change (poll agent waiting).loop.now = waiting.loop.now ∧ (poll agent waiting).effort < h.effort
    rw [before]
    cases agent with
    | worker =>
      have costs : Costs 0 waiting waiting.pollWorker := pollWorker_costs paced
      exact ⟨costs.now, Nat.lt_succ_of_le costs.effort⟩
    | pulse id => exact pollPulse_costs (h := waiting) paced id
    | call index =>
      have costs := pollCall_costs index waiting
      refine ⟨costs.now, Nat.lt_of_le_of_lt costs.effort (Nat.add_lt_add_left ?_ _)⟩
      exact (by decide : 3 < 6)

/-- That the timer is paced is kept by whatever happens to an application. -/
theorem kept_paced : Live.Kept fun h : Home => h.timer.Paced where
  withLoop _ _ paced := paced
  poll agent h paced := (poll_deeds agent h).keep (fun _ _ _ _ deed => deed.paced) paced

/-- Turns wear down the effort of an application whose timer is paced. -/
theorem wearing_paced : Live.Wearing fun h : Home => h.timer.Paced where
  turn paced turn := ⟨kept_paced.turn paced turn, effort_lt_of_turn? paced turn⟩

end Home
end HomeMedia
