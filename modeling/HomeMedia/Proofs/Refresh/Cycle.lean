import HomeMedia.Proofs.Home.Episodes
import HomeMedia.Proofs.Work.Order
/-!
# The cycle of refreshes

A schedule is armed, a tick or somebody who cannot wait turns that into a fetch, and the fetch arms
the schedule when it ends. What takes part in this *cycle* is the schedule and the tasks that run or
wait; the steps by which a deed can change them (`Cycle.Step`) are few: a task is added, the one
that runs ends, and what is done to the schedule itself (`Deed.cycle_step`).
-/

namespace HomeMedia

namespace Work

/-- The task that the worker is busy with. -/
def running? (w : Work) : Option Entry := if w.worker.isBusy then w.current else none

/-- The tasks that run or wait, in order. -/
def pending (w : Work) : List Task := (w.running?.toList ++ w.queue).map Entry.toTask

/-- What runs is pending before all that waits. -/
theorem pending_of_busy {w : Work} {e : Entry} (busy : w.worker.isBusy = true)
    (current : w.current = some e) : w.pending = e.toTask :: w.queue.map Entry.toTask := by
  rw [pending, running?, if_pos busy, current]
  rfl

/-- If nothing runs, only what waits is pending. -/
theorem pending_of_not_busy {w : Work} (idle : w.worker.isBusy = false) :
    w.pending = w.queue.map Entry.toTask := by
  rw [pending, running?, if_neg (Bool.eq_false_iff.1 idle)]
  rfl

/-- The worker makes no difference but for being busy. -/
theorem pending_congr {v w : Work} (queue : v.queue = w.queue) (current : v.current = w.current)
    (busy : v.worker.isBusy = w.worker.isBusy) : v.pending = w.pending := by
  rw [pending, pending, running?, running?, queue, current, busy]

/-- A task that is added is pending behind the others. -/
theorem pending_enqueue (task : Task) (parent : Option Task.Id) (w : Work) :
    (w.enqueue task parent).2.pending = w.pending ++ [task] := by
  change (w.running?.toList ++ (w.queue ++ [_])).map Entry.toTask = _
  rw [← List.append_assoc, List.map_append]
  rfl

/-- Waking the worker leaves what is pending. -/
theorem pending_notify (w : Work) : w.notify.2.pending = w.pending :=
  pending_congr (by rw [notify_eq]) (by rw [notify_eq]) (isBusy_notify w)

/-- A task that is cancelled is the same task. -/
theorem Entry.toTask_hit (id : Task.Id) (e : Entry) : (e.hit id).toTask = e.toTask := by
  unfold hit
  split <;> rfl

/-- What is cancelled is still pending. -/
theorem pending_invalidate (id : Task.Id) (w : Work) :
    (w.invalidate id).2.pending = w.pending := by
  have hits : Entry.toTask ∘ Entry.hit id = Entry.toTask := funext (Entry.toTask_hit id)
  have running : (w.invalidate id).2.running? = w.running?.map (Entry.hit id) := by
    rw [running?, running?]
    change (if w.worker.isBusy = true then w.current.map _ else none) = _
    split <;> rfl
  rw [pending, pending, running]
  cases w.running? <;> simp [invalidate, hits, Entry.toTask_hit]

/-- So is the current task when its own token is set. -/
theorem pending_interrupt (w : Work) : w.interrupt.pending = w.pending := by
  rw [pending, pending, running?, running?]
  change ((if w.worker.isBusy = true then w.current.map _ else none).toList ++ w.queue).map _ = _
  cases w.current <;> cases w.worker.isBusy <;> rfl

end Work

namespace Refresh

/-- The schedule when it is to be armed, with the subscription that it then gets, if it gets one. -/
def Schedule.arm (id : Option Timer.SubscriptionId) (s : Schedule) : Schedule :=
  if s.stopped || s.armed.isSome then s else { s with armed := id }

/-- Arming a schedule neither starts nor stops it. -/
theorem Schedule.stopped_arm (id : Option Timer.SubscriptionId) (s : Schedule) :
    (s.arm id).stopped = s.stopped := by
  unfold arm
  split <;> rfl

/-- A schedule that is started is armed after that. -/
theorem Schedule.isSome_armed_arm {id : Option Timer.SubscriptionId} {s : Schedule}
    (given : id.isSome = true) (started : s.stopped = false) : (s.arm id).armed.isSome = true := by
  unfold arm
  rw [started, Bool.false_or]
  split
  · assumption
  · exact given

/-- The schedule, not armed. -/
def Schedule.disarm (s : Schedule) : Schedule := { s with armed := none }

/-- What takes part in the cycle of refreshes. -/
structure Cycle where
  /-- The schedule, while it exists. -/
  schedule : Option Schedule
  /-- The tasks that run or wait. -/
  pending : List Task

end Refresh

open Refresh (Cycle Schedule)

namespace Home

/-- The cycle of refreshes of a home server. -/
def cycle (h : Home) : Cycle := ⟨h.schedule, h.work.pending⟩

end Home

namespace Refresh.Cycle

/-- One step of the cycle of a service with a name, which has an interval or not. Besides its
scheduled fetches only some tasks may be added. -/
inductive Step (service : String) (timed : Bool) (mayAdd : Task → Prop) :
    Home.Deed.Label → Cycle → Cycle → Prop where
  /-- Nothing changes. -/
  | rest (label : Home.Deed.Label) (c : Cycle) : Step service timed mayAdd label c c
  /-- A task is added. -/
  | add (label : Home.Deed.Label) (c : Cycle) {task : Task} (may : mayAdd task) :
    Step service timed mayAdd label c { c with pending := c.pending ++ [task] }
  /-- A task ends, and a scheduled fetch arms the schedule. -/
  | finish {c : Cycle} {task : Task} {rest : List Task} (first : c.pending = task :: rest)
      {id : Option Timer.SubscriptionId} (given : id.isSome = timed) :
    Step service timed mayAdd .own c
      ⟨if task.scheduled then c.schedule.map (Schedule.arm id) else c.schedule, rest⟩
  /-- The schedule is started. -/
  | start (c : Cycle) {id : Option Timer.SubscriptionId}
      (given : id.isSome = timed) :
    Step service timed mayAdd .start c
      { c with schedule := c.schedule.map fun s => (s.setStopped false).arm id }
  /-- The schedule is stopped. -/
  | stop (c : Cycle) :
    Step service timed mayAdd .stop c
      { c with schedule := c.schedule.map fun s => (s.setStopped true).disarm }
  /-- A fetch is asked for in place of the next scheduled one. -/
  | refresh (c : Cycle) :
    Step service timed mayAdd .refresh c
      ⟨c.schedule.map Schedule.disarm, c.pending ++ [Refresh.fetchTask service true]⟩
  /-- The schedule gets a tick. -/
  | tick {c : Cycle} (armed : (c.schedule.bind Schedule.armed).isSome = true) :
    Step service timed mayAdd .tick c
      ⟨c.schedule.map Schedule.disarm, c.pending ++ [Refresh.fetchTask service true]⟩
  /-- The schedule is dropped. -/
  | drop (c : Cycle) : Step service timed mayAdd .own c { c with schedule := none }

end Refresh.Cycle

namespace Home

open Refresh.Cycle (Step)

/-- The service has a name, and an interval or none. -/
structure Consults (service : String) (timed : Bool) (h : Home) : Prop where
  /-- The name. -/
  name : h.service.name = service
  /-- Whether there is an interval. -/
  timed : h.service.period?.isSome = timed

variable {service : String} {timed : Bool} {mayAdd : Task → Prop}

/-! ## What the parts of a deed do to the cycle -/

/-- The service is not changed backstage. -/
theorem Backstage.service_eq {h g : Home} (backstage : Backstage h g) : g.service = h.service := by
  obtain ⟨work, loop, openGates, log, rfl⟩ := backstage
  rfl

/-- Arming the schedule does not change the service. -/
theorem service_arm (h : Home) : h.arm.service = h.service := by
  rcases arm_cases h with same | ⟨s, nanos, -, -, -, -, armed⟩
  · rw [same]
  · rw [armed]
    rfl

/-- Neither does disarming it. -/
theorem service_disarm (h : Home) : h.disarm.service = h.service := by
  rcases disarm_cases h with same | ⟨id, stopped, -, disarmed⟩
  · rw [same]
  · rw [disarmed]
    rfl

/-- The schedule of a service with an interval gets a subscription. -/
theorem exists_cycle_arm (h : Home) : ∃ id : Option Timer.SubscriptionId,
    id.isSome = h.service.period?.isSome ∧
      h.arm.cycle = ⟨h.schedule.map (Schedule.arm id), h.work.pending⟩ := by
  have unarmed : ∀ s : Schedule, s.arm none = s := fun s => by
    unfold Schedule.arm
    split
    · rfl
    · rename_i fit
      rcases s with ⟨_ | id, stopped⟩
      · rfl
      · exact absurd (Bool.or_true _) fit
  cases period : h.service.period? with
  | none =>
    refine ⟨none, rfl, ?_⟩
    rw [show h.arm = h by simp only [arm, period], funext unarmed]
    exact congrArg (Cycle.mk · h.work.pending) Option.map_id'.symm
  | some nanos =>
    refine ⟨some (h.subscribe .refresh nanos).1, rfl, ?_⟩
    cases found : h.schedule with
    | none =>
      simp only [arm, period, found]
      exact congrArg (Cycle.mk · h.work.pending) found
    | some s =>
      simp only [arm, period, found, Option.map_some, Schedule.arm]
      split
      · exact congrArg (Cycle.mk · h.work.pending) found
      · rfl

/-- Disarming changes the schedule alone. -/
theorem cycle_disarm (h : Home) :
    h.disarm.cycle = ⟨h.schedule.map Schedule.disarm, h.work.pending⟩ := by
  unfold disarm
  split
  · rename_i id stopped found
    rw [found]
    rfl
  · rename_i other
    refine congrArg (Cycle.mk · h.work.pending) ?_
    rcases found : h.schedule with _ | ⟨_ | id, stopped⟩
    · rfl
    · rfl
    · exact absurd found (other id stopped)

/-- A task that is added is pending behind the others. -/
theorem cycle_addTask (task : Task) (parent : Option Task.Id) (h : Home) :
    (h.addTask task parent).2.cycle = ⟨h.schedule, h.work.pending ++ [task]⟩ := by
  refine congrArg (Cycle.mk h.schedule) ?_
  rw [← Work.pending_enqueue task parent]
  exact Work.pending_notify _

/-- It stands at the end of the queue, under the next number. -/
theorem queue_addTask (task : Task) (parent : Option Task.Id) (h : Home) :
    (h.addTask task parent).2.work.queue =
      h.work.queue ++ [{ task with id := h.work.added + 1, parent }] := by
  change (Work.notify _).2.queue = _
  rw [Work.notify_eq]
  rfl

/-- Asking for a fetch in place of the next disarms the schedule and queues a scheduled fetch. -/
theorem cycle_refreshNow (h : Home) :
    (h.refreshNow false).2.cycle =
      ⟨h.schedule.map Schedule.disarm,
        h.work.pending ++ [Refresh.fetchTask h.service.name true]⟩ := by
  have disarmed := h.cycle_disarm
  change (h.disarm.addTask (Refresh.fetchTask h.disarm.service.name true) none).2.cycle = _
  rw [cycle_addTask, service_disarm]
  rw [show h.disarm.schedule = _ from congrArg Cycle.schedule disarmed,
    show h.disarm.work.pending = _ from congrArg Cycle.pending disarmed]

/-- A schedule is started and armed. -/
theorem exists_cycle_startSchedule (h : Home) : ∃ id : Option Timer.SubscriptionId,
    id.isSome = h.service.period?.isSome ∧ h.startSchedule.2.cycle =
      ⟨h.schedule.map fun s => (s.setStopped false).arm id, h.work.pending⟩ := by
  obtain ⟨id, given, armed⟩ := exists_cycle_arm
    { h with schedule := h.schedule.map (Refresh.Schedule.setStopped false) }
  refine ⟨id, given, armed.trans ?_⟩
  rw [Option.map_map]
  rfl

/-- A schedule is stopped and disarmed. -/
theorem cycle_stopSchedule (h : Home) : h.stopSchedule.cycle =
    ⟨h.schedule.map fun s => (s.setStopped true).disarm, h.work.pending⟩ := by
  change (disarm _).cycle = _
  rw [cycle_disarm, Option.map_map]
  rfl

/-- Letting calls go leaves the cycle as what was done for it leaves it. -/
theorem cycle_letGo (release : Home → Home) (h : Home) :
    (h.letGo release).cycle = (release h).cycle := by
  rcases letGo_cases release h with woken | kept
  · rw [woken]
    exact congrArg (Cycle.mk (release h).schedule) (Work.pending_notify _)
  · rw [kept]

/-- Cancelling a task leaves the cycle alone: the task has still to be taken from the queue. -/
theorem cycle_invalidate (id : Task.Id) (h : Home) : (h.invalidate id).2.cycle = h.cycle := by
  obtain ⟨events, -, cancelled⟩ := exists_invalidate id h
  rw [cancelled]
  exact congrArg (Cycle.mk h.schedule) (Work.pending_invalidate id h.work)

/-- So does opening a gate. -/
theorem cycle_release (gate : String) (h : Home) : (h.release gate).cycle = h.cycle := by
  rcases release_cases gate h with ⟨rest, waits, woken⟩ | opened
  · rw [woken]
    exact congrArg (Cycle.mk h.schedule)
      (Work.pending_congr rfl rfl (congrArg Work.Worker.isBusy waits).symm)
  · rw [opened]
    rfl

/-- A task that is taken goes from waiting to running. -/
theorem cycle_look {h : Home} (looking : h.work.worker = .looking) : h.look.cycle = h.cycle := by
  have idle : h.work.worker.isBusy = false := congrArg Work.Worker.isBusy looking
  have same : ∀ w : Work, w.queue = h.work.queue → w.worker.isBusy = false →
      (⟨h.schedule, w.pending⟩ : Cycle) = h.cycle := fun w queue still => by
    rw [Work.pending_of_not_busy still, queue, ← Work.pending_of_not_busy idle]
    rfl
  have looked := h.looked
  generalize h.look = g at looked ⊢
  cases looked with
  | abandon unused => exact same h.work.stop rfl rfl
  | @take e queue inUse waiting =>
    have taken : h.work.pending = e.toTask :: queue.map Work.Entry.toTask := by
      rw [Work.pending_of_not_busy idle, waiting]
      rfl
    exact congrArg (Cycle.mk h.schedule) taken.symm
  | stop empty asked => exact same h.work.stop rfl rfl
  | again empty free woken => exact same { h.work with permit := false } rfl idle
  | park empty free => exact same { h.work with worker := .parked } rfl rfl

/-- The end of a task, as far as the cycle goes. -/
theorem finish_step {h : Home} (consults : h.Consults service timed)
    (busy : h.work.worker.isBusy = true) (outcome : Except Task.Error Task.Outcome) :
    Step service timed mayAdd .own h.cycle (h.finish outcome).cycle := by
  rcases finish_cases outcome h with ⟨-, same⟩ | ⟨e, armed, current, scheduled, ended⟩
  · rw [same]
    exact .rest _ _
  · obtain ⟨id, given, cycle⟩ := exists_cycle_arm h
    have schedule : armed.schedule =
        if e.scheduled then h.schedule.map (Schedule.arm id) else h.schedule := by
      rcases scheduled with ⟨own, rfl⟩ | ⟨other, rfl⟩
      · rw [if_pos own]
        exact congrArg Cycle.schedule cycle
      · rw [if_neg (Bool.eq_false_iff.1 other)]
    have after : (h.finish outcome).cycle =
        ⟨if e.scheduled then h.schedule.map (Schedule.arm id) else h.schedule,
          h.work.queue.map Work.Entry.toTask⟩ := by
      rw [ended, ← schedule]
      exact congrArg (Cycle.mk armed.schedule) (Work.pending_of_not_busy rfl)
    rw [after]
    exact .finish (c := h.cycle) (Work.pending_of_busy busy current) (given.trans consults.timed)

/-- **What a deed does to the cycle.** -/
theorem Deed.cycle_step {label : Deed.Label} {h g : Home} (deed : Deed label h g)
    (consults : h.Consults service timed)
    (may : ∀ task, label = .add task ∨ (∃ action ∈ h.work.worker.rest, task ∈ action.tasks) →
      mayAdd task) :
    Step service timed mayAdd label h.cycle g.cycle := by
  have same : ∀ {label : Deed.Label} {c : Cycle}, c = h.cycle →
      Step service timed mayAdd label h.cycle c := fun same => same ▸ .rest _ _
  cases deed with
  | aside aside =>
    exact same (congrArg₂ Cycle.mk aside.aloof.schedule (congrArg Work.pending aside.aloof.work))
  | addTask h task parent =>
    rw [cycle_addTask]
    exact .add _ h.cycle (may task (.inl rfl))
  | invalidate h id => exact same (cycle_invalidate id h)
  | requestStop h => exact same rfl
  | call h index => exact same (congrArg (Cycle.mk h.schedule) (Work.pending_notify _))
  | dropWork h => exact same (cycle_letGo _ h)
  | release h gate => exact same (cycle_release gate h)
  | look h looking => exact same (cycle_look looking)
  | putAway h ended =>
    have idle : h.work.worker.isBusy = false := congrArg Work.Worker.isBusy ended
    refine same (congrArg (Cycle.mk h.schedule) ?_)
    rw [Work.pending_of_not_busy rfl, Work.pending_of_not_busy idle]
    rfl
  | goOn h rest busy planned =>
    exact same (congrArg (Cycle.mk h.schedule) (Work.pending_congr rfl rfl busy.symm))
  | sleep h ms rest busy planned later =>
    exact same (congrArg (Cycle.mk h.schedule) (Work.pending_congr rfl rfl busy.symm))
  | await h gate rest busy planned =>
    exact same (congrArg (Cycle.mk h.schedule) (Work.pending_congr rfl rfl busy.symm))
  | spawn h task parent planned =>
    rw [cycle_addTask]
    exact .add _ h.cycle (may task (.inr planned))
  | interrupt h => exact same (congrArg (Cycle.mk h.schedule) (Work.pending_interrupt _))
  | finish h outcome busy => exact finish_step consults busy outcome
  | start h =>
    obtain ⟨id, given, started⟩ := exists_cycle_startSchedule h
    rw [started]
    exact .start h.cycle (given.trans consults.timed)
  | stop h =>
    rw [cycle_stopSchedule]
    exact .stop h.cycle
  | refresh h =>
    rw [cycle_refreshNow, consults.name]
    exact .refresh h.cycle
  | tick h armed =>
    rw [cycle_refreshNow, consults.name]
    exact .tick (c := h.cycle) armed
  | dropSchedule h =>
    rw [cycle_letGo]
    exact .drop h.cycle

/-- A schedule that is gone stays so. -/
theorem Deed.schedule_eq_none {label : Deed.Label} {h g : Home} (deed : Deed label h g)
    (gone : h.schedule = none) : g.schedule = none := by
  have step : Step _ _ (fun _ => True) label h.cycle g.cycle :=
    deed.cycle_step ⟨rfl, rfl⟩ fun _ _ => trivial
  have before : h.cycle.schedule = none := gone
  change g.cycle.schedule = none
  generalize h.cycle = c at step before
  generalize g.cycle = d at step
  cases step with
  | finish first given =>
    dsimp only
    split
    · rw [before]
      rfl
    · exact before
  | rest | add => exact before
  | drop => rfl
  | _ => exact (congrArg (Option.map _) before).trans rfl

/-- It stays so in every episode. -/
theorem schedule_undergo_eq_none {h : Home} (gone : h.schedule = none) (e : Episode) :
    (h.undergo e).schedule = none :=
  undergo_keeps (P := fun g => g.schedule = none) (fun _ _ gone => gone)
    (fun _ _ _ deed gone => deed.schedule_eq_none gone) gone e

/-- **A schedule that was dropped does not come back.** -/
theorem schedule_through_eq_none {h : Home} (gone : h.schedule = none) (run : List Episode) :
    (h.through run).schedule = none :=
  through_keeps (P := fun g => g.schedule = none)
    (fun e _ _ gone => schedule_undergo_eq_none gone e) gone

/-- No deed renames the service, changes its interval, or makes it behave otherwise than it was
going to. -/
theorem Deed.service_kept {label : Deed.Label} {h g : Home} (deed : Deed label h g) :
    g.service.name = h.service.name ∧ g.service.interval = h.service.interval ∧
      g.service.scripts ⊆ h.service.scripts := by
  have same : g.service = h.service → g.service.name = h.service.name ∧
      g.service.interval = h.service.interval ∧ g.service.scripts ⊆ h.service.scripts :=
    fun same => by
      rw [same]
      exact ⟨rfl, rfl, List.Subset.refl _⟩
  cases deed with
  | aside aside => exact ⟨aside.aloof.name, aside.aloof.interval, aside.aloof.scripts⟩
  | invalidate h id => exact same (Backstage.invalidate id h).service_eq
  | dropWork h => exact same (Backstage.letGo (fun h => { h with holdsWork := false }) h).service_eq
  | dropSchedule h =>
    exact same (Backstage.letGo (fun h => { h with schedule := none }) h).service_eq
  | release h gate => exact same (Backstage.release gate h).service_eq
  | look h looking => exact same (Backstage.look h).service_eq
  | finish h outcome busy =>
    rcases Backstage.finish outcome h with quiet | armed
    · exact same quiet.service_eq
    · exact same (armed.service_eq.trans (service_arm h))
  | start h => exact same (service_arm _)
  | stop h => exact same (service_disarm _)
  | refresh h => exact same (service_disarm h)
  | tick h armed => exact same (service_disarm h)
  | _ => exact same rfl

/-- No deed gives the schedule another service or another interval. -/
theorem Deed.consults {label : Deed.Label} {h g : Home} (deed : Deed label h g)
    (consults : h.Consults service timed) : g.Consults service timed := by
  obtain ⟨name, interval, -⟩ := deed.service_kept
  refine ⟨name.trans consults.name, ?_⟩
  rw [Refresh.Service.period?, interval]
  exact consults.timed

/-- **What the steps of a happening keep of the cycle, the happening keeps.** -/
theorem next_cycle {P : Cycle → Prop} {happening : Happening} {h : Home}
    (steps : ∀ label c d, happening.Permits label → Step service timed (fun _ => True) label c d →
      P c → P d)
    (start : h.Consults service timed ∧ P h.cycle) :
    (h.next happening).Consults service timed ∧ P (h.next happening).cycle :=
  next_keeps (P := fun g => g.Consults service timed ∧ P g.cycle)
    (fun _ _ start => ⟨⟨start.1.name, start.1.timed⟩, start.2⟩)
    (fun label h g ok deed start => ⟨deed.consults start.1,
      steps label h.cycle g.cycle ok (deed.cycle_step start.1 fun _ _ => trivial) start.2⟩) start

end Home
end HomeMedia
