import HomeMedia.Proofs.Home.Acts
/-!
# The queue of a home server and what is reported of its tasks

The *ledger* of a home server is its queue together with the events of the log that tell the course
of a task: queued, cancelled, started, ended. The queue changes in few ways (`Ledger.Step`), each
with what it requires: the worker takes a task only while it looks for one, goes on only with a task
it is busy with, and so on. Every deed of a home server is a sequence of such changes to its ledger
(`Deed.ledger_steps`), and those that are aside do not touch it at all. So is everything that
happens (`next_steps`), and what each change keeps, every run keeps.
-/

namespace HomeMedia

/-- A queue and what was reported of its tasks. -/
structure Ledger where
  /-- The queue and its worker. -/
  work : Work
  /-- What was reported of tasks, in order. -/
  events : List Event

/-- The ledger of a home server. -/
def Home.ledger (h : Home) : Ledger := ⟨h.work, h.log.filter Event.ofTask⟩

namespace Ledger

/-- One change of a ledger. -/
inductive Step : Ledger → Ledger → Prop where
  /-- A task is added. -/
  | add (l : Ledger) (task : Task) (parent : Option Task.Id) :
    Step l ⟨(l.work.enqueue task parent).2,
      l.events ++ [.taskQueued (l.work.enqueue task parent).1 task.kind task.description]⟩
  /-- The worker is woken up. -/
  | notify (l : Ledger) : Step l ⟨l.work.notify.2, l.events⟩
  /-- Tasks are cancelled by a number. -/
  | invalidate (l : Ledger) (id : Task.Id) :
    Step l ⟨(l.work.invalidate id).2, l.events ++ l.work.cancellings id⟩
  /-- The current task is cancelled. -/
  | interrupt (l : Ledger) : Step l ⟨l.work.interrupt, l.events⟩
  /-- A call is going to ask the worker to stop. -/
  | call (l : Ledger) :
    Step l ⟨{ l.work with calls := l.work.calls ++ [.requested] }, l.events⟩
  /-- A call asks the worker to stop. -/
  | askStop (l : Ledger) (index : Nat) (state : Work.Call) :
    Step l ⟨{ l.work with stopping := true, calls := l.work.calls.set index state }, l.events⟩
  /-- The worker takes the first of the tasks that wait. -/
  | take {l : Ledger} {e : Work.Entry} {queue : List Work.Entry}
      (looking : l.work.worker = .looking) (waiting : l.work.queue = e :: queue) :
    Step l ⟨{ l.work with queue, current := some e, worker := .running e.body },
      l.events ++ [.taskStarted e.id e.kind e.description e.valid]⟩
  /-- The worker has some steps of its task left. -/
  | goOn {l : Ledger} (busy : l.work.worker.isBusy = true) (rest : List Task.Action) :
    Step l ⟨{ l.work with worker := .running rest }, l.events⟩
  /-- The worker waits for a gate. -/
  | await {l : Ledger} (busy : l.work.worker.isBusy = true) (gate : String)
      (rest : List Task.Action) :
    Step l ⟨{ l.work with worker := .atGate gate rest }, l.events⟩
  /-- The run of the current task ends. -/
  | finish {l : Ledger} {e : Work.Entry} (busy : l.work.worker.isBusy = true)
      (current : l.work.current = some e) (outcome : Except Task.Error Task.Outcome) :
    Step l ⟨{ l.work with worker := .ended }, l.events ++ [Home.endEvent e outcome]⟩
  /-- The worker puts the current task away, as long as the queue is in use. -/
  | putAway {l : Ledger} (ended : l.work.worker = .ended) (inUse : Bool) :
    Step l ⟨{ l.work with current := if inUse then none else l.work.current, worker := .looking },
      l.events⟩
  /-- The worker finds nothing, and a wake-up that was kept for it. -/
  | lookAgain {l : Ledger} (looking : l.work.worker = .looking) (empty : l.work.queue = []) :
    Step l ⟨{ l.work with permit := false }, l.events⟩
  /-- The worker finds nothing and waits. -/
  | park {l : Ledger} (looking : l.work.worker = .looking) (empty : l.work.queue = []) :
    Step l ⟨{ l.work with worker := .parked }, l.events⟩
  /-- The worker stops for good. -/
  | stop {l : Ledger} (looking : l.work.worker = .looking) : Step l ⟨l.work.stop, l.events⟩

/-- Any number of changes of a ledger. -/
abbrev Steps : Ledger → Ledger → Prop := Relation.ReflTransGen Step

end Ledger

namespace Home

open Ledger (Steps Step)

/-! ## Parts that leave the ledger alone -/

/-- A report adds to the ledger what it says of tasks. -/
theorem ledger_report (events : List Event) (h : Home) :
    (h.report events).ledger = ⟨h.work, h.ledger.events ++ events.filter Event.ofTask⟩ := by
  simp [ledger, report]

/-- Events about other things do not count. -/
theorem ledger_report_of_quiet {events : List Event} (quiet : events.filter Event.ofTask = [])
    (h : Home) : (h.report events).ledger = h.ledger := by
  rw [ledger_report, quiet, List.append_nil]
  rfl

/-- What keeps away from the queue leaves the ledger. -/
theorem Aloof.ledger {h g : Home} (aloof : Aloof h g) : g.ledger = h.ledger := by
  rw [Home.ledger, Home.ledger, aloof.work, aloof.events]

/-- Arming the schedule leaves it. -/
theorem ledger_arm (h : Home) : h.arm.ledger = h.ledger := by
  rcases arm_cases h with same | ⟨s, nanos, -, -, -, -, armed⟩
  · rw [same]
  · exact armed ▸ (Aloof.subscribe .refresh nanos h).ledger

/-- So does disarming it. -/
theorem ledger_disarm (h : Home) : h.disarm.ledger = h.ledger := by
  rcases disarm_cases h with same | ⟨id, stopped, -, disarmed⟩
  · rw [same]
  · rw [disarmed]
    rfl

/-! ## Parts that change the queue -/

/-- Waking the worker is a step. -/
theorem wakeWorker_step (h : Home) : Step h.ledger h.wakeWorker.ledger := .notify h.ledger

/-- Adding a task is two: it is queued, and the worker is woken. -/
theorem addTask_steps (task : Task) (parent : Option Task.Id) (h : Home) :
    Steps h.ledger (h.addTask task parent).2.ledger := by
  have added := Step.add h.ledger task parent
  have reported : (({ h with work := (h.work.enqueue task parent).2 } : Home).report
      [.taskQueued (h.work.enqueue task parent).1 task.kind task.description]).ledger =
      ⟨(h.work.enqueue task parent).2, h.ledger.events ++
        [.taskQueued (h.work.enqueue task parent).1 task.kind task.description]⟩ :=
    ledger_report _ _
  exact (Relation.ReflTransGen.single added).tail (reported ▸ wakeWorker_step _)

/-- So is asking for a fetch. -/
theorem refreshNow_steps (h : Home) : Steps h.ledger (h.refreshNow false).2.ledger :=
  ledger_disarm h ▸ addTask_steps _ _ h.disarm

/-- A cancelling is reported of tasks. -/
theorem filter_cancellings (id : Task.Id) (w : Work) :
    (w.cancellings id).filter Event.ofTask = w.cancellings id := by
  unfold Work.cancellings
  split <;> rfl

/-- A cancelling is a step. -/
theorem invalidate_step (id : Task.Id) (h : Home) :
    Step h.ledger (h.invalidate id).2.ledger := by
  obtain ⟨events, rfl, cancelled⟩ := exists_invalidate id h
  rw [cancelled, ledger_report, filter_cancellings]
  exact .invalidate h.ledger id

/-- Letting go is a step at most, if the ledger is left alone. -/
theorem letGo_steps {release : Home → Home} (h : Home)
    (same : (release h).ledger = h.ledger) : Steps h.ledger (h.letGo release).ledger := by
  rw [← same]
  rcases letGo_cases release h with woken | kept
  · exact woken ▸ .single (wakeWorker_step _)
  · exact kept ▸ .refl

/-- So is the turn of a call. -/
theorem pollCall_steps (index : Nat) (h : Home) : Steps h.ledger (h.pollCall index).ledger := by
  have quiet : ((if h.work.stopping then [] else
      [Event.stopRequested h.work.queue.length]).filter Event.ofTask) = [] := by
    split <;> rfl
  have reported := congrArg Ledger.events (ledger_report_of_quiet quiet h)
  unfold pollCall
  dsimp only
  refine Relation.ReflTransGen.tail (.single ?_) (wakeWorker_step _)
  change Step h.ledger ⟨_, Ledger.events (ledger (report _ _))⟩
  rw [reported]
  exact .askStop h.ledger index _

/-! ## The worker -/

/-- The end of a task is reported of tasks. -/
theorem filter_endEvent (e : Work.Entry) (outcome : Except Task.Error Task.Outcome) :
    [endEvent e outcome].filter Event.ofTask = [endEvent e outcome] := by
  cases outcome <;> rfl

/-- Arming the schedule at the end of a fetch does not change the queue. -/
theorem finish_steps {h : Home} (busy : h.work.worker.isBusy = true)
    (outcome : Except Task.Error Task.Outcome) : Steps h.ledger (h.finish outcome).ledger := by
  rcases finish_cases outcome h with ⟨-, same⟩ | ⟨e, armed, current, scheduled, ended⟩
  · exact same.symm ▸ .refl
  · have before : armed.ledger = h.ledger := by
      rcases scheduled with ⟨-, rfl⟩ | ⟨-, rfl⟩
      · exact ledger_arm h
      · rfl
    have reported := congrArg Ledger.events (ledger_report [endEvent e outcome] armed)
    rw [before, filter_endEvent] at reported
    rw [ended]
    change Steps h.ledger ⟨_, Ledger.events (ledger (report _ _))⟩
    rw [reported]
    exact .single (.finish (l := h.ledger) busy current outcome)

/-- Looking for a task takes one from the queue and reports its start, or stops the worker. -/
theorem look_steps {h : Home} (looking : h.work.worker = .looking) :
    Steps h.ledger h.look.ledger := by
  have looked := h.looked
  generalize h.look = g at looked ⊢
  refine .single ?_
  cases looked with
  | abandon unused =>
    rw [ledger_report_of_quiet rfl]
    exact .stop (l := h.ledger) looking
  | @take e queue inUse waiting =>
    have events := congrArg Ledger.events
      (ledger_report [.taskStarted e.id e.kind e.description e.valid] h)
    change Step h.ledger ⟨_, Ledger.events (ledger (report _ _))⟩
    rw [events]
    exact .take (l := h.ledger) looking waiting
  | stop empty asked => exact .stop (l := h.ledger) looking
  | again empty => exact .lookAgain (l := h.ledger) looking empty
  | park empty => exact .park (l := h.ledger) looking empty

/-- Opening a gate wakes the worker at most. -/
theorem release_steps (gate : String) (h : Home) : Steps h.ledger (h.release gate).ledger := by
  rcases release_cases gate h with ⟨rest, waits, woken⟩ | opened
  · exact woken ▸ .single (.goOn (l := h.ledger) (congrArg Work.Worker.isBusy waits) rest)
  · exact opened ▸ .refl

/-! ## Everything that happens -/

/-- **A deed changes the ledger step by step.** -/
theorem Deed.ledger_steps {label : Deed.Label} {h g : Home} (deed : Deed label h g) :
    Steps h.ledger g.ledger := by
  cases deed with
  | aside aside => exact aside.aloof.ledger ▸ .refl
  | addTask h task parent => exact addTask_steps task parent h
  | invalidate h id => exact .single (invalidate_step id h)
  | requestStop h => exact .single (.call h.ledger)
  | call h index => exact pollCall_steps index h
  | dropWork h => exact letGo_steps h rfl
  | release h gate => exact release_steps gate h
  | look h looking => exact look_steps looking
  | putAway h ended => exact .single (.putAway (l := h.ledger) ended h.usesWork)
  | goOn h rest busy => exact .single (.goOn (l := h.ledger) busy rest)
  | sleep h ms rest busy => exact .single (.goOn (l := h.ledger) busy rest)
  | await h gate rest busy => exact .single (.await (l := h.ledger) busy gate rest)
  | spawn h task parent => exact addTask_steps task parent h
  | interrupt h => exact .single (.interrupt h.ledger)
  | finish h outcome busy => exact finish_steps busy outcome
  | start h =>
    exact ledger_arm { h with schedule := h.schedule.map (Refresh.Schedule.setStopped false) } ▸
      .refl
  | stop h =>
    exact ledger_disarm { h with schedule := h.schedule.map (Refresh.Schedule.setStopped true) } ▸
      .refl
  | refresh h => exact refreshNow_steps h
  | tick h => exact refreshNow_steps h
  | dropSchedule h => exact letGo_steps h rfl

/-- **Whatever happens changes the ledger step by step.** -/
theorem next_steps (h : Home) (happening : Happening) :
    Steps h.ledger (h.next happening).ledger :=
  next_keeps (P := fun g => Steps h.ledger g.ledger) (fun _ _ steps => steps)
    (fun _ _ _ _ deed steps => steps.trans deed.ledger_steps) .refl

end Home
end HomeMedia
