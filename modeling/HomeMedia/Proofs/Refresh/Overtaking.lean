import HomeMedia.Proofs.Refresh.Cycle
/-!
# How many scheduled fetches there can be

A schedule deals with one *token*: it is armed, or one of its fetches runs or waits. A tick and the
end of a fetch pass the token on. Two things make another one: somebody asks for a fetch in place of
the next scheduled one, or starts the schedule, while a fetch is on its way already; both *overtake*
that fetch. So there is at most one token more than the fetches that were overtaken (`fetches_le`),
and a run in which nobody overtakes has one scheduled fetch at most, and never an armed schedule
beside it. Nothing prevents overtaking (`two_fetches_wait`).

Scheduled fetches are made by the schedule only. Other tasks are *plain*: they are not scheduled,
and neither are the tasks that they add.
-/

namespace HomeMedia

namespace Task

mutual

/-- Whether a step adds no scheduled task, and neither do the tasks that it adds. -/
def Action.isPlain : Action → Bool
  | .spawn header body => !header.scheduled && arePlain body
  | .add header body => !header.scheduled && arePlain body
  | _ => true

/-- Whether all steps of a body are plain. -/
def arePlain : List Action → Bool
  | [] => true
  | action :: more => action.isPlain && arePlain more

end

end Task

/-- Whether a task is not scheduled, and neither are the tasks that it adds. -/
def Task.isPlain (task : Task) : Bool := !task.scheduled && Task.arePlain task.body

namespace Task

/-- A body is plain if all of its steps are. -/
theorem arePlain_iff {body : List Action} :
    arePlain body = true ↔ ∀ action ∈ body, action.isPlain = true := by
  induction body with
  | nil => simp [arePlain]
  | cons action more ih => simp [arePlain, ih]

/-- Plain steps add plain tasks. -/
theorem Action.isPlain_iff {action : Action} :
    action.isPlain = true ↔ ∀ task ∈ action.tasks, task.isPlain = true := by
  cases action <;> simp [isPlain, tasks, Task.isPlain]

/-- What the server makes besides its scheduled fetches is plain. -/
theorem isPlain_of_isMadeHere {task : Task} (made : Home.IsMadeHere task) :
    task.isPlain = true := by
  rcases made with ⟨service, rfl⟩ | ⟨path, rfl⟩ <;> rfl

end Task

/-! ## Scheduled fetches are made by the schedule -/

/-- The steps that wait to be done are plain. -/
structure Work.Plain (w : Work) : Prop where
  /-- Those of the tasks that wait. -/
  waiting : ∀ e ∈ w.queue, Task.arePlain e.body = true
  /-- Those of the task that runs. -/
  running : Task.arePlain w.worker.rest = true

namespace Work.Plain

variable {w : Work}

/-- A plain task may be added. -/
theorem enqueue (plain : w.Plain) {task : Task} (body : Task.arePlain task.body = true)
    (parent : Option Task.Id) : (w.enqueue task parent).2.Plain where
  waiting e mem := by
    rcases List.mem_append.1 mem with old | new
    · exact plain.waiting e old
    · rw [List.mem_singleton.1 new]
      exact body
  running := plain.running

/-- Waking the worker adds no step. -/
theorem notify (plain : w.Plain) : w.notify.2.Plain := by
  unfold Work.notify
  split
  · exact ⟨plain.waiting, rfl⟩
  · exact ⟨plain.waiting, plain.running⟩

/-- Neither does cancelling a task. -/
theorem invalidate (plain : w.Plain) (id : Task.Id) : (w.invalidate id).2.Plain where
  waiting e mem := by
    obtain ⟨old, held, rfl⟩ := List.mem_map.1 mem
    rw [Entry.toTask_hit]
    exact plain.waiting old held
  running := plain.running

end Work.Plain

namespace Home

/-- A home server may add a plain task. -/
theorem addTask_plain {h : Home} (plain : h.work.Plain) {task : Task}
    (body : Task.arePlain task.body = true) (parent : Option Task.Id) :
    (h.addTask task parent).2.work.Plain :=
  (plain.enqueue body parent).notify

/-- Letting calls go adds no step. -/
theorem letGo_plain {release : Home → Home} {h : Home} (plain : (release h).work.Plain) :
    (h.letGo release).work.Plain := by
  rcases letGo_cases release h with woken | kept
  · exact woken ▸ plain.notify
  · exact kept ▸ plain

/-- A fetch has no step that adds a task. -/
theorem refreshNow_plain {h : Home} (plain : h.work.Plain) :
    (h.refreshNow false).2.work.Plain :=
  addTask_plain (h := h.disarm) (work_disarm h ▸ plain) (by rfl) none

/-- A task that is taken from the queue is as plain as it was there. -/
theorem look_plain {h : Home} (plain : h.work.Plain) : h.look.work.Plain := by
  have looked := h.looked
  generalize h.look = g at looked ⊢
  cases looked with
  | @take e queue inUse waiting =>
    refine ⟨fun other mem => ?_, ?_⟩
    · exact plain.waiting other (waiting ▸ List.mem_cons_of_mem e mem)
    · exact plain.waiting e (waiting ▸ List.mem_cons_self ..)
  | again empty free woken => exact ⟨plain.waiting, plain.running⟩
  | _ => exact ⟨plain.waiting, rfl⟩

/-- The rest of a plain task is plain. -/
theorem Planned.plain {h : Home} {rest : List Task.Action} (planned : h.Planned rest)
    (plain : h.work.Plain) : Task.arePlain rest = true := by
  refine Task.arePlain_iff.2 fun action mem => ?_
  rcases planned.known action mem with old | ⟨-, asked⟩
  · exact Task.arePlain_iff.1 plain.running action old
  · rw [Task.Action.isPlain_iff, Refresh.Script.tasks_of_mem_steps asked]
    exact fun task none => by cases none

/-- **Only plain tasks make tasks that wait plain.** -/
theorem Deed.plain {label : Deed.Label} {h g : Home} (deed : Deed label h g)
    (plain : h.work.Plain) (added : ∀ task, label = .add task → task.isPlain = true) :
    g.work.Plain := by
  have bodies : ∀ {task : Task}, task.isPlain = true → Task.arePlain task.body = true :=
    fun plain => (Bool.and_eq_true_iff.1 plain).2
  cases deed with
  | aside aside => exact aside.aloof.work ▸ plain
  | addTask h task parent => exact addTask_plain plain (bodies (added task rfl)) parent
  | invalidate h id =>
    obtain ⟨events, -, cancelled⟩ := exists_invalidate id h
    exact cancelled ▸ plain.invalidate id
  | requestStop h => exact ⟨plain.waiting, plain.running⟩
  | call h index => exact (show Work.Plain { h.work with stopping := true, calls := _ } from
      ⟨plain.waiting, plain.running⟩).notify
  | dropWork h => exact letGo_plain plain
  | release h gate =>
    rcases release_cases gate h with ⟨rest, waits, woken⟩ | opened
    · rw [woken]
      exact ⟨plain.waiting, (congrArg (fun w => Task.arePlain w.rest) waits).symm.trans
        plain.running⟩
    · exact opened ▸ plain
  | look h looking => exact look_plain plain
  | putAway h ended => exact ⟨plain.waiting, rfl⟩
  | goOn h rest busy planned => exact ⟨plain.waiting, planned.plain plain⟩
  | sleep h ms rest busy planned later => exact ⟨plain.waiting, planned.plain plain⟩
  | await h gate rest busy planned => exact ⟨plain.waiting, planned.plain plain⟩
  | spawn h task parent planned =>
    obtain ⟨action, mem, adds⟩ := planned
    have step := Task.arePlain_iff.1 plain.running action mem
    exact addTask_plain plain (bodies (Task.Action.isPlain_iff.1 step task adds)) parent
  | interrupt h => exact ⟨plain.waiting, plain.running⟩
  | finish h outcome busy =>
    rcases finish_cases outcome h with ⟨-, same⟩ | ⟨e, armed, -, -, ended⟩
    · exact same.symm ▸ plain
    · exact ended ▸ ⟨plain.waiting, rfl⟩
  | start h =>
    change Work.Plain (arm _).work
    rw [work_arm]
    exact plain
  | stop h =>
    change Work.Plain (disarm _).work
    rw [work_disarm]
    exact plain
  | refresh h => exact refreshNow_plain plain
  | tick h armed => exact refreshNow_plain plain
  | dropSchedule h => exact letGo_plain plain

end Home

/-! ## Tokens -/

open Refresh (Cycle Schedule)

namespace Refresh.Cycle

variable {service : String} {timed : Bool} {label : Home.Deed.Label} {c d : Cycle}

/-- How many scheduled fetches run or wait. -/
def fetches (c : Cycle) : Nat := c.pending.countP fun task => task.scheduled

/-- How many tokens there are: the scheduled fetches that run or wait, and one if the schedule is
armed. -/
def tokens (c : Cycle) : Nat := c.fetches + (c.schedule.bind Schedule.armed).toList.length

/-- To be armed takes one token. -/
theorem tokens_le (c : Cycle) : c.tokens ≤ c.fetches + 1 := by
  unfold tokens
  cases c.schedule.bind Schedule.armed <;> simp

/-- An armed schedule is a token besides the fetches. -/
theorem tokens_of_armed {c : Cycle} (armed : (c.schedule.bind Schedule.armed).isSome = true) :
    c.tokens = c.fetches + 1 := by
  obtain ⟨id, found⟩ := Option.isSome_iff_exists.1 armed
  rw [tokens, found]
  rfl

/-- Without it only the fetches are. -/
theorem tokens_disarm (schedule : Option Schedule) (pending : List Task) :
    tokens ⟨schedule.map Schedule.disarm, pending⟩ = fetches ⟨schedule, pending⟩ := by
  cases schedule <;> rfl

/-- A task that is added counts if it is scheduled. -/
theorem fetches_concat (schedule : Option Schedule) (pending : List Task) (task : Task) :
    fetches ⟨schedule, pending ++ [task]⟩ =
      fetches ⟨schedule, pending⟩ + if task.scheduled then 1 else 0 := by
  rw [fetches, List.countP_append, List.countP_singleton]
  rfl

/-- **Tokens are passed on.**  Only a start and a request for a fetch make one. -/
theorem Step.tokens_le
    (step : Step service timed (fun task => task.scheduled = false) label c d)
    (others : label ≠ .start ∧ label ≠ .refresh) : d.tokens ≤ c.tokens := by
  cases step with
  | rest => exact Nat.le_refl _
  | @add label c task may =>
    rw [tokens, fetches_concat, may]
    exact Nat.le_refl _
  | @finish c task rest first id given =>
    have before : c.fetches = fetches ⟨c.schedule, rest⟩ + if task.scheduled then 1 else 0 := by
      rw [fetches, first, List.countP_cons]
      rfl
    cases scheduled : task.scheduled with
    | true =>
      rw [scheduled, if_pos rfl] at before
      have after := tokens_le ⟨c.schedule.map (Schedule.arm id), rest⟩
      rw [if_pos rfl]
      calc tokens ⟨c.schedule.map (Schedule.arm id), rest⟩
          ≤ fetches ⟨c.schedule, rest⟩ + 1 := after
        _ = c.fetches := before.symm
        _ ≤ c.tokens := Nat.le_add_right ..
    | false =>
      rw [scheduled] at before
      rw [tokens, tokens, before]
      exact Nat.le_refl _
  | start c given => exact absurd rfl others.1
  | stop c =>
    have same : (c.schedule.map fun s => (s.setStopped true).disarm) =
        (c.schedule.map (Schedule.setStopped true)).map Schedule.disarm := by
      rw [Option.map_map]
      rfl
    rw [same, tokens_disarm]
    exact Nat.le_add_right ..
  | refresh c => exact absurd rfl others.2
  | tick armed =>
    rw [tokens_disarm, fetches_concat, tokens_of_armed armed]
    exact Nat.le_refl _
  | drop c => exact Nat.le_add_right ..

end Refresh.Cycle

namespace Home

/-! ## Runs -/

/-- Whether a scheduled fetch runs or waits. -/
def isFetching (h : Home) : Bool := h.cycle.fetches != 0

/-- Whether a happening makes another token while there is one: the schedule is started, or a fetch
is asked for in place of the next scheduled one, while a scheduled fetch is on its way. -/
def Happening.overtakes (h : Home) : Happening → Bool
  | .command .startSchedule => h.isFetching
  | .command (.refreshNow false) => h.isFetching
  | _ => false

/-- How often a scheduled fetch is overtaken during a run. -/
def overtakings (h : Home) : List Happening → Nat
  | [] => 0
  | first :: more => (if first.overtakes h then 1 else 0) + overtakings (h.next first) more

/-- A happening adds plain tasks if it is given plain tasks. -/
theorem isPlain_of_permits {happening : Happening} {task : Task}
    (given : ∀ parent, happening = .command (.addTask task parent) → task.isPlain = true)
    (ok : happening.Permits (.add task)) : task.isPlain = true := by
  cases happening with
  | command asked =>
    rcases ok with ⟨parent, rfl⟩ | made
    · exact given parent rfl
    · exact Task.isPlain_of_isMadeHere made
  | turn agent => cases agent <;> simp [Happening.Permits, Agent.Permits] at ok
  | reloop loop => exact ok.elim

variable {happening : Happening}

/-- What waits stays plain if only plain tasks are given. -/
theorem next_plain {h : Home} (plain : h.work.Plain)
    (given : ∀ task parent, happening = .command (.addTask task parent) → task.isPlain = true) :
    (h.next happening).work.Plain :=
  next_keeps (P := fun g => g.work.Plain) (fun _ _ plain => plain)
    (fun _ _ _ ok deed plain => deed.plain plain fun task same =>
      isPlain_of_permits (given task) (same ▸ ok)) plain

/-- A happening that is no start and no request for a fetch makes no token. -/
theorem next_tokens_le {h : Home} (plain : h.work.Plain)
    (given : ∀ task parent, happening = .command (.addTask task parent) → task.isPlain = true)
    (others : happening ≠ .command .startSchedule ∧ happening ≠ .command (.refreshNow false)) :
    (h.next happening).cycle.tokens ≤ h.cycle.tokens := by
  refine (next_keeps (P := fun g => g.work.Plain ∧ g.cycle.tokens ≤ h.cycle.tokens)
    (fun _ _ kept => kept) (fun label k g ok deed kept => ?_) ⟨plain, Nat.le_refl _⟩).2
  have added : ∀ task, label = .add task → task.isPlain = true := fun task same =>
    isPlain_of_permits (given task) (same ▸ ok)
  refine ⟨deed.plain kept.1 added, le_trans ?_ kept.2⟩
  have may : ∀ task, label = .add task ∨ (∃ action ∈ k.work.worker.rest, task ∈ action.tasks) →
      task.scheduled = false := fun task source => by
    have plain : task.isPlain = true := by
      rcases source with same | ⟨action, mem, adds⟩
      · exact added task same
      · have step := Task.arePlain_iff.1 kept.1.running action mem
        exact Task.Action.isPlain_iff.1 step task adds
    simpa using (Bool.and_eq_true_iff.1 plain).1
  have step := deed.cycle_step ⟨rfl, rfl⟩ may
  refine step.tokens_le ⟨?_, ?_⟩ <;> rintro rfl
  · cases happening with
    | command asked => exact others.1 (congrArg Happening.command ok)
    | turn agent => cases agent <;> simp [Happening.Permits, Agent.Permits] at ok
    | reloop loop => exact ok
  · cases happening with
    | command asked => exact others.2 (congrArg Happening.command ok)
    | turn agent => cases agent <;> simp [Happening.Permits, Agent.Permits] at ok
    | reloop loop => exact ok

/-- With a start or a request there are at most as many tokens as fetches, and one. -/
theorem next_tokens_le_of_switch {h : Home}
    (asked : happening = .command .startSchedule ∨ happening = .command (.refreshNow false)) :
    (h.next happening).cycle.tokens ≤ max h.cycle.tokens (h.cycle.fetches + 1) := by
  cases present : h.schedule with
  | none =>
    have gone : h.next happening = h := by
      rcases asked with rfl | rfl <;> simp [next, act, ofSchedule, present]
    rw [gone]
    exact Nat.le_max_left ..
  | some s =>
    refine le_trans ?_ (Nat.le_max_right ..)
    rcases asked with rfl | rfl
    · have started : h.next (.command .startSchedule) = h.startSchedule.2 := by
        simp [next, act, ofSchedule, present]
      obtain ⟨id, -, cycle⟩ := exists_cycle_startSchedule h
      rw [started, cycle]
      exact Cycle.tokens_le _
    · have asked : h.next (.command (.refreshNow false)) = (h.refreshNow false).2 := by
        simp [next, act, ofSchedule, present]
      rw [asked, cycle_refreshNow, Cycle.tokens_disarm, Cycle.fetches_concat]
      exact Nat.le_refl _

/-- **A token more takes a fetch that is overtaken.** -/
theorem next_tokens {h : Home} (plain : h.work.Plain)
    (given : ∀ task parent, happening = .command (.addTask task parent) → task.isPlain = true)
    {n : Nat} (few : h.cycle.tokens ≤ 1 + n) :
    (h.next happening).cycle.tokens ≤ 1 + (n + if happening.overtakes h then 1 else 0) := by
  by_cases asked : happening = .command .startSchedule ∨ happening = .command (.refreshNow false)
  · have more := next_tokens_le_of_switch (h := h) asked
    have overtakes : happening.overtakes h = h.isFetching := by rcases asked with rfl | rfl <;> rfl
    have under : h.cycle.fetches ≤ h.cycle.tokens := Nat.le_add_right ..
    rw [overtakes]
    by_cases none : h.cycle.fetches = 0
    · omega
    · rw [if_pos (by simpa [isFetching] using none)]
      omega
  · have same := next_tokens_le plain given (not_or.1 asked)
    omega

/-- **During a run there is one token more for each time that a fetch is overtaken, at most.** -/
theorem after_tokens {run : List Happening}
    (given : ∀ task parent, .command (.addTask task parent) ∈ run → task.isPlain = true)
    {h : Home} (plain : h.work.Plain) {n : Nat} (few : h.cycle.tokens ≤ 1 + n) :
    (h.after run).cycle.tokens ≤ 1 + (n + h.overtakings run) := by
  induction run generalizing h n with
  | nil => exact few
  | cons first more ih =>
    have given₁ : ∀ task parent, first = .command (.addTask task parent) → task.isPlain = true :=
      fun task parent same => given task parent (same ▸ List.mem_cons_self ..)
    have later := ih (fun task parent mem => given task parent (List.mem_cons_of_mem _ mem))
      (next_plain plain given₁) (next_tokens plain given₁ few)
    rw [Nat.add_assoc] at later
    exact later

/-- How many scheduled fetches wait. -/
def waitingFetches (h : Home) : Nat := h.work.queue.countP fun e => e.scheduled

/-- How many scheduled fetches run. -/
def runningFetches (h : Home) : Nat := h.work.running?.toList.countP fun e => e.scheduled

/-- A scheduled fetch either runs or waits. -/
theorem fetches_cycle (h : Home) : h.cycle.fetches = h.runningFetches + h.waitingFetches := by
  change (List.map _ _).countP _ = _
  rw [List.countP_map, List.countP_append]
  rfl

/-- **Scheduled fetches are as many as were overtaken, and one.**  In a run that begins with a new
schedule and a new queue, the scheduled fetches that run or wait, and the schedule itself if it is
armed, are at most one more than the fetches that were overtaken. So if none was overtaken, at most
one scheduled fetch waits, and the schedule is not armed meanwhile. But a fetch that is asked for in
place of the next scheduled one is queued in any case, and a schedule that is started is armed in
any case. -/
theorem fetches_le (h₀ : Home) (run : List Happening)
    (plain : ∀ task parent, .command (.addTask task parent) ∈ run → task.isPlain = true) :
    let start : Home := { h₀ with schedule := some {}, work := {} }
    let h := start.after run
    let armed := (h.schedule.bind Schedule.armed).isSome
    h.runningFetches + h.waitingFetches + (if armed then 1 else 0) ≤ 1 + start.overtakings run ∧
    (start.overtakings run = 0 → h.waitingFetches ≤ 1 ∧ (0 < h.waitingFetches → armed = false)) ∧
    (h.refreshNow false).2.waitingFetches = h.waitingFetches + 1 ∧
    (h.schedule.isSome = true → h.service.period?.isSome = true →
      h.startSchedule.1 = true ∧ h.startSchedule.2.waitingFetches = h.waitingFetches) := by
  intro start h armed
  have few : h.cycle.tokens ≤ 1 + (0 + start.overtakings run) :=
    after_tokens plain ⟨fun e none => (by cases none), rfl⟩ (Nat.zero_le 1)
  have tokens : h.cycle.tokens =
      h.runningFetches + h.waitingFetches + if armed = true then 1 else 0 := by
    rw [Cycle.tokens, fetches_cycle]
    congr 1
    change (h.schedule.bind Schedule.armed).toList.length = _
    cases found : h.schedule.bind Schedule.armed <;> simp [armed, found]
  rw [tokens, Nat.zero_add] at few
  refine ⟨few, fun none => ⟨by omega, fun waits => ?_⟩, ?_, fun present timed => ⟨?_, ?_⟩⟩
  · cases set : armed with
    | false => rfl
    | true =>
      rw [set, if_pos rfl] at few
      omega
  · change (h.disarm.addTask (Refresh.fetchTask h.disarm.service.name true)
      none).2.waitingFetches = _
    rw [waitingFetches, queue_addTask, List.countP_append, work_disarm]
    rfl
  · obtain ⟨id, given, cycle⟩ := exists_cycle_startSchedule h
    obtain ⟨s, found⟩ := Option.isSome_iff_exists.1 present
    have after : h.startSchedule.2.schedule = some ((s.setStopped false).arm id) := by
      rw [show h.startSchedule.2.schedule = _ from congrArg Cycle.schedule cycle, found]
      rfl
    change (h.startSchedule.2.schedule.bind Schedule.armed).isSome = true
    rw [after]
    exact Schedule.isSome_armed_arm (given.trans timed) rfl
  · exact congrArg (fun w : Work => w.queue.countP fun e => e.scheduled) (work_arm _)

/-- While another task keeps the worker busy, the schedule is started, a fetch is asked for in place
of the next scheduled one, and the schedule is started again. -/
def overtaken : List Happening :=
  let task : Task :=
    { kind := .generic, description := "", cancellable := true, scheduled := false
      body := [.await "gate"] }
  [.command (.addTask task none), .turn .worker, .turn .worker, .command .startSchedule,
    .command (.refreshNow false), .command .startSchedule]

/-- One fetch was overtaken, and there are two tokens. -/
theorem fetches_le_overtaken :
    let start : Home := { service := { name := "radio", interval := some Duration.second }
                          schedule := some {}
                          work := {} }
    let h := start.after overtaken
    start.overtakings overtaken = 1 ∧ h.runningFetches + h.waitingFetches + 1 ≤ 1 + 1 := by
  refine ⟨by decide, ?_⟩
  exact (fetches_le { service := { name := "radio", interval := some Duration.second } }
    overtaken fun task parent mem => by
      simp only [overtaken, List.mem_cons, Happening.command.injEq, Command.addTask.injEq,
        reduceCtorEq, List.not_mem_nil, or_false] at mem
      rw [mem.1]
      rfl).1

/-- **A schedule can be armed while its fetch waits, and then a second one waits.**  The second one
is queued by a tick of the timer. -/
theorem two_fetches_wait :
    let h := ({ service := { name := "radio", interval := some Duration.second }
                schedule := some {} } : Home).after overtaken
    h.waitingFetches = 1 ∧ (h.schedule.bind Schedule.armed).isSome = true ∧
      (h.next (.command .fire)).waitingFetches = 2 := by
  decide

end Home
end HomeMedia
