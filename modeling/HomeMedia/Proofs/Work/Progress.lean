import HomeMedia.Proofs.Work.Stopping
/-!
# The worker gets on with its task

Between two steps of a task the worker is ready, or it sleeps and an alarm is set for it, or it
waits for a gate. It would be stuck if its place was lost, or if the gate had been opened without
waking it; and it would wait in vain if nobody held on to the queue any more and it had not been
told. `Underway` says that none of this is so, and every episode of an orderly run keeps it
(`Underway.undergo`). As for calls (`Proofs/Work/Attending.lean`), the turn of the worker itself has
to be looked at as a whole, because it uses up its place among the ready.

Such a turn also brings the end closer: whatever the step was, the worker has less to do afterwards,
for its task and in all (`step_advanced`).
-/

namespace HomeMedia

namespace EventLoop

variable {Agent : Type} {l m : EventLoop Agent} {agent : Agent}

/-- An agent is going to have a turn: it is ready, or an alarm is set for it. -/
def Expects (l : EventLoop Agent) (agent : Agent) : Prop :=
  agent ∈ l.ready ∨ ∃ due, (⟨due, agent⟩ : Alarm Agent) ∈ l.alarms

/-- An agent that goes on is expected. -/
theorem expects_goOn (agent : Agent) (l : EventLoop Agent) : (l.goOn agent).Expects agent :=
  .inl (List.mem_cons_self ..)

/-- So is one that is woken. -/
theorem expects_wake (agent : Agent) (l : EventLoop Agent) : (l.wake agent).Expects agent :=
  .inl (List.mem_append_right _ (List.mem_singleton_self _))

/-- So is one that has an alarm. -/
theorem expects_wakeAt (due : Nat) (agent : Agent) (l : EventLoop Agent) :
    (l.wakeAt due agent).Expects agent :=
  .inr ⟨due, List.mem_append_right _ (List.mem_singleton_self _)⟩

/-- An agent that is expected stays so until its turn. -/
theorem Onward.expects (onward : Onward l m) (expected : l.Expects agent) : m.Expects agent :=
  expected.imp (fun ready => onward.ready ready) fun ⟨due, set⟩ => ⟨due, onward.alarms set⟩

/-- The clock makes agents ready, and forgets none. -/
theorem Expects.moveTo (expected : l.Expects agent) (time : Nat) :
    (l.moveTo time).Expects agent := by
  rcases expected with ready | ⟨due, set⟩
  · exact .inl (mem_ready_moveTo.2 (.inl ready))
  · rcases Nat.lt_or_ge time due with later | within
    · exact .inr ⟨due, mem_alarms_moveTo.2 ⟨set, later⟩⟩
    · exact .inl (mem_ready_moveTo.2 (.inr ⟨due, within, set⟩))

end EventLoop

/-- Whether the worker goes on at its next turn. -/
def Work.Worker.isActive : Work.Worker → Bool
  | .looking => true
  | .running _ => true
  | .ended => true
  | _ => false

/-- A busy worker has the rest of its task to do, and then to put it away. -/
theorem Work.Worker.cost_of_busy {worker : Work.Worker} (busy : worker.isBusy = true) :
    worker.cost = 8 + Task.weigh worker.rest := by
  cases worker with
  | running rest => rfl
  | atGate gate rest => rfl
  | _ => cases busy

/-- Waking the worker leaves what waits. -/
theorem Work.queueWeight_notify (w : Work) : w.notify.2.queueWeight = w.queueWeight := by
  rw [notify_eq]
  rfl

/-- What is left to do for the tasks that the worker has and those that wait. -/
def Work.outstanding (w : Work) : Nat := w.worker.cost + w.queueWeight

namespace Home

open Deed (Label)
open HomeMedia.Work (isStopped_iff)

variable {h g : Home}

/-- What keeps away from the queue leaves who holds on to it. -/
theorem Aloof.usesWork (aloof : Aloof h g) : g.usesWork = h.usesWork := by
  rw [Home.usesWork, Home.usesWork, aloof.holdsWork, aloof.schedule, aloof.work]

/-- Arming the schedule leaves who does. -/
theorem usesWork_arm (h : Home) : h.arm.usesWork = h.usesWork := by
  rcases arm_cases h with same | ⟨s, nanos, found, -, -, -, armed⟩
  · rw [same]
  · rw [armed, usesWork, usesWork, found]
    rfl

/-- So does disarming it. -/
theorem usesWork_disarm (h : Home) : h.disarm.usesWork = h.usesWork := by
  rcases disarm_cases h with same | ⟨id, stopped, found, disarmed⟩
  · rw [same]
  · rw [disarmed, usesWork, usesWork, found]
    rfl

/-- **Without anybody who holds on to the queue** the worker stops when it looks at it. -/
theorem look_of_unused (unused : h.usesWork = false) :
    h.look = ({ h with work := h.work.stop } : Home).report [.queueAbandoned] := by
  unfold look
  rw [unused]
  rfl

/-- The worker is going to have a turn, if nothing keeps it. -/
structure Underway (h : Home) : Prop where
  /-- With steps of a task left, it is going to have a turn. -/
  running : ∀ rest, h.work.worker = .running rest → h.loop.Expects .worker
  /-- A gate that it waits for is closed. -/
  atGate : ∀ gate rest, h.work.worker = .atGate gate rest → h.openGates.contains gate = false
  /-- It waits to be woken only while somebody holds on to the queue. -/
  parked : h.work.worker = .parked → h.usesWork = true

/-- With steps of a task left, it is enough that the worker is going to have a turn. -/
theorem underway_of_running {rest : List Task.Action} (runs : h.work.worker = .running rest)
    (expected : h.loop.Expects .worker) : Underway h where
  running _ _ := expected
  atGate _ _ waits := by cases runs.symm.trans waits
  parked parks := by cases runs.symm.trans parks

/-- At a gate, it is enough that the gate is closed. -/
theorem underway_of_atGate {gate : String} {rest : List Task.Action}
    (waits : h.work.worker = .atGate gate rest) (closed : h.openGates.contains gate = false) :
    Underway h where
  running _ runs := by cases waits.symm.trans runs
  atGate _ _ still := by
    cases waits.symm.trans still
    exact closed
  parked parks := by cases waits.symm.trans parks

/-- Between two tasks, it is enough that the worker does not wait to be woken. -/
theorem underway_of_idle (idle : h.work.worker.isBusy = false) (awake : h.work.worker ≠ .parked) :
    Underway h where
  running _ runs := by
    rw [runs] at idle
    cases idle
  atGate _ _ waits := by
    rw [waits] at idle
    cases idle
  parked parks := absurd parks awake

/-! ## Deeds -/

/-- The worker does what it did, and what it waits for is as it was. -/
theorem Underway.of_same (u : Underway h)
    (worker : g.work.worker.isBusy = true → g.work.worker = h.work.worker)
    (openGates : g.openGates = h.openGates)
    (expects : h.loop.Expects .worker → g.loop.Expects .worker)
    (parked : g.work.worker = .parked → g.usesWork = true) : Underway g where
  running rest runs := expects (u.running rest ((worker (runs ▸ rfl)).symm.trans runs))
  atGate gate rest waits :=
    openGates ▸ u.atGate gate rest ((worker (waits ▸ rfl)).symm.trans waits)
  parked := parked

/-- **Waking the worker** is right whatever it does. -/
theorem underway_wakeWorker
    (running : ∀ rest, h.work.worker = .running rest → h.loop.Expects .worker)
    (atGate : ∀ gate rest, h.work.worker = .atGate gate rest → h.openGates.contains gate = false) :
    Underway h.wakeWorker := by
  rcases wakeWorker_cases h with ⟨-, woken⟩ | ⟨other, kept⟩
  · rw [woken]
    exact underway_of_idle rfl Work.Worker.noConfusion
  · rw [kept]
    exact ⟨running, atGate, fun parked => absurd parked other⟩

namespace Underway

/-- Adding a task leaves the worker under way. -/
theorem addTask (u : Underway h) (task : Task) (parent : Option Task.Id) :
    Underway (h.addTask task parent).2 :=
  underway_wakeWorker (h := ({ h with work := (h.work.enqueue task parent).2 } : Home).report _)
    u.running u.atGate

/-- Letting go wakes the worker, unless somebody else still holds on to the queue. -/
theorem letGo (u : Underway h) {release : Home → Home} (work : (release h).work = h.work)
    (loop : (release h).loop = h.loop) (openGates : (release h).openGates = h.openGates) :
    Underway (h.letGo release) := by
  unfold Home.letGo
  dsimp only
  split
  · refine underway_wakeWorker ?_ ?_
    · rw [work, loop]
      exact u.running
    · rw [work, openGates]
      exact u.atGate
  · rename_i kept
    refine u.of_same (fun _ => by rw [work]) openGates (fun expects => loop ▸ expects)
      fun parked => ?_
    rw [work] at parked
    rw [u.parked parked] at kept
    cases used : (release h).usesWork with
    | true => rfl
    | false => exact absurd (by rw [used]; rfl) kept

/-- Opening a gate leaves the worker under way. -/
theorem release (u : Underway h) (gate : String) : Underway (h.release gate) := by
  unfold Home.release
  dsimp only
  split
  · rename_i other rest waits
    split
    · exact underway_of_running rfl (EventLoop.expects_wake _ h.loop)
    · rename_i differs
      refine underway_of_atGate waits ?_
      change (gate :: h.openGates).contains other = false
      rw [List.contains_cons, u.atGate other rest waits, Bool.or_false]
      exact beq_eq_false_iff_ne.2 differs
  · rename_i elsewhere
    exact ⟨u.running, fun other rest waits => absurd waits (elsewhere other rest), u.parked⟩

/-- So does arming the schedule. -/
theorem arm (u : Underway h) : Underway h.arm := by
  refine u.of_same (fun _ => by rw [work_arm]) ?_ (arm_onward h).expects fun parked => ?_
  · rcases arm_cases h with same | ⟨s, nanos, -, -, -, -, armed⟩
    · rw [same]
    · rw [armed]
      rfl
  · rw [work_arm] at parked
    rw [usesWork_arm]
    exact u.parked parked

/-- So does disarming it. -/
theorem disarm (u : Underway h) : Underway h.disarm := by
  refine u.of_same (fun _ => by rw [work_disarm]) ?_ (fun expects => loop_disarm h ▸ expects)
    fun parked => ?_
  · rcases disarm_cases h with same | ⟨id, stopped, -, disarmed⟩
    · rw [same]
    · rw [disarmed]
      rfl
  · rw [work_disarm] at parked
    rw [usesWork_disarm]
    exact u.parked parked

end Underway

/-- Whatever the worker finds, it has a place afterwards, waits or has stopped. -/
theorem underway_look (looking : h.work.worker = .looking) : Underway h.look := by
  have parked : h.look.work.worker = .parked → h.look.usesWork = true := by
    intro parks
    cases inUse : h.usesWork with
    | false =>
      rw [look_of_unused inUse] at parks
      cases parks
    | true =>
      have looked := h.looked
      generalize h.look = g at looked parks ⊢
      cases looked with
      | again => exact inUse
      | park => exact inUse
      | _ => cases parks
  have looked := h.looked
  generalize h.look = g at looked parked ⊢
  cases looked with
  | take => exact underway_of_running rfl (EventLoop.expects_goOn _ h.loop)
  | again =>
    exact ⟨fun _ _ => EventLoop.expects_goOn _ h.loop,
      fun _ _ waits => (nomatch looking.symm.trans waits), parked⟩
  | _ => exact ⟨nofun, nofun, parked⟩

/-- A worker that puts its task away goes on. -/
theorem underway_putAway (h : Home) : Underway h.putAway :=
  underway_of_idle rfl Work.Worker.noConfusion

/-- No deed takes the worker's turn away. -/
theorem Deed.expects {label : Label} (deed : Deed label h g) (expected : h.loop.Expects .worker) :
    g.loop.Expects .worker := by
  by_cases beat : label = .beat
  · subst beat
    cases deed with
    | aside aside =>
      cases aside with
      | beat h id => exact expected
      | rest h ms id =>
        exact expected.imp (fun ready => ready) fun ⟨due, set⟩ =>
          ⟨due, List.mem_append_left _ set⟩
      | goOn h id => exact (EventLoop.Onward.goOn _ h.loop).expects expected
  · exact (deed.onward beat).expects expected

/-- **What is done between turns of the worker** leaves it under way. -/
theorem Deed.underway {label : Label} (deed : Deed label h g) (u : Underway h) : Underway g := by
  have expects := deed.expects
  cases deed with
  | aside aside =>
    have aloof := aside.aloof
    exact u.of_same (fun _ => congrArg Work.worker aloof.work) aloof.openGates expects
      fun parked => aloof.usesWork ▸ u.parked (aloof.work ▸ parked)
  | addTask h task parent => exact u.addTask task parent
  | spawn h task parent planned => exact u.addTask task parent
  | invalidate h id =>
    obtain ⟨events, -, cancelled⟩ := exists_invalidate id h
    rw [cancelled]
    exact ⟨u.running, u.atGate, u.parked⟩
  | requestStop h held =>
    exact u.of_same (fun _ => rfl) rfl expects fun _ => by
      rw [usesWork, show h.requestStop.holdsWork = true from held, Bool.true_or, Bool.true_or]
  | call h index =>
    exact underway_wakeWorker (h := { h.report _ with work := _ }) u.running u.atGate
  | dropWork h => exact u.letGo rfl rfl rfl
  | dropSchedule h => exact u.letGo rfl rfl rfl
  | release h gate => exact u.release gate
  | look h looking => exact underway_look looking
  | putAway h ended => exact underway_putAway h
  | goOn h rest busy planned =>
    exact underway_of_running rfl (EventLoop.expects_goOn _ h.loop)
  | sleep h ms rest busy planned later =>
    exact underway_of_running rfl (EventLoop.expects_wakeAt _ _ h.loop)
  | await h gate rest busy planned closed => exact underway_of_atGate rfl closed
  | interrupt h busy => exact ⟨u.running, u.atGate, u.parked⟩
  | finish h outcome busy =>
    rcases finish_cases outcome h with ⟨-, same⟩ | ⟨e, armed, -, -, ended⟩
    · exact same.symm ▸ u
    · rw [ended]
      exact underway_of_idle rfl Work.Worker.noConfusion
  | start h =>
    refine Underway.arm (h := { h with
      schedule := h.schedule.map (Refresh.Schedule.setStopped false) }) ?_
    refine u.of_same (fun _ => rfl) rfl (fun expects => expects) fun parked => ?_
    have used := u.parked parked
    rwa [usesWork, ← Option.isSome_map (f := Refresh.Schedule.setStopped false)] at used
  | stop h =>
    refine Underway.disarm (h := { h with
      schedule := h.schedule.map (Refresh.Schedule.setStopped true) }) ?_
    refine u.of_same (fun _ => rfl) rfl (fun expects => expects) fun parked => ?_
    have used := u.parked parked
    rwa [usesWork, ← Option.isSome_map (f := Refresh.Schedule.setStopped true)] at used
  | refresh h => exact u.disarm.addTask ..
  | tick h armed => exact u.disarm.addTask ..

/-! ## The turn of the worker -/

/-- The worker is under way, and less is left to do than for a queue before. -/
structure Advanced (w : Work) (h : Home) : Prop extends Underway h where
  /-- Less is left to do for its task. -/
  lighter : h.work.worker.cost < w.worker.cost
  /-- Less is left to do in all. -/
  less : h.work.outstanding < w.outstanding

variable {w : Work}

/-- A worker with less to do for its task and no more behind it has advanced. -/
theorem Underway.advanced (u : Underway h) (lighter : h.work.worker.cost < w.worker.cost)
    (queue : h.work.queueWeight = w.queueWeight) : Advanced w h :=
  ⟨u, lighter, Nat.add_lt_add_of_lt_of_le lighter (Nat.le_of_eq queue)⟩

/-- The worker goes on after a task was added that weighs less than the step. -/
theorem advanced_continueWith {n : Nat} {rest : List Task.Action}
    (lighter : 8 + Task.weigh rest + n < w.worker.cost)
    (queue : h.work.queueWeight = w.queueWeight + n) : Advanced w (h.continueWith rest) where
  toUnderway := underway_of_running rfl (EventLoop.expects_goOn _ h.loop)
  lighter := Nat.lt_of_le_of_lt (Nat.le_add_right _ n) lighter
  less := by
    change 8 + Task.weigh rest + h.work.queueWeight < w.worker.cost + w.queueWeight
    omega

/-- The end of a task is an advance. -/
theorem advanced_finish (work : h.work = w) (current : w.current.isSome = true)
    (busy : w.worker.isBusy = true) (outcome : Except Task.Error Task.Outcome) :
    Advanced w (h.finish outcome) := by
  subst work
  have cost := Work.Worker.le_cost_of_busy busy
  rcases finish_cases outcome h with ⟨none, -⟩ | ⟨e, armed, -, -, ended⟩
  · rw [none] at current
    cases current
  · rw [ended]
    exact (underway_of_idle rfl Work.Worker.noConfusion).advanced
      (Nat.lt_of_lt_of_le (by decide : 3 < 8) cost) rfl

/-- **A step of a task** leaves less to do. -/
theorem step_advanced (current : h.work.current.isSome = true) {rest : List Task.Action}
    {action : Task.Action} (running : h.work.worker = .running (action :: rest))
    (e : Work.Entry) : Advanced h.work (h.step e rest action) := by
  have weight := action.weight_pos
  have busy : h.work.worker.isBusy = true := congrArg Work.Worker.isBusy running
  have cost : h.work.worker.cost = 8 + (action.weight + Task.weigh rest) :=
    congrArg Work.Worker.cost running
  have less : 8 + Task.weigh rest < h.work.worker.cost := by omega
  have goesOn : ∀ {g : Home}, g.work.queueWeight = h.work.queueWeight →
      Advanced h.work (g.continueWith rest) := fun queue =>
    advanced_continueWith (n := 0) less queue
  have ends : ∀ {g : Home} (outcome : Except Task.Error Task.Outcome), g.work = h.work →
      Advanced h.work (g.finish outcome) := fun outcome work =>
    advanced_finish work current busy outcome
  have adds : ∀ {header : Task.Header} {body : List Task.Action} (parent : Option Task.Id)
      (trace : Trace), action.weight = 12 + Task.weigh body →
      Advanced h.work (((h.addTask { toHeader := header, body } parent).2.leave trace).continueWith
        rest) := by
    intro header body parent trace heavy
    have queue : (h.addTask { toHeader := header, body } parent).2.work.queueWeight =
        h.work.queueWeight + (8 + Task.weigh body) :=
      (Work.queueWeight_notify _).trans (Work.queueWeight_enqueue _ parent h.work)
    exact advanced_continueWith (by omega) queue
  cases action with
  | note text => exact goesOn rfl
  | noteValidity => exact goesOn rfl
  | interrupt => exact goesOn rfl
  | fail error => exact ends _ rfl
  | panic payload => exact ends _ rfl
  | giveUp => exact ends _ rfl
  | check =>
    unfold step
    dsimp only
    split
    · exact goesOn rfl
    · exact ends _ rfl
  | sleep ms =>
    unfold step
    dsimp only
    split
    · exact goesOn rfl
    · exact (underway_of_running rfl (EventLoop.expects_wakeAt _ _ h.loop)).advanced less rfl
  | await gate =>
    unfold step
    dsimp only
    split
    · exact goesOn rfl
    · rename_i closed
      refine Underway.advanced ?_ less rfl
      exact underway_of_atGate rfl (Bool.eq_false_iff.2 closed)
  | spawn header body =>
    unfold step
    dsimp only
    split
    · exact adds (some e.id) _ rfl
    · exact ends _ rfl
  | add header body =>
    unfold step
    dsimp only
    split
    · exact adds none _ rfl
    · exact ends _ rfl
  | invalidate id =>
    unfold step
    dsimp only
    split
    · refine goesOn ?_
      obtain ⟨events, -, cancelled⟩ := exists_invalidate (id.getD e.id) h
      change (h.invalidate (id.getD e.id)).2.work.queueWeight = _
      rw [cancelled]
      exact Work.queueWeight_invalidate _ h.work
    · exact ends _ rfl
  | rescan path => exact ends _ (announceAny_work ..)
  | conclude answer => exact ends _ (announceAny_work ..)
  | fetch =>
    unfold step
    dsimp only
    split
    · refine advanced_continueWith (n := 0) ?_ rfl
      have steps := Refresh.Script.weigh_steps_le h.service.next.1
      rw [Task.weigh_append, cost]
      change 8 + (Task.weigh h.service.next.1.steps + Task.weigh rest) + 0 <
        8 + (16 + Task.weigh rest)
      omega
    · exact ends _ rfl

/-- **The turn of a worker that is busy** leaves less to do. -/
theorem pollWorker_advanced (current : h.work.current.isSome = true) {rest : List Task.Action}
    (running : h.work.worker = .running rest) : Advanced h.work h.pollWorker := by
  obtain ⟨e, taken⟩ := Option.isSome_iff_exists.1 current
  unfold pollWorker
  rw [running, taken]
  cases rest with
  | nil => exact advanced_finish rfl current (congrArg Work.Worker.isBusy running) _
  | cons action rest => exact step_advanced current running e

/-- A worker that is not active does nothing at its turn. -/
theorem pollWorker_of_not_active (still : h.work.worker.isActive = false) : h.pollWorker = h := by
  unfold pollWorker
  cases worker : h.work.worker with
  | looking | running | ended =>
    rw [worker] at still
    cases still
  | _ => rfl

/-- **The turn of the worker** leaves it under way, whatever it was about. -/
theorem pollWorker_underway (current : h.work.worker.isBusy = true → h.work.current.isSome = true)
    (atGate : ∀ gate rest, h.work.worker = .atGate gate rest → h.openGates.contains gate = false)
    (parked : h.work.worker = .parked → h.usesWork = true) : Underway h.pollWorker := by
  cases worker : h.work.worker with
  | looking =>
    rw [show h.pollWorker = h.look from poll_worker_of_looking worker]
    exact underway_look worker
  | ended =>
    rw [show h.pollWorker = h.putAway from poll_worker_of_ended worker]
    exact underway_putAway h
  | running rest => exact (pollWorker_advanced (current (worker ▸ rfl)) worker).toUnderway
  | _ =>
    rw [pollWorker_of_not_active (worker ▸ rfl)]
    exact ⟨fun rest runs => (nomatch worker.symm.trans runs), atGate, parked⟩

/-! ## Episodes -/

/-- Everybody else is still expected when somebody leaves. -/
theorem expects_leaveOut {place : Nat} {agent other : Agent} (expected : h.loop.Expects agent)
    (taken : h.loop.ready[place]? = some other) (differs : agent ≠ other) :
    (h.leaveOut place).loop.Expects agent :=
  expected.imp_left fun ready => mem_ready_leaveOut ready taken differs

/-- Another agent's turn leaves the worker under way. -/
theorem Underway.leaveOut (u : Underway h) {place : Nat} {other : Agent}
    (taken : h.loop.ready[place]? = some other) (differs : .worker ≠ other) :
    Underway (h.leaveOut place) :=
  ⟨fun rest runs => expects_leaveOut (u.running rest runs) taken differs, u.atGate, u.parked⟩

/-- A busy worker has a task. -/
theorem Orderly.current_isSome (o : Orderly h) (busy : h.work.worker.isBusy = true) :
    h.work.current.isSome = true :=
  (Option.isSome_map ..).symm.trans (o.ordered.busy busy)

/-- **Every episode** leaves the worker under way. -/
theorem Underway.undergo (u : Underway h) (o : Orderly h) (e : Episode) :
    Underway (h.undergo e) := by
  cases e with
  | command command atOnce =>
    exact (act_deeds atOnce h).keep (fun _ _ _ _ deed u => deed.underway u) u
  | pass ms =>
    unfold Home.undergo
    dsimp only
    split
    · exact u.of_same (fun _ => rfl) rfl (fun expected => expected.moveTo _) u.parked
    · exact u
  | turn place =>
    unfold Home.undergo
    dsimp only
    split
    · exact u
    · rename_i agent ready
      cases agent with
      | worker =>
        exact pollWorker_underway (h := h.leaveOut place) o.current_isSome u.atGate u.parked
      | pulse id =>
        exact (poll_deeds (.pulse id) _).keep (fun _ _ _ _ deed u => deed.underway u)
          (u.leaveOut ready nofun)
      | call index =>
        exact (poll_deeds (.call index) _).keep (fun _ _ _ _ deed u => deed.underway u)
          (u.leaveOut ready nofun)

/-- **The worker stays under way during a run.** -/
theorem Underway.through (u : Underway h) (o : Orderly h) (run : List Episode) :
    Underway (h.through run) :=
  (through_keeps (P := fun g => Orderly g ∧ Underway g)
    (fun e _ _ kept => ⟨kept.1.undergo e, kept.2.undergo kept.1 e⟩) ⟨o, u⟩).2

/-- After the launch it is. -/
theorem launched_underway (h : Home) (keepsTime : Bool) : Underway (h.launched keepsTime) :=
  underway_of_idle rfl Work.Worker.noConfusion

/-- Nothing keeps the worker but a gate that is closed. -/
def KeptByGateOnly (h : Home) : Prop :=
  h.loop.Expects .worker ∨
    ∃ gate rest, h.work.worker = .atGate gate rest ∧ h.openGates.contains gate = false

/-- **The worker goes on**, unless it has stopped or waits to be woken. -/
theorem Orderly.keptByGateOnly (o : Orderly h) (u : Underway h) (alive : h.work.isStopped = false)
    (awake : h.work.worker ≠ .parked) : h.KeptByGateOnly := by
  cases worker : h.work.worker with
  | looking => exact .inl (.inl (o.attended.awake (.inl worker)))
  | ended => exact .inl (.inl (o.attended.awake (.inr worker)))
  | running rest => exact .inl (u.running rest worker)
  | atGate gate rest => exact .inr ⟨gate, rest, worker, u.atGate gate rest worker⟩
  | parked => exact absurd worker awake
  | stopped => cases alive.symm.trans (isStopped_iff.2 worker)

end Home
end HomeMedia
