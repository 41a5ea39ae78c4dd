import HomeMedia.Proofs.Work.Releasing
/-!
# The worker comes to its end

A worker *departs* when it was asked to stop, or when nobody holds on to its queue any more
(`Departing`). It does not wait to be woken then, so that it has a turn after some time or after the
gate of its task was opened (`Underway.exists_turn`), and every turn leaves it with less to do:

* nobody adds to the task that it has, and without anybody who holds on to the queue it takes no
  other one, so the turns that it has left are bounded whatever happens
  (`Released.workersTurns_add_cost_le`);
* if it was asked to stop the tasks that wait count as well. They can add others, but these were
  weighed with the tasks that add them, and without a schedule no others come from the server itself
  (`Departing.outstanding_undergo`).

So turns, time and the opening of gates make it stop (`Departing.exists_stops`).
-/

namespace HomeMedia
namespace Home

open Deed (Label)
open HomeMedia.Work (isStopped_iff)

variable {h g : Home}

/-! ## What is left to do for one task -/

/-- **Nobody gives the worker more to do** for its task, and when nobody holds on to the queue it
takes no other. -/
theorem Deed.cost_le {label : Label} (deed : Deed label h g) (unused : h.usesWork = false)
    (awake : h.work.worker ≠ .parked) : g.work.worker.cost ≤ h.work.worker.cost := by
  have lighter : ∀ {rest : List Task.Action}, h.work.worker.isBusy = true → h.Planned rest →
      8 + Task.weigh rest ≤ h.work.worker.cost := fun busy planned => by
    rw [Work.Worker.cost_of_busy busy]
    exact Nat.add_le_add_left (Nat.le_of_lt planned.lighter) 8
  have same : g.work.worker = h.work.worker → g.work.worker.cost ≤ h.work.worker.cost :=
    fun worker => Nat.le_of_eq (congrArg Work.Worker.cost worker)
  cases deed with
  | aside aside => exact same (congrArg Work.worker aside.aloof.work)
  | addTask h task parent => exact same (Work.worker_notify awake)
  | spawn h task parent planned => exact same (Work.worker_notify awake)
  | invalidate h id =>
    obtain ⟨events, -, cancelled⟩ := exists_invalidate id h
    exact same (cancelled ▸ rfl)
  | requestStop h held => exact same rfl
  | call h index => exact same (Work.worker_notify awake)
  | dropWork h => exact same (letGo_keeps (Work.worker_notify awake) rfl)
  | dropSchedule h => exact same (letGo_keeps (Work.worker_notify awake) rfl)
  | release h gate =>
    rcases release_cases gate h with ⟨rest, waits, woken⟩ | opened
    · rw [woken, waits]
      exact Nat.le_refl _
    · exact same (opened ▸ rfl)
  | look h looking =>
    rw [look_of_unused unused, looking]
    exact (by decide : 1 ≤ 2)
  | putAway h ended =>
    rw [ended]
    exact (by decide : 2 ≤ 3)
  | goOn h rest busy planned => exact lighter busy planned
  | sleep h ms rest busy planned later => exact lighter busy planned
  | await h gate rest busy planned closed => exact lighter busy planned
  | interrupt h busy => exact same rfl
  | finish h outcome busy =>
    rcases finish_cases outcome h with ⟨-, kept⟩ | ⟨e, armed, -, -, ended⟩
    · exact same (congrArg (fun g : Home => g.work.worker) kept)
    · rw [ended]
      exact Nat.le_trans (by decide : 3 ≤ 8) (Work.Worker.le_cost_of_busy busy)
  | start h => exact same (congrArg Work.worker (work_arm _))
  | stop h => exact same (congrArg Work.worker (work_disarm _))
  | refresh h => exact same (refreshNow_keeps fun _ => Work.worker_notify awake)
  | tick h armed => exact same (refreshNow_keeps fun _ => Work.worker_notify awake)

/-! ## Turns of the worker -/

/-- The passing of time does nothing to the queue. -/
theorem work_undergo_pass (ms : Nat) (h : Home) : (h.undergo (.pass ms)).work = h.work := by
  unfold Home.undergo
  dsimp only
  split <;> rfl

/-- Whether the worker has the turn, and does something. -/
def isWorkersTurn (h : Home) : Episode → Bool
  | .turn place => h.loop.ready[place]? == some .worker && h.work.worker.isActive
  | _ => false

/-- How often the worker has a turn in a run, and does something. -/
def workersTurns (h : Home) : List Episode → Nat
  | [] => 0
  | e :: more => (if h.isWorkersTurn e then 1 else 0) + (h.undergo e).workersTurns more

/-- Other episodes must not add to what the worker has to do. -/
theorem worn_of_idle {m : Work → Nat} {e : Episode} (idle : h.isWorkersTurn e = false)
    (less : m (h.undergo e).work ≤ m h.work) :
    (if h.isWorkersTurn e then 1 else 0) + m (h.undergo e).work ≤ m h.work := by
  rw [idle, if_neg nofun, Nat.zero_add]
  exact less

/-- The turn of somebody at a place among the ready wears down what the worker has to do, if that of
the worker does and those of others do not add to it. -/
theorem worn_of_turn {m : Work → Nat} {place : Nat}
    (others : ∀ agent, .worker ≠ agent → h.loop.ready[place]? = some agent →
      m (poll agent (h.leaveOut place)).work ≤ m h.work)
    (own : h.work.worker.isActive = true → m (h.leaveOut place).pollWorker.work < m h.work) :
    (if h.isWorkersTurn (.turn place) then 1 else 0) + m (h.undergo (.turn place)).work ≤
      m h.work := by
  cases ready : h.loop.ready[place]? with
  | none =>
    have idle : h.isWorkersTurn (.turn place) = false := by
      rw [isWorkersTurn, ready]
      rfl
    have same : h.undergo (.turn place) = h := by
      simp only [Home.undergo, ready]
    exact worn_of_idle idle (Nat.le_of_eq (by rw [same]))
  | some agent =>
    have turn : h.undergo (.turn place) = poll agent (h.leaveOut place) := by
      simp only [Home.undergo, ready]
    by_cases worker : .worker = agent
    · subst worker
      cases active : h.work.worker.isActive with
      | false =>
        have idle : h.isWorkersTurn (.turn place) = false := by
          rw [isWorkersTurn, active, Bool.and_false]
        have same : poll .worker (h.leaveOut place) = h.leaveOut place :=
          pollWorker_of_not_active active
        exact worn_of_idle idle (Nat.le_of_eq (by rw [turn, same]; rfl))
      | true =>
        rw [isWorkersTurn, ready, active, if_pos (by rfl), Nat.add_comm, turn]
        exact own active
    · have idle : h.isWorkersTurn (.turn place) = false := by
        rw [isWorkersTurn, ready, Bool.and_eq_false_iff]
        exact .inl (beq_eq_false_iff_ne.2 fun same => worker (Option.some.inj same).symm)
      exact worn_of_idle idle (turn ▸ others agent worker ready)

/-- **The turns of the worker in a run are bounded** by what every one of them wears down. -/
theorem workersTurns_add_le {m : Work → Nat} {P : Home → Prop} {run : List Episode}
    (each : ∀ e ∈ run, ∀ h, P h → P (h.undergo e) ∧
      (if h.isWorkersTurn e then 1 else 0) + m (h.undergo e).work ≤ m h.work) (start : P h) :
    h.workersTurns run + m (h.through run).work ≤ m h.work := by
  induction run generalizing h with
  | nil => exact Nat.le_of_eq (Nat.zero_add _)
  | cons e more ih =>
    obtain ⟨kept, first⟩ := each e (List.mem_cons_self ..) h start
    have rest := ih (fun e mem => each e (List.mem_cons_of_mem _ mem)) kept
    rw [workersTurns]
    change _ + m ((h.undergo e).through more).work ≤ _
    omega

/-! ## The worker of a released queue -/

/-- **In its turn the worker gets on**, if nobody holds on to the queue. -/
theorem cost_pollWorker (unused : h.usesWork = false)
    (current : h.work.worker.isBusy = true → h.work.current.isSome = true)
    (active : h.work.worker.isActive = true) :
    h.pollWorker.work.worker.cost < h.work.worker.cost := by
  cases worker : h.work.worker with
  | looking =>
    rw [show h.pollWorker = h.look from poll_worker_of_looking worker, look_of_unused unused]
    exact (by decide : 1 < 2)
  | ended =>
    rw [show h.pollWorker = h.putAway from poll_worker_of_ended worker]
    exact (by decide : 2 < 3)
  | running rest =>
    rw [← worker]
    exact (pollWorker_advanced (current (worker ▸ rfl)) worker).lighter
  | _ =>
    rw [worker] at active
    cases active

/-- The worker of a released queue does not sleep. -/
theorem Released.awake (r : Released h) (u : Underway h) : h.work.worker ≠ .parked :=
  fun parked => nomatch r.unused.symm.trans (u.parked parked)

/-- Deeds give it nothing more to do for its task. -/
theorem Deeds.cost_le {permits : Label → Prop} (deeds : Deeds permits h g) (r : Released h)
    (u : Underway h) : g.work.worker.cost ≤ h.work.worker.cost :=
  (deeds.keep (P := fun k => Released k ∧ Underway k ∧ k.work.worker.cost ≤ h.work.worker.cost)
    (fun _ _ _ _ deed ⟨r, u, less⟩ => ⟨deed.released r, deed.underway u,
      Nat.le_trans (deed.cost_le r.unused (r.awake u)) less⟩) ⟨r, u, Nat.le_refl _⟩).2.2

/-- **Every turn of the worker brings its end closer**, and nothing else delays it. -/
theorem Released.cost_undergo (r : Released h) (o : Orderly h) (u : Underway h) (e : Episode) :
    (if h.isWorkersTurn e then 1 else 0) + (h.undergo e).work.worker.cost ≤
      h.work.worker.cost := by
  cases e with
  | command command atOnce =>
    exact worn_of_idle (m := fun w => w.worker.cost) rfl (Deeds.cost_le (act_deeds atOnce h) r u)
  | pass ms =>
    exact worn_of_idle (m := fun w => w.worker.cost) rfl
      (Nat.le_of_eq (by rw [work_undergo_pass]))
  | turn place =>
    refine worn_of_turn (m := fun w => w.worker.cost) (fun agent differs ready => ?_)
      fun active => ?_
    · exact Deeds.cost_le (h := h.leaveOut place) (poll_deeds agent _) (r.withLoop _)
        (u.leaveOut ready differs)
    · exact cost_pollWorker (h := h.leaveOut place) r.unused o.current_isSome active

/-- **The worker of a released queue has a bounded number of turns left.** -/
theorem Released.workersTurns_add_cost_le (r : Released h) (o : Orderly h) (u : Underway h)
    (run : List Episode) :
    h.workersTurns run + (h.through run).work.worker.cost ≤ h.work.worker.cost :=
  workersTurns_add_le (m := fun w => w.worker.cost)
    (P := fun g => Released g ∧ Orderly g ∧ Underway g)
    (fun e _ _ ⟨r, o, u⟩ => ⟨⟨r.undergo e, o.undergo e, u.undergo o e⟩, r.cost_undergo o u e⟩)
    ⟨r, o, u⟩

/-! ## A worker that departs -/

/-- The worker is going to stop: it was asked to, or nobody holds on to the queue. No schedule adds
tasks to it. -/
structure Departing (h : Home) : Prop where
  /-- Only what can happen has happened. -/
  orderly : Orderly h
  /-- The worker is under way. -/
  underway : Underway h
  /-- The schedule is gone. -/
  schedule : h.schedule = none
  /-- The worker was asked to stop, or nobody holds on to the queue. -/
  reason : h.work.stopping = true ∨ Released h

namespace Departing

/-- A worker that departs does not sleep. -/
theorem awake (d : Departing h) : h.work.worker ≠ .parked := by
  rcases d.reason with asked | r
  · intro parked
    cases asked.symm.trans (d.orderly.attended.parked parked).2
  · exact r.awake d.underway

/-- It is still departing after an episode. -/
theorem undergo (d : Departing h) (e : Episode) : Departing (h.undergo e) where
  orderly := d.orderly.undergo e
  underway := d.underway.undergo d.orderly e
  schedule := schedule_undergo_eq_none d.schedule e
  reason := d.reason.imp
    (fun asked => Ledger.stopping_of_steps (through_steps h [e]) asked) fun r => r.undergo e

/-- So it is after a run. -/
theorem through (d : Departing h) (run : List Episode) : Departing (h.through run) :=
  through_keeps (fun e _ _ d => d.undergo e) d

end Departing

/-- Without a schedule, the ticks of pulses are not about the queue. -/
theorem work_pollPulse (gone : h.schedule = none) (id : Timer.SubscriptionId) :
    (h.pollPulse id).work = h.work := by
  unfold pollPulse
  dsimp only
  split
  · rfl
  · rfl
  · rename_i subscriber ticks
    change (tick { h with timer := (h.timer.beat h.nanos h.isAlive id).2 } subscriber).work = h.work
    cases subscriber with
    | sweep => exact (Aside.sweep _ _).aloof.work
    | refresh =>
      unfold tick
      dsimp only
      rw [gone]
      rfl

/-- Waking a worker that is awake leaves what is left to do. -/
theorem outstanding_wakeWorker (awake : h.work.worker ≠ .parked) :
    h.wakeWorker.work.outstanding = h.work.outstanding := by
  change h.work.notify.2.worker.cost + h.work.notify.2.queueWeight = _
  rw [Work.worker_notify awake, Work.queueWeight_notify]
  rfl

/-- Opening a gate leaves what is left to do. -/
theorem outstanding_release (gate : String) (h : Home) :
    (h.release gate).work.outstanding = h.work.outstanding := by
  rcases release_cases gate h with ⟨rest, waits, woken⟩ | opened
  · rw [woken, Work.outstanding, Work.outstanding, waits]
    rfl
  · rw [opened]

/-- **A worker that departs** has less to do after it has looked at the queue. -/
theorem outstanding_look (looking : h.work.worker = .looking)
    (reason : h.work.stopping = true ∨ h.usesWork = false) :
    h.look.work.outstanding < h.work.outstanding := by
  have stops : h.work.stop.outstanding < h.work.outstanding := by
    rw [Work.outstanding, Work.outstanding, looking]
    exact Nat.add_lt_add_right (by decide : 1 < 2) h.work.queueWeight
  rcases reason with asked | unused
  · have looked := h.looked
    generalize h.look = g at looked ⊢
    cases looked with
    | abandon unused => exact stops
    | stop empty asked => exact stops
    | take inUse waiting =>
      rw [Work.outstanding, Work.outstanding, looking, Work.queueWeight_of_cons waiting]
      rw [← Nat.add_assoc]
      exact Nat.add_lt_add_right (Nat.lt_add_of_pos_left (by decide)) _
    | again empty free => cases asked.symm.trans free
    | park empty free => cases asked.symm.trans free
  · rw [look_of_unused unused]
    exact stops

/-- **Each turn of an active worker that departs leaves less to do.** -/
theorem outstanding_pollWorker (reason : h.work.stopping = true ∨ h.usesWork = false)
    (current : h.work.worker.isBusy = true → h.work.current.isSome = true)
    (active : h.work.worker.isActive = true) :
    h.pollWorker.work.outstanding < h.work.outstanding := by
  cases worker : h.work.worker with
  | looking =>
    rw [show h.pollWorker = h.look from poll_worker_of_looking worker]
    exact outstanding_look worker reason
  | ended =>
    rw [show h.pollWorker = h.putAway from poll_worker_of_ended worker, Work.outstanding,
      Work.outstanding, worker]
    exact Nat.add_lt_add_right (by decide : 2 < 3) h.work.queueWeight
  | running rest => exact (pollWorker_advanced (current (worker ▸ rfl)) worker).less
  | _ =>
    rw [worker] at active
    cases active

/-- Whether an episode is a turn, time that passes, or a gate that is opened. -/
def Episode.isCourse (e : Episode) : Bool :=
  match e.command? with
  | none => true
  | some (.release _) => true
  | _ => false

/-- **Every turn of a worker that departs brings its end closer**, and turns of others, time and the
opening of gates do not delay it. -/
theorem Departing.outstanding_undergo (d : Departing h) {e : Episode} (course : e.isCourse = true) :
    (if h.isWorkersTurn e then 1 else 0) + (h.undergo e).work.outstanding ≤
      h.work.outstanding := by
  cases e with
  | command command atOnce =>
    cases command with
    | release gate => exact worn_of_idle rfl (Nat.le_of_eq (outstanding_release gate h))
    | _ => cases course
  | pass ms => exact worn_of_idle rfl (Nat.le_of_eq (by rw [work_undergo_pass]))
  | turn place =>
    refine worn_of_turn (fun agent differs ready => ?_) fun active => ?_
    · cases agent with
      | worker => exact absurd rfl differs
      | pulse id =>
        exact Nat.le_of_eq (congrArg Work.outstanding
          (work_pollPulse (h := h.leaveOut place) d.schedule id))
      | call index =>
        exact Nat.le_of_eq (outstanding_wakeWorker (h := { (h.leaveOut place).report _ with
          work := _ }) d.awake)
    · exact outstanding_pollWorker (h := h.leaveOut place)
        (d.reason.imp_right fun r => r.unused) d.orderly.current_isSome active

/-- So its turns in a run are bounded by what was left to do. -/
theorem Departing.workersTurns_add_outstanding_le (d : Departing h) {run : List Episode}
    (course : ∀ e ∈ run, e.isCourse = true) :
    h.workersTurns run + (h.through run).work.outstanding ≤ h.work.outstanding :=
  workersTurns_add_le (P := Departing)
    (fun e mem _ d => ⟨d.undergo e, d.outstanding_undergo (course e mem)⟩) d

/-! ## It stops -/

/-- With somebody's place among the ready goes a turn. -/
theorem exists_turn_of_active (ready : .worker ∈ h.loop.ready)
    (active : h.work.worker.isActive = true) : ∃ place, h.isWorkersTurn (.turn place) = true := by
  obtain ⟨place, found⟩ := List.mem_iff_getElem?.1 ready
  exact ⟨place, by rw [isWorkersTurn, found, active]; rfl⟩

/-- When nobody is ready, the worker has a turn after some time, or after its gate was opened. -/
theorem Underway.exists_turn (u : Underway h) (o : Orderly h) (still : h.loop.ready = [])
    (alive : h.work.isStopped = false) (awake : h.work.worker ≠ .parked) :
    ∃ e place, e.isCourse = true ∧ (h.undergo e).isWorkersTurn (.turn place) = true := by
  have asleep : h.work.worker = .looking ∨ h.work.worker = .ended → False := fun looks => by
    have ready := o.attended.awake looks
    rw [still] at ready
    cases ready
  cases worker : h.work.worker with
  | looking => exact (asleep (.inl worker)).elim
  | ended => exact (asleep (.inr worker)).elim
  | parked => exact absurd worker awake
  | stopped => cases alive.symm.trans (isStopped_iff.2 worker)
  | running rest =>
    obtain ⟨due, set⟩ := (u.running rest worker).resolve_left (by rw [still]; exact nofun)
    have passed : h.undergo (.pass due) = Live.moveTo (h.loop.now + due) h := by
      unfold Home.undergo
      dsimp only
      rw [if_pos still]
    have ready : .worker ∈ (h.undergo (.pass due)).loop.ready := by
      rw [passed]
      exact EventLoop.mem_ready_moveTo.2 (.inr ⟨due, Nat.le_add_left .., set⟩)
    have active : (h.undergo (.pass due)).work.worker.isActive = true := by
      rw [passed]
      exact congrArg Work.Worker.isActive worker
    obtain ⟨place, turn⟩ := exists_turn_of_active ready active
    exact ⟨.pass due, place, rfl, turn⟩
  | atGate gate rest =>
    have opened : h.undergo (.command (.release gate) rfl) = { h with
        openGates := gate :: h.openGates
        work := { h.work with worker := .running rest }
        loop := h.loop.wake .worker } := by
      change h.release gate = _
      unfold Home.release
      dsimp only
      rw [worker]
      exact if_pos rfl
    have ready : .worker ∈ (h.undergo (.command (.release gate) rfl)).loop.ready := by
      rw [opened]
      exact List.mem_append_right _ (List.mem_singleton_self _)
    have active : (h.undergo (.command (.release gate) rfl)).work.worker.isActive = true := by
      rw [opened]
      rfl
    obtain ⟨place, turn⟩ := exists_turn_of_active ready active
    exact ⟨.command (.release gate) rfl, place, rfl, turn⟩

/-- By turns alone, a run comes to where nobody is ready. -/
theorem Orderly.exists_still (o : Orderly h) : ∃ turns : List Episode,
    (∀ e ∈ turns, e.isCourse = true) ∧ (h.through turns).loop.ready = [] := by
  obtain ⟨⟨-, turns, quiet, settled⟩, still, -⟩ :=
    (idles_lasting h).settle ⟨o.toTimely, [], nofun, rfl⟩
  exact ⟨turns, fun e mem => by rw [Episode.isCourse, quiet e mem], settled ▸ still⟩

/-- **A worker that departs stops**, if everybody has turns, time passes and the gates that it waits
for are opened. -/
theorem Departing.exists_stops (d : Departing h) :
    ∃ run : List Episode, (∀ e ∈ run, e.isCourse = true) ∧
      (h.through run).work.isStopped = true := by
  -- Every round of turns, waiting and one turn of the worker leaves it with less to do.
  induction left : h.work.outstanding using Nat.strong_induction_on generalizing h with
  | _ outstanding ih =>
    obtain ⟨turns, course, still⟩ := d.orderly.exists_still
    cases stops : (h.through turns).work.isStopped with
    | true => exact ⟨turns, course, stops⟩
    | false =>
      have later := d.through turns
      obtain ⟨e, place, ok, turn⟩ :=
        later.underway.exists_turn later.orderly still stops later.awake
      have round : ∀ f ∈ [e, .turn place], f.isCourse = true := fun f mem => by
        rcases List.mem_cons.1 mem with rfl | mem
        · exact ok
        · rw [List.mem_singleton.1 mem]
          rfl
      have before := d.workersTurns_add_outstanding_le course
      have waited := later.workersTurns_add_outstanding_le round
      rw [workersTurns, workersTurns, turn, if_pos rfl] at waited
      have less : ((h.through turns).through [e, .turn place]).work.outstanding < outstanding := by
        omega
      obtain ⟨more, rest, ends⟩ := ih _ less (later.through _) rfl
      refine ⟨turns ++ ([e, .turn place] ++ more), fun f mem => ?_, ?_⟩
      · rcases List.mem_append.1 mem with first | mem
        · exact course f first
        · exact (List.mem_append.1 mem).elim (round f) (rest f)
      · rw [through_append, through_append]
        exact ends

/-- In a run in which the worker stops there is one episode in which it does. -/
theorem exists_stopping_episode {run : List Episode} (alive : h.work.isStopped = false)
    (stopped : (h.through run).work.isStopped = true) :
    ∃ before e after, run = before ++ e :: after ∧
      (h.through before).work.isStopped = false ∧
      ((h.through before).undergo e).work.isStopped = true := by
  induction run generalizing h with
  | nil => cases alive.symm.trans stopped
  | cons first more ih =>
    cases now : (h.undergo first).work.isStopped with
    | true => exact ⟨[], first, more, rfl, alive, now⟩
    | false =>
      obtain ⟨before, e, after, rfl, still, stops⟩ := ih now stopped
      exact ⟨first :: before, e, after, rfl, still, stops⟩

end Home
end HomeMedia
