import HomeMedia.Proofs.Work.Attending
import HomeMedia.Proofs.Work.Order
/-!
# The worker stops when it is asked to, and not before its work is done

A call that asks the worker to stop marks the queue, wakes the worker and waits. The worker stops
only when it looks at the queue, and if it was asked to, only when it finds the queue empty, since a
call that waits keeps the queue in use (`look_of_asked`). Tasks run one by one and in order, so by
then all tasks that were ever added have ended, those included that other tasks added meanwhile.
When the worker has stopped, tasks can only be added and cancelled (`Ledger.Closed.step`).

That the worker stops at all, and that calls return, needs that nobody who can go on is forgotten
(`Proofs/Work/Attending.lean`). An orderly run keeps this, and the order of the tasks: `Orderly`.
The main result is `stops_when_asked`.
-/

namespace HomeMedia

/-- Cancelling by the number of a task that waits reaches it, if it may be cancelled. -/
theorem Work.invalidate_of_mem_list (w : Work) {v : Task.View} (listed : v ∈ w.list)
    (cancellable : v.cancellable = true) (valid : v.valid = true) :
    (w.invalidate v.id).1 ≠ 0 ∧ { v with valid := false } ∈ (w.invalidate v.id).2.list := by
  obtain ⟨e, mem, rfl⟩ := List.mem_map.1 listed
  have hit : e.isHit e.id = true := by
    have may : e.cancellable = true := cancellable
    have unset : e.valid = true := valid
    simp [Entry.isHit, may, unset]
  constructor
  · exact Nat.ne_of_gt (List.length_pos_of_mem
      (List.mem_filter.2 ⟨List.mem_append_right _ mem, hit⟩))
  · refine List.mem_map.2 ⟨e.hit e.id, List.mem_map_of_mem mem, ?_⟩
    rw [Entry.hit, if_pos hit]
    rfl

namespace Ledger

variable {l m : Ledger}

/-! ## What changes of a ledger can do about stopping -/

/-- Nobody takes back that the worker is to stop. -/
theorem Step.stopping (change : Step l m) (asked : l.work.stopping = true) :
    m.work.stopping = true := by
  cases change with
  | askStop index state => rfl
  | notify =>
    rw [Work.notify_eq]
    exact asked
  | _ => exact asked

/-- What is left of a ledger when the worker has stopped. -/
structure Closed (started waiting : List Task.Tag) (l : Ledger) : Prop where
  /-- The worker has stopped. -/
  stopped : l.work.worker = .stopped
  /-- No other tasks were started. -/
  started : l.started = started
  /-- The tasks that waited still wait, in front of others. -/
  waiting : waiting <+: l.work.waitingTags

/-- **Once the worker has stopped, tasks can only be added and cancelled.** -/
theorem Closed.step {started waiting : List Task.Tag} (closed : Closed started waiting l)
    (change : Step l m) : Closed started waiting m := by
  obtain ⟨stopped, rfl, kept⟩ := closed
  have idle : l.work.worker.isBusy = false := stopped ▸ rfl
  cases change with
  | add task parent =>
    refine ⟨stopped, Event.filterMap_concat_of_none rfl _, ?_⟩
    rw [Work.waitingTags_enqueue]
    exact kept.trans (List.prefix_append ..)
  | notify =>
    have worker : l.work.notify.2.worker = .stopped := by
      unfold Work.notify
      rw [stopped]
    refine ⟨worker, rfl, ?_⟩
    rw [Work.notify_eq]
    exact kept
  | invalidate id =>
    refine ⟨stopped, Event.filterMap_append_cancellings (fun _ _ => rfl) .., ?_⟩
    rw [Work.waitingTags_invalidate]
    exact kept
  | interrupt => exact ⟨stopped, rfl, kept⟩
  | call => exact ⟨stopped, rfl, kept⟩
  | askStop index state => exact ⟨stopped, rfl, kept⟩
  | take looking => cases stopped.symm.trans looking
  | goOn busy => cases idle.symm.trans busy
  | await busy => cases idle.symm.trans busy
  | finish busy => cases idle.symm.trans busy
  | putAway ended => cases stopped.symm.trans ended
  | lookAgain looking => cases stopped.symm.trans looking
  | park looking => cases stopped.symm.trans looking
  | stop looking => cases stopped.symm.trans looking

/-- A worker that was asked to stop stays asked. -/
theorem stopping_of_steps (changes : Steps l m) (asked : l.work.stopping = true) :
    m.work.stopping = true := by
  induction changes with
  | refl => exact asked
  | tail _ change ih => exact change.stopping ih

/-- **A ledger that is closed stays closed.** -/
theorem Closed.steps {started waiting : List Task.Tag} (closed : Closed started waiting l)
    (changes : Steps l m) : Closed started waiting m := by
  induction changes with
  | refl => exact closed
  | tail _ change ih => exact ih.step change

end Ledger

/-- Waking a worker does not stop it, nor bring it back. -/
theorem Work.isStopped_notify (w : Work) : w.notify.2.isStopped = w.isStopped := by
  unfold notify
  split
  · rename_i parked
    exact (isStopped_of_ne (parked ▸ nofun)).symm
  · rfl

namespace Home

open Deed (Label)
open Ledger (Steps)
open HomeMedia.Work (isStopped_iff isStopped_of_ne isStopped_of_busy)

variable {h g : Home}

/-- A run changes the ledger step by step. -/
theorem through_steps (h : Home) (episodes : List Episode) :
    Steps h.ledger (h.through episodes).ledger :=
  through_keeps (P := fun g => Steps h.ledger g.ledger)
    (fun e _ _ steps => undergo_keeps (P := fun g => Steps h.ledger g.ledger)
      (fun _ _ steps => steps) (fun _ _ _ deed steps => steps.trans deed.ledger_steps) steps e)
    .refl

/-! ## The moment at which the worker stops -/

section Woken

variable {α : Type} {f : Work → α}

/-- Letting go leaves alone what a wake-up leaves alone. -/
theorem letGo_keeps {release : Home → Home} (woken : f h.work.notify.2 = f h.work)
    (same : (release h).work = h.work) : f (h.letGo release).work = f h.work := by
  rcases letGo_cases release h with lost | kept
  · rw [lost]
    change f (release h).work.notify.2 = f h.work
    rw [same, woken]
  · rw [kept, same]

/-- A fetch that is added leaves alone what other tasks and a wake-up leave alone. -/
theorem refreshNow_keeps (woken : ∀ task, f (h.work.enqueue task none).2.notify.2 = f h.work) :
    f (h.refreshNow false).2.work = f h.work := by
  change f (h.disarm.work.enqueue _ none).2.notify.2 = f h.work
  rw [work_disarm, woken]

end Woken

/-- **Only a look at the queue stops the worker.** -/
theorem Deed.isStopped {label : Label} (deed : Deed label h g) (other : label ≠ .look) :
    g.work.isStopped = h.work.isStopped := by
  cases deed with
  | aside aside => rw [aside.aloof.work]
  | addTask h task parent => exact Work.isStopped_notify _
  | spawn h task parent planned => exact Work.isStopped_notify _
  | invalidate h id =>
    obtain ⟨events, -, cancelled⟩ := exists_invalidate id h
    rw [cancelled]
    rfl
  | requestStop h => rfl
  | call h index => exact Work.isStopped_notify _
  | dropWork h => exact letGo_keeps (Work.isStopped_notify _) rfl
  | dropSchedule h => exact letGo_keeps (Work.isStopped_notify _) rfl
  | release h gate =>
    rcases release_cases gate h with ⟨rest, waits, woken⟩ | opened
    · rw [woken, isStopped_of_busy (w := h.work) (waits ▸ rfl)]
      rfl
    · rw [opened]
  | look h looking => exact absurd rfl other
  | putAway h ended => exact (isStopped_of_ne (ended ▸ nofun)).symm
  | goOn h rest busy planned => exact (isStopped_of_busy busy).symm
  | sleep h ms rest busy planned later => exact (isStopped_of_busy busy).symm
  | await h gate rest busy planned => exact (isStopped_of_busy busy).symm
  | interrupt h => rfl
  | finish h outcome busy =>
    rcases finish_cases outcome h with ⟨-, same⟩ | ⟨e, armed, -, -, ended⟩
    · rw [same]
    · rw [ended, isStopped_of_busy busy]
      rfl
  | start h => exact congrArg Work.isStopped (work_arm _)
  | stop h => exact congrArg Work.isStopped (work_disarm _)
  | refresh h => exact refreshNow_keeps fun _ => Work.isStopped_notify _
  | tick h armed => exact refreshNow_keeps fun _ => Work.isStopped_notify _

/-- Only a look at the queue stops the worker. -/
theorem Deeds.isStopped {permits : Label → Prop} (deeds : Deeds permits h g)
    (other : ¬ permits .look) : g.work.isStopped = h.work.isStopped :=
  deeds.keep (P := fun g => g.work.isStopped = h.work.isStopped)
    (fun _ _ _ ok deed same => (deed.isStopped fun look => other (look ▸ ok)).trans same) rfl

/-- **In an episode the worker looks at the queue, or nobody does.** -/
theorem look_or_deeds (h : Home) (e : Episode) :
    (∃ place, h.work.worker = .looking ∧ h.undergo e = (h.leaveOut place).look) ∨
      ∃ loop permits, ¬ permits .look ∧ Deeds permits { h with loop } (h.undergo e) := by
  cases e with
  | command command atOnce =>
    have other : ¬ command.Permits .look := fun time => nomatch atOnce.symm.trans time
    exact .inr ⟨h.loop, command.Permits, other, act_deeds atOnce h⟩
  | pass ms =>
    unfold undergo
    dsimp only
    split
    · exact .inr ⟨_, fun _ => False, id, .refl⟩
    · exact .inr ⟨h.loop, fun _ => False, id, .refl⟩
  | turn place =>
    unfold undergo
    dsimp only
    split
    · exact .inr ⟨h.loop, fun _ => False, id, .refl⟩
    · rename_i agent ready
      cases agent with
      | pulse id =>
        refine .inr ⟨_, (Agent.pulse id).Permits, fun look => ?_, poll_deeds _ (h.leaveOut place)⟩
        rcases look with look | look | look <;> cases look
      | call index => exact .inr ⟨_, (Agent.call index).Permits, nofun, poll_deeds _ _⟩
      | worker =>
        by_cases looking : h.work.worker = .looking
        · exact .inl ⟨place, looking, poll_worker_of_looking (h := h.leaveOut place) looking⟩
        · have deeds : Deeds (Eq Label.own) (h.leaveOut place) (h.leaveOut place).pollWorker :=
            pollWorker_deeds rfl fun now => absurd now looking
          exact .inr ⟨_, _, nofun, deeds⟩

/-- **The worker stops when it looks at the queue in its turn.** -/
theorem exists_look_of_stops {e : Episode} (alive : h.work.isStopped = false)
    (stopped : (h.undergo e).work.isStopped = true) :
    ∃ place, h.work.worker = .looking ∧ h.undergo e = (h.leaveOut place).look := by
  refine (look_or_deeds h e).resolve_right fun ⟨_, _, other, deeds⟩ => ?_
  cases alive.symm.trans ((deeds.isStopped other).symm.trans stopped)

/-- **When the worker was asked to stop it does so only if no task waits.** -/
theorem look_of_asked (calling : Calling h.work h.loop) (asked : h.work.stopping = true)
    (looking : h.work.worker = .looking) (stopped : h.look.work.isStopped = true) :
    h.work.queue = [] ∧ h.look = { h with work := h.work.stop } := by
  have alive : h.work.isStopped = false := isStopped_of_ne (looking ▸ nofun)
  have inUse : h.usesWork = true := by
    have held : h.work.hasOpenCall = true :=
      List.any_eq_true.2 ⟨.waiting, calling.asked asked alive, rfl⟩
    rw [usesWork, held, Bool.or_true]
  have looked := h.looked
  generalize h.look = g at looked stopped ⊢
  cases looked with
  | abandon unused => cases inUse.symm.trans unused
  | stop empty => exact ⟨empty, rfl⟩
  | take => cases stopped
  | again empty free => cases asked.symm.trans free
  | park => cases stopped

/-! ## Runs -/

/-- A worker that has stopped is not busy. -/
theorem not_busy_of_stopped {w : Work} (stopped : w.isStopped = true) : w.worker.isBusy = false :=
  Bool.eq_false_iff.2 fun busy => nomatch (isStopped_of_busy busy).symm.trans stopped

/-- What an orderly run keeps of the queue. -/
structure Orderly (h : Home) : Prop extends Timely h where
  /-- Tasks run in the order in which they were added. -/
  ordered : h.ledger.Ordered
  /-- Nobody who can go on is forgotten. -/
  attended : Attended h.work h.loop

namespace Orderly

/-- An episode leaves the queue orderly. -/
theorem undergo (o : Orderly h) (e : Episode) : Orderly (h.undergo e) where
  toTimely := o.toTimely.undergo e
  ordered := o.ordered.steps (through_steps h [e])
  attended := o.attended.undergo e

/-- So does a run. -/
theorem through (o : Orderly h) (run : List Episode) : Orderly (h.through run) :=
  through_keeps (fun e _ _ o => o.undergo e) o

/-- Settling is a part of an orderly run, after which nobody is ready. -/
theorem exists_settle (o : Orderly h) :
    ∃ episodes, Live.settle h = h.through episodes ∧ (h.through episodes).loop.ready = [] := by
  obtain ⟨⟨-, episodes, -, settled⟩, still, -⟩ :=
    (idles_lasting h).settle ⟨o.toTimely, [], nofun, rfl⟩
  exact ⟨episodes, settled, settled ▸ still⟩

/-- While the worker is not busy, all tasks that were started have ended. -/
theorem ended_of_not_busy (o : Orderly h) (idle : h.work.worker.isBusy = false) :
    h.log.filterMap Event.ended? = (h.log.filterMap Event.started?).map Task.Tag.id := by
  have finished := o.ordered.finished
  rwa [Ledger.Ordered.past_of_not_busy idle, ended_ledger, started_ledger] at finished

/-- The tasks that were added were started, or still wait. -/
theorem queued_eq (o : Orderly h) : h.log.filterMap Event.queued? =
    h.log.filterMap Event.started? ++ h.work.list.map Task.View.tag := by
  have waiting := o.ordered.waiting
  rwa [queued_ledger, started_ledger, ← Work.list_map_tag] at waiting

/-- **When the worker stops because it was asked to**, no task waits and all tasks have ended. -/
theorem all_ended_of_stops (o : Orderly h) (asked : h.work.stopping = true)
    (alive : h.work.isStopped = false) {e : Episode}
    (stopped : (h.undergo e).work.isStopped = true) :
    (h.undergo e).work.list = [] ∧
      (h.undergo e).log.filterMap Event.started? = (h.undergo e).log.filterMap Event.queued? ∧
      (h.undergo e).log.filterMap Event.ended? =
        ((h.undergo e).log.filterMap Event.queued?).map Task.Tag.id := by
  obtain ⟨place, looking, same⟩ := exists_look_of_stops alive stopped
  have after := o.undergo e
  have none : (h.undergo e).work.list = [] := by
    rw [same] at stopped ⊢
    obtain ⟨empty, looked⟩ := look_of_asked (calling_leaveOut o.attended.calling place) asked
      looking stopped
    rw [looked]
    exact List.map_eq_nil_iff.2 empty
  have all := after.queued_eq
  rw [none, List.map_nil, List.append_nil] at all
  exact ⟨none, all.symm, all ▸ after.ended_of_not_busy (not_busy_of_stopped stopped)⟩

/-- When the worker has stopped and nobody is ready, all calls have returned. -/
theorem returned_of_still (o : Orderly h) (stopped : h.work.isStopped = true)
    (still : h.loop.ready = []) : ∀ call ∈ h.work.calls, call = .returned := by
  intro call mem
  cases call with
  | returned => rfl
  | waiting => cases stopped.symm.trans (o.attended.calling.waiting mem).2
  | requested => exact absurd mem (o.attended.requested_not_mem still)

/-- **No wake-up is lost**: when nobody is ready and the worker is idle, it has nothing to do. -/
theorem nothing_to_do (o : Orderly h) (still : h.loop.ready = [])
    (alive : h.work.isStopped = false) (idle : h.work.worker.isBusy = false) :
    h.work.queue = [] ∧ h.work.stopping = false ∧ h.work.calls = [] := by
  have asleep : h.work.worker ≠ .looking ∧ h.work.worker ≠ .ended := by
    refine not_or.1 fun looks => ?_
    have ready := o.attended.awake looks
    rw [still] at ready
    cases ready
  have parked : h.work.worker = .parked := by
    cases worker : h.work.worker with
    | parked => rfl
    | looking => exact absurd worker asleep.1
    | ended => exact absurd worker asleep.2
    | running rest =>
      rw [worker] at idle
      cases idle
    | atGate gate rest =>
      rw [worker] at idle
      cases idle
    | stopped => cases alive.symm.trans (isStopped_iff.2 worker)
  obtain ⟨empty, free⟩ := o.attended.parked parked
  refine ⟨empty, free, List.eq_nil_iff_forall_not_mem.2 fun call mem => ?_⟩
  cases call with
  | requested => exact absurd mem (o.attended.requested_not_mem still)
  | waiting => cases free.symm.trans (o.attended.calling.waiting mem).1
  | returned => cases alive.symm.trans (o.attended.calling.returned mem)

end Orderly

/-- A task that waits can be cancelled if it may be, and keeps its place. -/
theorem invalidate_of_mem_list {v : Task.View} (listed : v ∈ h.work.list)
    (cancellable : v.cancellable = true) (valid : v.valid = true) :
    (h.invalidate v.id).1 = true ∧
      { v with valid := false } ∈ (h.invalidate v.id).2.work.list := by
  obtain ⟨some, hit⟩ := h.work.invalidate_of_mem_list listed cancellable valid
  unfold Home.invalidate
  dsimp only
  rw [if_neg some]
  exact ⟨rfl, hit⟩

/-- A server with a new queue, whose worker is about to start, over a new timer of either kind. -/
def launched (h : Home) (keepsTime : Bool) : Home :=
  { h with
    loop := { now := h.loop.now, ready := [.worker] }
    timer := newTimer keepsTime
    work := {}
    log := [] }

/-- After the launch the queue is orderly. -/
theorem launched_orderly (h : Home) (keepsTime : Bool) : Orderly (h.launched keepsTime) where
  paced := by cases keepsTime <;> exact ⟨⟨List.nodup_nil, nofun⟩, nofun⟩
  ahead := nofun
  ordered := ordered_new h
  attended := {
    calling := {
      made := fun _ hi => nomatch List.mem_singleton.1 hi
      timeless := nofun
      waiting := nofun
      returned := nofun
      asked := nofun }
    requested := nofun
    awake := fun _ => List.mem_singleton_self _
    parked := nofun }

/-- **The worker stops when it is asked to, and not before its work is done.**  In an orderly run of
a server that begins with a new queue, whoever adds tasks and asks the worker to stop, and whenever:

* once the worker was asked to stop, that is never taken back;
* when a call that asked has returned, the worker has stopped and all tasks that were started have
  ended;
* when the worker stops after it was asked to, no task waits, and all tasks that were ever added
  were started and have ended;
* from then on no task is started, those that wait keep their places and others wait behind them,
  the calls that waited have returned, others return as soon as they have had their turn, and a task
  that waits can still be cancelled;
* letting everybody have turns comes to an end, and when nobody is ready and the worker has not
  stopped and is not busy, no task waits and nobody has asked it to stop.

Commands that wait, settling among them, make orderly runs (`exists_through_runs`). -/
theorem stops_when_asked (h₀ : Home) (keepsTime : Bool) (run : List Episode) :
    let queued := fun g : Home => g.log.filterMap Event.queued?
    let started := fun g : Home => g.log.filterMap Event.started?
    let ended := fun g : Home => g.log.filterMap Event.ended?
    let h := (h₀.launched keepsTime).through run
    (h.work.stopping = true → ∀ more, (h.through more).work.stopping = true) ∧
    (.returned ∈ h.work.calls →
      h.work.isStopped = true ∧ ended h = (started h).map Task.Tag.id) ∧
    (h.work.stopping = true → h.work.isStopped = false →
      ∀ e, (h.undergo e).work.isStopped = true →
        (h.undergo e).work.list = [] ∧ started (h.undergo e) = queued (h.undergo e) ∧
          ended (h.undergo e) = (queued (h.undergo e)).map Task.Tag.id) ∧
    (h.work.isStopped = true → ∀ more, let g := h.through more
      g.work.isStopped = true ∧ started g = started h ∧
      h.work.list.map Task.View.tag <+: g.work.list.map Task.View.tag ∧
      queued g = started g ++ g.work.list.map Task.View.tag ∧
      .waiting ∉ g.work.calls ∧ (∀ call ∈ (Live.settle g).work.calls, call = .returned) ∧
      ∀ v ∈ g.work.list, v.cancellable = true → v.valid = true →
        (g.invalidate v.id).1 = true ∧
          { v with valid := false } ∈ (g.invalidate v.id).2.work.list) ∧
    (Live.settle h).loop.ready = [] ∧
    (h.loop.ready = [] → h.work.isStopped = false → h.work.worker.isBusy = false →
      h.work.queue = [] ∧ h.work.stopping = false ∧ h.work.calls = []) := by
  intro queued started ended h
  have o : Orderly h := (launched_orderly h₀ keepsTime).through run
  refine ⟨fun asked more => Ledger.stopping_of_steps (through_steps h more) asked,
    fun returned => ?_, fun asked alive e stopped => o.all_ended_of_stops asked alive stopped,
    fun stopped more => ?_, ?_, fun still alive idle => o.nothing_to_do still alive idle⟩
  · have stopped := o.attended.calling.returned returned
    exact ⟨stopped, o.ended_of_not_busy (not_busy_of_stopped stopped)⟩
  · have closed : Ledger.Closed h.ledger.started h.work.waitingTags h.ledger :=
      ⟨isStopped_iff.1 stopped, rfl, List.prefix_refl _⟩
    have after := closed.steps (through_steps h more)
    have og := o.through more
    have gone : (h.through more).work.isStopped = true := isStopped_iff.2 after.stopped
    refine ⟨gone, ?_, ?_, og.queued_eq, fun waits => ?_, ?_, fun v => invalidate_of_mem_list⟩
    · have same := after.started
      rwa [started_ledger, started_ledger] at same
    · rw [Work.list_map_tag, Work.list_map_tag]
      exact after.waiting
    · cases gone.symm.trans (og.attended.calling.waiting waits).2
    · obtain ⟨episodes, settled, still⟩ := og.exists_settle
      rw [settled]
      have later := after.steps (through_steps (h.through more) episodes)
      exact (og.through episodes).returned_of_still (isStopped_iff.2 later.stopped) still
  · obtain ⟨episodes, settled, still⟩ := o.exists_settle
    exact settled ▸ still

/-- A task that will add another one is added, the worker is asked to stop, and everybody has turns
until the worker is about to look at the queue for the last time. -/
def retiring : List Episode :=
  let errand : Task :=
    { kind := .generic, description := "", cancellable := true, scheduled := false, body := [] }
  [.command (.addTask { errand with body := [.add errand.toHeader []] } none) rfl,
    .command .requestStop rfl, .turn 1] ++ List.replicate 7 (.turn 0)

/-- Both tasks have ended when the worker stops. -/
theorem stops_when_asked_retiring :
    let h := (launched {} true).through retiring
    h.work.stopping = true ∧ h.work.isStopped = false ∧
      (h.undergo (.turn 0)).work.isStopped = true ∧
      (h.undergo (.turn 0)).log.filterMap Event.ended? = [1, 2] := by
  intro h
  have asked : h.work.stopping = true := by decide +kernel
  have alive : h.work.isStopped = false := by decide +kernel
  have stops : (h.undergo (.turn 0)).work.isStopped = true := by decide +kernel
  have two : ((h.undergo (.turn 0)).log.filterMap Event.queued?).map Task.Tag.id = [1, 2] := by
    decide +kernel
  have all := (stops_when_asked {} true retiring).2.2.1 asked alive (.turn 0) stops
  exact ⟨asked, alive, stops, all.2.2.trans two⟩

end Home
end HomeMedia
