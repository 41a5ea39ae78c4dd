import HomeMedia.Proofs.Home.Episodes
/-!
# Nobody who can go on is forgotten

Whoever waits for the worker of the queue, and the worker itself, has to be woken up by somebody
else. A wake-up would be lost if the worker waited while there is a task for it or while it was
asked to stop, or if a call had asked it to stop and was neither ready nor waiting for that.
*Attended* says that this is not so: a call that has not had its turn is ready, the worker is ready
when it has to look at the queue, and if it waits there is nothing to do for it (`Attended`). It
also says what the calls have come to (`Calling`): a call that waits has asked the worker to stop,
one that has returned found that it has stopped, and as long as the worker is to stop one of them
waits, so the queue stays in use until then.

Everything but the turn of a call is made of deeds that leave nobody behind (`Deed.attended`). In
the turn of the worker, or of a call, its own place among the ready is used up, so what it does is
looked at as a whole (`look_attended`, `putAway_attended`, `pollCall_attended`). From that every
episode of an orderly run leaves nobody behind: `Attended.undergo`.
-/

namespace HomeMedia

namespace Work

variable {w : Work}

/-- The queue is stopped when its worker is. -/
theorem isStopped_iff : w.isStopped = true ↔ w.worker = .stopped := by
  unfold isStopped
  split
  · exact iff_of_true rfl ‹_›
  · exact iff_of_false nofun ‹_›

/-- A worker that does anything else has not stopped. -/
theorem isStopped_of_ne (other : w.worker ≠ .stopped) : w.isStopped = false :=
  Bool.eq_false_iff.2 fun stopped => other (isStopped_iff.1 stopped)

/-- A worker that is busy has not stopped. -/
theorem isStopped_of_busy (busy : w.worker.isBusy = true) : w.isStopped = false :=
  isStopped_of_ne fun stopped => by
    rw [stopped] at busy
    cases busy

end Work

namespace Home

open Deed (Label)
open HomeMedia.Work (isStopped_iff isStopped_of_ne isStopped_of_busy)

variable {h g : Home}

/-- What the calls that ask the worker to stop have come to. -/
structure Calling (w : Work) (l : EventLoop Agent) : Prop where
  /-- Only calls that were made are ready. -/
  made : ∀ i, Agent.call i ∈ l.ready → i < w.calls.length
  /-- No call waits for a time. -/
  timeless : ∀ a ∈ l.alarms, ∀ i, a.agent ≠ .call i
  /-- Calls that wait have asked the worker to stop, and it has not stopped yet. -/
  waiting : .waiting ∈ w.calls → w.stopping = true ∧ w.isStopped = false
  /-- Calls return when the worker has stopped. -/
  returned : .returned ∈ w.calls → w.isStopped = true
  /-- While the worker is to stop, a call waits for that. -/
  asked : w.stopping = true → w.isStopped = false → .waiting ∈ w.calls

/-- A call that has not had its turn yet is ready. -/
def Requested (w : Work) (l : EventLoop Agent) : Prop :=
  ∀ i, w.calls[i]? = some .requested → .call i ∈ l.ready

/-- Nobody who can go on is forgotten. -/
structure Attended (w : Work) (l : EventLoop Agent) : Prop where
  /-- What the calls have come to. -/
  calling : Calling w l
  /-- A call that has not had its turn yet is ready. -/
  requested : Requested w l
  /-- The worker is ready when it has to look. -/
  awake : w.worker = .looking ∨ w.worker = .ended → .worker ∈ l.ready
  /-- The worker waits only if there is nothing to do for it. -/
  parked : w.worker = .parked → w.queue = [] ∧ w.stopping = false

variable {w v : Work} {l m : EventLoop Agent}

/-- The calls are as before, and none of them has become ready. -/
theorem Calling.of_same (k : Calling w l) (calls : v.calls = w.calls)
    (stopping : v.stopping = w.stopping) (stopped : v.isStopped = w.isStopped)
    (ready : ∀ i, Agent.call i ∈ m.ready → .call i ∈ l.ready)
    (alarms : ∀ a ∈ m.alarms, a ∈ l.alarms ∨ ∀ i, a.agent ≠ .call i) : Calling v m where
  made i hi := calls ▸ k.made i (ready i hi)
  timeless a ha := (alarms a ha).elim (k.timeless a) fun other => other
  waiting waits := by
    rw [stopping, stopped]
    exact k.waiting (calls ▸ waits)
  returned returned := by
    rw [stopped]
    exact k.returned (calls ▸ returned)
  asked asked alive := by
    rw [calls]
    exact k.asked (stopping ▸ asked) (stopped ▸ alive)

/-- What the calls have come to does not depend on the tasks. -/
theorem Calling.withWork (k : Calling w l) (calls : v.calls = w.calls)
    (stopping : v.stopping = w.stopping) (stopped : v.isStopped = w.isStopped) : Calling v l :=
  k.of_same calls stopping stopped (fun _ hi => hi) fun _ ha => .inl ha

/-- Waking the worker leaves the calls. -/
theorem Calling.wake (k : Calling w l) (calls : v.calls = w.calls)
    (stopping : v.stopping = w.stopping) (stopped : v.isStopped = w.isStopped) :
    Calling v (l.wake .worker) :=
  k.of_same calls stopping stopped
    (fun _ hi => (List.mem_append.1 hi).resolve_right fun new => nomatch List.mem_singleton.1 new)
    fun _ ha => .inl ha

/-- So does letting it go on. -/
theorem Calling.goOn (k : Calling w l) (calls : v.calls = w.calls)
    (stopping : v.stopping = w.stopping) (stopped : v.isStopped = w.isStopped) :
    Calling v (l.goOn .worker) :=
  k.of_same calls stopping stopped (fun _ hi => (List.mem_cons.1 hi).resolve_left nofun)
    fun _ ha => .inl ha

/-- **Waking the worker** is right whatever there is to do. -/
theorem wakeWorker_attended (calling : Calling h.work h.loop) (requested : Requested h.work h.loop)
    (awake : h.work.worker = .looking ∨ h.work.worker = .ended → .worker ∈ h.loop.ready) :
    Attended h.wakeWorker.work h.wakeWorker.loop := by
  rcases wakeWorker_cases h with ⟨parked, woken⟩ | ⟨other, kept⟩
  · have alive : h.work.isStopped = false := isStopped_of_ne (parked ▸ nofun)
    rw [woken]
    exact {
      calling := calling.wake rfl rfl alive.symm
      requested := fun i hi => List.mem_append_left _ (requested i hi)
      awake := fun _ => List.mem_append_right _ (List.mem_singleton_self _)
      parked := nofun }
  · rw [kept]
    exact {
      calling := calling.withWork rfl rfl rfl
      requested := requested
      awake := awake
      parked := fun parked => absurd parked other }

namespace Attended

/-- Waking the worker leaves nobody forgotten. -/
theorem wakeWorker (a : Attended h.work h.loop) :
    Attended h.wakeWorker.work h.wakeWorker.loop :=
  wakeWorker_attended a.calling a.requested a.awake

/-- So does adding a task. -/
theorem addTask (a : Attended h.work h.loop) (task : Task) (parent : Option Task.Id) :
    Attended (h.addTask task parent).2.work (h.addTask task parent).2.loop :=
  wakeWorker_attended (h := ({ h with work := (h.work.enqueue task parent).2 } : Home).report _)
    (a.calling.withWork rfl rfl rfl) a.requested a.awake

/-- So does letting go: the worker is woken if nobody holds on. -/
theorem letGo {release : Home → Home} (released : Attended (release h).work (release h).loop) :
    Attended (h.letGo release).work (h.letGo release).loop := by
  rcases letGo_cases release h with woken | kept
  · exact woken ▸ released.wakeWorker
  · exact kept ▸ released

/-- The queue may change as long as tasks do not come and the calls and the worker stay. -/
theorem withWork (a : Attended w l) (calls : v.calls = w.calls)
    (stopping : v.stopping = w.stopping) (worker : v.worker = w.worker)
    (queue : w.queue = [] → v.queue = []) : Attended v l where
  calling := a.calling.withWork calls stopping (by rw [Work.isStopped, Work.isStopped, worker])
  requested i hi := a.requested i (calls ▸ hi)
  awake looks := a.awake (worker ▸ looks)
  parked rests := (a.parked (worker ▸ rests)).imp queue fun none => stopping.trans none

/-- When nobody is ready, all calls have had their turn. -/
theorem requested_not_mem (a : Attended w l) (still : l.ready = []) : .requested ∉ w.calls := by
  intro mem
  obtain ⟨i, hi⟩ := List.mem_iff_getElem?.1 mem
  have ready := a.requested i hi
  rw [still] at ready
  cases ready

/-- Pulses may become ready or set alarms. -/
theorem of_others (a : Attended h.work h.loop) (work : g.work = h.work)
    (ready : g.othersReady = h.othersReady) (alarms : g.othersAlarms = h.othersAlarms) :
    Attended g.work g.loop := by
  have mem : ∀ agent : Agent, agent.isPulse = false →
      (agent ∈ g.loop.ready ↔ agent ∈ h.loop.ready) := by
    intro agent other
    have same : agent ∈ g.othersReady ↔ agent ∈ h.othersReady := by rw [ready]
    simpa [othersReady, other] using same
  rw [work]
  refine ⟨?_, fun i hi => (mem _ rfl).2 (a.requested i hi),
    fun looks => (mem _ rfl).2 (a.awake looks), a.parked⟩
  refine a.calling.of_same rfl rfl rfl (fun i hi => (mem _ rfl).1 hi) fun alarm ha => ?_
  cases pulse : alarm.agent.isPulse with
  | true =>
    refine .inr fun i call => ?_
    rw [call] at pulse
    cases pulse
  | false =>
    have mem : alarm ∈ g.othersAlarms := List.mem_filter.2 ⟨ha, by simp [pulse]⟩
    rw [alarms] at mem
    exact .inl (List.mem_filter.1 mem).1

/-- Arming the schedule leaves nobody forgotten. -/
theorem arm (a : Attended h.work h.loop) : Attended h.arm.work h.arm.loop := by
  rcases arm_cases h with same | ⟨s, nanos, -, -, -, -, armed⟩
  · exact same.symm ▸ a
  · have aloof := Aloof.subscribe .refresh nanos h
    exact armed ▸ a.of_others (g := (h.subscribe .refresh nanos).2) rfl aloof.ready aloof.alarms

/-- So does disarming it. -/
theorem disarm (a : Attended h.work h.loop) : Attended h.disarm.work h.disarm.loop := by
  rw [work_disarm, loop_disarm]
  exact a

/-- The worker is busy and goes on, now or later. -/
theorem busy (calling : Calling w l) (requested : Requested w l)
    (busy : w.worker.isBusy = true) : Attended w l where
  calling := calling
  requested := requested
  awake := by
    rintro (looks | ended)
    · rw [looks] at busy
      cases busy
    · rw [ended] at busy
      cases busy
  parked rests := by
    rw [rests] at busy
    cases busy

/-- The end of a task leaves nobody forgotten, as the worker goes on. -/
theorem finish (a : Attended h.work h.loop) (busy : h.work.worker.isBusy = true)
    (outcome : Except Task.Error Task.Outcome) :
    Attended (h.finish outcome).work (h.finish outcome).loop := by
  rcases finish_cases outcome h with ⟨-, same⟩ | ⟨e, armed, -, scheduled, ended⟩
  · exact same.symm ▸ a
  · have before : Attended h.work armed.loop := by
      rcases scheduled with ⟨-, rfl⟩ | ⟨-, rfl⟩
      · exact work_arm h ▸ a.arm
      · exact a
    rw [ended]
    exact {
      calling := before.calling.goOn rfl rfl (isStopped_of_busy busy).symm
      requested := fun i hi => List.mem_cons_of_mem _ (before.requested i hi)
      awake := fun _ => List.mem_cons_self ..
      parked := nofun }

end Attended

/-- When the worker stops, the calls that wait return, and others have not had their turn. -/
theorem Calling.stop (k : Calling w l) : Calling w.stop l where
  made i hi := by
    rw [Work.stop, List.length_map]
    exact k.made i hi
  timeless := k.timeless
  waiting waits := by
    obtain ⟨call, -, same⟩ := List.mem_map.1 waits
    split at same
    · cases same
    · exact absurd same ‹_›
  returned _ := rfl
  asked _ alive := nomatch alive

/-- That a call is ready does not depend on the worker's state. -/
theorem Requested.stop (requested : Requested w l) : Requested w.stop l := by
  intro i hi
  rw [Work.stop, List.getElem?_map] at hi
  obtain ⟨call, found, same⟩ := Option.map_eq_some_iff.1 hi
  split at same
  · cases same
  · exact requested i (same ▸ found)

/-- **The worker looks at the queue**, and waits only if it finds nothing. -/
theorem look_attended (calling : Calling h.work h.loop) (requested : Requested h.work h.loop)
    (looking : h.work.worker = .looking) : Attended h.look.work h.look.loop := by
  have alive : h.work.isStopped = false := isStopped_of_ne (looking ▸ nofun)
  have stops : Attended h.work.stop h.loop :=
    ⟨calling.stop, requested.stop, nofun, nofun⟩
  have looked := h.looked
  generalize h.look = g at looked ⊢
  cases looked with
  | abandon unused => exact stops
  | stop empty asked => exact stops
  | take inUse waiting =>
    exact .busy (calling.goOn rfl rfl alive.symm)
      (fun i hi => List.mem_cons_of_mem _ (requested i hi)) rfl
  | again empty free woken =>
    exact {
      calling := calling.goOn rfl rfl rfl
      requested := fun i hi => List.mem_cons_of_mem _ (requested i hi)
      awake := fun _ => List.mem_cons_self ..
      parked := fun parked => nomatch looking.symm.trans parked }
  | park empty free =>
    exact {
      calling := calling.withWork rfl rfl alive.symm
      requested := requested
      awake := nofun
      parked := fun _ => ⟨empty, free⟩ }

/-- A worker that puts its task away goes on, and nobody is forgotten. -/
theorem putAway_attended (calling : Calling h.work h.loop) (requested : Requested h.work h.loop)
    (ended : h.work.worker = .ended) : Attended h.putAway.work h.putAway.loop := by
  have alive : h.work.isStopped = false := isStopped_of_ne (ended ▸ nofun)
  exact {
    calling := calling.goOn rfl rfl alive.symm
    requested := fun i hi => List.mem_cons_of_mem _ (requested i hi)
    awake := fun _ => List.mem_cons_self ..
    parked := nofun }

/-- Another call is made, and will have its turn. -/
theorem Attended.requestStop (a : Attended h.work h.loop) :
    Attended h.requestStop.work h.requestStop.loop := by
  have old : ∀ {call : Work.Call}, call ≠ .requested →
      call ∈ h.work.calls ++ [.requested] → call ∈ h.work.calls := fun other mem =>
    (List.mem_append.1 mem).resolve_right fun new => other (List.mem_singleton.1 new)
  have length : h.requestStop.work.calls.length = h.work.calls.length + 1 := List.length_append
  refine ⟨⟨fun i hi => ?_, a.calling.timeless, fun waits => a.calling.waiting (old nofun waits),
    fun returned => a.calling.returned (old nofun returned),
    fun asked alive => List.mem_append_left _ (a.calling.asked asked alive)⟩, fun i hi => ?_,
    fun looks => List.mem_append_left _ (a.awake looks), a.parked⟩
  · rw [length]
    rcases List.mem_append.1 hi with known | new
    · exact Nat.lt_succ_of_lt (a.calling.made i known)
    · cases List.mem_singleton.1 new
      exact Nat.lt_succ_self _
  · rcases Nat.lt_or_ge i h.work.calls.length with made | new
    · refine List.mem_append_left _ (a.requested i ?_)
      rwa [← List.getElem?_append_left made]
    · have last : i = h.work.calls.length := by
        have short := (List.getElem?_eq_some_iff.1 hi).1
        rw [length] at short
        exact Nat.le_antisymm (Nat.le_of_lt_succ short) new
      rw [last]
      exact List.mem_append_right _ (List.mem_singleton_self _)

/-- **A call has its turn**: it asks the worker to stop, and waits unless it has stopped already. -/
theorem pollCall_attended {index : Nat} (calling : Calling h.work h.loop)
    (made : index < h.work.calls.length)
    (requested : ∀ i ≠ index, h.work.calls[i]? = some .requested → .call i ∈ h.loop.ready)
    (awake : h.work.worker = .looking ∨ h.work.worker = .ended → .worker ∈ h.loop.ready) :
    Attended (h.pollCall index).work (h.pollCall index).loop := by
  let state : Work.Call := if h.work.isStopped then .returned else .waiting
  have mem : ∀ {call : Work.Call}, call ∈ h.work.calls.set index state →
      call = state ∨ call ∈ h.work.calls := fun mem => (List.mem_or_eq_of_mem_set mem).symm
  refine wakeWorker_attended (h := { h.report _ with work := { h.work with
    stopping := true, calls := h.work.calls.set index state } }) ⟨fun i hi => ?_, calling.timeless,
    fun waits => ⟨rfl, ?_⟩, fun returned => ?_, fun _ alive => ?_⟩ (fun i hi => ?_) awake
  · rw [List.length_set]
    exact calling.made i hi
  · rcases mem waits with own | old
    · cases stopped : h.work.isStopped with
      | false => exact stopped
      | true =>
        simp only [state, stopped, if_true] at own
        cases own
    · exact (calling.waiting old).2
  · rcases mem returned with own | old
    · cases stopped : h.work.isStopped with
      | true => exact stopped
      | false =>
        simp only [state, stopped] at own
        cases own
    · exact calling.returned old
  · have alive : h.work.isStopped = false := alive
    simp only [state, alive]
    exact List.mem_set made _
  · have other : i ≠ index := by
      rintro rfl
      have same : state = .requested := by
        have set := hi
        change (h.work.calls.set i state)[i]? = _ at set
        rw [List.getElem?_set_self made] at set
        exact Option.some.inj set
      unfold state at same
      split at same <;> cases same
    exact requested i other (by rwa [← List.getElem?_set_ne other.symm])

/-- **What is done between turns of calls** leaves nobody behind. -/
theorem Deed.attended {label : Label} (deed : Deed label h g) (a : Attended h.work h.loop)
    (other : ∀ i, label ≠ .call i) : Attended g.work g.loop := by
  cases deed with
  | aside aside =>
    have aloof := aside.aloof
    exact a.of_others aloof.work aloof.ready aloof.alarms
  | addTask h task parent => exact a.addTask task parent
  | spawn h task parent planned => exact a.addTask task parent
  | invalidate h id =>
    have hit : Attended (h.work.invalidate id).2 h.loop :=
      a.withWork rfl rfl rfl fun empty => by rw [Work.invalidate, empty]; rfl
    obtain ⟨events, -, cancelled⟩ := exists_invalidate id h
    exact cancelled ▸ hit
  | requestStop h => exact a.requestStop
  | call h index => exact absurd rfl (other index)
  | dropWork h => exact Attended.letGo a
  | dropSchedule h => exact Attended.letGo a
  | release h gate =>
    rcases release_cases gate h with ⟨rest, waits, woken⟩ | opened
    · rw [woken]
      exact .busy (a.calling.wake rfl rfl (isStopped_of_busy (w := h.work) (waits ▸ rfl)).symm)
        (fun i hi => List.mem_append_left _ (a.requested i hi)) rfl
    · exact opened ▸ a
  | look h looking => exact look_attended a.calling a.requested looking
  | putAway h ended => exact putAway_attended a.calling a.requested ended
  | goOn h rest busy planned =>
    exact .busy (a.calling.goOn rfl rfl (isStopped_of_busy busy).symm)
      (fun i hi => List.mem_cons_of_mem _ (a.requested i hi)) rfl
  | sleep h ms rest busy planned later =>
    refine .busy (a.calling.of_same rfl rfl (isStopped_of_busy busy).symm (fun _ hi => hi)
      fun alarm ha => ?_) a.requested rfl
    refine (List.mem_append.1 ha).imp (fun old => old) fun new i => ?_
    rw [List.mem_singleton.1 new]
    exact nofun
  | await h gate rest busy planned =>
    exact .busy (a.calling.withWork rfl rfl (isStopped_of_busy busy).symm) a.requested rfl
  | interrupt h => exact a.withWork rfl rfl rfl fun empty => empty
  | finish h outcome busy => exact a.finish busy outcome
  | start h =>
    exact Attended.arm (h := { h with
      schedule := h.schedule.map (Refresh.Schedule.setStopped false) }) a
  | stop h =>
    exact Attended.disarm (h := { h with
      schedule := h.schedule.map (Refresh.Schedule.setStopped true) }) a
  | refresh h => exact a.disarm.addTask ..
  | tick h armed => exact a.disarm.addTask ..

/-! ## Episodes -/

/-- A worker that looks for a task does so at its turn. -/
theorem poll_worker_of_looking (looking : h.work.worker = .looking) : poll .worker h = h.look := by
  change h.pollWorker = h.look
  unfold pollWorker
  rw [looking]

/-- One whose task has ended puts it away. -/
theorem poll_worker_of_ended (ended : h.work.worker = .ended) : poll .worker h = h.putAway := by
  change h.pollWorker = h.putAway
  unfold pollWorker
  rw [ended]

/-- Taking an agent from the ready leaves the calls. -/
theorem calling_leaveOut (k : Calling h.work h.loop) (place : Nat) :
    Calling (h.leaveOut place).work (h.leaveOut place).loop :=
  k.of_same rfl rfl rfl (fun _ hi => List.mem_of_mem_eraseIdx hi) fun _ ha => .inl ha

/-- Everybody else is still ready when somebody leaves. -/
theorem mem_ready_leaveOut {place : Nat} {agent other : Agent} (mem : agent ∈ h.loop.ready)
    (taken : h.loop.ready[place]? = some other) (differs : agent ≠ other) :
    agent ∈ (h.leaveOut place).loop.ready := by
  obtain ⟨i, hi⟩ := List.mem_iff_getElem?.1 mem
  refine List.mem_eraseIdx_iff_getElem?.2 ⟨i, fun same => differs ?_, hi⟩
  rw [same, taken] at hi
  exact (Option.some.inj hi).symm

/-- **Whoever has the turn, nobody is forgotten.** -/
theorem Attended.turn (a : Attended h.work h.loop) (place : Nat) :
    Attended (h.undergo (.turn place)).work (h.undergo (.turn place)).loop := by
  unfold undergo
  dsimp only
  split
  · exact a
  · rename_i agent ready
    have calling := calling_leaveOut a.calling place
    cases agent with
    | call index =>
      exact pollCall_attended calling (a.calling.made index (List.mem_of_getElem? ready))
        (fun i other hi => mem_ready_leaveOut (a.requested i hi) ready (by simpa using other))
        fun looks => mem_ready_leaveOut (a.awake looks) ready nofun
    | pulse id =>
      have left : Attended (h.leaveOut place).work (h.leaveOut place).loop :=
        ⟨calling, fun i hi => mem_ready_leaveOut (a.requested i hi) ready nofun,
          fun looks => mem_ready_leaveOut (a.awake looks) ready nofun, a.parked⟩
      refine (poll_deeds (.pulse id) (h.leaveOut place)).keep
        (P := fun g => Attended g.work g.loop) (fun label _ _ ok deed a => deed.attended a ?_) left
      rcases ok with rfl | rfl | rfl <;> exact nofun
    | worker =>
      have requested : Requested (h.leaveOut place).work (h.leaveOut place).loop :=
        fun i hi => mem_ready_leaveOut (a.requested i hi) ready nofun
      by_cases looking : h.work.worker = .looking
      · rw [poll_worker_of_looking (h := h.leaveOut place) looking]
        exact look_attended calling requested looking
      by_cases ended : h.work.worker = .ended
      · rw [poll_worker_of_ended (h := h.leaveOut place) ended]
        exact putAway_attended calling requested ended
      have left : Attended (h.leaveOut place).work (h.leaveOut place).loop :=
        ⟨calling, requested, fun looks => (looks.elim looking ended).elim, a.parked⟩
      have deeds : Deeds (Eq Label.own) (h.leaveOut place) (h.leaveOut place).pollWorker :=
        pollWorker_deeds rfl fun now => absurd now looking
      exact deeds.keep (P := fun g => Attended g.work g.loop)
        (fun label _ _ own deed a => deed.attended a fun i call => nomatch own.trans call) left

/-- When time passes, those whose alarms are due become ready. -/
theorem Attended.pass (a : Attended h.work h.loop) (ms : Nat) :
    Attended (h.undergo (.pass ms)).work (h.undergo (.pass ms)).loop := by
  unfold undergo
  dsimp only
  split
  · rename_i still
    refine ⟨a.calling.of_same rfl rfl rfl (fun i hi => ?_) fun alarm ha => ?_, fun i hi => ?_,
      fun looks => ?_, a.parked⟩
    · refine (List.mem_append.1 hi).resolve_right fun due => ?_
      obtain ⟨alarm, gone, call⟩ := List.mem_map.1 due
      exact a.calling.timeless alarm (List.mem_filter.1 (List.mem_mergeSort.1 gone)).1 i call
    · exact .inl (List.mem_filter.1 ha).1
    · have mem := a.requested i hi
      rw [still] at mem
      cases mem
    · have mem := a.awake looks
      rw [still] at mem
      cases mem
  · exact a

/-- In no episode is anybody forgotten. -/
theorem Attended.undergo (a : Attended h.work h.loop) (e : Episode) :
    Attended (h.undergo e).work (h.undergo e).loop := by
  cases e with
  | turn place => exact a.turn place
  | pass ms => exact a.pass ms
  | command command atOnce =>
    refine (act_deeds atOnce h).keep (P := fun g => Attended g.work g.loop)
      (fun label _ _ ok deed a => deed.attended a fun i call => ?_) a
    subst call
    exact absurd (atOnce.symm.trans ok) (by decide)

end Home
end HomeMedia
