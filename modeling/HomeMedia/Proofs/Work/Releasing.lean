import HomeMedia.Proofs.Refresh.Cycle
import HomeMedia.Proofs.Work.Progress
import HomeMedia.Proofs.Work.Rounds
/-!
# The queue when nobody holds on to it any more

The owner of the server, the schedule and the calls that ask the worker to stop hold on to the
queue. When the last of them is gone the queue is *released*, and stays so (`Deed.released`): calls
are made by the owner, only a schedule that is there can be started or armed, and a call that has
returned found that the worker has stopped.

From then on no task is started (`Released.started_through`). A task that is running goes on; when
there is none, nothing happens any more that only tasks do (`Released.idle_through`): no trace is
left, the library stays as it is, and the service is asked nothing.
-/

namespace HomeMedia

/-- Waking the worker leaves the calls. -/
theorem Work.calls_notify (w : Work) : w.notify.2.calls = w.calls := by
  rw [notify_eq]

namespace Home

open Deed (Label)
open HomeMedia.Work (isStopped_of_ne)

variable {h g k : Home}

/-! ## Released queues -/

/-- Nobody holds on to the queue, and nobody is going to. -/
structure Released (h : Home) : Prop where
  /-- The owner has let go. -/
  owner : h.holdsWork = false
  /-- The schedule is gone. -/
  schedule : h.schedule = none
  /-- All calls have returned. -/
  calls : h.work.calls = [] ∨ h.work.isStopped = true ∧ ∀ call ∈ h.work.calls, call = .returned

/-- Nobody holds on to a queue without an owner, a schedule or an open call. -/
theorem usesWork_eq_false_iff : h.usesWork = false ↔
    h.holdsWork = false ∧ h.schedule = none ∧ ∀ call ∈ h.work.calls, call = .returned := by
  simp [usesWork, Work.hasOpenCall, and_assoc]

/-- A released queue is not in use. -/
theorem Released.unused (r : Released h) : h.usesWork = false := by
  refine usesWork_eq_false_iff.2 ⟨r.owner, r.schedule, ?_⟩
  rcases r.calls with none | ⟨-, returned⟩
  · rw [none]
    exact nofun
  · exact returned

/-- **Nobody takes hold of a queue again** that nobody holds on to: a call that has returned found
that the worker has stopped. -/
theorem Orderly.released (o : Orderly h) (unused : h.usesWork = false) : Released h := by
  obtain ⟨owner, schedule, returned⟩ := usesWork_eq_false_iff.1 unused
  refine ⟨owner, schedule, ?_⟩
  cases calls : h.work.calls with
  | nil => exact .inl rfl
  | cons first more =>
    have mem : first ∈ h.work.calls := calls ▸ List.mem_cons_self ..
    exact .inr ⟨o.attended.calling.returned (returned first mem ▸ mem), calls ▸ returned⟩

/-- Arming the schedule does not change the owner. -/
theorem holdsWork_arm (h : Home) : h.arm.holdsWork = h.holdsWork := by
  rcases arm_cases h with same | ⟨s, nanos, -, -, -, -, armed⟩
  · rw [same]
  · rw [armed]
    rfl

/-- Neither does disarming it. -/
theorem holdsWork_disarm (h : Home) : h.disarm.holdsWork = h.holdsWork := by
  rcases disarm_cases h with same | ⟨id, stopped, -, disarmed⟩
  · rw [same]
  · rw [disarmed]
    rfl

/-- Neither does anything backstage. -/
theorem Backstage.holdsWork_eq (backstage : Backstage h g) : g.holdsWork = h.holdsWork := by
  obtain ⟨work, loop, openGates, log, rfl⟩ := backstage
  rfl

/-- The owner does not come back. -/
theorem Deed.holdsWork_eq_false {label : Label} (deed : Deed label h g)
    (gone : h.holdsWork = false) : g.holdsWork = false := by
  cases deed with
  | aside aside => exact aside.aloof.holdsWork.trans gone
  | invalidate h id => exact (Backstage.invalidate id h).holdsWork_eq.trans gone
  | dropWork h => exact (Backstage.letGo (fun h => { h with holdsWork := false }) h).holdsWork_eq
  | dropSchedule h =>
    exact (Backstage.letGo (fun h => { h with schedule := none }) h).holdsWork_eq.trans gone
  | release h gate => exact (Backstage.release gate h).holdsWork_eq.trans gone
  | look h looking => exact (Backstage.look h).holdsWork_eq.trans gone
  | finish h outcome busy =>
    rcases Backstage.finish outcome h with quiet | armed
    · exact quiet.holdsWork_eq.trans gone
    · exact armed.holdsWork_eq.trans ((holdsWork_arm h).trans gone)
  | start h => exact (holdsWork_arm _).trans gone
  | stop h => exact (holdsWork_disarm _).trans gone
  | refresh h => exact (holdsWork_disarm h).trans gone
  | tick h armed => exact (holdsWork_disarm h).trans gone
  | _ => exact gone

/-- Calls are made by the owner, and change in their own turns and when the worker stops. -/
theorem Deed.calls_eq {label : Label} (deed : Deed label h g) (gone : h.holdsWork = false)
    (look : label ≠ .look) (call : ∀ index, label ≠ .call index) :
    g.work.calls = h.work.calls := by
  cases deed with
  | aside aside => rw [aside.aloof.work]
  | addTask h task parent => exact Work.calls_notify _
  | spawn h task parent planned => exact Work.calls_notify _
  | invalidate h id =>
    obtain ⟨events, -, cancelled⟩ := exists_invalidate id h
    rw [cancelled]
    rfl
  | requestStop h held => cases gone.symm.trans held
  | call h index => exact absurd rfl (call index)
  | dropWork h => exact letGo_keeps (Work.calls_notify _) rfl
  | dropSchedule h => exact letGo_keeps (Work.calls_notify _) rfl
  | release h gate =>
    rcases release_cases gate h with ⟨rest, -, woken⟩ | opened
    · rw [woken]
    · rw [opened]
  | look h looking => exact absurd rfl look
  | finish h outcome busy =>
    rcases finish_cases outcome h with ⟨-, same⟩ | ⟨e, armed, -, -, ended⟩
    · rw [same]
    · rw [ended]
  | start h => exact congrArg Work.calls (work_arm _)
  | stop h => exact congrArg Work.calls (work_disarm _)
  | refresh h => exact refreshNow_keeps fun _ => Work.calls_notify _
  | tick h armed => exact refreshNow_keeps fun _ => Work.calls_notify _
  | _ => rfl

/-- **A released queue stays released.** -/
theorem Deed.released {label : Label} (deed : Deed label h g) (r : Released h) : Released g where
  owner := deed.holdsWork_eq_false r.owner
  schedule := deed.schedule_eq_none r.schedule
  calls := by
    by_cases look : label = .look
    · subst look
      cases deed with
      | aside aside => cases aside
      | look h looking =>
        have none : h.work.calls = [] := r.calls.resolve_right fun stopped => by
          rw [isStopped_of_ne (looking ▸ nofun)] at stopped
          cases stopped.1
        rw [look_of_unused r.unused]
        exact .inl (congrArg (List.map _) none)
    by_cases call : ∃ index, label = .call index
    · obtain ⟨index, rfl⟩ := call
      cases deed with
      | aside aside => cases aside
      | call h index =>
        have calls : (h.pollCall index).work.calls = h.work.calls.set index
            (if h.work.isStopped then .returned else .waiting) := Work.calls_notify _
        have stops : (h.pollCall index).work.isStopped = h.work.isStopped := Work.isStopped_notify _
        rw [calls, stops]
        rcases r.calls with none | ⟨stopped, returned⟩
        · exact .inl (by rw [none]; rfl)
        · rw [stopped]
          exact .inr ⟨rfl, fun call mem => (List.mem_or_eq_of_mem_set mem).elim (returned call) id⟩
    · rw [deed.calls_eq r.owner look fun index same => call ⟨index, same⟩, deed.isStopped look]
      exact r.calls

/-- The clock and the agents do not matter. -/
theorem Released.withLoop (r : Released h) (loop : EventLoop Agent) : Released { h with loop } :=
  ⟨r.owner, r.schedule, r.calls⟩

/-- **A queue that is released stays so in every episode.** -/
theorem Released.undergo (r : Released h) (e : Episode) : Released (h.undergo e) :=
  undergo_keeps (fun loop _ r => r.withLoop loop) (fun _ _ _ deed r => deed.released r) r e

/-- So it does during a run. -/
theorem Released.through (r : Released h) (run : List Episode) : Released (h.through run) :=
  through_keeps (fun e _ _ r => r.undergo e) r

/-! ## Nothing of the tasks that wait happens -/

/-- What tasks leave behind is as it was: traces, the library, and what the service was asked. -/
structure Untouched (h g : Home) : Prop where
  traces : g.traces = h.traces
  library : g.library = h.library
  service : g.service = h.service

namespace Untouched

/-- Doing nothing leaves what tasks have left. -/
theorem refl (h : Home) : Untouched h h := ⟨rfl, rfl, rfl⟩

/-- So do two things that each do. -/
theorem trans (a : Untouched h g) (b : Untouched g k) : Untouched h k :=
  ⟨b.traces.trans a.traces, b.library.trans a.library, b.service.trans a.service⟩

/-- So does anything backstage. -/
theorem backstage (backstage : Backstage h g) : Untouched h g := by
  obtain ⟨work, loop, openGates, log, rfl⟩ := backstage
  exact ⟨rfl, rfl, rfl⟩

/-- So does looking at the timer. -/
theorem checkTimer (h : Home) : Untouched h h.checkTimer := by
  unfold Home.checkTimer
  split
  · exact refl h
  · split <;> exact ⟨rfl, rfl, rfl⟩

/-- So does all that sees to it. -/
theorem seenTo (seen : SeenTo h g) : Untouched h g := by
  obtain ⟨registry, released, events, -, rfl | rfl⟩ := seen
  · exact ⟨rfl, rfl, rfl⟩
  · have checked := checkTimer { h with registry, released }
    exact ⟨checked.traces, checked.library, checked.service⟩

/-- So does arming the schedule. -/
theorem arm (h : Home) : Untouched h h.arm := by
  rcases arm_cases h with same | ⟨s, nanos, -, -, -, -, armed⟩
  · rw [same]
    exact refl h
  · rw [armed]
    exact ⟨rfl, rfl, rfl⟩

/-- So does disarming it. -/
theorem disarm (h : Home) : Untouched h h.disarm := by
  rcases disarm_cases h with same | ⟨id, stopped, -, disarmed⟩
  · rw [same]
    exact refl h
  · rw [disarmed]
    exact ⟨rfl, rfl, rfl⟩

end Untouched

/-- **Only a busy worker** leaves something behind. -/
theorem Deed.untouched {label : Label} (deed : Deed label h g)
    (idle : h.work.worker.isBusy = false) : Untouched h g := by
  cases deed with
  | aside aside =>
    cases aside with
    | leave h trace quiet busy => cases idle.symm.trans busy
    | store h library busy => cases idle.symm.trans busy
    | consult h busy => cases idle.symm.trans busy
    | announce h ids busy => cases idle.symm.trans busy
    | createSession h timeout => exact .seenTo (.createSession timeout h)
    | removeSession h id => exact .seenTo (.removeSession id h)
    | sweep h now => exact .seenTo (.sweep now h)
    | checkTimer h => exact .checkTimer h
    | _ => exact ⟨rfl, rfl, rfl⟩
  | invalidate h id => exact .backstage (.invalidate id h)
  | dropWork h =>
    have released := Untouched.backstage (.letGo (fun h => { h with holdsWork := false }) h)
    exact ⟨released.traces, released.library, released.service⟩
  | dropSchedule h =>
    have released := Untouched.backstage (.letGo (fun h => { h with schedule := none }) h)
    exact ⟨released.traces, released.library, released.service⟩
  | release h gate => exact .backstage (.release gate h)
  | look h looking => exact .backstage (.look h)
  | finish h outcome busy => cases idle.symm.trans busy
  | start h =>
    have armed := Untouched.arm { h with
      schedule := h.schedule.map (Refresh.Schedule.setStopped false) }
    exact ⟨armed.traces, armed.library, armed.service⟩
  | stop h =>
    have disarmed := Untouched.disarm { h with
      schedule := h.schedule.map (Refresh.Schedule.setStopped true) }
    exact ⟨disarmed.traces, disarmed.library, disarmed.service⟩
  | refresh h => exact (Untouched.disarm h).trans (.backstage (.addTask _ none h.disarm))
  | tick h armed => exact (Untouched.disarm h).trans (.backstage (.addTask _ none h.disarm))
  | _ => exact ⟨rfl, rfl, rfl⟩

/-- **No task of a released queue is taken.** -/
theorem Deed.idle {label : Label} (deed : Deed label h g) (r : Released h)
    (idle : h.work.worker.isBusy = false) : g.work.worker.isBusy = false := by
  have woken := Work.isBusy_notify
  have busy_elim : ∀ {P : Prop}, h.work.worker.isBusy = true → P := fun busy =>
    nomatch idle.symm.trans busy
  cases deed with
  | aside aside => rwa [aside.aloof.work]
  | addTask h task parent => exact (woken _).trans idle
  | spawn h task parent planned => exact (woken _).trans idle
  | invalidate h id =>
    obtain ⟨events, -, cancelled⟩ := exists_invalidate id h
    rw [cancelled]
    exact idle
  | requestStop h held => exact idle
  | call h index => exact (woken _).trans idle
  | dropWork h => exact (letGo_keeps (f := (·.worker.isBusy)) (woken _) rfl).trans idle
  | dropSchedule h => exact (letGo_keeps (f := (·.worker.isBusy)) (woken _) rfl).trans idle
  | release h gate =>
    rcases release_cases gate h with ⟨rest, waits, -⟩ | opened
    · exact busy_elim (waits ▸ rfl)
    · rw [opened]
      exact idle
  | look h looking =>
    rw [look_of_unused r.unused]
    rfl
  | putAway h ended => rfl
  | goOn h rest busy planned => exact busy_elim busy
  | sleep h ms rest busy planned later => exact busy_elim busy
  | await h gate rest busy planned closed => exact busy_elim busy
  | interrupt h busy => exact busy_elim busy
  | finish h outcome busy => exact busy_elim busy
  | start h => exact (congrArg (fun w : Work => w.worker.isBusy) (work_arm _)).trans idle
  | stop h => exact (congrArg (fun w : Work => w.worker.isBusy) (work_disarm _)).trans idle
  | refresh h => exact (refreshNow_keeps (f := (·.worker.isBusy)) fun _ => woken _).trans idle
  | tick h armed => exact (refreshNow_keeps (f := (·.worker.isBusy)) fun _ => woken _).trans idle

/-- If no task runs in a released queue, none starts, and nothing is left by any. -/
theorem Released.idle_undergo (r : Released h) (idle : h.work.worker.isBusy = false)
    (e : Episode) :
    (h.undergo e).work.worker.isBusy = false ∧ Untouched h (h.undergo e) := by
  have kept : Released (h.undergo e) ∧ (h.undergo e).work.worker.isBusy = false ∧
      Untouched h (h.undergo e) :=
    undergo_keeps (P := fun g => Released g ∧ g.work.worker.isBusy = false ∧ Untouched h g)
      (fun loop _ ⟨r, idle, same⟩ => ⟨r.withLoop loop, idle, same.trans ⟨rfl, rfl, rfl⟩⟩)
      (fun _ _ _ deed ⟨r, idle, same⟩ =>
        ⟨deed.released r, deed.idle r idle, same.trans (deed.untouched idle)⟩)
      ⟨r, idle, .refl h⟩ e
  exact kept.2

/-- **Once no task runs any more, no other one does**, and tasks leave nothing behind. -/
theorem Released.idle_through (r : Released h) (idle : h.work.worker.isBusy = false)
    (run : List Episode) :
    (h.through run).work.worker.isBusy = false ∧ Untouched h (h.through run) := by
  have kept : Released (h.through run) ∧ (h.through run).work.worker.isBusy = false ∧
      Untouched h (h.through run) :=
    through_keeps (P := fun g => Released g ∧ g.work.worker.isBusy = false ∧ Untouched h g)
      (fun e _ _ ⟨r, idle, same⟩ =>
        ⟨r.undergo e, (r.idle_undergo idle e).1, same.trans (r.idle_undergo idle e).2⟩)
      ⟨r, idle, .refl h⟩
  exact kept.2

/-! ## Starts and ends of tasks -/

/-- The starts of tasks are reported by the worker. -/
theorem started_told (h : Home) :
    h.told.filterMap Event.started? = h.log.filterMap Event.started? := by
  unfold told
  rw [List.filterMap_filter]
  congr 1
  funext event
  cases event <;> rfl

/-- What the worker reports in an episode: nothing, if it does not have the turn. -/
def tellsIn (h : Home) : Episode → List Event
  | .turn place => if h.loop.ready[place]? = some .worker then h.tellsNext else []
  | _ => []

/-- What the worker reports in an episode comes after what it reported before. -/
theorem told_undergo (h : Home) (e : Episode) : (h.undergo e).told = h.told ++ h.tellsIn e := by
  cases e with
  | command command atOnce => exact (told_act atOnce).trans (List.append_nil _).symm
  | pass ms =>
    unfold undergo tellsIn
    dsimp only
    split <;> exact (List.append_nil _).symm
  | turn place =>
    unfold undergo tellsIn
    dsimp only
    split
    · rename_i none
      rw [none, if_neg nofun]
      exact (List.append_nil _).symm
    · rename_i agent ready
      rw [ready]
      cases agent with
      | worker => exact told_pollWorker (h := h.leaveOut place)
      | pulse id =>
        rw [if_neg nofun]
        exact (told_pollPulse (h := h.leaveOut place) id).trans (List.append_nil _).symm
      | call index =>
        rw [if_neg nofun]
        exact (told_pollCall (h := h.leaveOut place) index).trans (List.append_nil _).symm

/-- A worker whose queue nobody holds on to reports no start. -/
theorem started_tellsNext (unused : h.usesWork = false) :
    h.tellsNext.filterMap Event.started? = [] := by
  unfold tellsNext
  split
  · rw [unused]
    rfl
  · cases h.result? _ with
    | none => rfl
    | some result => cases result <;> rfl
  · rfl

/-- No task starts while nobody holds on to the queue. -/
theorem started_undergo (unused : h.usesWork = false) (e : Episode) :
    (h.undergo e).log.filterMap Event.started? = h.log.filterMap Event.started? := by
  have nothing : (h.tellsIn e).filterMap Event.started? = [] := by
    unfold tellsIn
    split
    · split
      · exact started_tellsNext unused
      · rfl
    · rfl
  rw [← started_told, told_undergo, List.filterMap_append, nothing, List.append_nil,
    started_told]

/-- **No task of a released queue is started.** -/
theorem Released.started_through (r : Released h) (run : List Episode) :
    (h.through run).log.filterMap Event.started? = h.log.filterMap Event.started? :=
  (through_keeps (P := fun g => Released g ∧
    g.log.filterMap Event.started? = h.log.filterMap Event.started?)
    (fun e _ _ ⟨r, same⟩ => ⟨r.undergo e, (started_undergo r.unused e).trans same⟩) ⟨r, rfl⟩).2

/-- While the worker is busy its task is the one that was started last. -/
theorem Orderly.currentTag_of_busy (o : Orderly h) (busy : h.work.worker.isBusy = true) :
    h.work.currentTag = (h.log.filterMap Event.started?).getLast? := by
  obtain ⟨tag, current⟩ := Option.isSome_iff_exists.1 (o.ordered.busy busy)
  rw [← started_ledger, o.ordered.current tag current]
  exact current

end Home
end HomeMedia
