import HomeMedia.Proofs.Work.Departing
/-!
# The worker ends when its queue is released

When nobody holds on to the queue any more, the worker ends its task, takes no other one, and stops
when it next looks at the queue; then it reports that the queue was abandoned. `Accounted` says how
often that has been reported, in every state that can be reached: never, or once if the worker has
stopped for that reason. As long as somebody holds on to the queue, the worker stops only because it
was asked to, with no task left (`Orderly.stopsAsAsked`); a call that asked is one who holds on, so
what waits when all others let go is still run (`Orderly.exists_stopsAsAsked`). The main result is
`ends_when_released`.
-/

namespace HomeMedia

/-- Calls are never taken back. -/
theorem Ledger.Step.calls_ne_nil {l m : Ledger} (change : Ledger.Step l m)
    (some : l.work.calls ≠ []) : m.work.calls ≠ [] := by
  cases change with
  | call => exact fun none => some (List.append_eq_nil_iff.1 none).1
  | askStop => exact fun none => some ((List.set_eq_nil_iff ..).1 none)
  | stop => exact fun none => some (List.map_eq_nil_iff.1 none)
  | notify =>
    rw [Work.notify_eq]
    exact some
  | _ => exact some

namespace Home

open Deed (Label)
open HomeMedia.Work (isStopped_of_ne)

variable {h g : Home}

/-! ## How often it is reported that the queue was abandoned -/

/-- What else is reported does not count. -/
theorem abandonings_concat {event : Event} (other : event ≠ .queueAbandoned) (h : Home) :
    (h.report [event]).abandonings = h.abandonings := by
  rw [abandonings_report, List.count_eq_zero_of_not_mem, Nat.add_zero]
  exact fun mem => other (List.mem_singleton.1 mem).symm

/-- Arming the schedule does not abandon the queue. -/
theorem abandonings_arm (h : Home) : h.arm.abandonings = h.abandonings := by
  rcases arm_cases h with same | ⟨s, nanos, -, -, -, -, armed⟩
  · rw [same]
  · rw [armed]
    exact (Aloof.subscribe .refresh nanos h).abandonings

/-- Neither does disarming it. -/
theorem abandonings_disarm (h : Home) : h.disarm.abandonings = h.abandonings := by
  rcases disarm_cases h with same | ⟨id, stopped, -, disarmed⟩
  · rw [same]
  · rw [disarmed]
    rfl

/-- Neither does adding a task. -/
theorem abandonings_addTask (task : Task) (parent : Option Task.Id) (h : Home) :
    (h.addTask task parent).2.abandonings = h.abandonings := by
  refine abandonings_concat ?_ { h with work := (h.work.enqueue task parent).2 }
  exact nofun

/-- Neither does asking for a fetch. -/
theorem abandonings_refreshNow (h : Home) :
    (h.refreshNow false).2.abandonings = h.abandonings :=
  (abandonings_addTask _ none h.disarm).trans (abandonings_disarm h)

/-- Letting go reports nothing by itself; the worker does at its next turn. -/
theorem abandonings_letGo {release : Home → Home} (same : (release h).log = h.log) :
    (h.letGo release).abandonings = h.abandonings := by
  refine congrArg (List.count _) ?_
  rw [← same]
  rcases letGo_cases release h with woken | kept
  · rw [woken]
    rfl
  · rw [kept]

/-- **Only a look at a queue that nobody holds on to** reports that it was abandoned. -/
theorem Deed.abandonings_eq {label : Label} (deed : Deed label h g)
    (other : h.usesWork = true ∨ label ≠ .look) : g.abandonings = h.abandonings := by
  cases deed with
  | aside aside => exact aside.aloof.abandonings
  | addTask h task parent => exact abandonings_addTask task parent h
  | spawn h task parent planned => exact abandonings_addTask task parent h
  | invalidate h id =>
    obtain ⟨events, rfl, cancelled⟩ := exists_invalidate id h
    rw [cancelled, abandonings_report]
    unfold Work.cancellings
    split <;> rfl
  | call h index =>
    change (h.report _).abandonings = h.abandonings
    rw [abandonings_report]
    split <;> rfl
  | dropWork h => exact abandonings_letGo rfl
  | dropSchedule h => exact abandonings_letGo rfl
  | release h gate =>
    rcases release_cases gate h with ⟨rest, -, woken⟩ | opened
    · rw [woken]
      rfl
    · rw [opened]
      rfl
  | look h looking =>
    have inUse := other.resolve_right fun differs => differs rfl
    have looked := h.looked
    generalize h.look = g at looked ⊢
    cases looked with
    | abandon unused => cases inUse.symm.trans unused
    | take =>
      refine abandonings_concat ?_ h
      exact nofun
    | _ => rfl
  | finish h outcome busy =>
    rcases finish_cases outcome h with ⟨-, same⟩ | ⟨e, armed, -, scheduled, ended⟩
    · rw [same]
    · have before : armed.abandonings = h.abandonings := by
        rcases scheduled with ⟨-, rfl⟩ | ⟨-, rfl⟩
        · exact abandonings_arm h
        · rfl
      rw [ended, ← before]
      exact abandonings_concat (by cases outcome <;> exact nofun) armed
  | start h => exact abandonings_arm _
  | stop h => exact abandonings_disarm _
  | refresh h => exact abandonings_refreshNow h
  | tick h armed => exact abandonings_refreshNow h
  | _ => rfl

/-- A worker that looks at a queue which nobody holds on to reports that it is abandoned. -/
theorem abandonings_look_of_unused (unused : h.usesWork = false) :
    h.look.abandonings = h.abandonings + 1 := by
  rw [look_of_unused unused, abandonings_report]
  rfl

/-- Either it was never reported that the queue was abandoned, and the worker has stopped only if it
was asked to; or it was reported once, when the worker stopped because nobody held on to the
queue. -/
def Accounted (h : Home) : Prop :=
  h.abandonings = 0 ∧ (h.work.isStopped = true → h.work.stopping = true) ∨
    h.abandonings = 1 ∧ h.work.isStopped = true ∧ Released h

/-- **Every deed keeps the account**: the report is made at most once, and by the worker as it
stops. -/
theorem Deed.accounted {label : Label} (deed : Deed label h g) (a : Accounted h) :
    Accounted g := by
  by_cases look : label = .look
  · subst look
    cases deed with
    | aside aside => cases aside
    | look h looking =>
      have alive : h.work.isStopped = false := isStopped_of_ne (looking ▸ nofun)
      obtain ⟨none, -⟩ := a.resolve_right fun stopped => nomatch alive.symm.trans stopped.2.1
      cases inUse : h.usesWork with
      | false =>
        obtain ⟨owner, schedule, returned⟩ := usesWork_eq_false_iff.1 inUse
        refine .inr ⟨by rw [abandonings_look_of_unused inUse, none], ?_⟩
        rw [look_of_unused inUse]
        refine ⟨rfl, owner, schedule, .inr ⟨rfl, fun call mem => ?_⟩⟩
        obtain ⟨before, known, rfl⟩ := List.mem_map.1 mem
        rw [returned before known]
        rfl
      | true =>
        refine .inl ⟨((Deed.look h looking).abandonings_eq (.inl inUse)).trans none, ?_⟩
        have looked := h.looked
        generalize h.look = g at looked ⊢
        cases looked with
        | abandon unused => cases inUse.symm.trans unused
        | stop empty asked => exact fun _ => asked
        | again => exact fun stopped => nomatch alive.symm.trans stopped
        | _ => exact nofun
  · have abandonings := deed.abandonings_eq (.inr look)
    have stops := deed.isStopped look
    rcases a with ⟨none, asked⟩ | ⟨once, stopped, r⟩
    · exact .inl ⟨abandonings.trans none, fun stopped =>
        Ledger.stopping_of_steps deed.ledger_steps (asked (stops.symm.trans stopped))⟩
    · exact .inr ⟨abandonings.trans once, stops.trans stopped, deed.released r⟩

/-- So does every episode. -/
theorem Accounted.undergo (a : Accounted h) (e : Episode) : Accounted (h.undergo e) :=
  undergo_keeps (P := Accounted)
    (fun loop _ a => a.imp id fun ⟨once, stopped, r⟩ => ⟨once, stopped, r.withLoop loop⟩)
    (fun _ _ _ deed a => deed.accounted a) a e

/-- So does a run. -/
theorem Accounted.through (a : Accounted h) (run : List Episode) : Accounted (h.through run) :=
  through_keeps (fun e _ _ a => a.undergo e) a

/-- Nothing was reported before the launch. -/
theorem launched_accounted (h : Home) (keepsTime : Bool) : Accounted (h.launched keepsTime) :=
  .inl ⟨rfl, nofun⟩

/-- While somebody holds on to the queue, nothing was reported. -/
theorem Accounted.of_used (a : Accounted h) (inUse : h.usesWork = true) :
    h.abandonings = 0 ∧ (h.work.isStopped = true → h.work.stopping = true) :=
  a.resolve_right fun ⟨_, _, r⟩ => nomatch inUse.symm.trans r.unused

/-- A worker that has stopped without that report was asked to. -/
theorem Accounted.asked_of_none (a : Accounted h) (none : h.abandonings = 0)
    (stopped : h.work.isStopped = true) : h.work.stopping = true :=
  (a.resolve_right fun once => nomatch none.symm.trans once.1).2 stopped

/-- **A released queue is reported once**, when the worker stops. -/
theorem Deed.abandonings_of_released {label : Label} (deed : Deed label h g) (r : Released h) :
    g.abandonings + h.work.isStopped.toNat = h.abandonings + g.work.isStopped.toNat := by
  by_cases look : label = .look
  · subst look
    cases deed with
    | aside aside => cases aside
    | look h looking =>
      rw [abandonings_look_of_unused r.unused, look_of_unused r.unused,
        isStopped_of_ne (w := h.work) (looking ▸ nofun)]
      rfl
  · rw [deed.abandonings_eq (.inr look), deed.isStopped look]

/-- In an episode of a released queue, the report is made if the worker stops. -/
theorem Released.abandonings_undergo (r : Released h) (e : Episode) :
    (h.undergo e).abandonings + h.work.isStopped.toNat =
      h.abandonings + (h.undergo e).work.isStopped.toNat :=
  (undergo_keeps (P := fun g => Released g ∧
      g.abandonings + h.work.isStopped.toNat = h.abandonings + g.work.isStopped.toNat)
    (fun loop _ ⟨r, same⟩ => ⟨r.withLoop loop, same⟩)
    (fun _ _ _ deed ⟨r, same⟩ => ⟨deed.released r, by
      have step := deed.abandonings_of_released r
      omega⟩) ⟨r, rfl⟩ e).2

/-- So it is in a run. -/
theorem Released.abandonings_through (r : Released h) (run : List Episode) :
    (h.through run).abandonings + h.work.isStopped.toNat =
      h.abandonings + (h.through run).work.isStopped.toNat :=
  (through_keeps (P := fun g => Released g ∧
      g.abandonings + h.work.isStopped.toNat = h.abandonings + g.work.isStopped.toNat)
    (fun e _ _ ⟨r, same⟩ => ⟨r.undergo e, by
      have step := r.abandonings_undergo e
      omega⟩) ⟨r, rfl⟩).2

/-- A queue that is released before anything was reported of it is reported once, unless the worker
has stopped before. -/
theorem Released.abandonings_of_none (r : Released h) (none : h.abandonings = 0)
    (run : List Episode) : (h.through run).abandonings =
      if h.work.isStopped then 0 else if (h.through run).work.isStopped then 1 else 0 := by
  have account := r.abandonings_through run
  rw [none] at account
  cases before : h.work.isStopped with
  | false =>
    rw [before] at account
    cases after : (h.through run).work.isStopped <;> rw [after] at account <;> exact account
  | true =>
    have bound := Bool.toNat_le (h.through run).work.isStopped
    rw [before, Bool.toNat_true] at account
    rw [if_pos rfl]
    omega

/-! ## While somebody holds on to the queue -/

/-- While somebody holds on to the queue it is not reported abandoned. -/
theorem abandonings_undergo_of_used (inUse : h.usesWork = true) (e : Episode) :
    (h.undergo e).abandonings = h.abandonings := by
  rcases look_or_deeds h e with ⟨place, looking, same⟩ | ⟨loop, permits, other, deeds⟩
  · rw [same]
    exact (Deed.look (h.leaveOut place) looking).abandonings_eq (.inl inUse)
  · exact deeds.keep (P := fun k => k.abandonings = h.abandonings)
      (fun label _ _ ok deed same =>
        (deed.abandonings_eq (.inr fun look => other (look ▸ ok))).trans same) rfl

/-- **A worker whose queue is in use** stops only if it was asked to and no task waits. -/
theorem asked_of_stops (inUse : h.usesWork = true) (alive : h.work.isStopped = false) {e : Episode}
    (stopped : (h.undergo e).work.isStopped = true) :
    h.work.stopping = true ∧ h.work.queue = [] := by
  obtain ⟨place, looking, same⟩ := exists_look_of_stops alive stopped
  rw [same] at stopped
  have looked := (h.leaveOut place).looked
  generalize (h.leaveOut place).look = g at looked stopped
  cases looked with
  | abandon unused => cases inUse.symm.trans unused
  | stop empty asked => exact ⟨asked, empty⟩
  | again => cases alive.symm.trans stopped
  | take => cases stopped
  | park => cases stopped

/-- Calls do not go. -/
theorem calls_ne_nil_through (some : h.work.calls ≠ []) (run : List Episode) :
    (h.through run).work.calls ≠ [] := by
  have kept : ∀ {l : Ledger}, Ledger.Steps h.ledger l → l.work.calls ≠ [] := fun changes => by
    induction changes with
    | refl => exact some
    | tail _ change ih => exact change.calls_ne_nil ih
  exact kept (through_steps h run)

/-- While the worker is there, a call that was made is open. -/
theorem Orderly.hasOpenCall (o : Orderly h) (alive : h.work.isStopped = false)
    (some : h.work.calls ≠ []) : h.work.hasOpenCall = true := by
  obtain ⟨call, mem⟩ := List.exists_mem_of_ne_nil _ some
  refine List.any_eq_true.2 ⟨call, mem, bne_iff_ne.2 fun returned => ?_⟩
  cases alive.symm.trans (o.attended.calling.returned (returned ▸ mem))

/-- So the queue is in use. -/
theorem Orderly.usesWork_of_call (o : Orderly h) (alive : h.work.isStopped = false)
    (some : h.work.calls ≠ []) : h.usesWork = true := by
  rw [usesWork, o.hasOpenCall alive some, Bool.or_true]

/-- When nobody is ready and a call is open, the worker was asked to stop. -/
theorem Orderly.asked_of_still (o : Orderly h) (still : h.loop.ready = [])
    (alive : h.work.isStopped = false) (some : h.work.calls ≠ []) : h.work.stopping = true := by
  obtain ⟨call, mem⟩ := List.exists_mem_of_ne_nil _ some
  cases call with
  | requested => exact absurd mem (o.attended.requested_not_mem still)
  | waiting => exact (o.attended.calling.waiting mem).1
  | returned => cases alive.symm.trans (o.attended.calling.returned mem)

/-! ## Both ways in which the worker stops -/

/-- An episode in which the worker stops because it was asked to: no task waits, all tasks that were
added have ended, and nothing is reported of the queue. -/
structure StopsAsAsked (h : Home) (e : Episode) : Prop where
  stopped : (h.undergo e).work.isStopped = true
  asked : h.work.stopping = true
  empty : h.work.queue = []
  /-- All tasks that were added were started. -/
  started : (h.undergo e).log.filterMap Event.started? =
    (h.undergo e).log.filterMap Event.queued?
  /-- All tasks that were added have ended. -/
  ended : (h.undergo e).log.filterMap Event.ended? =
    ((h.undergo e).log.filterMap Event.queued?).map Task.Tag.id
  /-- The queue is not abandoned. -/
  silent : (h.undergo e).abandonings = 0

/-- **While somebody holds on to the queue** the worker stops only as it was asked to. -/
theorem Orderly.stopsAsAsked (o : Orderly h) (a : Accounted h) (inUse : h.usesWork = true)
    (alive : h.work.isStopped = false) {e : Episode}
    (stopped : (h.undergo e).work.isStopped = true) : StopsAsAsked h e := by
  obtain ⟨asked, empty⟩ := asked_of_stops inUse alive stopped
  obtain ⟨-, all, ends⟩ := o.all_ended_of_stops asked alive stopped
  exact ⟨stopped, asked, empty, all, ends,
    (abandonings_undergo_of_used inUse e).trans (a.of_used inUse).1⟩

/-- **A call that waits until the worker stops waits for the end of all tasks**, and they do end
when the schedule is gone, if everybody has turns, time passes and the gates are opened. -/
theorem Orderly.exists_stopsAsAsked (o : Orderly h) (u : Underway h) (a : Accounted h)
    (alive : h.work.isStopped = false) (some : h.work.calls ≠ []) (gone : h.schedule = none) :
    ∃ run e, (∀ f ∈ run ++ [e], f.isCourse = true) ∧ StopsAsAsked (h.through run) e := by
  have stops : ∃ run : List Episode, (∀ f ∈ run, f.isCourse = true) ∧
      (h.through run).work.isStopped = true := by
    obtain ⟨turns, course, still⟩ := o.exists_still
    cases now : (h.through turns).work.isStopped with
    | true => exact ⟨turns, course, now⟩
    | false =>
      have asked := (o.through turns).asked_of_still still now (calls_ne_nil_through some turns)
      have departing : Departing (h.through turns) :=
        ⟨o.through turns, u.through o turns, schedule_through_eq_none gone turns, .inl asked⟩
      obtain ⟨more, rest, ends⟩ := departing.exists_stops
      refine ⟨turns ++ more, fun f mem => (List.mem_append.1 mem).elim (course f) (rest f), ?_⟩
      rw [through_append]
      exact ends
  obtain ⟨run, course, stopped⟩ := stops
  obtain ⟨before, e, after, rfl, still, ends⟩ := exists_stopping_episode alive stopped
  refine ⟨before, e, fun f mem => course f ?_, ?_⟩
  · rw [List.append_cons]
    exact List.mem_append_left after mem
  · have ob := o.through before
    exact ob.stopsAsAsked (a.through before)
      (ob.usesWork_of_call still (calls_ne_nil_through some before)) still ends

/-- What became of a server since nobody held on to its queue: the task that ran has gone on or has
ended, and nothing else has happened to tasks. -/
structure WindsDown (h g : Home) : Prop where
  /-- Nobody has taken hold of the queue again. -/
  unused : g.usesWork = false
  /-- No other task was started. -/
  started : g.log.filterMap Event.started? = h.log.filterMap Event.started?
  /-- If the worker is busy, it is with the same task as then. -/
  current : g.work.worker.isBusy = true →
    h.work.worker.isBusy = true ∧ g.work.currentTag = h.work.currentTag
  /-- Otherwise all tasks that were started have ended, the one that ran then among them. -/
  ended : g.work.worker.isBusy = false →
    g.log.filterMap Event.ended? = (h.log.filterMap Event.started?).map Task.Tag.id
  /-- If no task ran, none has left anything behind. -/
  untouched : h.work.worker.isBusy = false → Untouched h g
  /-- Nothing keeps the worker, until it has stopped, but a gate that is closed. -/
  keptByGateOnly : g.work.isStopped = false → g.KeptByGateOnly

/-- **A released queue winds down**: the task that runs goes on and ends, and no other starts. -/
theorem Released.windsDown (r : Released h) (o : Orderly h) (u : Underway h)
    (run : List Episode) : WindsDown h (h.through run) where
  unused := (r.through run).unused
  started := r.started_through run
  current busy := by
    have before : h.work.worker.isBusy = true := by
      cases idle : h.work.worker.isBusy with
      | true => rfl
      | false => cases busy.symm.trans (r.idle_through idle run).1
    refine ⟨before, ?_⟩
    rw [(o.through run).currentTag_of_busy busy, o.currentTag_of_busy before,
      r.started_through run]
  ended idle := ((o.through run).ended_of_not_busy idle).trans
    (congrArg (List.map _) (r.started_through run))
  untouched idle := (r.idle_through idle run).2
  keptByGateOnly alive := (o.through run).keptByGateOnly (u.through o run) alive
    ((r.through run).awake (u.through o run))

/-- **The worker ends when nobody holds on to the queue any more, and not before its work is done.**
The owner of the server, its schedule and calls that ask the worker to stop hold on to the queue. In
an orderly run of a server that begins with a new queue, whoever lets go, and whenever:

* while somebody holds on to the queue, it is not reported that it was abandoned, and the worker
  stops only if it was asked to and no task waits, so all tasks that were ever added have ended;
* when the last one has let go, in whichever episode, that is reported once, when the worker stops;
  but it is never reported if the worker had stopped already, because it was asked to;
* an open call holds on to the queue until the worker has stopped, so all tasks that wait are run
  before; when nobody is ready the worker was asked to stop, and nothing but a closed gate keeps it
  from going on; and once the schedule is gone, turns, time and the opening of gates make it stop;
* once nobody holds on to the queue, that is so forever, no other task is started, the one that
  runs goes on and ends, and then tasks leave nothing behind any more; nothing but a closed gate
  keeps the worker from going on, the turns that it has are bounded, and turns, time and the opening
  of gates make it stop;
* letting everybody have turns comes to an end.

Commands that wait, settling among them, make orderly runs (`exists_through_runs`). -/
theorem ends_when_released (h₀ : Home) (keepsTime : Bool) (run : List Episode) :
    let h := (h₀.launched keepsTime).through run
    (h.usesWork = true →
      h.abandonings = 0 ∧ (h.work.isStopped = true → h.work.stopping = true) ∧
      (h.work.isStopped = false → ∀ e, (h.undergo e).work.isStopped = true → StopsAsAsked h e) ∧
      ∀ e more, let k := h.undergo e
        let g := k.through more
        k.usesWork = false →
          (k.work.isStopped = true → k.work.stopping = true) ∧
          g.abandonings = if k.work.isStopped then 0 else if g.work.isStopped then 1 else 0) ∧
    (h.work.hasOpenCall = true → ∀ more, let g := h.through more
      g.work.isStopped = false → g.work.hasOpenCall = true ∧
        (∀ e, (g.undergo e).work.isStopped = true → StopsAsAsked g e) ∧
        (g.loop.ready = [] → g.work.stopping = true ∧ g.KeptByGateOnly) ∧
        (g.schedule = none → ∃ rest e, (∀ f ∈ rest ++ [e], f.isCourse = true) ∧
          StopsAsAsked (g.through rest) e)) ∧
    (h.usesWork = false → ∀ more, let g := h.through more
      WindsDown h g ∧ h.workersTurns more + g.work.worker.cost ≤ h.work.worker.cost ∧
        ∃ rest, (∀ e ∈ rest, e.isCourse = true) ∧ (g.through rest).work.isStopped = true) ∧
    ∃ more, Live.settle h = h.through more ∧ (h.through more).loop.ready = [] := by
  have launched := launched_orderly h₀ keepsTime
  intro h
  have o : Orderly h := launched.through run
  have u : Underway h := (launched_underway h₀ keepsTime).through launched run
  have a : Accounted h := (launched_accounted h₀ keepsTime).through run
  refine ⟨fun inUse => ?_, fun calls more => ?_, fun unused more => ?_, o.exists_settle⟩
  · obtain ⟨nothing, asked⟩ := a.of_used inUse
    refine ⟨nothing, asked, fun alive e => o.stopsAsAsked a inUse alive, fun e more => ?_⟩
    intro k g unused
    have none : k.abandonings = 0 := (abandonings_undergo_of_used inUse e).trans nothing
    exact ⟨(a.undergo e).asked_of_none none,
      ((o.undergo e).released unused).abandonings_of_none none more⟩
  · intro g alive
    have some : g.work.calls ≠ [] := calls_ne_nil_through (fun none => by
      rw [Work.hasOpenCall, none] at calls
      cases calls) more
    have og := o.through more
    refine ⟨og.hasOpenCall alive some, fun e => og.stopsAsAsked (a.through more)
      (og.usesWork_of_call alive some) alive, fun still => ?_,
      og.exists_stopsAsAsked (u.through o more) (a.through more) alive some⟩
    have asked := og.asked_of_still still alive some
    refine ⟨asked, og.keptByGateOnly (u.through o more) alive fun parked => ?_⟩
    cases asked.symm.trans (og.attended.parked parked).2
  · have r := o.released unused
    exact ⟨r.windsDown o u more, r.workersTurns_add_cost_le o u more,
      Departing.exists_stops ⟨o.through more, u.through o more, (r.through more).schedule,
        .inr (r.through more)⟩⟩

/-- Commands that take no time, one after the other. -/
def atOnce (commands : List Command) : List Episode :=
  commands.filterMap fun command =>
    if atOnce : command.takesTime = false then some (.command command atOnce) else none

/-- A task waits at a gate, and another one behind it. -/
def atTheGate : List Episode :=
  let task (body : List Task.Action) : Task :=
    { kind := .generic, description := "", cancellable := true, scheduled := false, body }
  atOnce [.addTask (task [.await "gate", .note "first"]) none,
    .addTask (task [.note "second"]) none] ++ [.turn 0, .turn 0]

/-- The gate is opened, and the first of the ready have their turns. -/
def gateOpens (turns : Nat) : List Episode :=
  atOnce [.release "gate"] ++ List.replicate turns (.turn 0)

/-- The owner lets go while the first task waits at its gate. -/
def deserted : List Episode := atTheGate ++ atOnce [.dropWork]

/-- A call asks the worker to stop before the owner lets go. -/
def retired : List Episode := atTheGate ++ atOnce [.requestStop, .dropWork] ++ gateOpens 8

/-- One more episode comes after the others. -/
theorem through_concat (h : Home) (run : List Episode) (e : Episode) :
    h.through (run ++ [e]) = (h.through run).undergo e :=
  through_append h run [e]

/-- When the owner has let go, the first task ends, the second one is never started, and that is
reported once. If a call is open when the owner lets go, both tasks end and nothing is reported. -/
theorem ends_when_released_deserted :
    (((launched {} true).through deserted).usesWork = false ∧
      (((launched {} true).through deserted).through (gateOpens 4)).abandonings = 1 ∧
      (((launched {} true).through deserted).through (gateOpens 4)).log.filterMap Event.ended? =
        [1] ∧
      (((launched {} true).through deserted).through (gateOpens 4)).traces = [.note "first"]) ∧
    ((launched {} true).through retired).holdsWork = false ∧
      (((launched {} true).through retired).undergo (.turn 0)).abandonings = 0 ∧
      (((launched {} true).through retired).undergo (.turn 0)).log.filterMap Event.ended? =
        [1, 2] := by
  have inUse : ((launched {} true).through atTheGate).usesWork = true := by decide +kernel
  have released : ((launched {} true).through deserted).usesWork = false := by decide +kernel
  have alive : ((launched {} true).through deserted).work.isStopped = false := by decide +kernel
  have stopped : (((launched {} true).through deserted).through (gateOpens 4)).work.isStopped =
      true := by decide +kernel
  have idle : (((launched {} true).through deserted).through (gateOpens 4)).work.worker.isBusy =
      false := by decide +kernel
  have first : (((launched {} true).through deserted).log.filterMap Event.started?).map
      Task.Tag.id = [1] := by decide +kernel
  have traces : (((launched {} true).through deserted).through (gateOpens 4)).traces =
      [.note "first"] := by decide +kernel
  have once := ((ends_when_released {} true atTheGate).1 inUse).2.2.2 (.command .dropWork rfl)
    (gateOpens 4)
  dsimp only at once
  rw [← through_concat, show atTheGate ++ [.command .dropWork rfl] = deserted from rfl, alive,
    stopped] at once
  have winds := ((ends_when_released {} true deserted).2.2.1 released (gateOpens 4)).1
  have used : ((launched {} true).through retired).usesWork = true := by decide +kernel
  have left : ((launched {} true).through retired).holdsWork = false := by decide +kernel
  have works : ((launched {} true).through retired).work.isStopped = false := by decide +kernel
  have ends : (((launched {} true).through retired).undergo (.turn 0)).work.isStopped = true := by
    decide +kernel
  have two : ((((launched {} true).through retired).undergo (.turn 0)).log.filterMap
      Event.queued?).map Task.Tag.id = [1, 2] := by decide +kernel
  have asked := ((ends_when_released {} true retired).1 used).2.2.1 works (.turn 0) ends
  exact ⟨⟨released, (once released).2, (winds.ended idle).trans first, traces⟩, left,
    asked.silent, asked.ended.trans two⟩

end Home
end HomeMedia
