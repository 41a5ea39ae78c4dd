import HomeMedia.Proofs.Refresh.Rearming
import HomeMedia.Proofs.Work.Cancelling
/-!
# What is armed is subscribed

Four parts of a home server arm or disarm its schedule: whoever starts or stops it, whoever asks for
a fetch in place of the next scheduled one, the tick, and the end of a scheduled fetch, which may
come long after a stop. Each keeps what the schedule has written down equal to the list that the
timer keeps. The timer holds what is written down (`Front.Heard`), and no other subscription is the
schedule's (`Front.Sole`); with numbers that differ, the subscriptions of the schedule are the one
that is written down, if any (`armed_iff_subscribed`).

A schedule is armed only while it is started, and only if its service has an interval
(`Cycle.Calm`). What runs on behalf of an unscheduled fetch touches neither the schedule nor the
timer (`Undisturbed`), since only the end of a scheduled task arms.
-/

namespace HomeMedia

open Refresh (Cycle Schedule)

namespace Refresh.Cycle

variable {service : String} {timed : Bool} {mayAdd : Task → Prop} {label : Home.Deed.Label}
  {c d : Cycle}

/-- A schedule that is armed is started, and its service has an interval. -/
def Calm (timed : Bool) (c : Cycle) : Prop :=
  ∀ s, c.schedule = some s → s.armed.isSome = true → s.stopped = false ∧ timed = true

/-- Arming makes no difference to that. -/
theorem calm_arm {id : Option Timer.SubscriptionId} (given : id.isSome = timed) {s : Schedule}
    (calm : s.armed.isSome = true → s.stopped = false ∧ timed = true)
    (armed : (s.arm id).armed.isSome = true) : (s.arm id).stopped = false ∧ timed = true := by
  unfold Schedule.arm at armed ⊢
  split at armed
  · rename_i unfit
    rw [if_pos unfit]
    exact calm armed
  · rename_i fit
    rw [if_neg fit]
    rw [Bool.or_eq_true, not_or, Bool.not_eq_true] at fit
    exact ⟨fit.1, given.symm.trans armed⟩

/-- **Nothing arms a schedule that is stopped or has no interval.** -/
theorem Calm.step (calm : Calm timed c) (step : Step service timed mayAdd label c d) :
    Calm timed d := by
  cases step with
  | rest => exact calm
  | add label c may => exact calm
  | @finish c task rest first id given =>
    intro s found armed
    dsimp only at found
    split at found
    · obtain ⟨s, old, rfl⟩ := Option.map_eq_some_iff.1 found
      exact calm_arm given (calm s old) armed
    · exact calm s found armed
  | start c given =>
    intro s found armed
    obtain ⟨s, old, rfl⟩ := Option.map_eq_some_iff.1 found
    exact calm_arm given (fun before => ⟨rfl, (calm s old before).2⟩) armed
  | stop c =>
    intro s found armed
    obtain ⟨s, old, rfl⟩ := Option.map_eq_some_iff.1 found
    cases armed
  | refresh c =>
    intro s found armed
    obtain ⟨s, old, rfl⟩ := Option.map_eq_some_iff.1 found
    cases armed
  | tick before =>
    intro s found armed
    obtain ⟨s, old, rfl⟩ := Option.map_eq_some_iff.1 found
    cases armed
  | drop c => exact fun s found => by cases found

end Refresh.Cycle

namespace Home

open Front (InStep)

/-! ## The timer holds no other subscription of the schedule -/

/-- The subscriptions of a timer that belong to the schedule. -/
def refreshes (t : Timer.Source Subscriber) : List (Timer.Subscription Subscriber) :=
  t.subs.filter fun sub => sub.subscriber == .refresh

/-- A subscription of the schedule is the one that it has written down. -/
def Front.Sole (f : Front) : Prop :=
  ∀ s, f.schedule = some s → ∀ sub ∈ f.timer.subs, sub.subscriber = .refresh →
    s.armed = some sub.id

/-- Other parts may have gained subscriptions that are not the schedule's. -/
theorem Front.Sole.of_subs {f g : Front} (sole : f.Sole)
    (armed : ∀ s, g.schedule = some s → ∃ t, f.schedule = some t ∧ t.armed = s.armed)
    (subs : ∀ sub ∈ g.timer.subs, sub.subscriber = .refresh → sub ∈ f.timer.subs) : g.Sole := by
  intro s found sub held refreshes
  obtain ⟨t, old, same⟩ := armed s found
  exact same ▸ sole t old sub (subs sub held refreshes) refreshes

/-- What is written down is what the timer holds. -/
theorem Front.Heard.map_id_refreshes {f : Front} (heard : f.Heard) (sole : f.Sole)
    (numbered : f.timer.Numbered) {s : Schedule} (found : f.schedule = some s) :
    (refreshes f.timer).map Timer.Subscription.id = s.armed.toList := by
  have mine : ∀ sub ∈ refreshes f.timer, s.armed = some sub.id := fun sub mem =>
    sole s found sub (List.mem_filter.1 mem).1 (beq_iff_eq.1 (List.mem_filter.1 mem).2)
  cases armed : s.armed with
  | none =>
    refine List.map_eq_nil_iff.2 (List.eq_nil_iff_forall_not_mem.2 fun sub mem => ?_)
    cases armed.symm.trans (mine sub mem)
  | some id =>
    -- All of them have the same number, and no two have.
    obtain ⟨sub, held, rfl, own⟩ := heard s id found armed
    have there : sub ∈ refreshes f.timer := List.mem_filter.2 ⟨held, beq_iff_eq.2 own⟩
    have all : ∀ id ∈ (refreshes f.timer).map Timer.Subscription.id, id = sub.id := by
      intro id mem
      obtain ⟨other, own, rfl⟩ := List.mem_map.1 mem
      exact Option.some.inj ((mine other own).symm.trans armed)
    have nodup : ((refreshes f.timer).map Timer.Subscription.id).Nodup :=
      numbered.nodup.sublist (List.filter_sublist.map _)
    have some : sub.id ∈ (refreshes f.timer).map Timer.Subscription.id :=
      List.mem_map_of_mem there
    exact List.perm_singleton.1 ((List.perm_ext_iff_of_nodup nodup (List.nodup_singleton _)).2
      fun id => ⟨fun mem => List.mem_singleton.2 (all id mem),
        fun mem => List.mem_singleton.1 mem ▸ some⟩)

variable {ui : Settings.Ui} {h : Home}

/-- Looking at the timer leaves the schedule with no other subscription. -/
theorem checkTimer_sole (sole : h.front.Sole) : h.checkTimer.front.Sole := by
  unfold checkTimer
  cases found : h.registry with
  | none => exact sole
  | some r =>
    dsimp only
    cases r.timerNeed with
    | nothing => exact sole
    | subscribe =>
      refine sole.of_subs (g := Home.front _) (fun s found => ⟨s, found, rfl⟩) fun sub held own => ?_
      change sub ∈ (h.timer.subscribe .sweep r.sweepNanos).2.subs at held
      rw [Timer.Source.subs_subscribe] at held
      rcases List.mem_append.1 held with old | new
      · exact old
      · rw [List.mem_singleton.1 new] at own
        cases own
    | unsubscribe id =>
      refine sole.of_subs (g := Home.front _) (fun s found => ⟨s, found, rfl⟩) fun sub held _ => ?_
      change sub ∈ (h.timer.unsubscribe id).2.subs at held
      rw [Timer.Source.subs_unsubscribe] at held
      exact List.mem_of_mem_filter held

/-- So does all that sees to the timer. -/
theorem SeenTo.sole {g : Home} (seen : SeenTo h g) (sole : h.front.Sole) : g.front.Sole := by
  obtain ⟨registry, released, events, -, rfl | rfl⟩ := seen
  · exact sole
  · exact checkTimer_sole (h := { h with registry, released }) sole

/-- The new subscription is written down, and there was none before. -/
theorem arm_sole (sole : h.front.Sole) : h.arm.front.Sole := by
  rcases arm_cases h with same | ⟨schedule, nanos, before, -, free, -, armed⟩
  · exact same.symm ▸ sole
  · rw [armed]
    intro s found sub held own
    cases found
    change sub ∈ (h.timer.subscribe .refresh nanos).2.subs at held
    rw [Timer.Source.subs_subscribe] at held
    rcases List.mem_append.1 held with old | new
    · cases free.symm.trans (sole schedule before sub old own)
    · rw [List.mem_singleton.1 new]
      exact congrArg some (id_subscribe .refresh nanos h)

/-- The subscription that was written down is ended. -/
theorem disarm_sole (sole : h.front.Sole) : h.disarm.front.Sole := by
  rcases disarm_cases h with same | ⟨id, stopped, before, disarmed⟩
  · exact same.symm ▸ sole
  · rw [disarmed]
    intro s found sub held own
    change sub ∈ (h.timer.unsubscribe id).2.subs at held
    rw [Timer.Source.subs_unsubscribe] at held
    obtain ⟨old, other⟩ := List.mem_filter.1 held
    have same := sole _ before sub old own
    exact absurd (Option.some.inj same).symm (bne_iff_ne.1 other)

/-- A tick comes from the timer as it was. -/
theorem beat_sole (sole : h.front.Sole) (id : Timer.SubscriptionId) :
    Front.Sole { h.front with timer := (h.timer.beat h.nanos h.isAlive id).2 } := by
  refine sole.of_subs (fun s found => ⟨s, found, rfl⟩) fun sub held _ => ?_
  change sub ∈ (h.timer.beat h.nanos h.isAlive id).2.subs at held
  rcases Timer.Source.subs_beat h.timer h.nanos h.isAlive id with same | ⟨_, _, _, _, taken⟩
  · exact same ▸ held
  · rw [taken] at held
    exact List.mem_of_mem_filter held

/-- **A step to the front leaves the schedule with no other subscription**: one that is made is
written down in the place of one that is ended. -/
theorem step_sole {f g : Front} (sole : f.Sole) (step : Front.Step f g) : g.Sole := by
  cases step with
  | beat h id => exact beat_sole sole id
  | sweep h now => exact (SeenTo.sweep now h).sole sole
  | checkTimer h => exact checkTimer_sole sole
  | arm h => exact arm_sole sole
  | disarm h => exact disarm_sole sole
  | setStopped h stopped =>
    refine sole.of_subs (fun s found => ?_) fun _ held _ => held
    obtain ⟨t, old, rfl⟩ := Option.map_eq_some_iff.1 found
    exact ⟨t, old, rfl⟩
  | dropSchedule h => exact fun s found => by cases found
  | announce h ids => exact sole
  | leave h trace quiet => exact sole

/-- So does every move. -/
theorem move_sole {label : Front.Label} {f g : Front} (sole : f.Sole)
    (move : Front.Move label f g) : g.Sole := by
  cases move with
  | turn step => exact step_sole sole step
  | create h timeout => exact (SeenTo.createSession timeout h).sole sole
  | remove h id => exact (SeenTo.removeSession id h).sole sole
  | shutDown h =>
    refine sole.of_subs (fun s found => ⟨s, found, rfl⟩) fun sub held _ => ?_
    change sub ∈ h.timer.shutDown.subs at held
    change sub ∈ h.timer.subs
    cases timer : h.timer with
    | manual t => rwa [timer] at held
    | interval t =>
      rw [timer] at held
      cases held
  | _ => exact sole

/-- So does everything that happens to a home server. -/
theorem next_sole (sole : h.front.Sole) (happening : Happening) :
    (h.next happening).front.Sole :=
  (next_moves happening h).keep (fun _ _ _ _ move sole => move_sole sole move) sole

/-! ## Unscheduled tasks -/

/-- The timer and the schedule are as they were. -/
structure Undisturbed (h g : Home) : Prop where
  /-- The timer is the same. -/
  timer : g.timer = h.timer
  /-- The schedule is the same. -/
  schedule : g.schedule = h.schedule

/-- What leaves timer and schedule alone twice leaves them alone. -/
theorem Undisturbed.trans {g k : Home} (a : Undisturbed h g) (b : Undisturbed g k) :
    Undisturbed h k :=
  ⟨b.timer.trans a.timer, b.schedule.trans a.schedule⟩

/-- Nothing backstage reaches the timer or the schedule. -/
theorem Backstage.undisturbed {g : Home} (backstage : Backstage h g) : Undisturbed h g := by
  obtain ⟨work, loop, openGates, log, rfl⟩ := backstage
  exact ⟨rfl, rfl⟩

/-- Telling the sessions leaves timer and schedule alone. -/
theorem announceAny_undisturbed (ids : Option (List ObjectId)) (h : Home) :
    Undisturbed h (h.announceAny ids) := by
  cases ids <;> exact ⟨rfl, rfl⟩

section Unscheduled

variable (unscheduled : ∀ e, h.work.current = some e → e.scheduled = false)
include unscheduled

/-- Only the end of a scheduled task arms the schedule. -/
theorem finish_undisturbed (outcome : Except Task.Error Task.Outcome) :
    Undisturbed h (h.finish outcome) := by
  rcases finish_cases outcome h with ⟨-, same⟩ | ⟨e, _, current, ⟨own, -⟩ | ⟨-, rfl⟩, ended⟩
  · exact same.symm ▸ ⟨rfl, rfl⟩
  · cases (unscheduled e current).symm.trans own
  · rw [ended]
    exact ⟨rfl, rfl⟩

/-- A scan leaves timer and schedule alone, if the task that asks for it is unscheduled. -/
theorem scan_undisturbed (path : Path) : Undisturbed h (h.scan path) := by
  unfold scan
  dsimp only
  generalize Rescan.run (libraryStore h.work.isValid) h.files true path h.library = r
  have told := announceAny_undisturbed r.announced
    (({ h with library := r.store } : Home).report r.events)
  refine Undisturbed.trans ⟨told.timer, told.schedule⟩ (finish_undisturbed ?_ _)
  rw [announceAny_work]
  exact unscheduled

/-- So does the end of a fetch: only a scheduled one arms the schedule again. -/
theorem conclude_undisturbed (answer : Except Task.Error (List ObjectId)) :
    Undisturbed h (h.conclude answer) := by
  unfold conclude
  dsimp only
  generalize Refresh.conclude h.service.name h.work.isValid answer = c
  have told := announceAny_undisturbed c.announced h
  have reported : Undisturbed h ((h.announceAny c.announced).report c.events) :=
    ⟨told.timer, told.schedule⟩
  refine reported.trans (finish_undisturbed ?_ _)
  change ∀ e, (h.announceAny c.announced).work.current = some e → e.scheduled = false
  rw [announceAny_work]
  exact unscheduled

/-- **No step of an unscheduled task touches the timer or the schedule.** -/
theorem step_undisturbed (e : Work.Entry) (rest : List Task.Action) (action : Task.Action) :
    Undisturbed h (h.step e rest action) := by
  have goesOn : ∀ {g : Home}, Undisturbed h g → Undisturbed h (g.continueWith rest) := fun same =>
    ⟨same.timer, same.schedule⟩
  have leaves : ∀ {g : Home} (trace : Trace), Undisturbed h g →
      Undisturbed h ((g.leave trace).continueWith rest) := fun _ same =>
    ⟨same.timer, same.schedule⟩
  have same : Undisturbed h h := ⟨rfl, rfl⟩
  have ends := finish_undisturbed unscheduled
  cases action with
  | check =>
    unfold step
    dsimp only
    split
    · exact goesOn same
    · exact ends _
  | note text => exact leaves _ same
  | noteValidity => exact leaves _ same
  | sleep ms =>
    unfold step
    dsimp only
    split <;> exact ⟨rfl, rfl⟩
  | await gate =>
    unfold step
    dsimp only
    split <;> exact ⟨rfl, rfl⟩
  | fail error => exact ends _
  | panic payload => exact ends _
  | spawn header body =>
    unfold step
    dsimp only
    split
    · exact leaves _ (Backstage.addTask _ _ h).undisturbed
    · exact ends _
  | add header body =>
    unfold step
    dsimp only
    split
    · exact leaves _ (Backstage.addTask _ _ h).undisturbed
    · exact ends _
  | invalidate id =>
    unfold step
    dsimp only
    split
    · exact leaves _ (Backstage.invalidate _ h).undisturbed
    · exact ends _
  | giveUp => exact ends _
  | rescan path => exact scan_undisturbed unscheduled path
  | fetch =>
    unfold step
    dsimp only
    split
    · exact ⟨rfl, rfl⟩
    · exact ends _
  | interrupt => exact goesOn ⟨rfl, rfl⟩
  | conclude answer => exact conclude_undisturbed unscheduled answer

/-- **A turn of the worker leaves timer and schedule alone**, unless its task is scheduled. -/
theorem pollWorker_undisturbed : Undisturbed h h.pollWorker := by
  unfold pollWorker
  split
  · exact (Backstage.look h).undisturbed
  · split
    · exact finish_undisturbed unscheduled _
    · exact step_undisturbed unscheduled _ _ _
    · exact ⟨rfl, rfl⟩
  · exact ⟨rfl, rfl⟩
  · exact ⟨rfl, rfl⟩

end Unscheduled

/-- The number of an unscheduled fetch stays that of a task that is not scheduled. -/
theorem unscheduled_after (o : h.ledger.Ordered) (run : List Happening) :
    ∀ e ∈ ((h.refreshNow true).2.after run).work.entries, e.id = (h.refreshNow true).1 →
      e.scheduled = false := by
  let number := h.work.added + 1
  have entries : (h.refreshNow true).2.work.entries = h.work.entries ++
      [{ Refresh.fetchTask h.service.name false with id := number, parent := none }] := by
    change (Work.notify _).2.entries = _
    rw [Work.notify_eq]
    exact (List.append_assoc ..).symm
  have lasting : (h.refreshNow true).2.ledger.Lasting number
      fun e => e.id = number → e.scheduled = false := by
    refine ⟨Nat.le_of_eq ?_, fun e mem _ same => ?_⟩
    · change number = (Work.notify _).2.added
      rw [Work.notify_eq]
      rfl
    · change e ∈ (h.refreshNow true).2.work.entries at mem
      rw [entries] at mem
      rcases List.mem_append.1 mem with old | new
      · exact absurd (same ▸ o.id_le old) (Nat.not_succ_le_self _)
      · rw [List.mem_singleton.1 new]
        rfl
  have stable : ∀ old e : Work.Entry, old.Ages e → (old.id = number → old.scheduled = false) →
      e.id = number → e.scheduled = false := by
    rintro old e (rfl | rfl) before same
    · exact before same
    · exact before same
  have later := lasting_after stable lasting run
  intro e mem same
  exact later.holds e mem (Nat.le_of_eq same) same

/-- A fetch that is queued stands at the end, under the number that is answered. -/
theorem exists_queueFetch (scheduled : Bool) (h : Home) :
    ∃ e, e.id = (h.queueFetch scheduled).1 ∧
      e.toTask = Refresh.fetchTask h.service.name scheduled ∧
      (h.queueFetch scheduled).2.work.queue = h.work.queue ++ [e] :=
  ⟨_, rfl, rfl, queue_addTask _ none h⟩

/-! ## Runs -/

/-- The report of a server that has just come up is in order. -/
theorem fresh_ordered (h : Home) (keepsTime : Bool) (ui : Settings.Ui)
    (ids : Session.Candidates) :
    (fresh { h with work := {}, log := [] } keepsTime ui ids).ledger.Ordered := by
  have quiet : (ui.conflict?.toList.map Event.settingsRaised).filter Event.ofTask = [] := by
    cases ui.conflict? <;> rfl
  change (Home.report _ _).ledger.Ordered
  rw [ledger_report_of_quiet quiet]
  exact ordered_new h

/-- Its timer holds no subscription of the schedule but the one that is written down. -/
theorem fresh_sole (h : Home) (keepsTime : Bool) (ui : Settings.Ui) (ids : Session.Candidates) :
    (h.fresh keepsTime ui ids).front.Sole := by
  intro s found sub held
  cases keepsTime <;> cases held

/-- A service has an interval if one is set and it is not zero. -/
theorem isSome_period?_iff (service : Refresh.Service) :
    service.period?.isSome = true ↔ ∃ nanos, service.interval = some nanos ∧ nanos ≠ 0 := by
  rw [Refresh.Service.period?, Option.isSome_filter]
  cases service.interval <;> simp

/-- A schedule that is calm is calm after any run, under the same service. -/
theorem calm_after {service : String} {timed : Bool} {h : Home} (consults : h.Consults service timed)
    (calm : h.cycle.Calm timed) (run : List Happening) :
    (h.after run).Consults service timed ∧ (h.after run).cycle.Calm timed :=
  after_of_next (P := fun g => g.Consults service timed ∧ g.cycle.Calm timed)
    (fun _ _ _ kept => next_cycle (fun _ _ _ _ step calm => calm.step step) kept) ⟨consults, calm⟩

section Moments

variable {service : String} {timed : Bool} {h : Home} {s : Schedule}

/-- Nothing but a start arms a schedule that is stopped. -/
theorem armed_after_eq_none (consults : h.Consults service timed) (calm : h.cycle.Calm timed)
    (stopped : h.cycle.Is true) {run : List Happening}
    (last : (run.filterMap Happening.switch?).getLast? ≠ some true)
    (found : (h.after run).schedule = some s) : s.armed = none := by
  have later : (h.after run).cycle.Is true := by
    cases none : (run.filterMap Happening.switch?).getLast? with
    | none => exact is_after_of_no_switch consults stopped (List.getLast?_eq_none_iff.1 none)
    | some started =>
      cases started with
      | true => exact absurd none last
      | false => exact (is_after_of_switch consults none).2
  refine Option.not_isSome_iff_eq_none.1 fun armed => ?_
  have started := ((calm_after consults calm run).2 s found armed).1
  cases (later s found).symm.trans started

/-- A start arms a schedule whose service has an interval, and no other one. -/
theorem startSchedule_eq_true_iff (consults : h.Consults service timed)
    (calm : h.cycle.Calm timed) (found : h.schedule = some s) :
    h.startSchedule.1 = true ↔ timed = true := by
  obtain ⟨id, given, cycle⟩ := exists_cycle_startSchedule h
  replace given := given.trans consults.timed
  have after : h.startSchedule.2.schedule = some ((s.setStopped false).arm id) := by
    rw [show h.startSchedule.2.schedule = _ from congrArg Cycle.schedule cycle, found]
    rfl
  change (h.startSchedule.2.schedule.bind Schedule.armed).isSome = true ↔ _
  rw [after]
  constructor
  · intro armed
    exact (Cycle.calm_arm (s := s.setStopped false) given
      (fun before => ⟨rfl, (calm s found before).2⟩) armed).2
  · intro has
    exact Schedule.isSome_armed_arm (given.trans has) rfl

/-- A tick for a schedule that is not armed does nothing. -/
theorem tick_of_free (found : h.schedule = some s) (free : s.armed = none) :
    h.tick .refresh = h := by
  simp [tick, found, free]

/-- A tick disarms the schedule and queues a fetch. -/
theorem tick_of_armed (found : h.schedule = some s) (armed : s.armed.isSome = true) :
    (h.tick .refresh).schedule = some { s with armed := none } ∧
      ∃ e, e.toTask = Refresh.fetchTask h.service.name true ∧
        (h.tick .refresh).work.queue = h.work.queue ++ [e] := by
  have ticked : h.tick .refresh = (h.disarm.queueFetch true).2 := by
    simp [tick, found, armed]
  obtain ⟨e, -, fetch, queue⟩ := exists_queueFetch true h.disarm
  rw [service_disarm] at fetch
  rw [work_disarm] at queue
  rw [ticked]
  refine ⟨?_, e, fetch, queue⟩
  change h.disarm.cycle.schedule = _
  rw [cycle_disarm, found]
  rfl

end Moments

/-- **What is armed is subscribed.**  At every moment of a run that begins with a new schedule, a
new queue and no log, if the timer was not shut down, and as long as the schedule exists: the
subscriptions of the timer that are the schedule's are the one that it has written down, if it is
armed, and none otherwise. It is not armed unless it was started and not stopped since then,
whatever fetches end meanwhile. Starting it arms it iff its service has an interval other than zero.
A tick changes nothing while it is not armed, and queues one fetch and disarms it otherwise. An
unscheduled fetch gets a number, and every turn of the worker in which no other task than that one
is the current one leaves the timer and the schedule as they are, whatever happened since it was
queued. -/
theorem armed_iff_subscribed (h₀ : Home) (keepsTime : Bool) (ui : Settings.Ui)
    (ids : Session.Candidates) (run : List Happening) (up : .command .shutDownTimer ∉ run) :
    let h := (fresh { h₀ with work := {}, log := [] } keepsTime ui ids).after run
    ∀ s, h.schedule = some s →
      (refreshes h.timer).map Timer.Subscription.id = s.armed.toList ∧
      ((run.filterMap Happening.switch?).getLast? ≠ some true → s.armed = none) ∧
      (h.startSchedule.1 = true ↔ ∃ nanos, h₀.service.interval = some nanos ∧ nanos ≠ 0) ∧
      (s.armed = none → h.tick .refresh = h) ∧
      (s.armed.isSome = true → (h.tick .refresh).schedule = some { s with armed := none } ∧
        ∃ e, e.toTask = Refresh.fetchTask h₀.service.name true ∧
          (h.tick .refresh).work.queue = h.work.queue ++ [e]) ∧
      let number := (h.refreshNow true).1
      let g := (h.refreshNow true).2
      (∃ e, e.id = number ∧ e.toTask = Refresh.fetchTask h₀.service.name false ∧
        g.work.queue = h.work.queue ++ [e]) ∧
      g.timer = h.timer ∧ g.schedule = h.schedule ∧
      ∀ later, let k := g.after later
        (∀ e, k.work.current = some e → e.id = number) →
          (k.next (.turn .worker)).timer = k.timer ∧
            (k.next (.turn .worker)).schedule = k.schedule := by
  intro h s found
  have begun := fresh_inStep { h₀ with work := {}, log := [] } keepsTime ui ids
  have kept := after_of_next (P := fun g => (InStep ui g.front ∧ g.front.Heard) ∧ g.front.Sole)
    (fun happening mem g kept =>
      ⟨next_heard kept.1.1 kept.1.2 happening fun same => up (same ▸ mem),
        next_sole kept.2 happening⟩)
    ⟨⟨begun, fresh_heard _ keepsTime ui ids⟩, fresh_sole _ keepsTime ui ids⟩
  have consults : (fresh { h₀ with work := {}, log := [] } keepsTime ui ids).Consults
      h₀.service.name h₀.service.period?.isSome := ⟨rfl, rfl⟩
  have stopped : (fresh { h₀ with work := {}, log := [] } keepsTime ui ids).cycle.Is true :=
    fun s found => by cases found; rfl
  have free : (fresh { h₀ with work := {}, log := [] } keepsTime ui ids).cycle.Calm
      h₀.service.period?.isSome := fun s found armed => by cases found; cases armed
  have calm := calm_after consults free run
  have o : h.ledger.Ordered := ordered_after (fresh_ordered h₀ keepsTime ui ids) run
  have name : h.service.name = h₀.service.name := calm.1.name
  refine ⟨kept.1.2.map_id_refreshes kept.2 kept.1.1.numbered found,
    fun last => armed_after_eq_none consults free stopped last found, ?_, tick_of_free found,
    fun armed => name ▸ tick_of_armed found armed, ?_, rfl, rfl, fun later alone => ?_⟩
  · rw [← isSome_period?_iff]
    exact startSchedule_eq_true_iff calm.1 calm.2 found
  · obtain ⟨e, id, fetch, queue⟩ := exists_queueFetch false h
    exact ⟨e, id, fetch.trans (congrArg (Refresh.fetchTask · false) name), queue⟩
  · have kept : Undisturbed ((h.refreshNow true).2.after later)
        ((h.refreshNow true).2.after later).pollWorker :=
      pollWorker_undisturbed fun e current =>
        unscheduled_after o later e (Work.mem_entries.2 (.inl current)) (alone e current)
    exact ⟨kept.timer, kept.schedule⟩

/-- A schedule that was started and got a tick is not armed, and the timer has no subscription of
its. -/
theorem armed_iff_subscribed_tick :
    let radio : Home := { service := { name := "radio", interval := some Duration.second } }
    let run : List Happening := [.command .startSchedule, .command .fire]
    let h := (fresh { radio with work := {}, log := [] } false {} (.scripted [])).after run
    ∃ s, h.schedule = some s ∧ s.armed.toList = [] ∧
      (refreshes h.timer).map Timer.Subscription.id = s.armed.toList := by
  intro radio run h
  refine ⟨_, rfl, rfl, ?_⟩
  exact (armed_iff_subscribed radio false {} (.scripted []) run (by simp [run]) _ rfl).1

end Home
end HomeMedia
