import HomeMedia.Proofs.Refresh.Cycle
import HomeMedia.Proofs.Session.Sweeping
/-!
# A started schedule never goes dead

While a schedule is started something is going to happen to it: it is armed, or one of its fetches
runs or waits (`Cycle.Alive`). Every step of the cycle passes this on. A tick and a request for a
fetch disarm the schedule and queue a fetch; a fetch arms the schedule when it ends, however it
ends; and starting arms it, whatever is on its way. Tasks that others add, cancel or fail make no
difference.

To be armed is more than a number in a record: the timer holds the subscription with that number
(`Front.Heard`), unless it is shut down. The registry of sessions uses the same timer, and ends only
its own subscription.
-/

namespace HomeMedia

open Refresh (Cycle Schedule)

namespace Refresh.Cycle

variable {service : String} {timed : Bool} {mayAdd : Task → Prop} {label : Home.Deed.Label}
  {c d : Cycle}

/-- While the schedule is started, it is armed or one of its fetches runs or waits. -/
def Alive (service : String) (c : Cycle) : Prop :=
  ∀ s, c.schedule = some s → s.stopped = false →
    s.armed.isSome = true ∨ fetchTask service true ∈ c.pending

/-- The schedule is started or stopped. -/
def Is (stopped : Bool) (c : Cycle) : Prop := ∀ s, c.schedule = some s → s.stopped = stopped

/-- **The token is passed on.** -/
theorem Alive.step (alive : Alive service c)
    (step : Step service true mayAdd label c d) : Alive service d := by
  have arms : ∀ {id : Option Timer.SubscriptionId} {s : Schedule}, id.isSome = true →
      (s.arm id).stopped = false → (s.arm id).armed.isSome = true := fun given started =>
    Schedule.isSome_armed_arm given (Schedule.stopped_arm _ _ ▸ started)
  cases step with
  | rest => exact alive
  | add label c may =>
    intro s found started
    exact (alive s found started).imp_right (List.mem_append_left _)
  | @finish c task rest first id given =>
    intro s found started
    cases scheduled : task.scheduled with
    | true =>
      rw [scheduled, if_pos rfl] at found
      obtain ⟨s, -, rfl⟩ := Option.map_eq_some_iff.1 found
      exact .inl (arms given started)
    | false =>
      rw [scheduled] at found
      refine (alive s found started).imp_right fun mem => ?_
      rw [first] at mem
      rcases List.mem_cons.1 mem with rfl | mem
      · cases scheduled
      · exact mem
  | start c given =>
    intro s found started
    obtain ⟨s, -, rfl⟩ := Option.map_eq_some_iff.1 found
    exact .inl (arms given started)
  | stop c =>
    intro s found started
    obtain ⟨s, -, rfl⟩ := Option.map_eq_some_iff.1 found
    cases started
  | refresh c => exact fun _ _ _ => .inr (List.mem_append_right _ (List.mem_singleton_self _))
  | tick armed => exact fun _ _ _ => .inr (List.mem_append_right _ (List.mem_singleton_self _))
  | drop c => exact fun s found => by cases found

/-- Only starting and stopping change whether the schedule is started. -/
theorem Is.step {stopped : Bool} (is : Is stopped c) (step : Step service timed mayAdd label c d)
    (others : label ≠ .start ∧ label ≠ .stop) : Is stopped d := by
  cases step with
  | rest => exact is
  | add label c may => exact is
  | @finish c task rest first id given =>
    intro s found
    dsimp only at found
    split at found
    · obtain ⟨s, old, rfl⟩ := Option.map_eq_some_iff.1 found
      exact (Schedule.stopped_arm id s).trans (is s old)
    · exact is s found
  | start c given => exact absurd rfl others.1
  | stop c => exact absurd rfl others.2
  | refresh c =>
    intro s found
    obtain ⟨s, old, rfl⟩ := Option.map_eq_some_iff.1 found
    exact is s old
  | tick armed =>
    intro s found
    obtain ⟨s, old, rfl⟩ := Option.map_eq_some_iff.1 found
    exact is s old
  | drop c => exact fun s found => by cases found

end Refresh.Cycle

namespace Home

open Front (Wired InStep)

/-! ## The subscription of the schedule -/

/-- The timer holds the subscription that the schedule has written down. -/
def Front.Heard (f : Front) : Prop :=
  ∀ s id, f.schedule = some s → s.armed = some id →
    ∃ sub ∈ f.timer.subs, sub.id = id ∧ sub.subscriber = .refresh

/-- Other parts may have gained or lost subscriptions of the registry. -/
theorem Front.Heard.of_subs {f g : Front} (heard : f.Heard)
    (armed : ∀ s id, g.schedule = some s → s.armed = some id →
      ∃ t, f.schedule = some t ∧ t.armed = some id)
    (subs : ∀ sub ∈ f.timer.subs, sub.subscriber = .refresh → g.schedule.isSome = true →
      sub ∈ g.timer.subs) : g.Heard := by
  intro s id found hid
  obtain ⟨t, old, htid⟩ := armed s id found hid
  obtain ⟨sub, held, same, refreshes⟩ := heard t id old htid
  exact ⟨sub, subs sub held refreshes (Option.isSome_of_eq_some found), same, refreshes⟩

variable {ui : Settings.Ui} {h : Home}

/-- The registry ends its own subscription only. -/
theorem checkTimer_heard (w : Wired ui h.front) (heard : h.front.Heard) :
    h.checkTimer.front.Heard := by
  unfold checkTimer
  cases found : h.registry with
  | none => exact heard
  | some r =>
    dsimp only
    rcases timerNeed_cases r with ⟨need, -⟩ | ⟨need, -, -⟩ | ⟨id, need, present, -⟩ <;> rw [need]
    · exact heard
    · refine heard.of_subs (g := Home.front _) (fun s id found hid => ⟨s, found, hid⟩)
        fun sub held _ _ => ?_
      change sub ∈ (h.timer.subscribe .sweep r.sweepNanos).2.subs
      rw [Timer.Source.subs_subscribe]
      exact List.mem_append_left _ held
    · refine heard.of_subs (g := Home.front _) (fun s id found hid => ⟨s, found, hid⟩)
        fun sub held refreshes _ => ?_
      change sub ∈ (h.timer.unsubscribe id).2.subs
      rw [Timer.Source.subs_unsubscribe]
      refine List.mem_filter.2 ⟨held, bne_iff_ne.2 fun same => ?_⟩
      -- The number written down in the registry belongs to a subscription of the registry.
      have swept : sweepOf ui id ∈ sweeps h.timer := by
        rw [show sweeps h.timer = _ from w.swept r found, present]
        exact List.mem_singleton_self _
      have other := w.numbered.eq_of_id held (List.mem_of_mem_filter swept) same
      rw [other] at refreshes
      cases refreshes

/-- Creating a session leaves the timer with the subscription of the schedule. -/
theorem createSession_heard (s : InStep ui h.front) (heard : h.front.Heard) (timeout : Nat) :
    (h.createSession timeout).2.front.Heard := by
  unfold createSession
  split
  · exact heard
  · rename_i r found
    have tidy := s.tidy r found
    rcases r.create_cases timeout h.now with
      ⟨cause, candidates, drawn⟩ | ⟨t, candidates, drawn, free, -⟩ <;> rw [drawn]
    · exact heard
    · have tidy := tidy.concat free
      exact checkTimer_heard (h := { h with registry := _, released := _ })
        (s.toWired.withRegistry found ⟨tidy.nodup, tidy.counted⟩ rfl rfl) heard

/-- So does removing one: what is then unsubscribed is somebody else's. -/
theorem removeSession_heard (s : InStep ui h.front) (heard : h.front.Heard) (id : String) :
    (h.removeSession id).2.front.Heard := by
  unfold removeSession
  split
  · exact heard
  · rename_i t present
    obtain ⟨r, found, -⟩ := Option.bind_eq_some_iff.1 present
    have removed : Wired ui (({ h with released := h.released ++ [t] } : Home).onRegistry
        fun r => r.remove id).front := by
      change Wired ui { h.front with registry := h.registry.map _ }
      rw [found]
      exact s.toWired.withRegistry found ((s.tidy r found).remove id) rfl rfl
    exact checkTimer_heard removed heard

/-- So does a sweep. -/
theorem sweep_heard (s : InStep ui h.front) (heard : h.front.Heard) (now : Int) :
    (h.sweep now).2.front.Heard := by
  unfold sweep
  split
  · exact heard
  · rename_i r found
    exact checkTimer_heard (h := { h with registry := _, released := _ })
      (s.toWired.withRegistry found ((s.tidy r found).sweep now) rfl rfl) heard

/-- A schedule that is armed writes down what the timer then holds. -/
theorem arm_heard (heard : h.front.Heard) : h.arm.front.Heard := by
  rcases arm_cases h with same | ⟨schedule, nanos, -, -, -, -, armed⟩
  · exact same.symm ▸ heard
  · rw [armed]
    intro s id found hid
    cases found
    cases hid
    refine ⟨⟨h.timer.created + 1, .refresh, h.timer.granted nanos⟩, ?_, ?_, rfl⟩
    · change _ ∈ (h.timer.subscribe .refresh nanos).2.subs
      rw [Timer.Source.subs_subscribe]
      exact List.mem_append_right _ (List.mem_singleton_self _)
    · exact (id_subscribe .refresh nanos h).symm

/-- One that is disarmed writes down nothing. -/
theorem disarm_heard (heard : h.front.Heard) : h.disarm.front.Heard := by
  rcases disarm_cases h with same | ⟨id, stopped, -, disarmed⟩
  · exact same.symm ▸ heard
  · rw [disarmed]
    intro s id found hid
    cases found
    cases hid

/-- The pulse of a schedule that exists goes on. -/
theorem beat_heard (s : InStep ui h.front) (heard : h.front.Heard) (id : Timer.SubscriptionId) :
    Front.Heard { h.front with timer := (h.timer.beat h.nanos h.isAlive id).2 } := by
  refine heard.of_subs (fun s id found hid => ⟨s, found, hid⟩) fun sub held refreshes present => ?_
  change sub ∈ (h.timer.beat h.nanos h.isAlive id).2.subs
  rcases Timer.Source.subs_beat h.timer h.nanos h.isAlive id with
    same | ⟨gone, wasHeld, hid, dead, taken⟩
  · rw [same]
    exact held
  · rw [taken]
    refine List.mem_filter.2 ⟨held, bne_iff_ne.2 fun same => ?_⟩
    rw [← s.numbered.eq_of_id held wasHeld (same.trans hid.symm), refreshes] at dead
    exact Bool.false_ne_true (dead.symm.trans present)

/-- **No step to the front loses the subscription of the schedule.** -/
theorem step_heard {f g : Front} (s : InStep ui f) (heard : f.Heard) (step : Front.Step f g) :
    g.Heard := by
  cases step with
  | beat h id => exact beat_heard s heard id
  | sweep h now => exact sweep_heard s heard now
  | checkTimer h => exact checkTimer_heard s.toWired heard
  | arm h => exact arm_heard heard
  | disarm h => exact disarm_heard heard
  | setStopped h stopped =>
    refine heard.of_subs (fun s id found hid => ?_) fun _ held _ _ => held
    obtain ⟨t, old, rfl⟩ := Option.map_eq_some_iff.1 found
    exact ⟨t, old, hid⟩
  | dropSchedule h => exact fun s id found => by cases found
  | announce h ids => exact heard
  | leave h trace quiet => exact heard

/-- Neither does a move, unless it shuts the timer down. -/
theorem move_heard {label : Front.Label} {f g : Front} (s : InStep ui f) (heard : f.Heard)
    (move : Front.Move label f g) (up : label ≠ .shutDown) : g.Heard := by
  cases move with
  | turn step => exact step_heard s heard step
  | create h timeout => exact createSession_heard s heard timeout
  | remove h id => exact removeSession_heard s heard id
  | shutDown h => exact absurd rfl up
  | _ => exact heard

/-- As long as the timer runs, it holds the subscription of the schedule. -/
theorem next_heard (s : InStep ui h.front) (heard : h.front.Heard) (happening : Happening)
    (up : happening ≠ .command .shutDownTimer) :
    InStep ui (h.next happening).front ∧ (h.next happening).front.Heard :=
  (next_moves happening h).keep (P := fun f => InStep ui f ∧ f.Heard)
    (fun label f g ok move kept =>
      have up : label ≠ .shutDown := fun down => by
        subst down
        exact up ok
      ⟨move_inStep kept.1 move up, move_heard kept.1 kept.2 move up⟩) ⟨s, heard⟩

/-! ## Runs -/

/-- Whether a happening starts the schedule or stops it. -/
def Happening.switch? : Happening → Option Bool
  | .command .startSchedule => some true
  | .command .stopSchedule => some false
  | _ => none

/-- A server with a new timer, a new registry and a new schedule. -/
def fresh (h : Home) (keepsTime : Bool) (ui : Settings.Ui) (ids : Session.Candidates) : Home :=
  ({ h with schedule := some {} }).opened keepsTime ui ids

variable {service : String} {timed : Bool}

/-- Starting or stopping a schedule decides what it is until the next time. -/
theorem is_next_of_switch {stopped : Bool} {happening : Happening}
    (switched : happening.switch? = some !stopped) (h : Home) :
    (h.next happening).cycle.Is stopped := by
  have asked : happening = .command .startSchedule ∧ stopped = false ∨
      happening = .command .stopSchedule ∧ stopped = true := by
    unfold Happening.switch? at switched
    split at switched
    · exact .inl ⟨rfl, by simpa using switched⟩
    · exact .inr ⟨rfl, by simpa using switched⟩
    · cases switched
  cases present : h.schedule with
  | none =>
    have gone : h.next happening = h := by
      rcases asked with ⟨rfl, -⟩ | ⟨rfl, -⟩ <;> simp [next, act, ofSchedule, present]
    rw [gone]
    intro s found
    cases present.symm.trans found
  | some t =>
    rcases asked with ⟨rfl, rfl⟩ | ⟨rfl, rfl⟩
    · have started : h.next (.command .startSchedule) = h.startSchedule.2 := by
        simp [next, act, ofSchedule, present]
      obtain ⟨id, -, cycle⟩ := exists_cycle_startSchedule h
      rw [started, cycle]
      intro s found
      obtain ⟨s, -, rfl⟩ := Option.map_eq_some_iff.1 found
      exact Schedule.stopped_arm id _
    · have stopped : h.next (.command .stopSchedule) = h.stopSchedule := by
        simp [next, act, ofSchedule, present]
      rw [stopped, cycle_stopSchedule]
      intro s found
      obtain ⟨s, -, rfl⟩ := Option.map_eq_some_iff.1 found
      rfl

/-- Nothing else decides that. -/
theorem is_next_of_other {stopped : Bool} {happening : Happening}
    (other : happening.switch? = none) {h : Home}
    (start : h.Consults service timed ∧ h.cycle.Is stopped) :
    (h.next happening).Consults service timed ∧ (h.next happening).cycle.Is stopped := by
  refine next_cycle (fun label c d ok step is => is.step step ?_) start
  constructor <;> rintro rfl
  all_goals
    cases happening with
    | command asked => cases ok; cases other
    | turn agent => cases agent <;> simp [Happening.Permits, Agent.Permits] at ok
    | reloop loop => exact ok

/-- A schedule is what it was last made. -/
theorem is_after_of_switch {stopped : Bool} {h : Home} (consults : h.Consults service timed)
    {run : List Happening} (last : (run.filterMap Happening.switch?).getLast? = some !stopped) :
    (h.after run).Consults service timed ∧ (h.after run).cycle.Is stopped := by
  induction run using List.reverseRecOn with
  | nil => cases last
  | append_singleton run happening ih =>
    have consulted : (h.after run).Consults service timed := (after_of_next
      (P := fun g => g.Consults service timed ∧ True) (fun happening _ g kept =>
        next_cycle (P := fun _ => True) (fun _ _ _ _ _ kept => kept) kept) ⟨consults, trivial⟩).1
    rw [after_concat]
    rw [List.filterMap_append] at last
    cases switched : happening.switch? with
    | some started =>
      rw [List.filterMap_cons_some switched, List.filterMap_nil, List.getLast?_concat] at last
      rw [Option.some.inj last] at switched
      exact ⟨(next_cycle (P := fun _ => True) (fun _ _ _ _ _ kept => kept) ⟨consulted, trivial⟩).1,
        is_next_of_switch switched _⟩
    | none =>
      rw [List.filterMap_cons_none switched, List.filterMap_nil, List.append_nil] at last
      exact is_next_of_other switched (ih last)

/-- As long as it was made nothing else, it is what it was. -/
theorem is_after_of_no_switch {stopped : Bool} {h : Home} (consults : h.Consults service timed)
    (is : h.cycle.Is stopped) {run : List Happening}
    (never : run.filterMap Happening.switch? = []) : (h.after run).cycle.Is stopped :=
  (after_of_next (P := fun g => g.Consults service timed ∧ g.cycle.Is stopped)
    (fun _ mem _ kept => is_next_of_other (List.filterMap_eq_nil_iff.1 never _ mem) kept)
    ⟨consults, is⟩).2

/-- In a server that has just come up, registry and timer are in step. -/
theorem fresh_inStep (h : Home) (keepsTime : Bool) (ui : Settings.Ui) (ids : Session.Candidates) :
    InStep ui (h.fresh keepsTime ui ids).front :=
  opened_inStep { h with schedule := some {} } keepsTime ui ids

/-- A new schedule is stopped, and nothing is written down in it. -/
theorem fresh_alive (h : Home) (keepsTime : Bool) (ui : Settings.Ui) (ids : Session.Candidates) :
    (h.fresh keepsTime ui ids).cycle.Alive service := by
  intro s found started
  cases found
  cases started

/-- Its timer holds what its schedule has written down, which is nothing yet. -/
theorem fresh_heard (h : Home) (keepsTime : Bool) (ui : Settings.Ui) (ids : Session.Candidates) :
    (h.fresh keepsTime ui ids).front.Heard := by
  intro s id found hid
  cases found
  cases hid

/-- What is pending runs or waits. -/
theorem of_mem_pending {w : Work} {task : Task} (mem : task ∈ w.pending) :
    (∃ e, w.current = some e ∧ w.worker.isBusy = true ∧ e.toTask = task) ∨
      ∃ e ∈ w.queue, e.toTask = task := by
  obtain ⟨e, he, rfl⟩ := List.mem_map.1 mem
  rcases List.mem_append.1 he with running | waiting
  · rw [Option.mem_toList, Work.running?] at running
    split at running
    · exact .inl ⟨e, running, ‹_›, rfl⟩
    · cases running
  · exact .inr ⟨e, waiting, rfl⟩

/-- **A started schedule never goes dead.**  At every moment of a run that begins with a new
schedule of a service with an interval, if the schedule was started and not stopped since then, and
as long as it exists: it is armed, or one of its fetches runs or waits. If it is armed, the timer
holds its subscription, unless the timer was shut down. -/
theorem armed_or_fetching (h₀ : Home) (keepsTime : Bool) (ui : Settings.Ui)
    (ids : Session.Candidates) (run : List Happening)
    (timed : h₀.service.period?.isSome = true)
    (started : (run.filterMap Happening.switch?).getLast? = some true) :
    let h := (h₀.fresh keepsTime ui ids).after run
    let fetch := Refresh.fetchTask h₀.service.name true
    ∀ s, h.schedule = some s →
      (∃ id, s.armed = some id ∧ (.command .shutDownTimer ∉ run →
        ∃ sub ∈ h.timer.subs, sub.id = id ∧ sub.subscriber = .refresh)) ∨
      (∃ e, h.work.current = some e ∧ h.work.worker.isBusy = true ∧ e.toTask = fetch) ∨
      ∃ e ∈ h.work.queue, e.toTask = fetch := by
  intro h fetch s found
  have consults : (h₀.fresh keepsTime ui ids).Consults h₀.service.name true := ⟨rfl, timed⟩
  have goesOn : s.stopped = false := (is_after_of_switch consults started).2 s found
  have alive : h.cycle.Alive h₀.service.name := (after_of_next
    (P := fun g => g.Consults h₀.service.name true ∧ g.cycle.Alive h₀.service.name)
    (fun happening _ g kept => next_cycle (fun _ _ _ _ step alive => alive.step step) kept)
    ⟨consults, fresh_alive h₀ keepsTime ui ids⟩).2
  rcases alive s found goesOn with armed | fetching
  · obtain ⟨id, hid⟩ := Option.isSome_iff_exists.1 armed
    refine .inl ⟨id, hid, fun up => ?_⟩
    have heard := (after_of_next (P := fun g => InStep ui g.front ∧ g.front.Heard)
      (fun happening hmem g kept => next_heard kept.1 kept.2 happening fun same => up (same ▸ hmem))
      ⟨fresh_inStep h₀ keepsTime ui ids, fresh_heard h₀ keepsTime ui ids⟩).2
    exact heard s id found hid
  · exact .inr (of_mem_pending fetching)

/-- After a tick the fetch of the schedule waits, and the schedule is not armed. -/
theorem armed_or_fetching_tick :
    ∃ s, ((fresh { service := { name := "radio", interval := some Duration.second } } false {}
        (.scripted [])).after [.command .startSchedule, .command .fire]).schedule = some s ∧
      s.armed = none ∧
      ∃ e ∈ ((fresh { service := { name := "radio", interval := some Duration.second } } false {}
        (.scripted [])).after [.command .startSchedule, .command .fire]).work.queue,
        e.toTask = Refresh.fetchTask "radio" true := by
  refine ⟨_, rfl, rfl, ?_⟩
  have all := armed_or_fetching { service := { name := "radio", interval := some Duration.second } }
    false {} (.scripted []) [.command .startSchedule, .command .fire] rfl rfl _ rfl
  rcases all with ⟨id, armed, -⟩ | ⟨e, -, busy, -⟩ | waiting
  · cases armed
  · cases busy
  · exact waiting

end Home
end HomeMedia
