import HomeMedia.Proofs.Refresh.Stages
import HomeMedia.Proofs.Session.Idle
/-!
# Ticks that are on time

From one episode of an orderly run to the next, if time passes only by sleeps and nobody meddles
with the schedule, its stage goes on as it should (`Refresh.Stage.Next`, `IsIn.undergo`). Whoever
has a turn bides, but for the worker that ends the fetch, and the pulse of the schedule. That one
rests until the tick is due, to the millisecond: its alarm is where the grid of the subscription
says (`Awaits.pollPulse`), and the clock cannot pass it (`IsIn.pass`). The pulse of another
subscription has no tick for the schedule (`IsIn.pollPulse_of_ne`).
-/

namespace HomeMedia

open Refresh (Schedule Stage)

/-- How the stages of a schedule follow each other at a time, given which fetches have ended. -/
inductive Refresh.Stage.Next (now interval : Nat) (ended : Task.Id → Prop) : Stage → Stage → Prop
    where
  | stays (s : Stage) : Next now interval ended s s
  /-- The tick comes when it is due. -/
  | ticks (id : Task.Id) : Next now interval ended (.armed now) (.fetching id)
  /-- The next tick is due an interval after the end of the fetch. -/
  | ends {id : Task.Id} (reported : ended id) :
    Next now interval ended (.fetching id) (.armed (now + interval))

namespace Home

open Deed (Label)

variable {ui : Settings.Ui} {interval : Nat} {h g : Home} {s : Stage}

/-- What happenings keep, episodes keep. -/
theorem undergo_of_next {P : Home → Prop} {e : Episode}
    (kept : ∀ happening g, (∀ command, happening = .command command → e.command? = some command) →
      P g → P (g.next happening)) (start : P h) : P (h.undergo e) := by
  cases e with
  | command command atOnce =>
    exact kept (.command command) h (fun _ same => by cases same; rfl) start
  | turn place =>
    unfold undergo
    dsimp only
    split
    · exact start
    · rename_i agent _
      refine kept (.turn agent) _ (fun _ same => by cases same) ?_
      exact kept (.reloop _) h (fun _ same => by cases same) start
  | pass ms =>
    unfold undergo
    dsimp only
    split
    · exact kept (.reloop _) h (fun _ same => by cases same) start
    · exact start

/-- A server stays able whatever happens to it, with the same two exceptions. -/
theorem Able.next (able : Able interval h) {happening : Happening}
    (up : happening ≠ .command .shutDownTimer)
    (given : ∀ task parent, happening = .command (.addTask task parent) → task.isPlain = true) :
    Able interval (h.next happening) := by
  refine next_keeps (P := Able interval) (fun _ _ able => ⟨able.paced, able.ticks, able.timed,
    able.plain⟩) (fun label k g ok deed able => able.deed deed (fun down => ?_) fun task same =>
      isPlain_of_permits (given task) (same ▸ ok)) able
  subst down
  cases happening with
  | command asked => exact up (congrArg Happening.command ok)
  | turn agent => cases agent <;> simp [Happening.Permits, Agent.Permits] at ok
  | reloop loop => exact ok

/-- **Everybody agrees after every episode**, unless the timer is shut down. -/
theorem Keeping.undergo (k : Keeping ui interval h) {e : Episode}
    (up : e.command? ≠ some .shutDownTimer)
    (given : ∀ task parent, e.command? = some (.addTask task parent) → task.isPlain = true) :
    Keeping ui interval (h.undergo e) := by
  have kept : Able interval (h.undergo e) ∧ (Front.InStep ui (h.undergo e).front ∧
      (h.undergo e).front.Heard) ∧ (h.undergo e).front.Sole := by
    refine undergo_of_next (P := fun g => Able interval g ∧ (Front.InStep ui g.front ∧
      g.front.Heard) ∧ g.front.Sole) (fun happening g asks kept => ?_)
      ⟨k.toAble, ⟨k.inStep, k.heard⟩, k.sole⟩
    have up : happening ≠ .command .shutDownTimer := fun down => up (asks _ down)
    exact ⟨kept.1.next up fun task parent added => given task parent (asks _ added),
      next_heard kept.2.1.1 kept.2.1.2 happening up, next_sole kept.2.2 happening⟩
  exact ⟨kept.1, kept.2.1.1, kept.2.1.2, kept.2.2, k.timely.undergo e⟩

/-- From one server to the next, the schedule is dropped or its stage goes on. -/
def GoesOn (interval : Nat) (h g : Home) (s : Stage) : Prop :=
  g.schedule = none ∨
    ∃ t, IsIn interval g t ∧ Stage.Next h.loop.now interval (Ended · g) s t

/-- A stage that stays goes on. -/
theorem IsIn.goesOn (is : IsIn interval g s) : GoesOn interval h g s := .inr ⟨s, is, .stays s⟩

/-- What quiet deeds come to is a step of the stage. -/
theorem Goes.goesOn (goes : Goes interval h g s) (is : IsIn interval h s)
    (later : Keeping ui interval g) : GoesOn interval h g s := by
  cases goes with
  | dropped gone => exact .inl gone
  | stays bides => exact (is.bides bides later).goesOn
  | ends armed ended bides =>
    obtain ⟨e, outcome, same, reported⟩ := ended
    exact .inr ⟨_, armed.bides bides later, .ends ⟨e, outcome, same, bides.events reported⟩⟩

/-! ## Turns of pulses -/

/-- Seeing to the timer is no matter for the schedule. -/
theorem SeenTo.bides (seen : SeenTo h g) : Bides h g where
  loop := seen.onward
  timer := seen.later
  schedule := (Aloof.seenTo seen).schedule
  errands := congrArg Work.errands (Aloof.seenTo seen).work
  events := by rw [(Aloof.seenTo seen).ledger]; exact List.Subset.refl _

/-- Somebody other than the pulse of the schedule is no longer ready. -/
theorem IsIn.leaveOut (is : IsIn interval h s) {place : Nat}
    (other : ∀ due e, s = .armed due → h.Awaits interval e due →
      h.loop.ready[place]? ≠ some (.pulse e.id)) : IsIn interval (h.leaveOut place) s := by
  cases s with
  | off => exact is
  | fetching id => exact is
  | armed due =>
    obtain ⟨⟨e, a⟩, none⟩ := is
    have ready (before : Agent.pulse e.id ∈ h.loop.ready) :
        Agent.pulse e.id ∈ (h.leaveOut place).loop.ready := by
      obtain ⟨i, hi⟩ := List.mem_iff_getElem?.1 before
      exact List.mem_eraseIdx_iff_getElem?.2 ⟨i, fun same => other due e rfl a (same ▸ hi), hi⟩
    refine ⟨⟨e, a.schedule, a.row, a.known, a.refreshes, a.long, ?_⟩, none⟩
    refine a.clock.imp (fun ⟨new, same, before⟩ => ⟨new, same, ready before⟩) ?_
    rintro ⟨started, alarm | ⟨same, before⟩⟩
    · exact ⟨started, .inl alarm⟩
    · exact ⟨started, .inr ⟨same, ready before⟩⟩

/-- **The pulse of another subscription** has its turn, and the schedule gets no tick. -/
theorem IsIn.pollPulse_of_ne (is : IsIn interval h s) (sole : h.front.Sole)
    {other : Timer.SubscriptionId}
    (differs : ∀ due e, s = .armed due → h.Awaits interval e due → e.id ≠ other)
    (later : Keeping ui interval (h.pollPulse other)) :
    IsIn interval (h.pollPulse other) s := by
  have beaten : IsIn interval { h with timer := (h.timer.beat h.nanos h.isAlive other).2 } s := by
    cases s with
    | off => exact is
    | fetching id => exact is
    | armed due =>
      obtain ⟨⟨e, a⟩, none⟩ := is
      refine ⟨⟨e, a.of_onward rfl ?_ (Timer.Source.created_beat ..).ge (.refl _)⟩, none⟩
      exact (Timer.Source.row?_beat (differs due e rfl a) ..).trans a.row
  rcases turn : (h.timer.beat h.nanos h.isAlive other).1 with _ | ms | subscriber
  · have ends : h.pollPulse other =
        { h with timer := (h.timer.beat h.nanos h.isAlive other).2 } := by
      unfold pollPulse
      generalize h.timer.beat h.nanos h.isAlive other = result at turn ⊢
      obtain ⟨beat, timer⟩ := result
      cases turn
      rfl
    exact ends ▸ beaten
  · rw [pollPulse_of_rest turn] at later ⊢
    refine beaten.bides (.withLoop (.wakeAt _ ?_)) later
    exact later.timely.ahead ⟨ms, .pulse other⟩
      (List.mem_append_right _ (List.mem_singleton_self _))
  · have sweeps : subscriber = .sweep := by
      cases subscriber with
      | sweep => rfl
      | refresh =>
        obtain ⟨sub, held, same, refreshes⟩ := Timer.Source.exists_sub_of_beat turn
        cases s with
        | off => cases sole _ is.1 sub held refreshes
        | fetching id => cases sole _ is.1 sub held refreshes
        | armed due =>
          obtain ⟨⟨e, a⟩, -⟩ := is
          have own := sole _ a.schedule sub held refreshes
          exact absurd ((Option.some.inj own).trans same) (differs due e rfl a)
    subst sweeps
    rw [pollPulse_of_tick turn] at later ⊢
    have swept := SeenTo.sweep h.now { h with timer := (h.timer.beat h.nanos h.isAlive other).2 }
    exact beaten.bides (swept.bides.trans (.withLoop (.goOn ..))) later

/-- The tick sends a fetch on its way. -/
theorem Awaits.exists_fetching {e : Timer.Interval.Entry Subscriber} {due : Nat}
    (a : h.Awaits interval e due) (none : h.work.errands = []) {place : Nat}
    (ticked : (h.timer.beat h.nanos h.isAlive e.id).1 = .tick e.subscriber) :
    ∃ id, IsIn interval ((h.leaveOut place).pollPulse e.id) (.fetching id) := by
  rw [a.refreshes] at ticked
  let before : Home :=
    { h.leaveOut place with timer := (h.timer.beat h.nanos h.isAlive e.id).2 }
  have armed : (before.schedule.bind Schedule.armed).isSome = true :=
    congrArg (fun schedule => (schedule.bind Schedule.armed).isSome) a.schedule
  have sent : before.tick .refresh = (before.refreshNow false).2 := if_pos armed
  rw [pollPulse_of_tick (h := h.leaveOut place) ticked]
  refine ⟨h.work.added + 1, (tick_of_armed (h := before) a.schedule rfl).1, ?_⟩
  change (before.tick .refresh).work.errands = _
  rw [sent, refreshNow_errands]
  exact congrArg (· ++ _) none

/-- **The pulse of the schedule has its turn**: it starts, or it waits, or the tick comes when it is
due. -/
theorem Awaits.pollPulse {e : Timer.Interval.Entry Subscriber} {due : Nat}
    (a : h.Awaits interval e due) (timely : Timely h) (none : h.work.errands = []) (place : Nat) :
    IsIn interval ((h.leaveOut place).pollPulse e.id) (.armed due) ∨ due = h.loop.now ∧
      ∃ id, IsIn interval ((h.leaveOut place).pollPulse e.id) (.fetching id) := by
  have alive : h.isAlive e.subscriber = true := by
    rw [a.refreshes]
    exact Option.isSome_of_eq_some a.schedule
  have known : e.id ≤ (h.timer.beat h.nanos h.isAlive e.id).2.created :=
    a.known.trans (Timer.Source.created_beat ..).ge
  rcases Timer.Source.beat_cases a.row h.nanos alive with
    ⟨new, rests, row⟩ | ⟨at', started, rests⟩ | ⟨at', started, late, ticked, -⟩
  · rw [pollPulse_of_rest (h := h.leaveOut place) rests]
    have due_eq : due = h.loop.now + interval := by
      rcases a.clock with ⟨-, same, -⟩ | ⟨started, -⟩
      · exact same
      · cases new.symm.trans started
    have grid : h.nanos + e.interval = due * Duration.milli := by
      rw [due_eq, a.long, Nat.add_mul]
      rfl
    rw [grid] at row ⊢
    refine .inl ⟨⟨{ e with due := some (due * Duration.milli) }, a.schedule, row, known,
      a.refreshes, a.long, .inr ⟨rfl, .inl ?_⟩⟩, none⟩
    rw [Timer.Interval.milliOf_mul]
    exact List.mem_append_right _ (List.mem_singleton_self _)
  · rw [pollPulse_of_rest (h := h.leaveOut place) (congrArg Prod.fst rests)]
    have row : (h.timer.beat h.nanos h.isAlive e.id).2.row? e.id = some e := by
      rw [rests]
      exact a.row
    have grid : e.due = some (due * Duration.milli) := by
      rcases a.clock with ⟨new, -, -⟩ | ⟨grid, -⟩
      · cases new.symm.trans started
      · exact grid
    cases started.symm.trans grid
    refine .inl ⟨⟨e, a.schedule, row, known, a.refreshes, a.long, .inr ⟨grid, .inl ?_⟩⟩, none⟩
    rw [Timer.Interval.milliOf_mul]
    exact List.mem_append_right _ (List.mem_singleton_self _)
  · have now : due = h.loop.now := by
      rcases a.clock with ⟨new, -, -⟩ | ⟨grid, alarm | ⟨same, -⟩⟩
      · cases new.symm.trans started
      · cases started.symm.trans grid
        have overdue : due ≤ h.loop.now := Nat.le_of_mul_le_mul_right late (by decide)
        exact absurd (timely.ahead _ alarm) (Nat.not_lt.2 overdue)
      · exact same
    exact .inr ⟨now, a.exists_fetching none ticked⟩

/-! ## Episodes -/

/-- Time passes while everybody waits, but not past the alarm of the pulse. -/
theorem IsIn.pass (is : IsIn interval h s) {ms : Nat} (gentle : h.IsGentle (.pass ms)) :
    IsIn interval (h.undergo (.pass ms)) s := by
  unfold undergo
  dsimp only
  split
  · rename_i still
    cases s with
    | off => exact is
    | fetching id => exact is
    | armed due =>
      obtain ⟨⟨e, a⟩, none⟩ := is
      refine ⟨⟨e, a.schedule, a.row, a.known, a.refreshes, a.long, ?_⟩, none⟩
      have nobody : Agent.pulse e.id ∉ h.loop.ready := by simp [still]
      rcases a.clock with ⟨-, -, ready⟩ | ⟨started, alarm | ⟨-, ready⟩⟩
      · exact absurd ready nobody
      · refine .inr ⟨started, ?_⟩
        have within : h.loop.now + ms ≤ due := gentle _ alarm
        rcases within.eq_or_lt with now | ahead
        · refine .inr ⟨now.symm, List.mem_append_right _ (List.mem_map.2
            ⟨⟨due, .pulse e.id⟩, ?_, rfl⟩)⟩
          exact List.mem_mergeSort.2 (List.mem_filter.2 ⟨alarm, decide_eq_true now.ge⟩)
        · exact .inl (List.mem_filter.2 ⟨alarm, by simpa using ahead⟩)
      · exact absurd ready nobody
  · exact is

/-- Whether a command starts or stops the schedule, asks for a fetch in place of its next one, or
shuts its timer down. -/
def Command.meddles : Command → Bool
  | .startSchedule => true
  | .stopSchedule => true
  | .refreshNow unscheduled => !unscheduled
  | .shutDownTimer => true
  | _ => false

/-- The deeds of a command that takes no time and does not meddle are quiet, unless it makes the
timer fire. -/
theorem isQuiet_of_permits {command : Command} (atOnce : command.takesTime = false)
    (other : command.meddles = false) (still : command ≠ .fire)
    (calm : ∀ times, command ≠ .fireTimes times) {label : Label} (ok : command.Permits label) :
    label.isQuiet = true := by
  cases label with
  | shutDown | start | stop | refresh =>
    cases ok
    cases other
  | beat => exact absurd rfl (not_beat_of_permits atOnce ok)
  | tick =>
    rcases ok with fire | ⟨times, fire⟩ | time
    · exact absurd fire still
    · exact absurd fire (calm times)
    · cases atOnce.symm.trans time
  | _ => rfl

/-- A timer that keeps time cannot be fired. -/
theorem fire_of_ticks (ticks : h.timer.isTicking = true) : h.fire = (0, h) := by
  unfold fire
  cases timer : h.timer with
  | manual t =>
    rw [timer] at ticks
    cases ticks
  | interval t => rfl

/-- A timer that ticks by itself is not made to fire. -/
theorem fireTimes_of_ticks (ticks : h.timer.isTicking = true) (times : Nat) :
    h.fireTimes times = h := by
  induction times with
  | zero => rfl
  | succ times ih => rw [fireTimes, fire_of_ticks ticks, ih]

/-- A server is able before a turn as it was before the choice of the agent. -/
theorem Keeping.able_leaveOut (k : Keeping ui interval h) (place : Nat) :
    Able interval (h.leaveOut place) :=
  ⟨k.paced, k.ticks, k.timed, k.plain⟩

/-- A command that leaves the schedule alone. -/
theorem IsIn.command (is : IsIn interval h s) (k : Keeping ui interval h) (long : 1 ≤ interval)
    {command : Command} (atOnce : command.takesTime = false) (other : command.meddles = false)
    (given : ∀ task parent, command = .addTask task parent → task.isPlain = true)
    (later : Keeping ui interval (h.act command).2) : GoesOn interval h (h.act command).2 s := by
  by_cases fires : command = .fire ∨ ∃ times, command = .fireTimes times
  · have kept : (h.act command).2 = h := by
      rcases fires with rfl | ⟨times, rfl⟩
      · exact congrArg Prod.snd (fire_of_ticks k.ticks)
      · exact fireTimes_of_ticks k.ticks times
    rw [kept]
    exact is.goesOn
  · rw [not_or, not_exists] at fires
    refine ((act_deeds atOnce h).goes
      (fun label ok => isQuiet_of_permits atOnce other fires.1 fires.2 ok)
      (fun task ok => ?_) k.toAble long is).2.goesOn is later
    have allowed : (Happening.command command).Permits (.add task) := ok
    exact isPlain_of_permits (fun parent added => given task parent (by cases added; rfl)) allowed

/-- **Whoever is ready has a turn.** -/
theorem IsIn.poll (is : IsIn interval h s) (k : Keeping ui interval h) (long : 1 ≤ interval)
    {place : Nat} {agent : Agent} (ready : h.loop.ready[place]? = some agent)
    (later : Keeping ui interval ((h.leaveOut place).poll agent)) :
    GoesOn interval h ((h.leaveOut place).poll agent) s := by
  have left (others : ∀ id, agent = .pulse id → ∀ due e, s = .armed due →
      h.Awaits interval e due → e.id ≠ id) : IsIn interval (h.leaveOut place) s := by
    refine is.leaveOut fun due e stage a pulse => ?_
    rw [ready] at pulse
    exact others e.id (Option.some.inj pulse) due e stage a rfl
  cases agent with
  | worker =>
    have left := left fun _ pulse => by cases pulse
    refine ((poll_deeds .worker (h.leaveOut place)).goes (fun label ok => ?_)
      (fun task ok => ?_) (k.able_leaveOut place) long left).2.goesOn left later
    · rcases ok with rfl | rfl <;> rfl
    · rcases ok with same | same <;> cases same
  | call index =>
    have left := left fun _ pulse => by cases pulse
    refine ((poll_deeds (.call index) (h.leaveOut place)).goes (fun label ok => ?_)
      (fun task ok => ?_) (k.able_leaveOut place) long left).2.goesOn left later
    · exact (show label = .call index from ok) ▸ rfl
    · cases (show Label.add task = .call index from ok)
  | pulse id =>
    by_cases own : ∃ due e, s = .armed due ∧ h.Awaits interval e due ∧ e.id = id
    · obtain ⟨due, e, rfl, a, rfl⟩ := own
      rcases a.pollPulse k.timely is.2 place with armed | ⟨now, id, fetching⟩
      · exact armed.goesOn
      · exact .inr ⟨_, fetching, now ▸ .ticks id⟩
    · have differs : ∀ due e, s = .armed due → h.Awaits interval e due → e.id ≠ id :=
        fun due e stage a same => own ⟨due, e, stage, a, same⟩
      have left := left fun other pulse => (by cases pulse; exact differs)
      refine (left.pollPulse_of_ne k.sole (fun due e stage a => ?_) later).goesOn
      subst stage
      obtain ⟨⟨f, b⟩, -⟩ := is
      have mine := b.schedule.symm.trans a.schedule
      have number : f.id = e.id := by simpa using mine
      exact number ▸ differs due f rfl b

/-- **What an episode does to the stage.** -/
theorem IsIn.undergo (is : IsIn interval h s) (k : Keeping ui interval h) (long : 1 ≤ interval)
    {e : Episode} (other : ∀ asked, e.command? = some asked → asked.meddles = false)
    (given : ∀ task parent, e.command? = some (.addTask task parent) → task.isPlain = true)
    (gentle : h.IsGentle e) : GoesOn interval h (h.undergo e) s := by
  have later : Keeping ui interval (h.undergo e) :=
    k.undergo (fun down => by cases other _ down) given
  cases e with
  | command command atOnce =>
    exact is.command k long atOnce (other _ rfl)
      (fun task parent added => given task parent (congrArg some added)) later
  | pass ms => exact (is.pass gentle).goesOn
  | turn place =>
    unfold Home.undergo at later ⊢
    dsimp only at later ⊢
    cases ready : h.loop.ready[place]? with
    | none => exact is.goesOn
    | some agent =>
      simp only [ready] at later
      exact is.poll k long ready later

end Home
end HomeMedia
