import HomeMedia.Proofs.Refresh.Arming
import HomeMedia.Proofs.Refresh.Overtaking
import HomeMedia.Proofs.Session.Watching
/-!
# Fetches on their way

The *errands* of a home server are its scheduled fetches that run or wait, by their numbers. They
come and go with the schedule: a tick or somebody who cannot wait sends a fetch on its way, and the
end of a fetch arms the schedule. Every other deed *bides* (`Bides`): the schedule is as it was and
the same errands are on their way, subscriptions are as they were unless they ended, no time passes,
and nobody who is ready or waits for an alarm is forgotten (`Deed.bides_or_ends`). A fetch ends
under its own number, and that is reported (`finish_errands`).
-/

namespace HomeMedia

namespace Work

/-- The numbers of the scheduled fetches that run or wait, in order. -/
def errands (w : Work) : List Task.Id :=
  ((w.running?.toList ++ w.queue).filter fun e => e.scheduled).map Entry.id

/-- The worker makes no difference but for being busy. -/
theorem errands_congr {v w : Work} (queue : v.queue = w.queue) (current : v.current = w.current)
    (busy : v.worker.isBusy = w.worker.isBusy) : v.errands = w.errands := by
  rw [errands, errands, running?, running?, queue, current, busy]

/-- If nothing runs, the scheduled fetches are those that wait. -/
theorem errands_of_not_busy {w : Work} (idle : w.worker.isBusy = false) :
    w.errands = (w.queue.filter fun e => e.scheduled).map Entry.id := by
  rw [errands, running?, if_neg (Bool.eq_false_iff.1 idle)]
  rfl

/-- What runs is the first of them, if it is one. -/
theorem errands_of_busy {w : Work} {e : Entry} (busy : w.worker.isBusy = true)
    (current : w.current = some e) :
    w.errands = ((e :: w.queue).filter fun e => e.scheduled).map Entry.id := by
  rw [errands, running?, if_pos busy, current]
  rfl

/-- A task that is added is one of them if it is scheduled. -/
theorem errands_enqueue (task : Task) (parent : Option Task.Id) (w : Work) :
    (w.enqueue task parent).2.errands =
      w.errands ++ if task.scheduled then [w.added + 1] else [] := by
  change ((w.running?.toList ++ (w.queue ++ [_])).filter _).map Entry.id = _
  rw [← List.append_assoc, List.filter_append, List.map_append, List.filter_singleton]
  cases task.scheduled <;> rfl

/-- Waking the worker leaves the scheduled fetches. -/
theorem errands_notify (w : Work) : w.notify.2.errands = w.errands :=
  errands_congr (by rw [notify_eq]) (by rw [notify_eq]) (isBusy_notify w)

/-- Whether a token is set makes no difference. -/
theorem errands_map {v w : Work} {f : Entry → Entry} (queue : v.queue = w.queue.map f)
    (running : v.running? = w.running?.map f)
    (same : ∀ e, (f e).id = e.id ∧ (f e).scheduled = e.scheduled) : v.errands = w.errands := by
  have scheduled : (fun e : Entry => e.scheduled) ∘ f = fun e => e.scheduled :=
    funext fun e => (same e).2
  have number : Entry.id ∘ f = Entry.id := funext fun e => (same e).1
  have all : v.running?.toList ++ v.queue = (w.running?.toList ++ w.queue).map f := by
    rw [queue, running, List.map_append]
    cases w.running? <;> rfl
  rw [errands, errands, all, List.filter_map, List.map_map, scheduled, number]

/-- Cancelling a task leaves the scheduled fetches. -/
theorem errands_invalidate (id : Task.Id) (w : Work) :
    (w.invalidate id).2.errands = w.errands := by
  refine errands_map rfl ?_ fun e => ?_
  · change (if w.worker.isBusy = true then w.current.map _ else none) = w.running?.map _
    unfold running?
    split <;> rfl
  · unfold Entry.hit
    split <;> exact ⟨rfl, rfl⟩

/-- So does setting the token of the current task. -/
theorem errands_interrupt (w : Work) : w.interrupt.errands = w.errands := by
  unfold errands running? interrupt
  dsimp only
  cases w.current with
  | none => rfl
  | some e =>
    cases w.worker.isBusy with
    | false => rfl
    | true =>
      simp only [if_true, Option.map_some, Option.toList_some, List.singleton_append,
        List.filter_cons]
      split <;> rfl

end Work

/-! ## Subscriptions that go on -/

namespace Timer.Source

variable {Subscriber : Type}

/-- A timer a little later, when no pulse has had a turn: its subscriptions are as they were, or
new. -/
structure Later (t u : Source Subscriber) : Prop where
  /-- It keeps time or not, as before. -/
  ticks : u.isTicking = t.isTicking
  /-- No number is taken back. -/
  created : t.created ≤ u.created
  /-- A subscription is as it was, or new. -/
  row : ∀ id e, u.row? id = some e → t.row? id = some e ∨ t.created < id

namespace Later

variable {t u v : Source Subscriber}

/-- A timer is no later than itself. -/
theorem refl (t : Source Subscriber) : Later t t :=
  ⟨rfl, Nat.le_refl _, fun _ _ found => .inl found⟩

/-- A little later twice is a little later. -/
theorem trans (first : Later t u) (second : Later u v) : Later t v where
  ticks := second.ticks.trans first.ticks
  created := Nat.le_trans first.created second.created
  row id e found := by
    rcases second.row id e found with old | new
    · exact first.row id e old
    · exact .inr (Nat.lt_of_le_of_lt first.created new)

/-- A subscription that is made is new, and the others are as they were. -/
theorem subscribe (subscriber : Subscriber) (nanos : Nat) (t : Source Subscriber) :
    Later t (t.subscribe subscriber nanos).2 where
  ticks := isTicking_subscribe subscriber nanos
  created := by
    rw [created_subscribe]
    exact Nat.le_succ _
  row id e found := by
    cases t with
    | manual t => cases found
    | interval t =>
      have found : (t.subscribe subscriber nanos).2.find? id = some e := found
      rw [Interval.find?_subscribe] at found
      rcases Option.or_eq_some_iff.1 found with old | ⟨-, new⟩
      · exact .inl old
      · split at new
        · rename_i same
          exact .inr (beq_iff_eq.1 same ▸ Nat.lt_succ_self _)
        · cases new

/-- Ending a subscription leaves the others as they were. -/
theorem unsubscribe (id : SubscriptionId) (t : Source Subscriber) :
    Later t (t.unsubscribe id).2 where
  ticks := isTicking_unsubscribe id
  created := (created_unsubscribe t id).ge
  row other e found := by
    cases t with
    | manual t => cases found
    | interval t =>
      have found : (t.erase id).find? other = some e := found
      by_cases same : other = id
      · rw [same, Interval.find?_erase_self] at found
        cases found
      · rw [Interval.find?_erase_of_ne t same] at found
        exact .inl found

end Later
end Timer.Source

/-- Nothing is taken out of a report. -/
theorem Ledger.Step.events_subset {l m : Ledger} (step : Ledger.Step l m) :
    l.events ⊆ m.events := by
  cases step with
  | add | invalidate | take | finish => exact List.subset_append_left ..
  | _ => exact List.Subset.refl _

namespace Home

open Deed (Label)
open Refresh (Schedule)
open Timer.Source (Later)

variable {h g k : Home} {label : Label}

/-- Looking at the timer gives it new numbers at most. -/
theorem checkTimer_later (h : Home) : h.timer.Later h.checkTimer.timer := by
  unfold checkTimer
  split
  · exact .refl _
  · split
    · exact .refl _
    · exact .subscribe ..
    · exact .unsubscribe ..

/-- So does all that sees to it. -/
theorem SeenTo.later (seen : SeenTo h g) : h.timer.Later g.timer := by
  obtain ⟨registry, released, events, -, rfl | rfl⟩ := seen
  · exact .refl _
  · exact checkTimer_later { h with registry, released }

/-- Arming the schedule leaves the other subscriptions as they were. -/
theorem arm_later (h : Home) : h.timer.Later h.arm.timer := by
  rcases arm_cases h with same | ⟨s, nanos, -, -, -, -, armed⟩
  · exact same.symm ▸ .refl h.timer
  · rw [armed]
    exact .subscribe .refresh nanos h.timer

/-- So does disarming it. -/
theorem disarm_later (h : Home) : h.timer.Later h.disarm.timer := by
  rcases disarm_cases h with same | ⟨id, stopped, -, disarmed⟩
  · exact same.symm ▸ .refl h.timer
  · rw [disarmed]
    exact .unsubscribe id h.timer

/-- **Only the turn of a pulse and the end of the timer change the subscriptions that go on.** -/
theorem Deed.later (deed : Deed label h g) (other : label ≠ .beat) (up : label ≠ .shutDown) :
    h.timer.Later g.timer := by
  cases deed with
  | aside aside =>
    cases aside with
    | createSession h timeout => exact (SeenTo.createSession timeout h).later
    | removeSession h id => exact (SeenTo.removeSession id h).later
    | sweep h now => exact (SeenTo.sweep now h).later
    | checkTimer h => exact checkTimer_later h
    | beat h id => exact absurd rfl other
    | shutDown h => exact absurd rfl up
    | _ => exact .refl _
  | invalidate h id => exact (Backstage.invalidate id h).timer_eq ▸ .refl _
  | dropWork h =>
    exact (Backstage.letGo (fun h => { h with holdsWork := false }) h).timer_eq ▸ .refl _
  | dropSchedule h =>
    exact (Backstage.letGo (fun h => { h with schedule := none }) h).timer_eq ▸ .refl _
  | release h gate => exact (Backstage.release gate h).timer_eq ▸ .refl _
  | look h looking => exact (Backstage.look h).timer_eq ▸ .refl _
  | finish h outcome busy =>
    rcases Backstage.finish outcome h with quiet | armed
    · exact quiet.timer_eq ▸ .refl _
    · exact armed.timer_eq ▸ arm_later h
  | start h =>
    exact arm_later { h with schedule := h.schedule.map (Schedule.setStopped false) }
  | stop h =>
    exact disarm_later { h with schedule := h.schedule.map (Schedule.setStopped true) }
  | refresh h => exact disarm_later h
  | tick h armed => exact disarm_later h
  | _ => exact .refl _

/-! ## Deeds that bide -/

/-- Nothing happens to the schedule and its fetches, and no time passes. -/
structure Bides (h g : Home) : Prop where
  /-- No time passes, and nobody is forgotten. -/
  loop : h.loop.Onward g.loop
  /-- Subscriptions go on, unless they are ended. -/
  timer : h.timer.Later g.timer
  /-- The schedule is as it was. -/
  schedule : g.schedule = h.schedule
  /-- The same fetches are on their way. -/
  errands : g.work.errands = h.work.errands
  /-- What was reported of tasks is not forgotten. -/
  events : h.ledger.events ⊆ g.ledger.events

namespace Bides

/-- To do nothing is to bide. -/
theorem refl (h : Home) : Bides h h := ⟨.refl _, .refl _, rfl, rfl, List.Subset.refl _⟩

/-- To bide twice is to bide. -/
theorem trans (first : Bides h g) (second : Bides g k) : Bides h k where
  loop := first.loop.trans second.loop
  timer := first.timer.trans second.timer
  schedule := second.schedule.trans first.schedule
  errands := second.errands.trans first.errands
  events := List.Subset.trans first.events second.events

/-- An application bides while its agents are queued in another order. -/
theorem withLoop {loop : EventLoop Agent} (onward : h.loop.Onward loop) :
    Bides h { h with loop } :=
  ⟨onward, .refl _, rfl, rfl, List.Subset.refl _⟩

end Bides

/-- What was reported of tasks stays. -/
theorem Deed.events_subset (deed : Deed label h g) : h.ledger.events ⊆ g.ledger.events := by
  have steps := deed.ledger_steps
  generalize g.ledger = m at steps ⊢
  induction steps with
  | refl => exact List.Subset.refl _
  | tail _ step ih => exact List.Subset.trans ih (Ledger.Step.events_subset step)

/-- Whether a deed has nothing to do with the schedule, but for the end of a fetch, and neither lets
a pulse have a part of its turn nor shuts the timer down. -/
def Deed.Label.isQuiet : Label → Bool
  | .beat => false
  | .shutDown => false
  | .start => false
  | .stop => false
  | .refresh => false
  | .tick => false
  | _ => true

/-- A plain task that is added is no scheduled fetch. -/
theorem addTask_errands {task : Task} (plain : task.isPlain = true) (parent : Option Task.Id)
    (h : Home) : (h.addTask task parent).2.work.errands = h.work.errands := by
  have unscheduled : task.scheduled = false := by
    simpa using (Bool.and_eq_true_iff.1 plain).1
  have queued := Work.errands_enqueue task parent h.work
  rw [unscheduled, if_neg Bool.false_ne_true, List.append_nil] at queued
  exact (Work.errands_notify _).trans queued

/-- A fetch that the schedule sends on its way comes last. -/
theorem refreshNow_errands (h : Home) :
    (h.refreshNow false).2.work.errands = h.work.errands ++ [h.work.added + 1] := by
  change (Work.notify (h.disarm.work.enqueue _ none).2).2.errands = _
  rw [Work.errands_notify, Work.errands_enqueue, work_disarm]
  rfl

/-- A worker that looks for a task keeps the scheduled fetches: what it takes from the queue runs.
-/
theorem look_errands (looking : h.work.worker = .looking) :
    h.look.work.errands = h.work.errands := by
  have idle : h.work.worker.isBusy = false := congrArg Work.Worker.isBusy looking
  have same : ∀ w : Work, w.queue = h.work.queue → w.worker.isBusy = false →
      w.errands = h.work.errands := fun w queue still => by
    rw [Work.errands_of_not_busy still, queue, ← Work.errands_of_not_busy idle]
  have looked := h.looked
  generalize h.look = g at looked ⊢
  cases looked with
  | abandon unused => exact same h.work.stop rfl rfl
  | @take e queue inUse waiting =>
    rw [Work.errands_of_not_busy idle, waiting]
    rfl
  | stop empty asked => exact same h.work.stop rfl rfl
  | again empty free woken => exact same { h.work with permit := false } rfl idle
  | park empty free => exact same { h.work with worker := .parked } rfl rfl

/-- What the end of a task does to the errands. -/
theorem finish_errands {e : Work.Entry} (busy : h.work.worker.isBusy = true)
    (current : h.work.current = some e) (outcome : Except Task.Error Task.Outcome) :
    h.work.errands =
      (if e.scheduled then [e.id] else []) ++ (h.finish outcome).work.errands ∧
    endEvent e outcome ∈ (h.finish outcome).ledger.events := by
  rcases finish_cases outcome h with ⟨none, -⟩ | ⟨f, armed, same, -, ended⟩
  · cases current.symm.trans none
  · cases current.symm.trans same
    rw [ended]
    refine ⟨?_, ?_⟩
    · have rest := Work.errands_of_not_busy (w := { h.work with worker := .ended }) rfl
      rw [Work.errands_of_busy busy current, rest, List.filter_cons]
      split <;> rfl
    · refine List.mem_filter.2 ⟨List.mem_append_right _ (List.mem_singleton_self _), ?_⟩
      cases outcome <;> rfl

/-- **What becomes of the errands in a deed:** nothing, unless the schedule is dropped or a fetch
ends. -/
theorem Deed.bides_or_ends (deed : Deed label h g) (quiet : label.isQuiet = true)
    (plain : h.work.Plain) (added : ∀ task, label = .add task → task.isPlain = true) :
    g.schedule = none ∨ Bides h g ∨ ∃ e outcome, h.work.worker.isBusy = true ∧
      h.work.current = some e ∧ e.scheduled = true ∧ g = h.finish outcome := by
  have onward := deed.onward fun beat => by rw [beat] at quiet; cases quiet
  have later := deed.later (fun beat => by rw [beat] at quiet; cases quiet)
    fun down => by rw [down] at quiet; cases quiet
  have bides (schedule : g.schedule = h.schedule) (errands : g.work.errands = h.work.errands) :
      g.schedule = none ∨ Bides h g ∨ ∃ e outcome, h.work.worker.isBusy = true ∧
        h.work.current = some e ∧ e.scheduled = true ∧ g = h.finish outcome :=
    .inr (.inl ⟨onward, later, schedule, errands, deed.events_subset⟩)
  cases deed with
  | aside aside =>
    exact bides aside.aloof.schedule (congrArg Work.errands aside.aloof.work)
  | addTask h task parent => exact bides rfl (addTask_errands (added task rfl) parent h)
  | invalidate h id =>
    obtain ⟨events, -, cancelled⟩ := exists_invalidate id h
    refine bides ?_ ?_ <;> rw [cancelled]
    · rfl
    · exact Work.errands_invalidate id h.work
  | requestStop h => exact bides rfl rfl
  | call h index => exact bides rfl (Work.errands_notify _)
  | dropWork h =>
    rcases letGo_cases (fun h => { h with holdsWork := false }) h with woken | kept
    · exact bides (by rw [woken]; rfl) (by rw [woken]; exact Work.errands_notify _)
    · exact bides (by rw [kept]) (by rw [kept])
  | release h gate =>
    rcases release_cases gate h with ⟨rest, waits, woken⟩ | opened
    · refine bides ?_ ?_ <;> rw [woken]
      exact Work.errands_congr rfl rfl (congrArg Work.Worker.isBusy waits).symm
    · exact bides (by rw [opened]) (by rw [opened])
  | look h looking =>
    have backstage := Backstage.look h
    refine bides ?_ (look_errands looking)
    obtain ⟨work, loop, openGates, log, same⟩ := backstage
    rw [same]
  | putAway h ended =>
    have idle : h.work.worker.isBusy = false := congrArg Work.Worker.isBusy ended
    refine bides rfl ?_
    rw [Work.errands_of_not_busy rfl, Work.errands_of_not_busy idle]
    rfl
  | goOn h rest busy planned => exact bides rfl (Work.errands_congr rfl rfl busy.symm)
  | sleep h ms rest busy planned later => exact bides rfl (Work.errands_congr rfl rfl busy.symm)
  | await h gate rest busy planned => exact bides rfl (Work.errands_congr rfl rfl busy.symm)
  | spawn h task parent planned =>
    obtain ⟨action, mem, adds⟩ := planned
    have step := Task.arePlain_iff.1 plain.running action mem
    exact bides rfl (addTask_errands (Task.Action.isPlain_iff.1 step task adds) parent h)
  | interrupt h => exact bides rfl (Work.errands_interrupt h.work)
  | finish h outcome busy =>
    rcases finish_cases outcome h with ⟨-, same⟩ | ⟨e, armed, current, scheduled, ended⟩
    · exact bides (by rw [same]) (by rw [same])
    · rcases scheduled with ⟨own, -⟩ | ⟨other, rfl⟩
      · exact .inr (.inr ⟨e, outcome, busy, current, own, rfl⟩)
      · have errands := (finish_errands busy current outcome).1
        rw [other, if_neg Bool.false_ne_true, List.nil_append] at errands
        exact bides (by rw [ended]; rfl) errands.symm
  | dropSchedule h =>
    obtain ⟨work, loop, openGates, log, same⟩ :=
      Backstage.letGo (fun h => { h with schedule := none }) h
    exact .inl (by rw [same])
  | start | stop | refresh | tick => cases quiet

end Home
end HomeMedia
