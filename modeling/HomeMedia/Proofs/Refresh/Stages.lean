import HomeMedia.Proofs.Home.Sleeping
import HomeMedia.Proofs.Refresh.Errands
/-!
# The stages of a schedule that is started once

A schedule is *off* until it is started. Then it is *armed* for its next tick, which is an interval
away, and after the tick it is *fetching* until that fetch ends, at which moment it is armed again.
What an orderly run in which time passes only by sleeps can do to the stage is little
(`IsIn.undergo`): it stays as it is, or a tick comes in the very millisecond it is due, or the fetch
ends.

That ticks are not late is a matter of the pulse. While the schedule is armed its pulse is ready in
the millisecond in which it starts or ticks, and else has an alarm (`Awaits`). Nobody else can send
the schedule a tick, for the timer holds no other subscription of it; and everybody who might have
ended the subscription, or kept the pulse from its turn, bides (`Deeds.goes`).
-/

namespace HomeMedia

namespace Timer.Source

variable {Subscriber : Type} {t : Source Subscriber} {id : SubscriptionId}

/-- A tick goes to the subscriber of the pulse. -/
theorem exists_sub_of_beat {now : Nat} {isAlive : Subscriber → Bool} {subscriber : Subscriber}
    (ticks : (t.beat now isAlive id).1 = .tick subscriber) :
    ∃ sub ∈ t.subs, sub.id = id ∧ sub.subscriber = subscriber := by
  cases t with
  | manual t => cases ticks
  | interval t =>
    simp only [beat, Interval.beat] at ticks
    split at ticks
    · cases ticks
    · rename_i e found
      refine ⟨⟨e.id, e.subscriber, e.interval⟩,
        List.mem_map_of_mem (List.mem_of_find?_eq_some found), Interval.id_of_find? found, ?_⟩
      split at ticks
      · cases ticks
      · split_ifs at ticks
        cases ticks
        rfl

end Timer.Source

/-- A number of milliseconds is over in just that millisecond. -/
theorem Timer.Interval.milliOf_mul (ms : Nat) : milliOf (ms * Duration.milli) = ms := by
  unfold milliOf
  simp only [Duration.milli]
  omega

open Refresh (Schedule)

/-- What a schedule that is started once waits for. -/
inductive Refresh.Stage where
  /-- For being started. -/
  | off
  /-- For its tick, which is due at a time in milliseconds. -/
  | armed (due : Nat)
  /-- For the end of its fetch, which has a number. -/
  | fetching (id : Task.Id)

namespace Home

open Deed (Label)
open Front (InStep)
open Refresh (Stage)

variable {ui : Settings.Ui} {interval : Nat} {h g k : Home} {s : Stage}

/-! ## The subscription waits for its tick -/

/-- A subscription is the one that the schedule is armed with, and its next tick is due at a time in
milliseconds. -/
structure Awaits (interval : Nat) (h : Home) (e : Timer.Interval.Entry Subscriber) (due : Nat) :
    Prop where
  /-- The schedule has it written down. -/
  schedule : h.schedule = some { armed := some e.id, stopped := false }
  /-- The timer holds it. -/
  row : h.timer.row? e.id = some e
  /-- Its number was handed out. -/
  known : e.id ≤ h.timer.created
  /-- The schedule gets its ticks. -/
  refreshes : e.subscriber = .refresh
  /-- It has the interval of the service. -/
  long : e.interval = interval * Duration.milli
  /-- Its pulse starts or ticks in this millisecond, or has an alarm. -/
  clock : e.due = none ∧ due = h.loop.now + interval ∧ .pulse e.id ∈ h.loop.ready ∨
    e.due = some (due * Duration.milli) ∧ (⟨due, .pulse e.id⟩ ∈ h.loop.alarms ∨
      due = h.loop.now ∧ .pulse e.id ∈ h.loop.ready)

namespace Awaits

variable {e : Timer.Interval.Entry Subscriber} {due : Nat}

/-- When everybody waits, the tick is still to come. -/
theorem now_lt (a : h.Awaits interval e due) (timely : Timely h) (still : h.loop.ready = []) :
    h.loop.now < due := by
  have nobody : .pulse e.id ∉ h.loop.ready := by simp [still]
  rcases a.clock with ⟨-, -, ready⟩ | ⟨-, alarm | ⟨-, ready⟩⟩
  · exact absurd ready nobody
  · exact timely.ahead _ alarm
  · exact absurd ready nobody

/-- The subscription waits on when the schedule and its entry stay and no alarm is lost. -/
theorem of_onward (a : h.Awaits interval e due) (schedule : g.schedule = h.schedule)
    (row : g.timer.row? e.id = some e) (created : h.timer.created ≤ g.timer.created)
    (onward : h.loop.Onward g.loop) : g.Awaits interval e due where
  schedule := schedule.trans a.schedule
  row := row
  known := a.known.trans created
  refreshes := a.refreshes
  long := a.long
  clock := by
    rw [onward.now]
    refine a.clock.imp (fun ⟨new, same, ready⟩ => ⟨new, same, onward.ready ready⟩) ?_
    rintro ⟨started, alarm | ⟨same, ready⟩⟩
    · exact ⟨started, .inl (onward.alarms alarm)⟩
    · exact ⟨started, .inr ⟨same, onward.ready ready⟩⟩

end Awaits

/-! ## What it takes for ticks to be on time -/

/-- The timer keeps time, the service has an interval, and only plain tasks are added. -/
structure Able (interval : Nat) (h : Home) : Prop where
  /-- Ticks do not come too fast. -/
  paced : h.timer.Paced
  /-- New subscriptions get a pulse. -/
  ticks : h.timer.isTicking = true
  /-- The service has an interval, in milliseconds. -/
  timed : h.service.interval = some (interval * Duration.milli)
  /-- Scheduled fetches are made by the schedule only. -/
  plain : h.work.Plain

/-- Besides, the timer and those who use it agree, and no alarm is overdue. -/
structure Keeping (ui : Settings.Ui) (interval : Nat) (h : Home) : Prop
    extends Able interval h where
  /-- The registry and the timer agree. -/
  inStep : InStep ui h.front
  /-- The timer holds the subscription that the schedule has written down. -/
  heard : h.front.Heard
  /-- It holds no other one of the schedule's. -/
  sole : h.front.Sole
  /-- Alarms are for later. -/
  timely : Timely h

/-- **A server stays able whatever is done to it**, but for shutting its timer down and adding tasks
that schedule fetches. -/
theorem Able.deed {label : Label} (able : Able interval h) (deed : Deed label h g)
    (up : label ≠ .shutDown) (added : ∀ task, label = .add task → task.isPlain = true) :
    Able interval g where
  paced := deed.paced able.paced
  ticks := by
    by_cases beat : label = .beat
    · subst beat
      cases deed with
      | aside aside =>
        cases aside with
        | beat h id => exact (Timer.Source.isTicking_beat ..).trans able.ticks
        | rest h ms id => exact able.ticks
        | goOn h id => exact able.ticks
    · exact (deed.later beat up).ticks.trans able.ticks
  timed := deed.service_kept.2.1.trans able.timed
  plain := deed.plain able.plain added

/-- **A schedule that is armed** waits for a tick an interval away. -/
theorem Able.exists_awaits_arm (able : Able interval h) (long : 1 ≤ interval)
    (started : h.schedule = some { armed := none, stopped := false }) :
    ∃ e, h.arm.Awaits interval e (h.loop.now + interval) := by
  have milli : Timer.minInterval ≤ interval * Duration.milli := Nat.le_mul_of_pos_left _ long
  have period : h.service.period? = some (interval * Duration.milli) := by
    rw [Refresh.Service.period?, able.timed]
    exact if_pos (bne_iff_ne.2 (Nat.ne_of_gt (Nat.lt_of_lt_of_le (by decide) milli)))
  have armed : h.arm = { (h.subscribe .refresh (interval * Duration.milli)).2 with
      schedule := some { armed := some (h.timer.created + 1), stopped := false } } := by
    rw [← id_subscribe .refresh (interval * Duration.milli)]
    unfold arm
    rw [period, started]
    rfl
  have pulse : (h.subscribe .refresh (interval * Duration.milli)).2.loop =
      h.loop.wake (.pulse (h.timer.created + 1)) := by
    rw [← Timer.Source.id_subscribe h.timer .refresh (interval * Duration.milli)]
    exact if_pos ((Timer.Source.hasPulse_subscribe ..).trans able.ticks)
  refine ⟨⟨h.timer.created + 1, .refresh, interval * Duration.milli, none⟩, ?_⟩
  rw [armed]
  refine ⟨rfl, ?_, (Timer.Source.created_subscribe ..).ge, rfl, rfl, .inl ⟨rfl, ?_, ?_⟩⟩
  · have new := Timer.Source.row?_subscribe_new able.ticks able.paced.toNumbered
      Subscriber.refresh (interval * Duration.milli)
    rwa [Nat.max_eq_left milli] at new
  · change _ = (h.subscribe .refresh (interval * Duration.milli)).2.loop.now + interval
    rw [pulse]
    rfl
  · exact pulse ▸ List.mem_append_right _ (List.mem_singleton_self _)

/-! ## Stages -/

/-- The schedule is in a stage, and the fetches that are on their way fit that. -/
def IsIn (interval : Nat) (h : Home) : Stage → Prop
  | .off => h.schedule = some {} ∧ h.work.errands = []
  | .armed due => (∃ e, h.Awaits interval e due) ∧ h.work.errands = []
  | .fetching id => h.schedule = some { armed := none, stopped := false } ∧ h.work.errands = [id]

/-- A schedule that is in a stage exists. -/
theorem IsIn.isSome (is : IsIn interval h s) : h.schedule.isSome = true := by
  cases s with
  | armed due =>
    obtain ⟨⟨e, a⟩, -⟩ := is
    exact Option.isSome_of_eq_some a.schedule
  | _ => exact Option.isSome_of_eq_some is.1

/-- **Whoever bides leaves the stage**, if the timer still holds what is written down. -/
theorem IsIn.bides (is : IsIn interval h s) (bides : Bides h g) (later : Keeping ui interval g) :
    IsIn interval g s := by
  cases s with
  | off => exact ⟨bides.schedule.trans is.1, bides.errands.trans is.2⟩
  | fetching id => exact ⟨bides.schedule.trans is.1, bides.errands.trans is.2⟩
  | armed due =>
    obtain ⟨⟨e, a⟩, none⟩ := is
    refine ⟨⟨e, a.of_onward bides.schedule ?_ bides.timer.created bides.loop⟩,
      bides.errands.trans none⟩
    obtain ⟨sub, held, same, -⟩ := later.heard _ e.id (bides.schedule.trans a.schedule) rfl
    obtain ⟨due, found⟩ := Timer.Source.exists_row? later.ticks later.paced.toNumbered held
    rw [same] at found
    rcases bides.timer.row _ _ found with old | new
    · exact found.trans (old.symm.trans a.row)
    · exact absurd a.known (Nat.not_le.2 new)

/-- A fetch has ended, and that was reported. -/
def Ended (id : Task.Id) (h : Home) : Prop :=
  ∃ e outcome, e.id = id ∧ endEvent e outcome ∈ h.ledger.events

/-- **The end of the fetch arms the schedule.** -/
theorem IsIn.finish {id : Task.Id} (is : IsIn interval h (.fetching id)) (able : Able interval h)
    (long : 1 ≤ interval) {e : Work.Entry} (busy : h.work.worker.isBusy = true)
    (current : h.work.current = some e) (scheduled : e.scheduled = true)
    (outcome : Except Task.Error Task.Outcome) :
    IsIn interval (h.finish outcome) (.armed (h.loop.now + interval)) ∧
      Ended id (h.finish outcome) := by
  obtain ⟨errands, reported⟩ := finish_errands busy current outcome
  rw [is.2, if_pos scheduled] at errands
  obtain ⟨same, none⟩ := List.cons.inj errands
  obtain ⟨entry, a⟩ := able.exists_awaits_arm long is.1
  refine ⟨⟨⟨entry, ?_⟩, none.symm⟩, e, outcome, same.symm, reported⟩
  rcases finish_cases outcome h with ⟨nobody, -⟩ | ⟨f, armed, taken, own, ended⟩
  · cases current.symm.trans nobody
  · cases current.symm.trans taken
    rcases own with ⟨-, rfl⟩ | ⟨other, -⟩
    · rw [ended]
      exact a.of_onward rfl a.row (Nat.le_refl _) (.goOn _ h.arm.loop)
    · cases scheduled.symm.trans other

/-- What quiet deeds come to: the schedule is dropped, the stage stays, or the fetch ends. -/
inductive Goes (interval : Nat) (h g : Home) : Stage → Prop where
  | dropped {s : Stage} (gone : g.schedule = none) : Goes interval h g s
  | stays {s : Stage} (bides : Bides h g) : Goes interval h g s
  | ends {id : Task.Id} {k : Home} (is : IsIn interval k (.armed (h.loop.now + interval)))
      (ended : Ended id k) (bides : Bides k g) : Goes interval h g (.fetching id)

/-- **What quiet deeds do to the stage.** -/
theorem Deeds.goes {permits : Label → Prop} (deeds : Deeds permits h g)
    (quiet : ∀ label, permits label → label.isQuiet = true)
    (added : ∀ task, permits (.add task) → task.isPlain = true) (able : Able interval h)
    (long : 1 ≤ interval) (is : IsIn interval h s) :
    Able interval g ∧ Goes interval h g s := by
  refine deeds.keep (P := fun k => Able interval k ∧ Goes interval h k s)
    (fun label k l ok deed kept => ?_) ⟨able, .stays (.refl h)⟩
  obtain ⟨able, goes⟩ := kept
  have calm := quiet label ok
  have plain : ∀ task, label = .add task → task.isPlain = true :=
    fun task same => added task (same ▸ ok)
  refine ⟨able.deed deed (fun down => by rw [down] at calm; cases calm) plain, ?_⟩
  rcases deed.bides_or_ends calm able.plain plain with
    gone | bides | ⟨e, outcome, busy, current, scheduled, rfl⟩
  · exact .dropped gone
  · cases goes with
    | dropped gone => exact .dropped (bides.schedule.trans gone)
    | stays before => exact .stays (before.trans bides)
    | ends armed ended before => exact .ends armed ended (before.trans bides)
  · -- A fetch is on its way, so this is the one that the schedule waits for.
    have running : k.work.errands ≠ [] := by
      rw [(finish_errands busy current outcome).1, if_pos scheduled]
      exact List.cons_ne_nil e.id _
    cases goes with
    | dropped gone => exact .dropped (deed.schedule_eq_none gone)
    | ends armed ended before => exact absurd (before.errands.trans armed.2) running
    | stays before =>
      cases s with
      | off => exact absurd (before.errands.trans is.2) running
      | armed due => exact absurd (before.errands.trans is.2) running
      | fetching id =>
        have is : IsIn interval k (.fetching id) :=
          ⟨before.schedule.trans is.1, before.errands.trans is.2⟩
        obtain ⟨armed, ended⟩ := is.finish able long busy current scheduled outcome
        rw [before.loop.now] at armed
        exact .ends armed ended (.refl _)

end Home
end HomeMedia
