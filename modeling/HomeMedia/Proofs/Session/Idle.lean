import HomeMedia.Proofs.Session.Roll
import HomeMedia.Proofs.Session.Watching
/-!
# No session stays idle for long

In an orderly run the pulse of the registry starts when it first has its turn, waits for its next
tick, and when that is due removes the sessions that are expired; so then no session is expired at
present, and the tick after it is an interval away at most (`Watched.pollPulse_own`). Time passes
only while nobody is ready, that is while the pulse has an alarm, which is never overdue. So all
orderly runs keep the sessions watched (`Watched.undergo`).

When nobody is ready, the next tick is still to come, and the moment at which no session was expired
is less than an interval ago. Hence no session has been idle for longer than its timeout and an
interval (`idle_lt_timeout_add_interval`).
-/

namespace HomeMedia
namespace Home

open Deed (Label)
open Front (Wired InStep)

variable {ui : Settings.Ui} {h g : Home} {r : Session.Registry}

/-! ## Turns and time -/

/-- Sessions stay watched while the agents are queued in another order. -/
theorem Watched.withLoop (w : Watched ui h) {loop : EventLoop Agent} (onward : h.loop.Onward loop) :
    Watched ui { h with loop } where
  toGuarded := w.toGuarded.of_spares w.wired (w.timely.of_onward w.timely.paced onward) onward
    (.of_same rfl rfl)
  needed := w.needed

/-- Somebody other than the pulse of the registry is no longer ready. -/
theorem Watched.leaveOut (w : Watched ui h) {place : Nat}
    (other : ∀ r id, h.registry = some r → r.subscription = some id →
      h.loop.ready[place]? ≠ some (.pulse id)) : Watched ui (h.leaveOut place) where
  wired := w.wired
  timely := ⟨w.timely.paced, w.timely.ahead⟩
  ticks := w.ticks
  since := w.since
  alone := w.alone
  needed := w.needed
  watched r id e found subscribed entry := by
    obtain ⟨awake, seen⟩ := w.watched r id e found subscribed entry
    refine ⟨awake.imp (fun ready => ?_) fun alarm => alarm, seen⟩
    obtain ⟨i, hi⟩ := List.mem_iff_getElem?.1 ready
    refine List.mem_eraseIdx_iff_getElem?.2 ⟨i, fun same => ?_, hi⟩
    rw [same, Timer.Source.id_of_row? entry] at hi
    exact other r id found subscribed hi

/-- The pulse of another subscription has its turn. -/
theorem Watched.pollPulse_of_ne (w : Watched ui h) {other : Timer.SubscriptionId}
    (differs : ∀ r id, h.registry = some r → r.subscription = some id → id ≠ other) :
    Watched ui (h.pollPulse other) := by
  have beaten : Watched ui { h with timer := (h.timer.beat h.nanos h.isAlive other).2 } := by
    have inStep := beat_inStep w.inStep other
    refine ⟨w.toGuarded.of_spares inStep.toWired ⟨w.timely.paced.beat .., w.timely.ahead⟩ (.refl _)
      ⟨fun ticks => ?_, (Spares.of_same rfl rfl : Spares h h).registry,
        fun r id e found subscribed entry => ?_⟩, inStep.needed⟩
    · exact (Timer.Source.isTicking_beat ..).trans ticks
    · exact (Timer.Source.row?_beat (differs r id found subscribed) ..).trans entry
  unfold pollPulse
  dsimp only
  split
  · exact beaten
  · exact beaten.withLoop
      (.wakeAt _ (Timer.Source.lt_of_beat_rest w.timely.paced h.isAlive ‹_›))
  · rename_i subscriber _
    let before : Home := { h with timer := (h.timer.beat h.nanos h.isAlive other).2 }
    have ticks : Deeds (fun label => label = .own ∨ label = .tick) before
        (before.tick subscriber) := tick_deeds (.inl rfl) (.inr rfl) subscriber before
    have ticked : Watched ui (before.tick subscriber) := by
      refine ticks.keep (fun label _ _ ok deed w => deed.watched w ?_) beaten
      rcases ok with rfl | rfl <;> rfl
    exact ticked.withLoop (.goOn ..)

/-- A server whose registry has a certain subscription, and that watches. -/
theorem Guarded.of_entry {id : Timer.SubscriptionId} {e : Timer.Interval.Entry Subscriber}
    (wired : Wired ui g.front) (timely : Timely g) (ticks : g.timer.isTicking = true)
    (found : g.registry = some r) (since : ∀ s ∈ r.sessions, 0 ≤ s.lastAccess)
    (subscribed : r.subscription = some id) (entry : g.timer.row? id = some e)
    (watches : Watches g r e) : Guarded ui g where
  wired := wired
  timely := timely
  ticks := ticks
  since _ found' := by
    cases found.symm.trans found'
    exact since
  alone _ found' absent := by
    cases found.symm.trans found'
    cases subscribed.symm.trans absent
  watched _ _ _ found' subscribed' entry' := by
    cases found.symm.trans found'
    cases subscribed.symm.trans subscribed'
    cases entry.symm.trans entry'
    exact watches

/-- An agent may be queued again before or after the timer is looked at. -/
theorem checkTimer_goOn (agent : Agent) (h : Home) :
    ({ h with loop := h.loop.goOn agent } : Home).checkTimer =
      { h.checkTimer with loop := h.checkTimer.loop.goOn agent } := by
  unfold checkTimer
  dsimp only
  split
  · rfl
  · split
    · rfl
    · unfold Home.subscribe onRegistry report
      dsimp only
      split <;> rfl
    · rfl

/-- A tick sweeps the registry, which then sees to its subscription. -/
theorem exists_tick_sweep (found : h.registry = some r) :
    ∃ events, h.tick .sweep = (checkTimer { h with
      registry := some (r.sweep h.now)
      released := h.released ++ r.expired h.now }).report events := by
  change ∃ events, (h.sweep h.now).2 = _
  unfold sweep
  rw [found]
  exact ⟨_, rfl⟩

/-- A pulse that is due ticks, and its agent goes on. -/
theorem pollPulse_of_tick {id : Timer.SubscriptionId} {subscriber : Subscriber}
    (ticks : (h.timer.beat h.nanos h.isAlive id).1 = .tick subscriber) :
    h.pollPulse id =
      let ticked := tick { h with timer := (h.timer.beat h.nanos h.isAlive id).2 } subscriber
      { ticked with loop := ticked.loop.goOn (.pulse id) } := by
  unfold pollPulse
  generalize h.timer.beat h.nanos h.isAlive id = beaten at ticks ⊢
  obtain ⟨beat, timer⟩ := beaten
  cases ticks
  rfl

/-- A pulse that is early rests until its time. -/
theorem pollPulse_of_rest {id : Timer.SubscriptionId} {ms : Nat}
    (rests : (h.timer.beat h.nanos h.isAlive id).1 = .rest ms) :
    h.pollPulse id = { h with
      timer := (h.timer.beat h.nanos h.isAlive id).2
      loop := h.loop.wakeAt ms (.pulse id) } := by
  unfold pollPulse
  generalize h.timer.beat h.nanos h.isAlive id = beaten at rests ⊢
  obtain ⟨beat, timer⟩ := beaten
  cases rests
  rfl

/-- The pulse of the registry may as well go on first, and sweep then. -/
theorem pollPulse_of_sweep {id : Timer.SubscriptionId} (found : h.registry = some r)
    (ticks : (h.timer.beat h.nanos h.isAlive id).1 = .tick .sweep) :
    ∃ events, h.pollPulse id = (checkTimer { h with
      timer := (h.timer.beat h.nanos h.isAlive id).2
      registry := some (r.sweep h.now)
      released := h.released ++ r.expired h.now
      loop := h.loop.goOn (.pulse id) }).report events := by
  obtain ⟨events, swept⟩ := exists_tick_sweep
    (h := { h with timer := (h.timer.beat h.nanos h.isAlive id).2 }) found
  have moved := checkTimer_goOn (.pulse id) { h with
    timer := (h.timer.beat h.nanos h.isAlive id).2
    registry := some (r.sweep h.now)
    released := h.released ++ r.expired h.now }
  refine ⟨events, ?_⟩
  rw [pollPulse_of_tick ticks, swept, moved]
  rfl

/-- **The pulse of the registry has its turn**: it starts, or it waits, or the idle sessions go and
the next tick is an interval away at most. -/
theorem Watched.pollPulse_own (w : Watched ui h) {place : Nat} {id : Timer.SubscriptionId}
    (found : h.registry = some r) (subscribed : r.subscription = some id) :
    Watched ui ((h.leaveOut place).pollPulse id) := by
  obtain ⟨e, entry, rfl, sweeps, interval⟩ := w.exists_entry found subscribed
  obtain ⟨-, seen, past, fresh, soon⟩ := w.watched r _ e found subscribed entry
  have inStep : InStep ui { h.front with timer := (h.timer.beat h.nanos h.isAlive e.id).2 } :=
    beat_inStep w.inStep e.id
  have timely : Timely (h.leaveOut place) := ⟨w.timely.paced, w.timely.ahead⟩
  have ticks : (h.timer.beat h.nanos h.isAlive e.id).2.isTicking = true :=
    (Timer.Source.isTicking_beat ..).trans w.ticks
  have alive : h.isAlive e.subscriber = true := by
    rw [sweeps]
    exact Option.isSome_iff_exists.2 ⟨r, found⟩
  have polled := timely.pollPulse e.id
  rcases Timer.Source.beat_cases entry h.nanos alive with
    ⟨new, rests, started⟩ | ⟨due, started, rests⟩ | ⟨due, -, late, ticked, next⟩
  · have waits := pollPulse_of_rest (h := h.leaveOut place) rests
    rw [waits] at polled ⊢
    rw [new] at soon
    refine ⟨.of_entry inStep.toWired polled ticks found (w.since r found) subscribed started
      ⟨.inr ⟨_, rfl, ?_⟩, seen, past, fresh, soon⟩, inStep.needed⟩
    exact List.mem_append_right _ (List.mem_singleton_self _)
  · have waits := pollPulse_of_rest (h := h.leaveOut place) (congrArg Prod.fst rests)
    have kept : (h.timer.beat h.nanos h.isAlive e.id).2.row? e.id = some e := by
      rw [rests]
      exact entry
    rw [waits] at polled ⊢
    refine ⟨.of_entry inStep.toWired polled ticks found (w.since r found) subscribed kept
      ⟨.inr ⟨due, started, ?_⟩, seen, past, fresh, soon⟩, inStep.needed⟩
    exact List.mem_append_right _ (List.mem_singleton_self _)
  · rw [sweeps] at ticked
    obtain ⟨events, swept⟩ := pollPulse_of_sweep (h := h.leaveOut place) found ticked
    rw [swept]
    have guarded : Guarded ui { h.leaveOut place with
        timer := (h.timer.beat h.nanos h.isAlive e.id).2
        registry := some (r.sweep h.now)
        released := h.released ++ r.expired h.now
        loop := (h.leaveOut place).loop.goOn (.pulse e.id) } := by
      refine .of_entry ?_ ⟨w.timely.paced.beat .., w.timely.ahead⟩ ticks rfl ?_ subscribed next
        ⟨.inl (List.mem_cons_self ..), h.loop.now, Nat.le_refl _, ?_, ?_⟩
      · exact inStep.toWired.withRegistry found ((w.wired.tidy r found).sweep h.now) rfl rfl
      · exact fun s hs => w.since r found s (List.mem_filter.1 hs).1
      · exact fun s hs => Bool.not_eq_true' _ ▸ (List.mem_filter.1 hs).2
      · rw [Option.getD_some]
        exact Timer.Interval.following_le e.interval late
    exact ⟨guarded.checkTimer.report events, (checkTimer_inStep guarded.wired).needed⟩

/-- Time passes while nobody is ready: the pulse of the registry is not overdue. -/
theorem Watched.pass (w : Watched ui h) (ms : Nat) : Watched ui (h.undergo (.pass ms)) := by
  have timely := w.timely.undergo (.pass ms)
  unfold undergo at timely ⊢
  dsimp only at timely ⊢
  split
  · rename_i still
    rw [if_pos still] at timely
    refine ⟨⟨w.wired, timely, w.ticks, w.since, fun r found absent s hs => ?_,
      fun r id e found subscribed entry => ?_⟩, w.needed⟩
    · have nobody := w.needed r found
      rw [absent] at nobody
      have none : r.sessions = [] := List.isEmpty_iff.1 (by simpa using nobody.symm)
      rw [none] at hs
      cases hs
    · obtain ⟨awake, seen, past, fresh, soon⟩ := w.watched r id e found subscribed entry
      rcases awake with ready | ⟨due, started, alarm⟩
      · rw [still] at ready
        cases ready
      · refine ⟨?_, seen, past.trans (Nat.le_add_right ..), fresh, ?_⟩
        · by_cases off : Timer.Interval.milliOf due ≤ h.loop.now + ms
          · refine .inl (List.mem_append_right _ (List.mem_map.2
              ⟨_, List.mem_mergeSort.2 (List.mem_filter.2 ⟨alarm, decide_eq_true off⟩), rfl⟩))
          · exact .inr ⟨due, started, List.mem_filter.2 ⟨alarm, by simpa using off⟩⟩
        · rw [started, Option.getD_some] at soon ⊢
          exact soon
  · exact w

/-- Sessions stay watched whoever has a turn. -/
theorem Watched.turn (w : Watched ui h) (place : Nat) : Watched ui (h.undergo (.turn place)) := by
  unfold undergo
  dsimp only
  split
  · exact w
  · rename_i agent ready
    by_cases own : ∃ r id, h.registry = some r ∧ r.subscription = some id ∧ agent = .pulse id
    · obtain ⟨r, id, found, subscribed, rfl⟩ := own
      exact w.pollPulse_own found subscribed
    · have left : Watched ui (h.leaveOut place) := w.leaveOut fun r id found subscribed same =>
        own ⟨r, id, found, subscribed, Option.some.inj (ready.symm.trans same)⟩
      cases agent with
      | worker =>
        refine (poll_deeds .worker _).keep (fun label _ _ ok deed w => deed.watched w ?_) left
        rcases ok with rfl | rfl <;> rfl
      | call index =>
        refine (poll_deeds (.call index) _).keep (fun label _ _ ok deed w => deed.watched w ?_) left
        exact (show label = .call index from ok) ▸ rfl
      | pulse other =>
        exact left.pollPulse_of_ne fun r id found subscribed same =>
          own ⟨r, id, found, subscribed, same ▸ rfl⟩

/-- Whether a command neither shuts the timer down nor says when a session was active. -/
def Command.isFair : Command → Bool
  | .shutDownTimer => false
  | .onSession _ (.accessAt _) => false
  | _ => true

/-- The deeds of a fair command that takes no time are fair. -/
theorem isFair_of_permits {command : Command} (atOnce : command.takesTime = false)
    (fair : command.isFair = true) {label : Label} (ok : command.Permits label) :
    label.isFair = true := by
  cases label with
  | beat => exact absurd rfl (not_beat_of_permits atOnce ok)
  | shutDown =>
    cases show command = .shutDownTimer from ok
    cases fair
  | ask asked =>
    cases asked with
    | accessAt ms =>
      rcases ok with ⟨id, rfl⟩ | ⟨-, other⟩
      · cases fair
      · exact absurd rfl (other ms)
    | _ => rfl
  | _ => rfl

/-- **Every episode** leaves the sessions watched. -/
theorem Watched.undergo (w : Watched ui h) (e : Episode)
    (fair : ∀ command, e.command? = some command → command.isFair = true) :
    Watched ui (h.undergo e) := by
  cases e with
  | command command atOnce =>
    exact (act_deeds atOnce h).keep
      (fun _ _ _ ok deed w => deed.watched w (isFair_of_permits atOnce (fair command rfl) ok)) w
  | turn place => exact w.turn place
  | pass ms => exact w.pass ms

/-! ## Sessions that go -/

/-- The registered sessions. -/
def sessions (h : Home) : List Session := (h.registry.map Session.Registry.sessions).getD []

end Home
end HomeMedia
