import HomeMedia.Proofs.Home.Episodes
import HomeMedia.Proofs.Number
import HomeMedia.Proofs.Session.Sweeping
/-!
# The subscription of the registry watches over the sessions

While there is a session, the registry has a subscription, and its ticks remove the sessions that
have been idle for too long. The ticks are not on a fixed grid: the subscription ends with the last
session and a new one starts with the next, at its own time, and a tick that comes late moves those
after it. What holds at all times is that the subscription *watches* (`Watches`): its pulse is ready
or has an alarm, and there was a moment, an interval before the next tick or later, at which no
session was expired. When the subscription is made, this is the present, for then the only session
is the one just created.

Whatever is done to the sessions between the turns of pulses makes none of them look older at that
moment, and leaves the subscription and its pulse alone unless nobody is left to watch over
(`Deed.watched`). Only the clock must not be tampered with: the timer is not shut down, and nobody
says when a session was active (`Deed.Label.isFair`).

Times are signed 64-bit milliseconds; a clock that gets beyond shows the greatest of them.
-/

namespace HomeMedia

namespace Session

variable {s : Session}

/-- A session is expired when it has been idle for longer than its timeout, both as far as words can
say. -/
theorem isExpiredAt_iff {now : Int} : s.isExpiredAt now = true ↔
    Number.clampSigned64 (1000 * s.timeout) < Number.clampSigned64 (now - s.lastAccess) :=
  decide_eq_true_iff

/-- A session that was active since then is not expired. -/
theorem isExpiredAt_of_le {now : Int} (active : now ≤ s.lastAccess) :
    s.isExpiredAt now = false := by
  rw [← Bool.not_eq_true, isExpiredAt_iff]
  simp only [Number.clampSigned64, Number.maxSigned64]
  omega

end Session

/-- A new session is active. -/
theorem Session.Registry.lastAccess_of_create {r next : Session.Registry} {timeout : Nat}
    {now : Int} {s : Session} (made : r.create timeout now = (.ok s, next)) :
    s.lastAccess = now := by
  unfold create at made
  split at made
  · cases made
  · cases made
    rfl

namespace Home

open Deed (Label)
open Front (Wired InStep)

variable {ui : Settings.Ui} {h g : Home} {r : Session.Registry}

/-- The clock of the sessions shows the time as long as it can. -/
theorem now_eq (h : Home) : h.now = min (h.loop.now : Int) Number.maxSigned64 :=
  Number.clampSigned64_of_nonneg (Int.natCast_nonneg _)

/-- It starts at nought. -/
theorem now_nonneg (h : Home) : 0 ≤ h.now := by
  rw [now_eq]
  exact Int.le_min.2 ⟨Int.natCast_nonneg _, Int.natCast_nonneg _⟩

/-- An earlier reading was no greater. -/
theorem le_now {seen : Nat} (h : Home) (past : seen ≤ h.loop.now) :
    Number.clampSigned64 seen ≤ h.now := by
  rw [now_eq, Number.clampSigned64_of_nonneg (Int.natCast_nonneg _)]
  exact min_le_min_right _ (Int.ofNat_le.2 past)

/-- The sessions of a registry were active as lately as those of another one, or just now. -/
def Follows (now : Int) (r next : Session.Registry) : Prop :=
  ∀ s ∈ next.sessions, s.lastAccess = now ∨
    ∃ old ∈ r.sessions, s.timeout = old.timeout ∧ s.lastAccess = old.lastAccess

/-- A registry follows itself. -/
theorem Follows.refl (now : Int) (r : Session.Registry) : Follows now r r :=
  fun s hs => .inr ⟨s, hs, rfl, rfl⟩

/-- So does one with fewer sessions. -/
theorem Follows.of_subset {now : Int} {next : Session.Registry}
    (fewer : next.sessions ⊆ r.sessions) : Follows now r next :=
  fun s hs => .inr ⟨s, fewer hs, rfl, rfl⟩

/-- Sessions that were not expired some time ago were not then, whoever has been active since. -/
theorem Follows.isExpiredAt {now : Int} {next : Session.Registry} (follows : Follows now r next)
    {seen : Int} (past : seen ≤ now) (fresh : ∀ s ∈ r.sessions, s.isExpiredAt seen = false) :
    ∀ s ∈ next.sessions, s.isExpiredAt seen = false := by
  intro s hs
  rcases follows s hs with active | ⟨old, hold, timeout, access⟩
  · exact Session.isExpiredAt_of_le (active ▸ past)
  · rw [← fresh old hold, Session.isExpiredAt, Session.isExpiredAt, timeout, access]

/-! ## The subscription watches over the sessions -/

/-- A subscription watches over sessions: its pulse is ready or has an alarm for its next tick, and
there was a moment, an interval before that tick or later, at which no session was expired. -/
structure Watches (h : Home) (r : Session.Registry) (e : Timer.Interval.Entry Subscriber) :
    Prop where
  /-- The pulse is ready or will be in time. -/
  awake : Agent.pulse e.id ∈ h.loop.ready ∨
    ∃ due, e.due = some due ∧ ⟨Timer.Interval.milliOf due, .pulse e.id⟩ ∈ h.loop.alarms
  /-- No session was expired an interval before the next tick. -/
  seen : ∃ seen : Nat, seen ≤ h.loop.now ∧
    (∀ s ∈ r.sessions, s.isExpiredAt (Number.clampSigned64 seen) = false) ∧
    e.due.getD (h.nanos + e.interval) ≤ seen * Duration.milli + e.interval

/-- If the registry has a subscription, that watches over its sessions, and else none of them is
expired. -/
structure Guarded (ui : Settings.Ui) (h : Home) : Prop where
  /-- The registry and the timer agree on the subscription. -/
  wired : Wired ui h.front
  /-- Ticks do not come too fast, and no alarm is overdue. -/
  timely : Timely h
  /-- New subscriptions get a pulse. -/
  ticks : h.timer.isTicking = true
  /-- Sessions were not active before the clock started. -/
  since : ∀ r, h.registry = some r → ∀ s ∈ r.sessions, 0 ≤ s.lastAccess
  /-- Without a subscription, no session is expired. -/
  alone : ∀ r, h.registry = some r → r.subscription = none →
    ∀ s ∈ r.sessions, s.isExpiredAt h.now = false
  /-- The subscription watches over the sessions. -/
  watched : ∀ r id e, h.registry = some r → r.subscription = some id →
    h.timer.row? id = some e → Watches h r e

/-- Besides, the registry has a subscription while it has a session. -/
structure Watched (ui : Settings.Ui) (h : Home) : Prop extends Guarded ui h where
  /-- There is nothing to do about the subscription. -/
  needed : ∀ r, h.registry = some r → r.subscription.isSome = !r.sessions.isEmpty

/-- Where sessions are watched, registry and timer are in step. -/
theorem Watched.inStep (w : Watched ui h) : InStep ui h.front := ⟨w.wired, w.needed⟩

/-- Nothing happens to the subscription of the registry, and sessions are no more idle than
before. -/
structure Spares (h g : Home) : Prop where
  /-- The timer is not shut down. -/
  ticks : h.timer.isTicking = true → g.timer.isTicking = true
  /-- The registry has the same subscription, and no session that is idle for longer. -/
  registry : ∀ next, g.registry = some next → ∃ r, h.registry = some r ∧
    next.subscription = r.subscription ∧ Follows h.now r next
  /-- The timer has it too. -/
  entry : ∀ r id e, h.registry = some r → r.subscription = some id →
    h.timer.row? id = some e → g.timer.row? id = some e

namespace Guarded

/-- The subscription that is written down is one of the timer's. -/
theorem exists_entry (k : Guarded ui h) {id : Timer.SubscriptionId} (found : h.registry = some r)
    (subscribed : r.subscription = some id) :
    ∃ e, h.timer.row? id = some e ∧ e.id = id ∧ e.subscriber = .sweep ∧
      e.interval = max ui.sweepInterval 1 * Duration.second := by
  have swept := k.wired.swept r found
  rw [subscribed] at swept
  have mem : sweepOf ui id ∈ sweeps h.timer := by
    rw [show sweeps h.timer = [sweepOf ui id] from swept]
    exact List.mem_singleton_self _
  obtain ⟨due, entry⟩ :=
    Timer.Source.exists_row? k.ticks k.wired.numbered (List.mem_filter.1 mem).1
  exact ⟨_, entry, rfl, rfl, rfl⟩

/-- Sessions stay guarded when no agent is lost and the subscription of the registry is spared. -/
theorem of_spares (k : Guarded ui h) (wired : Wired ui g.front) (timely : Timely g)
    (onward : h.loop.Onward g.loop) (spares : Spares h g) : Guarded ui g where
  wired := wired
  timely := timely
  ticks := spares.ticks k.ticks
  since next found s hs := by
    obtain ⟨r, before, -, follows⟩ := spares.registry next found
    rcases follows s hs with active | ⟨old, hold, -, access⟩
    · exact active ▸ h.now_nonneg
    · exact access ▸ k.since r before old hold
  alone next found absent := by
    obtain ⟨r, before, same, follows⟩ := spares.registry next found
    have now : g.now = h.now := by rw [Home.now, Home.now, onward.now]
    rw [now]
    exact follows.isExpiredAt (Int.le_refl _) (k.alone r before (same ▸ absent))
  watched next id e found subscribed entry := by
    obtain ⟨r, before, same, follows⟩ := spares.registry next found
    rw [same] at subscribed
    obtain ⟨e', entry', -⟩ := k.exists_entry before subscribed
    cases (spares.entry r id e' before subscribed entry').symm.trans entry
    obtain ⟨awake, seen, past, fresh, soon⟩ := k.watched r id _ before subscribed entry'
    refine ⟨?_, seen, onward.now ▸ past, follows.isExpiredAt (h.le_now past) fresh, ?_⟩
    · rcases awake with ready | ⟨due, started, alarm⟩
      · exact .inl (onward.ready ready)
      · exact .inr ⟨due, started, onward.alarms alarm⟩
    · rwa [nanos, onward.now]

/-- Reporting events leaves them guarded. -/
theorem report (k : Guarded ui h) (events : List Event) : Guarded ui (h.report events) where
  wired := k.wired
  timely := ⟨k.timely.paced, k.timely.ahead⟩
  ticks := k.ticks
  since := k.since
  alone := k.alone
  watched r id e found subscribed entry :=
    have watches := k.watched r id e found subscribed entry
    ⟨watches.awake, watches.seen⟩

/-- The registry may take other sessions in, or let some go. -/
theorem withRegistry (k : Guarded ui h) (found : h.registry = some r) (next : Session.Registry)
    (tidy : next.Tidy) (settings : next.ui = r.ui) (same : next.subscription = r.subscription)
    (follows : Follows h.now r next) (released : List Session) :
    Guarded ui { h with registry := some next, released } :=
  k.of_spares (k.wired.withRegistry found tidy settings same) ⟨k.timely.paced, k.timely.ahead⟩
    (.refl _)
    { ticks := fun ticks => ticks
      registry := fun _ found' => by cases found'; exact ⟨r, found, same, follows⟩
      entry := fun _ _ _ _ _ entry => entry }

/-- A new subscription watches from now on. -/
theorem subscribe (k : Guarded ui h) (found : h.registry = some r)
    (absent : r.subscription = none) (nanos : Nat) (wired : Wired ui g.front) (timely : Timely g)
    (registry : g.registry = some { r with subscription := some (h.timer.created + 1) })
    (timer : g.timer = (h.timer.subscribe .sweep nanos).2)
    (loop : g.loop = h.loop.wake (.pulse (h.timer.created + 1))) : Guarded ui g where
  wired := wired
  timely := timely
  ticks := by
    rw [timer, Timer.Source.isTicking_subscribe]
    exact k.ticks
  since _ found' s hs := by
    cases registry.symm.trans found'
    exact k.since r found s hs
  alone _ found' absent' := by
    cases registry.symm.trans found'
    cases absent'
  watched _ id e found' subscribed entry := by
    cases registry.symm.trans found'
    cases subscribed
    have new := Timer.Source.row?_subscribe_new k.ticks k.wired.numbered .sweep nanos
    cases (timer ▸ new).symm.trans entry
    refine ⟨.inl ?_, h.loop.now, ?_, k.alone r found absent, Nat.le_of_eq ?_⟩
    · rw [loop]
      exact List.mem_append_right _ (List.mem_singleton_self _)
    · rw [loop]
      exact Nat.le_refl _
    · rw [Option.getD_none, Home.nanos, loop]
      rfl

/-- **The registry sees to its subscription.** -/
theorem checkTimer (k : Guarded ui h) : Guarded ui h.checkTimer := by
  have wired := (checkTimer_inStep k.wired).toWired
  have timely : Timely h.checkTimer :=
    k.timely.of_onward (checkTimer_paced k.timely.paced) (checkTimer_onward h)
  revert wired timely
  unfold Home.checkTimer
  cases found : h.registry with
  | none => exact fun _ _ => k
  | some r =>
    dsimp only
    rcases timerNeed_cases r with ⟨need, -⟩ | ⟨need, absent, -⟩ | ⟨id, need, -, idle⟩ <;> rw [need]
    · exact fun _ _ => k
    · intro wired timely
      refine k.subscribe found absent r.sweepNanos wired timely ?_ rfl ?_
      · change h.registry.map _ = _
        rw [found, id_subscribe]
        rfl
      · have pulse : (h.timer.subscribe .sweep r.sweepNanos).1.hasPulse = true :=
          (Timer.Source.hasPulse_subscribe ..).trans k.ticks
        have id : (h.timer.subscribe .sweep r.sweepNanos).1.id = h.timer.created + 1 :=
          Timer.Source.id_subscribe ..
        rw [← id]
        exact if_pos pulse
    · intro wired timely
      have registry :
          ((h.unsubscribe id).onRegistry fun r => { r with subscription := none }).registry =
            some { r with subscription := none } := congrArg (Option.map _) found
      have nobody : r.sessions = [] := List.isEmpty_iff.1 idle
      refine ⟨wired, timely, ?_, ?_, ?_, ?_⟩
      · exact (Timer.Source.isTicking_unsubscribe id).trans k.ticks
      · intro _ found' s hs
        cases registry.symm.trans found'
        exact k.since r found s hs
      · intro _ found' _ s hs
        cases registry.symm.trans found'
        have none : s ∈ ([] : List Session) := nobody ▸ hs
        cases none
      · intro _ _ _ found' subscribed
        cases registry.symm.trans found'
        cases subscribed

/-! ## Sessions come and go -/

/-- Creating a session leaves the sessions guarded. -/
theorem createSession (k : Guarded ui h) (timeout : Nat) :
    Guarded ui (h.createSession timeout).2 := by
  unfold Home.createSession
  split
  · exact k
  · rename_i r found
    have tidy := k.wired.tidy r found
    rcases r.create_cases timeout h.now with
      ⟨cause, candidates, drawn⟩ | ⟨t, candidates, drawn, free, -⟩
    · rw [drawn]
      exact (k.withRegistry found { r with candidates } ⟨tidy.nodup, tidy.counted⟩ rfl rfl
        (.refl _ r) h.released).report [.idsExhausted cause]
    · have active := Session.Registry.lastAccess_of_create drawn
      rw [drawn]
      have tidy := tidy.concat free
      refine (k.withRegistry found ({ r with candidates }.withSessions (r.sessions ++ [t]))
        ⟨tidy.nodup, tidy.counted⟩ rfl rfl (fun s hs => ?_) _).checkTimer
      rcases List.mem_append.1 hs with old | new
      · exact .inr ⟨s, old, rfl, rfl⟩
      · exact .inl (List.mem_singleton.1 new ▸ active)

/-- So does removing one. -/
theorem removeSession (k : Guarded ui h) (id : String) : Guarded ui (h.removeSession id).2 := by
  unfold Home.removeSession
  split
  · exact k
  · rename_i t present
    obtain ⟨r, found, -⟩ := Option.bind_eq_some_iff.1 present
    have removed := k.withRegistry found (r.remove id) ((k.wired.tidy r found).remove id) rfl rfl
      (Follows.of_subset List.eraseP_subset) (h.released ++ [t])
    refine Guarded.checkTimer (h := onRegistry _ _) ?_
    unfold onRegistry
    dsimp only
    rwa [found]

/-- So does a sweep. -/
theorem sweep (k : Guarded ui h) (now : Int) : Guarded ui (h.sweep now).2 := by
  unfold Home.sweep
  split
  · exact k
  · rename_i r found
    exact (k.withRegistry found (r.sweep now) ((k.wired.tidy r found).sweep now) rfl rfl
      (Follows.of_subset (List.filter_subset_self _)) _).checkTimer.report _

end Guarded

/-! ## Deeds -/

namespace Spares

/-- What leaves timer and registry as they are spares the subscription. -/
theorem of_same (timer : g.timer = h.timer) (registry : g.registry = h.registry) :
    Spares h g where
  ticks ticks := timer ▸ ticks
  registry next found := ⟨next, registry ▸ found, rfl, .refl _ _⟩
  entry _ _ _ _ _ entry := timer ▸ entry

/-- So does what leaves the front as it is. -/
theorem of_front (same : g.front = h.front) : Spares h g :=
  of_same (congrArg Front.timer same) (congrArg Front.registry same)

/-- So does what is then done backstage. -/
theorem of_backstage {k : Home} (spares : Spares h g) (quiet : Backstage g k) : Spares h k := by
  obtain ⟨work, loop, openGates, log, rfl⟩ := quiet
  exact ⟨spares.ticks, spares.registry, spares.entry⟩

/-- Sessions may change, and be active now. -/
theorem map {change : Session → Session} (timer : g.timer = h.timer)
    (registry : g.registry = h.registry.map fun r => { r with sessions := r.sessions.map change })
    (timeout : ∀ s, (change s).timeout = s.timeout)
    (access : ∀ s, (change s).lastAccess = h.now ∨ (change s).lastAccess = s.lastAccess) :
    Spares h g where
  ticks ticks := timer ▸ ticks
  registry next found := by
    obtain ⟨r, before, rfl⟩ := Option.map_eq_some_iff.1 (registry ▸ found)
    refine ⟨r, before, rfl, fun s hs => ?_⟩
    obtain ⟨old, hold, rfl⟩ := List.mem_map.1 hs
    rcases access old with active | same
    · exact .inl active
    · exact .inr ⟨old, hold, timeout old, same⟩
  entry _ _ _ _ _ entry := timer ▸ entry

/-- What is told to the sessions does not make them active. -/
theorem changedAll (w : Watched ui h) (ids : List ObjectId) :
    Spares h (h.onRegistry (Session.Registry.changedAll ids)) := by
  have counted : ∀ r, h.registry = some r → r.count = r.sessions.length := fun r found =>
    (w.wired.tidy r found).counted
  refine .map rfl (Session.Registry.map_changedAll counted ids) (fun s => ?_) fun s => .inr ?_
  all_goals split <;> rfl

/-- Arming the schedule spares the subscription, too. -/
theorem arm (schedule : Option Refresh.Schedule) (h : Home) :
    Spares h { h with schedule }.arm := by
  have same : Spares h h := .of_same rfl rfl
  rcases arm_cases { h with schedule } with kept | ⟨s, nanos, -, -, -, -, armed⟩
  · exact kept.symm ▸ .of_same rfl rfl
  · rw [armed]
    exact ⟨fun ticks => (Timer.Source.isTicking_subscribe ..).trans ticks, same.registry,
      fun _ _ _ _ _ entry => Timer.Source.row?_subscribe entry ..⟩

/-- The subscription that the schedule ends is its own. -/
theorem disarm (k : Guarded ui h) {schedule : Option Refresh.Schedule}
    (own : ∀ s id, schedule = some s → s.armed = some id →
      ∃ t, h.schedule = some t ∧ t.armed = some id) :
    Spares h { h with schedule }.disarm := by
  have same : Spares h h := .of_same rfl rfl
  rcases disarm_cases { h with schedule } with kept | ⟨other, stopped, armed, disarmed⟩
  · exact kept.symm ▸ .of_same rfl rfl
  · rw [disarmed]
    refine ⟨fun ticks => (Timer.Source.isTicking_unsubscribe ..).trans ticks, same.registry,
      fun r id e found subscribed entry => ?_⟩
    refine (Timer.Source.row?_unsubscribe ?_).trans entry
    rintro rfl
    -- A subscription of the registry is not one of the schedule.
    obtain ⟨t, ht, htid⟩ := own _ id armed rfl
    have swept : sweepOf ui id ∈ sweeps h.timer := by
      have swept := k.wired.swept r found
      rw [subscribed] at swept
      exact swept ▸ List.mem_singleton_self _
    cases (k.wired.armed t id ht htid).2 _ (List.mem_filter.1 swept).1 rfl

end Spares

/-- A deed keeps the registry and the timer in step, unless it shuts the timer down. -/
theorem Deed.inStep {label : Label} (deed : Deed label h g) (s : InStep ui h.front)
    (up : label ≠ .shutDown) : InStep ui g.front := by
  cases client : label.isForClients with
  | false =>
    have steps := deed.front_steps client
    generalize g.front = f at steps ⊢
    induction steps with
    | refl => exact s
    | tail _ step ih => exact step_inStep ih step
  | true =>
    cases deed with
    | aside aside =>
      cases aside with
      | createSession h timeout => exact createSession_inStep s timeout
      | removeSession h id => exact removeSession_inStep s id
      | touch h id => exact s.map _ fun t => by split <;> rfl
      | ask h id command => exact s.map _ fun t => by split <;> simp [Session.id_run]
      | release h released => exact s
      | tell h ids => exact onRegistry_changedAll_inStep s ids
      | drainAll h => exact s.map _ fun _ => rfl
      | dropRegistry h => exact ⟨s.toWired.dropRegistry, fun r hr => by cases hr⟩
      | shutDown h => exact absurd rfl up
      | _ => cases client
    | _ => cases client

/-- Whether a deed neither lets a pulse have a part of its turn, nor shuts the timer down, nor says
when a session was active. -/
def Deed.Label.isFair : Label → Bool
  | .beat => false
  | .shutDown => false
  | .ask (.accessAt _) => false
  | _ => true

/-- **What is done between turns of pulses** leaves the sessions watched. -/
theorem Deed.watched {label : Label} (deed : Deed label h g) (w : Watched ui h)
    (fair : label.isFair = true) : Watched ui g := by
  have inStep := deed.inStep w.inStep fun down => by rw [down] at fair; cases fair
  have other : label ≠ .beat := fun beat => by rw [beat] at fair; cases fair
  have timely := w.timely.deed deed other
  have onward := deed.onward other
  suffices guarded : Guarded ui g from ⟨guarded, inStep.needed⟩
  have spared : Spares h g → Guarded ui g :=
    w.toGuarded.of_spares inStep.toWired timely onward
  have disarmed : Spares h h.disarm := .disarm w.toGuarded fun s _ found armed => ⟨s, found, armed⟩
  cases deed with
  | aside aside =>
    cases aside with
    | createSession h timeout => exact w.toGuarded.createSession timeout
    | removeSession h id => exact w.toGuarded.removeSession id
    | sweep h now => exact w.toGuarded.sweep now
    | checkTimer h => exact w.toGuarded.checkTimer
    | touch h id =>
      refine spared (.map rfl rfl (fun s => ?_) fun s => ?_)
      · split <;> rfl
      · split
        · exact .inl rfl
        · exact .inr rfl
    | ask h id command =>
      refine spared (.map rfl rfl (fun s => ?_) fun s => .inr ?_)
      all_goals
        split
        · cases command <;> first | rfl | cases fair
        · rfl
    | announce h ids =>
      refine spared ?_
      have told := Spares.changedAll w ids
      rw [← Session.Registry.announce_eq] at told
      exact { told with }
    | tell h ids => exact spared (.changedAll w ids)
    | drainAll h => exact spared (.map rfl rfl (fun _ => rfl) fun _ => .inr rfl)
    | dropRegistry h =>
      exact spared ⟨fun ticks => ticks, nofun, fun _ _ _ _ _ entry => entry⟩
    | shutDown h => cases fair
    | rest h ms id => cases fair
    | beat h id => cases fair
    | _ => exact spared (.of_same rfl rfl)
  | invalidate h id => exact spared (.of_front (Backstage.invalidate id h).front)
  | dropWork h =>
    exact spared (.of_front (Backstage.letGo (fun h => { h with holdsWork := false }) h).front)
  | dropSchedule h =>
    have same := (Backstage.letGo (fun h => { h with schedule := none }) h).front
    exact spared (.of_same (congrArg Front.timer same) (congrArg Front.registry same))
  | release h gate => exact spared (.of_front (Backstage.release gate h).front)
  | look h looking => exact spared (.of_front (Backstage.look h).front)
  | finish h outcome busy =>
    rcases Backstage.finish outcome h with quiet | armed
    · exact spared (.of_front quiet.front)
    · exact spared ((Spares.arm h.schedule h).of_backstage armed)
  | start h => exact spared (Spares.arm (h.schedule.map (Refresh.Schedule.setStopped false)) h)
  | stop h =>
    refine spared (Spares.disarm w.toGuarded fun s id stopped armed => ?_)
    obtain ⟨t, found, rfl⟩ := Option.map_eq_some_iff.1 stopped
    exact ⟨t, found, armed⟩
  | refresh h => exact spared (disarmed.of_backstage (.addTask _ _ _))
  | tick h armed => exact spared (disarmed.of_backstage (.addTask _ _ _))
  | _ => exact spared (.of_same rfl rfl)

end Home
end HomeMedia
