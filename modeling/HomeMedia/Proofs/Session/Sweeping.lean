import HomeMedia.Proofs.Home.Moves
import HomeMedia.Proofs.Timer.Subscriptions
/-!
# The registry is swept exactly while it holds a session

The registry asks the timer for ticks while it holds a session and not otherwise. Three parts of a
home server have to agree on that: the sessions, the number of a subscription that the registry has
written down, and the list that the timer keeps. They are *wired* if the subscriptions of the timer
that belong to the registry are the one written down, if any, at the interval of the settings
(`Front.Wired`); the numbers of the timer are different and the schedule has written down none of
the registry's, so nobody else can end its subscription. They are *in step* if moreover one is
written down iff there is a session (`Front.InStep`).

Sessions come and go in three ways: one is created, one is removed, or idle ones are swept. Each
ends by letting the registry see to its subscription, which brings wired parts into step
(`checkTimer_inStep`), in a tick of the very subscription that is then ended as well as anywhere
else. All the rest leaves the sessions and what is written down about them as they are.
-/

namespace HomeMedia
namespace Home

/-- The subscription of a registry with some settings. -/
def sweepOf (ui : Settings.Ui) (id : Timer.SubscriptionId) : Timer.Subscription Subscriber :=
  ⟨id, .sweep, max ui.sweepInterval 1 * Duration.second⟩

/-- The subscriptions of a timer that belong to the registry. -/
def sweeps (t : Timer.Source Subscriber) : List (Timer.Subscription Subscriber) :=
  t.subs.filter fun s => s.subscriber == .sweep

namespace Front

/-- What the timer, the registry and the schedule know of each other's subscriptions is right. -/
structure Wired (ui : Settings.Ui) (f : Front) : Prop where
  /-- The numbers of subscriptions are different. -/
  numbered : f.timer.Numbered
  /-- The subscription of the schedule is its own. -/
  armed : ∀ s id, f.schedule = some s → s.armed = some id →
    id ≤ f.timer.created ∧ ∀ sub ∈ f.timer.subs, sub.id = id → sub.subscriber = .refresh
  /-- The sessions have different ids and are counted. -/
  tidy : ∀ r, f.registry = some r → r.Tidy
  /-- The settings do not change. -/
  settings : ∀ r, f.registry = some r → r.ui.sweepInterval = max ui.sweepInterval 1
  /-- The subscription of the registry is the one it has written down. -/
  swept : ∀ r, f.registry = some r → sweeps f.timer = r.subscription.toList.map (sweepOf ui)

/-- Besides, the registry has a subscription iff it has a session. -/
structure InStep (ui : Settings.Ui) (f : Front) : Prop extends Wired ui f where
  /-- There is nothing to do about the subscription. -/
  needed : ∀ r, f.registry = some r → r.subscription.isSome = !r.sessions.isEmpty

variable {ui : Settings.Ui} {f : Front}

namespace Wired

/-! ## What leaves the subscription of the registry alone -/

/-- The registry may change in everything but its settings and what it has written down. -/
theorem withRegistry (w : Wired ui f) {r s : Session.Registry} (found : f.registry = some r)
    (tidy : s.Tidy) (settings : s.ui = r.ui) (same : s.subscription = r.subscription) :
    Wired ui { f with registry := some s } where
  numbered := w.numbered
  armed := w.armed
  tidy _ h := by cases h; exact tidy
  settings _ h := by cases h; rw [settings]; exact w.settings r found
  swept _ h := by cases h; rw [same]; exact w.swept r found

/-- The registry may be dropped. -/
theorem dropRegistry (w : Wired ui f) : Wired ui { f with registry := none } where
  numbered := w.numbered
  armed := w.armed
  tidy _ h := by cases h
  settings _ h := by cases h
  swept _ h := by cases h

/-- The timer may lose subscriptions that are not the registry's. -/
theorem withTimer (w : Wired ui f) {t : Timer.Source Subscriber}
    (subs : t.subs.Sublist f.timer.subs) (created : t.created = f.timer.created)
    (swept : f.registry.isSome = true → sweeps t = sweeps f.timer) :
    Wired ui { f with timer := t } where
  numbered := w.numbered.of_sublist subs created
  armed s id hs hid := by
    obtain ⟨old, own⟩ := w.armed s id hs hid
    exact ⟨created ▸ old, fun sub hsub => own sub (subs.subset hsub)⟩
  tidy := w.tidy
  settings := w.settings
  swept r h := (swept (by rw [show f.registry = some r from h]; rfl)).trans (w.swept r h)

/-- The schedule may forget its subscription, or be dropped. -/
theorem withSchedule (w : Wired ui f) {schedule : Option Refresh.Schedule}
    (armed : ∀ s id, schedule = some s → s.armed = some id →
      ∃ t, f.schedule = some t ∧ t.armed = some id) :
    Wired ui { f with schedule } where
  numbered := w.numbered
  armed s id hs hid := by
    obtain ⟨t, ht, htid⟩ := armed s id hs hid
    exact w.armed t id ht htid
  tidy := w.tidy
  settings := w.settings
  swept := w.swept

/-- Without one subscription that is not the registry's, the registry has the same ones. -/
theorem sweeps_without {t : Timer.Source Subscriber} {id : Timer.SubscriptionId}
    (other : ∀ sub ∈ t.subs, sub.id = id → sub.subscriber = .refresh) :
    (t.subs.filter fun s => s.id != id).filter (fun s => s.subscriber == .sweep) = sweeps t := by
  rw [sweeps, List.filter_filter]
  refine List.filter_congr fun sub hsub => ?_
  cases hsweep : sub.subscriber with
  | refresh => rfl
  | sweep =>
    have differs : sub.id ≠ id := by
      intro same
      have := other sub hsub same
      rw [hsweep] at this
      cases this
    simpa using differs

/-- The schedule may end its own subscription. -/
theorem unsubscribe (w : Wired ui f) {s : Refresh.Schedule} {id : Timer.SubscriptionId}
    (found : f.schedule = some s) (armed : s.armed = some id) :
    Wired ui { f with timer := (f.timer.unsubscribe id).2 } := by
  refine w.withTimer ?_ (Timer.Source.created_unsubscribe ..) fun _ => ?_
  · rw [Timer.Source.subs_unsubscribe]
    exact List.filter_sublist
  · rw [sweeps, Timer.Source.subs_unsubscribe]
    exact sweeps_without (w.armed s id found armed).2

/-- A new subscription of the schedule has a number of its own. -/
theorem subscribe (w : Wired ui f) (nanos : Nat) (s : Refresh.Schedule) :
    Wired ui { f with
      timer := (f.timer.subscribe .refresh nanos).2
      schedule := some { s with armed := some (f.timer.created + 1) } } where
  numbered := w.numbered.subscribe ..
  armed s' id hs hid := by
    cases hs
    cases hid
    refine ⟨Nat.le_of_eq (Timer.Source.created_subscribe ..).symm, fun sub hsub same => ?_⟩
    change sub ∈ (f.timer.subscribe .refresh nanos).2.subs at hsub
    rw [Timer.Source.subs_subscribe] at hsub
    rcases List.mem_append.1 hsub with old | new
    · exact absurd same (Nat.ne_of_lt (Nat.lt_succ_of_le (w.numbered.le_created sub old)))
    · rw [List.mem_singleton.1 new]
  tidy := w.tidy
  settings := w.settings
  swept r h := by
    refine Eq.trans ?_ (w.swept r h)
    simp only [sweeps, Timer.Source.subs_subscribe, List.filter_append]
    exact List.append_nil _

/-! ## What the registry does about its subscription -/

/-- A registry without a subscription makes one. -/
theorem subscribe_sweep (w : Wired ui f) {r : Session.Registry} (found : f.registry = some r)
    (absent : r.subscription = none) :
    Wired ui { f with
      timer := (f.timer.subscribe .sweep r.sweepNanos).2
      registry := some { r with subscription := some (f.timer.created + 1) } } where
  numbered := w.numbered.subscribe ..
  armed s id hs hid := by
    obtain ⟨old, own⟩ := w.armed s id hs hid
    refine ⟨old.trans ?_, fun sub hsub same => ?_⟩
    · exact (Nat.le_succ _).trans_eq (Timer.Source.created_subscribe ..).symm
    · change sub ∈ (f.timer.subscribe .sweep r.sweepNanos).2.subs at hsub
      rw [Timer.Source.subs_subscribe] at hsub
      rcases List.mem_append.1 hsub with hsub | new
      · exact own sub hsub same
      · -- The new number is larger than that of the schedule.
        rw [List.mem_singleton.1 new] at same
        have larger : f.timer.created < id := Nat.lt_of_succ_le (Nat.le_of_eq same)
        exact absurd old (Nat.not_le_of_lt larger)
  tidy r' h := by
    cases h
    exact ⟨(w.tidy r found).nodup, (w.tidy r found).counted⟩
  settings r' h := by
    cases h
    exact w.settings r found
  swept r' h := by
    cases h
    have none : sweeps f.timer = [] := by rw [w.swept r found, absent]; rfl
    have nanos : r.sweepNanos = max ui.sweepInterval 1 * Duration.second := by
      rw [Session.Registry.sweepNanos, w.settings r found]
    have long : Timer.minInterval ≤ r.sweepNanos := by
      rw [nanos]
      have := Nat.le_max_right ui.sweepInterval 1
      simp only [Timer.minInterval, Duration.milli, Duration.second]
      omega
    have granted : f.timer.granted r.sweepNanos = _ :=
      (Timer.Source.granted_of_le long f.timer).trans nanos
    simp only [sweeps, Timer.Source.subs_subscribe, List.filter_append, granted] at none ⊢
    rw [none]
    rfl

/-- A registry with a subscription ends it. -/
theorem unsubscribe_sweep (w : Wired ui f) {r : Session.Registry} {id : Timer.SubscriptionId}
    (found : f.registry = some r) (present : r.subscription = some id) :
    Wired ui { f with
      timer := (f.timer.unsubscribe id).2
      registry := some { r with subscription := none } } where
  numbered := w.numbered.unsubscribe id
  armed s other hs hother := by
    obtain ⟨old, own⟩ := w.armed s other hs hother
    refine ⟨old.trans_eq (Timer.Source.created_unsubscribe ..).symm, fun sub hsub => own sub ?_⟩
    change sub ∈ (f.timer.unsubscribe id).2.subs at hsub
    rw [Timer.Source.subs_unsubscribe] at hsub
    exact List.mem_of_mem_filter hsub
  tidy r' h := by
    cases h
    exact ⟨(w.tidy r found).nodup, (w.tidy r found).counted⟩
  settings r' h := by
    cases h
    exact w.settings r found
  swept r' h := by
    cases h
    have one : sweeps f.timer = [sweepOf ui id] := by rw [w.swept r found, present]; rfl
    have swap : sweeps (f.timer.unsubscribe id).2 =
        (sweeps f.timer).filter fun s => s.id != id := by
      simp only [sweeps, Timer.Source.subs_unsubscribe]
      exact List.filter_comm ..
    exact swap.trans (by simp [one, sweepOf])

end Wired
end Front

/-- What there is to do about the subscription of a registry. -/
theorem timerNeed_cases (r : Session.Registry) :
    (r.timerNeed = .nothing ∧ r.subscription.isSome = !r.sessions.isEmpty) ∨
      (r.timerNeed = .subscribe ∧ r.subscription = none ∧ r.sessions.isEmpty = false) ∨
      ∃ id, r.timerNeed = .unsubscribe id ∧ r.subscription = some id ∧
        r.sessions.isEmpty = true := by
  unfold Session.Registry.timerNeed
  cases r.sessions.isEmpty <;> cases r.subscription <;> simp

open Front (Wired InStep)

variable {ui : Settings.Ui} {h : Home}

/-- A new subscription gets the next number. -/
theorem id_subscribe (subscriber : Subscriber) (nanos : Nat) (h : Home) :
    (h.subscribe subscriber nanos).1 = h.timer.created + 1 := Timer.Source.id_subscribe ..

/-- What a registry has written down once it has seen to its subscription. -/
theorem registry_checkTimer {r : Session.Registry} (found : h.registry = some r) :
    h.checkTimer.registry = some { r with
      subscription :=
        if r.sessions = [] then none else some (r.subscription.getD (h.timer.created + 1)) } := by
  unfold checkTimer
  rw [found]
  dsimp only
  rcases timerNeed_cases r with ⟨need, fine⟩ | ⟨need, absent, busy⟩ | ⟨id, need, present, idle⟩
  · have settled : r.subscription =
        if r.sessions = [] then none else some (r.subscription.getD (h.timer.created + 1)) := by
      cases left : r.sessions <;> cases kept : r.subscription <;> simp_all
    rw [need, ← settled]
    exact found
  · have filled : r.sessions ≠ [] := by simpa using busy
    rw [need]
    change h.registry.map _ = _
    rw [found, if_neg filled, absent, id_subscribe]
    rfl
  · rw [need]
    change h.registry.map _ = _
    rw [found, if_pos (List.isEmpty_iff.1 idle)]
    rfl

/-- **The registry sees to its subscription.** -/
theorem checkTimer_inStep (w : Wired ui h.front) : InStep ui h.checkTimer.front := by
  unfold checkTimer
  cases found : h.registry with
  | none => exact ⟨w, fun r hr => by cases found.symm.trans hr⟩
  | some r =>
    dsimp only
    rcases timerNeed_cases r with ⟨need, fine⟩ | ⟨need, absent, busy⟩ | ⟨id, need, present, idle⟩
    · rw [need]
      refine ⟨w, fun r' hr' => ?_⟩
      cases found.symm.trans hr'
      exact fine
    · have made := w.subscribe_sweep found absent
      rw [need]
      change InStep ui { h.front with
        timer := (h.timer.subscribe .sweep r.sweepNanos).2
        registry := h.registry.map _ }
      rw [found, id_subscribe]
      refine ⟨made, fun r' hr' => ?_⟩
      cases hr'
      exact (congrArg not busy).symm
    · have ended := w.unsubscribe_sweep found present
      rw [need]
      change InStep ui { h.front with
        timer := (h.timer.unsubscribe id).2
        registry := h.registry.map _ }
      rw [found]
      refine ⟨ended, fun r' hr' => ?_⟩
      cases hr'
      exact (congrArg not idle).symm

/-! ## Sessions come and go -/

/-- The first session gets the registry a subscription. -/
theorem createSession_inStep (s : InStep ui h.front) (timeout : Nat) :
    InStep ui (h.createSession timeout).2.front := by
  unfold createSession
  split
  · exact s
  · rename_i r found
    have tidy := s.tidy r found
    rcases r.create_cases timeout h.now with
      ⟨cause, candidates, drawn⟩ | ⟨t, candidates, drawn, free, -⟩
    · rw [drawn]
      refine ⟨s.toWired.withRegistry found ⟨tidy.nodup, tidy.counted⟩ rfl rfl, fun r' hr' => ?_⟩
      cases hr'
      exact s.needed r found
    · rw [drawn]
      have tidy := tidy.concat free
      exact checkTimer_inStep (h := { h with registry := _, released := _ })
        (s.toWired.withRegistry found ⟨tidy.nodup, tidy.counted⟩ rfl rfl)

/-- The last one that goes ends it. -/
theorem removeSession_inStep (s : InStep ui h.front) (id : String) :
    InStep ui (h.removeSession id).2.front := by
  unfold removeSession
  split
  · exact s
  · rename_i t present
    obtain ⟨r, found, -⟩ := Option.bind_eq_some_iff.1 present
    have removed := s.toWired.withRegistry found ((s.tidy r found).remove id) rfl rfl
    refine checkTimer_inStep (h := onRegistry _ _) ?_
    change Wired ui { h.front with registry := h.registry.map _ }
    rw [found]
    exact removed

/-- A tick that removes the last session ends the subscription that it came from. -/
theorem sweep_inStep (s : InStep ui h.front) (now : Int) : InStep ui (h.sweep now).2.front := by
  unfold sweep
  split
  · exact s
  · rename_i r found
    exact checkTimer_inStep (h := { h with registry := _, released := _ })
      (s.toWired.withRegistry found ((s.tidy r found).sweep now) rfl rfl)

/-- The sessions may change, as long as their ids do not. -/
theorem Front.InStep.map {f : Front} (s : InStep ui f) (change : Session → Session)
    (keepsId : ∀ t, (change t).id = t.id) :
    InStep ui { f with
      registry := f.registry.map fun r => { r with sessions := r.sessions.map change } } := by
  cases found : f.registry with
  | none => exact ⟨s.toWired.dropRegistry, fun r hr => by cases hr⟩
  | some r =>
    refine ⟨s.toWired.withRegistry found ((s.tidy r found).map keepsId) rfl rfl, fun r' hr' => ?_⟩
    cases hr'
    exact (s.needed r found).trans (congrArg not (List.isEmpty_map (f := change)).symm)

/-- Telling the sessions about changes leaves registry and timer in step. -/
theorem onRegistry_changedAll_inStep (s : InStep ui h.front) (ids : List ObjectId) :
    InStep ui (h.onRegistry (Session.Registry.changedAll ids)).front := by
  have told := s.map (fun t => if t.loggedIn then t.changedAll ids else t)
    fun t => by split <;> rfl
  change InStep ui { h.front with registry := h.registry.map (Session.Registry.changedAll ids) }
  have counted : ∀ r, h.registry = some r → r.count = r.sessions.length := fun r found =>
    (s.tidy r found).counted
  rw [Session.Registry.map_changedAll counted]
  exact told

/-! ## The schedule -/

/-- Arming the schedule leaves registry and timer in step. -/
theorem arm_inStep (s : InStep ui h.front) : InStep ui h.arm.front := by
  unfold arm
  split
  · split
    · exact s
    · rename_i nanos schedule _ _ _
      change InStep ui { h.front with
        timer := (h.timer.subscribe .refresh nanos).2
        schedule := some { schedule with armed := some (h.subscribe .refresh nanos).1 } }
      rw [id_subscribe]
      exact ⟨s.toWired.subscribe nanos schedule, s.needed⟩
  · exact s

/-- So does disarming it. -/
theorem disarm_inStep (s : InStep ui h.front) : InStep ui h.disarm.front := by
  unfold disarm
  split
  · rename_i id stopped found
    have ended := s.toWired.unsubscribe found rfl
    exact ⟨ended.withSchedule fun t id ht hid => (by cases ht; cases hid), s.needed⟩
  · exact s

/-! ## Turns -/

/-- A pulse ends a subscription of a subscriber that is gone, so not the registry's. -/
theorem beat_inStep (s : InStep ui h.front) (id : Timer.SubscriptionId) :
    InStep ui { h.front with timer := (h.timer.beat h.nanos h.isAlive id).2 } := by
  rcases Timer.Source.subs_beat h.timer h.nanos h.isAlive id with
    same | ⟨sub, hsub, hid, gone, taken⟩
  · refine ⟨s.toWired.withTimer (by rw [same]; exact .refl _) (Timer.Source.created_beat ..)
      fun _ => ?_, s.needed⟩
    rw [sweeps, same]
    rfl
  · refine ⟨s.toWired.withTimer (by rw [taken]; exact List.filter_sublist)
      (Timer.Source.created_beat ..) fun present => ?_, s.needed⟩
    rw [sweeps, taken]
    refine Front.Wired.sweeps_without fun other hother same => ?_
    rw [s.numbered.eq_of_id hother hsub (same.trans hid.symm)]
    cases hsubscriber : sub.subscriber with
    | refresh => rfl
    | sweep =>
      rw [hsubscriber] at gone
      exact absurd (present.symm.trans gone) (by decide)

/-- A step of a turn. -/
theorem step_inStep {f g : Front} (s : InStep ui f) (step : Front.Step f g) : InStep ui g := by
  cases step with
  | beat h id => exact beat_inStep s id
  | sweep h now => exact sweep_inStep s now
  | checkTimer h => exact checkTimer_inStep s.toWired
  | arm h => exact arm_inStep s
  | disarm h => exact disarm_inStep s
  | setStopped h stopped =>
    refine ⟨s.toWired.withSchedule fun t id ht hid => ?_, s.needed⟩
    obtain ⟨t, found, rfl⟩ := Option.map_eq_some_iff.1 ht
    exact ⟨t, found, hid⟩
  | dropSchedule h => exact ⟨s.toWired.withSchedule fun t id ht _ => (by cases ht), s.needed⟩
  | announce h ids =>
    have told := onRegistry_changedAll_inStep s ids
    rw [← Session.Registry.announce_eq] at told
    exact { told with }
  | leave h trace quiet => exact { s with }

/-- **Every move but one keeps the registry in step.** -/
theorem move_inStep {label : Front.Label} {f g : Front} (s : InStep ui f)
    (move : Front.Move label f g) (up : label ≠ .shutDown) : InStep ui g := by
  cases move with
  | turn step => exact step_inStep s step
  | create h timeout => exact createSession_inStep s timeout
  | remove h id => exact removeSession_inStep s id
  | dropRegistry h => exact ⟨s.toWired.dropRegistry, fun r hr => by cases hr⟩
  | ask h id command => exact s.map _ fun t => by split <;> simp [Session.id_run]
  | tell h ids => exact onRegistry_changedAll_inStep s ids
  | drainAll h => exact s.map _ fun _ => rfl
  | shutDown h => exact absurd rfl up

/-- So does all that happens, short of shutting the timer down. -/
theorem next_inStep (s : InStep ui h.front) (happening : Happening)
    (up : happening ≠ .command .shutDownTimer) : InStep ui (h.next happening).front := by
  refine (next_moves happening h).keep (fun label f g ok move sf => ?_) s
  refine move_inStep sf move fun down => ?_
  subst down
  exact up ok

/-! ## Runs -/

/-- A server with a new registry over a new timer, its schedule not armed. -/
def opened (h : Home) (keepsTime : Bool) (ui : Settings.Ui) (ids : Session.Candidates) : Home :=
  openRegistry ui ids { h with
    timer := newTimer keepsTime
    schedule := h.schedule.map fun s => { s with armed := none } }

/-- A server that opens is in step: there is no session and no subscription. -/
theorem opened_inStep (h : Home) (keepsTime : Bool) (ui : Settings.Ui)
    (ids : Session.Candidates) : InStep ui (h.opened keepsTime ui ids).front where
  numbered := by cases keepsTime <;> exact ⟨List.nodup_nil, fun _ hs => by cases hs⟩
  armed s id hs hid := by
    obtain ⟨t, -, rfl⟩ := Option.map_eq_some_iff.1 hs
    cases hid
  tidy r hr := by
    cases hr
    exact .ofSettings ui ids
  settings r hr := by
    cases hr
    rfl
  swept r hr := by
    cases hr
    cases keepsTime <;> rfl
  needed r hr := by
    cases hr
    rfl

/-- **The registry has the timer's ticks exactly while it has a session.**  At every moment of a run
that begins with a new registry over a new timer of either kind, and that does not shut the timer
down, as long as the registry exists: its sessions have different ids and are counted; it has a
subscription written down iff there is a session; and the subscriptions that the timer holds for
it are the one written down, if any, at the interval of the settings, but of at least a second. -/
theorem subscribed_iff_sessions (h₀ : Home) (keepsTime : Bool) (ui : Settings.Ui)
    (ids : Session.Candidates) (run : List Happening)
    (up : .command .shutDownTimer ∉ run) :
    let h := (h₀.opened keepsTime ui ids).after run
    ∀ r, h.registry = some r →
      (r.sessions.map Session.id).Nodup ∧ r.count = r.sessions.length ∧
        (r.subscription.isSome ↔ r.sessions ≠ []) ∧
        (h.timer.subs.filter fun s => s.subscriber == .sweep) =
          r.subscription.toList.map fun id =>
            ⟨id, .sweep, max ui.sweepInterval 1 * Duration.second⟩ := by
  intro h r found
  have s : InStep ui h.front := after_of_next (P := fun g => InStep ui g.front)
    (fun happening hmem g sg => next_inStep sg happening fun same => up (same ▸ hmem))
    (opened_inStep h₀ keepsTime ui ids)
  have tidy := s.tidy r found
  refine ⟨tidy.nodup, tidy.counted, ?_, s.swept r found⟩
  rw [s.needed r found, Bool.not_eq_true', ← Bool.not_eq_true, List.isEmpty_iff]

/-- With one session, a timer that keeps time holds the subscription with the number one. -/
theorem subscribed_iff_sessions_created :
    ∃ r, ((opened {} true {} (.scripted ["a"])).after [.command (.createSession none),
        .turn (.pulse 1)]).registry = some r ∧ r.sessions ≠ [] ∧
      ((((opened {} true {} (.scripted ["a"])).after [.command (.createSession none),
        .turn (.pulse 1)]).timer.subs.filter fun s => s.subscriber == .sweep) =
          [⟨1, .sweep, 60 * Duration.second⟩]) := by
  have all := subscribed_iff_sessions {} true {} (.scripted ["a"])
    [.command (.createSession none), .turn (.pulse 1)] (by simp) _ rfl
  exact ⟨_, rfl, all.2.2.1.1 rfl, all.2.2.2.trans rfl⟩

end Home
end HomeMedia
