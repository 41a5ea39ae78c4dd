import HomeMedia.Proofs.Refresh.Ticking
/-!
# Scheduled fetches keep their interval

Two records are kept of a run, with the times: which scheduled fetches were queued, and which ended.
What is on its way is compared from one episode to the next for that (`queuings`, `endings`), so the
records say nothing of the schedule. Along a run they fit its stage (`Refresh.Stage.Accords`): the
times at which fetches were queued are those at which they were due, an interval after the start and
after the end of each fetch, but for the last one while the schedule is still armed for it
(`fetches_keep_interval`). How long a fetch waits in the queue and runs, and how it ends, does not
matter, since nothing is due while it is on its way.
-/

namespace HomeMedia
namespace Home

open Deed (Label)

variable {h g : Home}

/-! ## Runs -/

/-- A deed takes no time. -/
theorem Deed.now_eq {label : Label} (deed : Deed label h g) : g.loop.now = h.loop.now := by
  by_cases beat : label = .beat
  · subst beat
    cases deed with
    | aside aside => exact aside.aloof.now
  · exact (deed.onward beat).now

/-- The clock does not go back. -/
theorem now_le_undergo (h : Home) (e : Episode) : h.loop.now ≤ (h.undergo e).loop.now := by
  have same {permits : Label → Prop} {g k : Home} (deeds : Deeds permits g k)
      (now : g.loop.now = h.loop.now) : h.loop.now ≤ k.loop.now :=
    (deeds.keep (P := fun k => k.loop.now = h.loop.now)
      (fun _ _ _ _ deed now => deed.now_eq.trans now) now).ge
  cases e with
  | command command atOnce => exact same (act_deeds atOnce h) rfl
  | turn place =>
    unfold undergo
    dsimp only
    split
    · exact Nat.le_refl _
    · exact same (poll_deeds _ (h.leaveOut place)) rfl
  | pass ms =>
    unfold undergo
    dsimp only
    split
    · exact Nat.le_add_right ..
    · exact Nat.le_refl _

/-- Time does not go back during a run. -/
theorem now_le_through (h : Home) (episodes : List Episode) :
    h.loop.now ≤ (h.through episodes).loop.now :=
  through_keeps (P := fun g => h.loop.now ≤ g.loop.now)
    (fun e _ g before => before.trans (now_le_undergo g e)) (Nat.le_refl _)

/-- The fetches that are on their way in one server and not in another. -/
def errandsBeyond (g h : Home) : List Task.Id :=
  g.work.errands.filter fun id => !h.work.errands.contains id

/-- What is recorded of the episodes of a run, by number and time. -/
def recorded (what : Home → Home → List Task.Id) : Home → List Episode → List (Task.Id × Nat)
  | _, [] => []
  | h, e :: more =>
    (what h (h.undergo e)).map (·, h.loop.now) ++ recorded what (h.undergo e) more

/-- The scheduled fetches that are queued in a run, each with the time: they are on their way, and
were not before. -/
def queuings : Home → List Episode → List (Task.Id × Nat) :=
  recorded fun before after => after.errandsBeyond before

/-- The scheduled fetches that end in a run, each with the time: they are on their way no more. -/
def endings : Home → List Episode → List (Task.Id × Nat) :=
  recorded fun before after => before.errandsBeyond after

/-- What is recorded of a run is what is recorded of its parts. -/
theorem recorded_append (what : Home → Home → List Task.Id) (h : Home)
    (episodes more : List Episode) : recorded what h (episodes ++ more) =
      recorded what h episodes ++ recorded what (h.through episodes) more := by
  induction episodes generalizing h with
  | nil => rfl
  | cons e rest ih =>
    rw [List.cons_append, recorded, recorded, ih, List.append_assoc]
    rfl

/-- Nothing is recorded up to an episode, and nothing of it. -/
theorem recorded_append_cons {what : Home → Home → List Task.Id} {before : List Episode}
    {e : Episode} (none : recorded what h before = [])
    (still : what (h.through before) ((h.through before).undergo e) = []) (after : List Episode) :
    recorded what h (before ++ e :: after) =
      recorded what ((h.through before).undergo e) after := by
  rw [recorded_append, none, recorded, still]
  rfl

/-- What is recorded has happened by now. -/
theorem le_now_of_mem_recorded {what : Home → Home → List Task.Id} {episodes : List Episode}
    {x : Task.Id × Nat} (mem : x ∈ recorded what h episodes) :
    x.2 ≤ (h.through episodes).loop.now := by
  induction episodes generalizing h with
  | nil => cases mem
  | cons e rest ih =>
    rcases List.mem_append.1 mem with first | later
    · obtain ⟨id, -, rfl⟩ := List.mem_map.1 first
      exact now_le_through h (e :: rest)
    · exact ih later

end Home

/-! ## What the records say -/

namespace Refresh

/-- The fetches that are on their way in a stage. -/
def Stage.errands : Stage → List Task.Id
  | .fetching id => [id]
  | _ => []

/-- The times at which fetches are due: an interval after the start and after the ends of those
before. -/
def dues (interval start : Nat) (ended : List (Task.Id × Nat)) : List Nat :=
  (start :: ended.map Prod.snd).map (· + interval)

/-- What was recorded since a schedule was started fits its stage: fetches were queued when they
were due, and each has ended but for the one that is on its way. -/
def Stage.Accords (interval start : Nat) (queued ended : List (Task.Id × Nat)) : Stage → Prop
  | .off => False
  | .armed due => queued.map Prod.fst = ended.map Prod.fst ∧
    dues interval start ended = queued.map Prod.snd ++ [due]
  | .fetching id => queued.map Prod.fst = ended.map Prod.fst ++ [id] ∧
    dues interval start ended = queued.map Prod.snd

/-- One more fetch that has ended makes one more time. -/
theorem dues_concat (interval start : Nat) (ended : List (Task.Id × Nat)) (id : Task.Id)
    (time : Nat) : dues interval start (ended ++ [(id, time)]) =
      dues interval start ended ++ [time + interval] := by
  simp [dues]

/-- **The records go on to fit the stage.** -/
theorem Stage.Accords.next {interval start now : Nat} {queued ended : List (Task.Id × Nat)}
    {past : Task.Id → Prop} {s t : Stage} (a : s.Accords interval start queued ended)
    (next : Stage.Next now interval past s t) :
    t.Accords interval start
      (queued ++ (t.errands.filter fun id => !s.errands.contains id).map (·, now))
      (ended ++ (s.errands.filter fun id => !t.errands.contains id).map (·, now)) := by
  cases next with
  | stays s =>
    have none : (s.errands.filter fun id => !s.errands.contains id) = [] := by simp
    rw [none, List.map_nil, List.append_nil, List.append_nil]
    exact a
  | ticks id =>
    change (queued ++ [(id, now)]).map Prod.fst = (ended ++ []).map Prod.fst ++ [id] ∧
      dues interval start (ended ++ []) = (queued ++ [(id, now)]).map Prod.snd
    rw [List.append_nil, List.map_append, List.map_append]
    exact ⟨congrArg (· ++ [id]) a.1, a.2⟩
  | @ends id =>
    change (queued ++ []).map Prod.fst = (ended ++ [(id, now)]).map Prod.fst ∧
      dues interval start (ended ++ [(id, now)]) = (queued ++ []).map Prod.snd ++ [now + interval]
    rw [List.append_nil, List.map_append, dues_concat]
    exact ⟨a.1, congrArg (· ++ [now + interval]) a.2⟩

end Refresh

namespace Home

open Refresh (Schedule Stage dues)

variable {ui : Settings.Ui} {interval : Nat} {h g : Home} {s : Stage}

/-- The fetches that are on their way are those of the stage. -/
theorem IsIn.errands (is : IsIn interval h s) : h.work.errands = s.errands := by
  cases s with
  | _ => exact is.2

/-- That a fetch has ended stays reported. -/
theorem Ended.undergo {id : Task.Id} (ended : Ended id h) (e : Episode) :
    Ended id (h.undergo e) := by
  obtain ⟨entry, outcome, same, reported⟩ := ended
  refine ⟨entry, outcome, same, ?_⟩
  exact undergo_keeps (P := fun g => endEvent entry outcome ∈ g.ledger.events)
    (fun _ _ reported => reported) (fun _ _ _ deed reported => deed.events_subset reported)
    reported e

/-- Episodes of a run in which nobody meddles with the schedule. -/
structure Unmeddled (h : Home) (episodes : List Episode) : Prop where
  /-- Nobody meddles. -/
  alone : ∀ e ∈ episodes, ∀ asked, e.command? = some asked → asked.meddles = false
  /-- Other tasks are plain. -/
  plain : ∀ e ∈ episodes, ∀ task parent, e.command? = some (.addTask task parent) →
    task.isPlain = true
  /-- Time passes only by sleeps. -/
  gently : h.Gently episodes

/-- **Along a run the records fit the stage.** -/
theorem IsIn.through_accords {start : Nat} {queued ended : List (Task.Id × Nat)}
    {episodes : List Episode} (is : IsIn interval h s) (k : Keeping ui interval h)
    (long : 1 ≤ interval) (run : Unmeddled h episodes)
    (accords : s.Accords interval start queued ended) (reported : ∀ x ∈ ended, Ended x.1 h) :
    (h.through episodes).schedule = none ∨ ∃ t, IsIn interval (h.through episodes) t ∧
      Timely (h.through episodes) ∧
      t.Accords interval start (queued ++ h.queuings episodes) (ended ++ h.endings episodes) ∧
      ∀ x ∈ ended ++ h.endings episodes, Ended x.1 (h.through episodes) := by
  induction episodes generalizing h s queued ended with
  | nil =>
    refine .inr ⟨s, is, k.timely, ?_, ?_⟩
    · rw [queuings, endings, recorded, recorded, List.append_nil, List.append_nil]
      exact accords
    · rw [endings, recorded, List.append_nil]
      exact reported
  | cons e more ih =>
    have mem := List.mem_cons_self (a := e) (l := more)
    rcases is.undergo k long (run.alone e mem) (run.plain e mem) run.gently.1 with
      gone | ⟨t, is', next⟩
    · exact .inl (schedule_through_eq_none gone more)
    · have later : Keeping ui interval (h.undergo e) :=
        k.undergo (fun down => by cases run.alone e mem _ down) (run.plain e mem)
      have rest : Unmeddled (h.undergo e) more :=
        ⟨fun e he => run.alone e (List.mem_cons_of_mem _ he),
          fun e he => run.plain e (List.mem_cons_of_mem _ he), run.gently.2⟩
      have accords' := Stage.Accords.next accords next
      rw [← is.errands, ← is'.errands] at accords'
      have goesOn := ih is' later rest accords' fun x hx => ?_
      · rw [List.append_assoc, List.append_assoc] at goesOn
        exact goesOn
      · rcases List.mem_append.1 hx with old | new
        · exact (reported x old).undergo e
        · obtain ⟨id, gone, rfl⟩ := List.mem_map.1 new
          obtain ⟨there, absent⟩ := List.mem_filter.1 gone
          rw [is.errands] at there
          rw [is'.errands] at absent
          cases next with
          | stays => simp [there] at absent
          | ticks id => cases there
          | ends ended =>
            cases List.mem_singleton.1 there
            exact ended

/-- Stopping a schedule that was never started does nothing. -/
theorem stopSchedule_of_off (off : h.schedule = some {}) : h.stopSchedule = h := by
  have same : { h with schedule := h.schedule.map (Schedule.setStopped true) } = h := by
    rw [off]
    exact congrArg (fun schedule => { h with schedule }) off.symm
  rw [stopSchedule, same, disarm, off]

/-- **Until the schedule is started** it stays off, and no fetch is on its way. -/
theorem IsIn.through_off {episodes : List Episode} (is : IsIn interval h .off)
    (k : Keeping ui interval h) (long : 1 ≤ interval)
    (unstarted : ∀ e ∈ episodes, ∀ asked, e.command? = some asked → asked.meddles = true →
      asked = .stopSchedule)
    (plain : ∀ e ∈ episodes, ∀ task parent, e.command? = some (.addTask task parent) →
      task.isPlain = true) (gently : h.Gently episodes) :
    (h.through episodes).schedule = none ∨
      IsIn interval (h.through episodes) .off ∧ Keeping ui interval (h.through episodes) ∧
        h.queuings episodes = [] ∧ h.endings episodes = [] := by
  induction episodes generalizing h with
  | nil => exact .inr ⟨is, k, rfl, rfl⟩
  | cons e more ih =>
    have mem := List.mem_cons_self (a := e) (l := more)
    have step : (h.undergo e).schedule = none ∨
        IsIn interval (h.undergo e) .off ∧ Keeping ui interval (h.undergo e) := by
      by_cases stops : e.command? = some .stopSchedule
      · have same : h.undergo e = h := by
          cases e with
          | command command atOnce =>
            cases stops
            change (h.ofSchedule fun _ => (.nothing, h.stopSchedule)).2 = h
            rw [ofSchedule, if_pos is.isSome]
            exact stopSchedule_of_off is.1
          | turn place => cases stops
          | pass ms => cases stops
        exact .inr (same.symm ▸ ⟨is, k⟩)
      · have other (asked : Command) (same : e.command? = some asked) :
            asked.meddles = false := by
          by_contra meddles
          have stop := unstarted e mem asked same (eq_true_of_ne_false meddles)
          exact stops (stop ▸ same)
        refine (is.undergo k long other (plain e mem) gently.1).imp id ?_
        rintro ⟨t, is', next⟩
        cases next
        exact ⟨is', k.undergo (fun down => by cases other _ down) (plain e mem)⟩
    rcases step with gone | ⟨is', k'⟩
    · exact .inl (schedule_through_eq_none gone more)
    · refine (ih is' k' (fun e he => unstarted e (List.mem_cons_of_mem _ he))
        (fun e he => plain e (List.mem_cons_of_mem _ he)) gently.2).imp id ?_
      rintro ⟨is'', k'', queued, ended⟩
      refine ⟨is'', k'', ?_, ?_⟩
      · rw [queuings, recorded, errandsBeyond, is'.2]
        exact queued
      · rw [endings, recorded, errandsBeyond, is.2]
        exact ended

/-- **Starting it** arms it. -/
theorem IsIn.start (is : IsIn interval h .off) (k : Keeping ui interval h) (long : 1 ≤ interval) :
    IsIn interval (h.undergo (.command .startSchedule rfl)) (.armed (h.loop.now + interval)) ∧
      Keeping ui interval (h.undergo (.command .startSchedule rfl)) := by
  refine ⟨?_, k.undergo (fun down => by cases down) fun _ _ added => by cases added⟩
  have started : h.undergo (.command .startSchedule rfl) =
      arm { h with schedule := some { armed := none, stopped := false } } := by
    change (h.ofSchedule fun _ => (.flag h.startSchedule.1, h.startSchedule.2)).2 = _
    rw [ofSchedule, if_pos is.isSome, startSchedule, is.1]
    rfl
  have able : Able interval { h with schedule := some { armed := none, stopped := false } } :=
    ⟨k.paced, k.ticks, k.timed, k.plain⟩
  rw [started]
  exact ⟨able.exists_awaits_arm long rfl, (congrArg Work.errands (work_arm _)).trans is.2⟩

/-- A new schedule is off. -/
theorem fresh_isIn_off (h : Home) (keepsTime : Bool) (ui : Settings.Ui)
    (ids : Session.Candidates) :
    IsIn interval (fresh { h with work := {}, log := [] } keepsTime ui ids) .off :=
  ⟨rfl, rfl⟩

/-- The timer of a server that has just come up is paced. -/
theorem fresh_paced (h : Home) (ui : Settings.Ui) (ids : Session.Candidates) :
    (h.fresh true ui ids).timer.Paced :=
  ⟨(fresh_inStep h true ui ids).numbered, fun _ _ held => (by cases held)⟩

/-- **A server that comes up with an interval and nothing scheduled keeps it.** -/
theorem fresh_keeping (h : Home) (ui : Settings.Ui) (ids : Session.Candidates)
    (quiet : h.loop.alarms = []) (timed : h.service.interval = some (interval * Duration.milli)) :
    Keeping ui interval (fresh { h with work := {}, log := [] } true ui ids) where
  inStep := fresh_inStep _ true ui ids
  heard := fresh_heard _ true ui ids
  sole := fresh_sole _ true ui ids
  paced := fresh_paced _ ui ids
  ticks := rfl
  timed := timed
  plain := ⟨fun _ waits => (by cases waits), rfl⟩
  timely := by
    refine ⟨fresh_paced _ ui ids, fun a ha => ?_⟩
    rw [show (fresh { h with work := {}, log := [] } true ui ids).loop.alarms = [] from quiet] at ha
    cases ha

/-- **What records that fit a stage come to:** fetches were queued when they were due. -/
theorem IsIn.times_of_accords {start : Nat} {queued ended : List (Task.Id × Nat)}
    (is : IsIn interval h s) (timely : Timely h) (accords : s.Accords interval start queued ended)
    (past : ∀ x ∈ queued, x.2 ≤ h.loop.now) :
    queued.map Prod.snd <+: dues interval start ended ∧
      (h.loop.ready = [] →
        queued.map Prod.snd = (dues interval start ended).filter (· ≤ h.loop.now)) ∧
      ended.map Prod.fst <+: queued.map Prod.fst := by
  have all : (queued.map Prod.snd).filter (· ≤ h.loop.now) = queued.map Prod.snd := by
    refine List.filter_eq_self.2 fun time mem => ?_
    obtain ⟨x, hx, rfl⟩ := List.mem_map.1 mem
    exact decide_eq_true (past x hx)
  cases s with
  | off => cases accords
  | armed due =>
    obtain ⟨numbers, times⟩ := accords
    obtain ⟨⟨e, a⟩, -⟩ := is
    refine ⟨⟨[due], times.symm⟩, fun still => ?_, numbers.symm ▸ List.prefix_refl _⟩
    have ahead : ¬ due ≤ h.loop.now := Nat.not_le.2 (a.now_lt timely still)
    rw [times, List.filter_append, all, List.filter_singleton, decide_eq_false ahead]
    exact (List.append_nil _).symm
  | fetching id =>
    obtain ⟨numbers, times⟩ := accords
    refine ⟨times ▸ List.prefix_refl _, fun _ => ?_, ⟨[id], numbers.symm⟩⟩
    rw [times, all]

/-- **Scheduled fetches keep their interval.**  A new schedule of a service with an interval of
whole milliseconds, at least one, on a timer that keeps time, is started once in an orderly run in
which time passes only by sleeps. Before that it may be stopped; after that nobody starts or stops
it, asks for a fetch in place of its next one, or shuts the timer down. Other tasks are as they
like, and so are unscheduled fetches, the scripts of the service, and everything else that is asked.
As long as the schedule exists, its fetches were queued one by one, each at the time it was due: an
interval after the start, and an interval after the end of the one before. When everybody waits, all
that are due by then were queued. The fetches that ended are the first of those that were queued, in
that order, and the end of each was reported. -/
theorem fetches_keep_interval (h₀ : Home) (ui : Settings.Ui) (ids : Session.Candidates)
    (interval : Nat) (long : 1 ≤ interval) (quiet : h₀.loop.alarms = [])
    (timed : h₀.service.interval = some (interval * Duration.milli)) (before after : List Episode)
    (unstarted : ∀ e ∈ before, ∀ asked, e.command? = some asked → asked.meddles = true →
      asked = .stopSchedule)
    (alone : ∀ e ∈ after, ∀ asked, e.command? = some asked → asked.meddles = false)
    (plain : ∀ e ∈ before ++ after, ∀ task parent,
      e.command? = some (.addTask task parent) → task.isPlain = true)
    (gently : (fresh { h₀ with work := {}, log := [] } true ui ids).Gently
      (before ++ .command .startSchedule rfl :: after)) :
    let new := fresh { h₀ with work := {}, log := [] } true ui ids
    let run := before ++ .command .startSchedule rfl :: after
    let h := new.through run
    let queued := new.queuings run
    let ended := new.endings run
    let due := dues interval (new.through before).loop.now ended
    ∀ s, h.schedule = some s →
      queued.map Prod.snd <+: due ∧
      (h.loop.ready = [] → queued.map Prod.snd = due.filter (· ≤ h.loop.now)) ∧
      ended.map Prod.fst <+: queued.map Prod.fst ∧
      ∀ x ∈ ended, ∃ e outcome, e.id = x.1 ∧ endEvent e outcome ∈ h.log := by
  intro new run h queued ended due s found
  obtain ⟨gentlyBefore, -, gentlyAfter⟩ := gently_append.1 gently
  have same : h = (new.through before).through (.command .startSchedule rfl :: after) :=
    through_append ..
  rcases (fresh_isIn_off h₀ true ui ids).through_off (fresh_keeping h₀ ui ids quiet timed) long
    unstarted (fun e he => plain e (List.mem_append_left _ he)) gentlyBefore with
    gone | ⟨off, k, noneQueued, noneEnded⟩
  · cases found.symm.trans (same ▸ schedule_through_eq_none gone _)
  · obtain ⟨armed, k'⟩ := off.start k long
    have run' : Unmeddled ((new.through before).undergo (.command .startSchedule rfl)) after :=
      ⟨alone, fun e he => plain e (List.mem_append_right _ he), gentlyAfter⟩
    have allQueued : queued =
        ((new.through before).undergo (.command .startSchedule rfl)).queuings after :=
      recorded_append_cons noneQueued (by rw [errandsBeyond, armed.2]; rfl) after
    have allEnded : ended =
        ((new.through before).undergo (.command .startSchedule rfl)).endings after :=
      recorded_append_cons noneEnded (by rw [errandsBeyond, off.2]; rfl) after
    have begun : Stage.Accords interval (new.through before).loop.now [] []
        (.armed ((new.through before).loop.now + interval)) := ⟨rfl, rfl⟩
    rcases armed.through_accords k' long run' begun (fun x hx => by cases hx) with
      gone | ⟨t, is, timely, accords, reported⟩
    · cases found.symm.trans (same ▸ gone)
    · rw [List.nil_append, List.nil_append, ← allQueued, ← allEnded] at accords
      rw [List.nil_append, ← allEnded] at reported
      have past : ∀ x ∈ queued, x.2 ≤ h.loop.now := fun x hx => le_now_of_mem_recorded hx
      rw [same] at past ⊢
      obtain ⟨times, all, numbers⟩ := is.times_of_accords timely accords past
      refine ⟨times, all, numbers, fun x hx => ?_⟩
      obtain ⟨e, outcome, number, event⟩ := reported x hx
      exact ⟨e, outcome, number, (List.mem_filter.1 event).1⟩

/-- A service with an interval of two milliseconds. Its first fetch takes three and panics. -/
def slowRadio : Home where
  loop := { ready := [.worker] }
  service := { name := "radio", interval := some (2 * Duration.milli),
               scripts := [{ sleep := some 3, ending := .panic .other }] }

/-- What happens after its schedule was started. Somebody fetches meanwhile. -/
def listening : List Episode :=
  [List.replicate 2 (.turn 0), [.pass 2], List.replicate 5 (.turn 0),
    [.command (.refreshNow true) rfl, .pass 3], List.replicate 9 (.turn 0),
    [.pass 2], List.replicate 8 (.turn 0)].flatten

/-- The second scheduled fetch is queued two milliseconds after the end of the first. -/
theorem fetches_keep_interval_two :
    let new := fresh { slowRadio with work := {}, log := [] } true {} (.scripted [])
    let run := .command .startSchedule rfl :: listening
    (new.Gently run ∧ (new.through run).loop.ready = [] ∧ (new.through run).loop.now = 7) ∧
      new.endings run = [(1, 5), (3, 7)] ∧
      (new.queuings run).map Prod.snd =
        (dues 2 0 (new.endings run)).filter (· ≤ (new.through run).loop.now) := by
  dsimp only
  refine ⟨by decide +kernel, by decide +kernel, ?_⟩
  have kept := fetches_keep_interval slowRadio {} (.scripted []) 2 (by decide) rfl rfl [] listening
    (fun _ he => by cases he) (by simp [listening, Episode.command?, Command.meddles])
    (by simp [listening, Episode.command?]) (by decide +kernel)
    { armed := some 3, stopped := false } (by decide +kernel)
  obtain ⟨-, times, -⟩ := kept
  rw [List.nil_append] at times
  exact times (by decide +kernel)

end Home
end HomeMedia
