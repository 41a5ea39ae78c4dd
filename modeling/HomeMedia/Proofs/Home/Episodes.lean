import HomeMedia.Proofs.Home.Settling
/-!
# Orderly runs

In an arbitrary run agents may have turns whenever they like, and the clock may do anything. An
*orderly* run is one that an event loop can bring about: only those who are ready have turns, one
place among the ready is used up by each, and the clock moves only while nobody is ready. It is a
list of *episodes*: a command that takes no time, a turn of one of the ready, or some time that
passes. Commands may come between any two turns, and who is next is left open.

Commands that each wait until everybody waits make orderly runs (`exists_through_runs`): settling,
sleeping and jumping are made of turns and of time that passes while nobody is ready. The last needs
that settling comes to an end and that no alarm is ever overdue, which holds as long as the timer
does not tick too fast (`Timely`).
-/

namespace HomeMedia

/-! ## What happens to an event loop while no time passes -/

/-- It is the same time, those who were ready still are, the alarms that were set still are, and new
ones are for later. -/
structure EventLoop.Onward {Agent : Type} (l m : EventLoop Agent) : Prop where
  /-- No time has passed. -/
  now : m.now = l.now
  /-- Nobody has had a turn. -/
  ready : l.ready ⊆ m.ready
  /-- No alarm has gone off. -/
  alarms : l.alarms ⊆ m.alarms
  /-- New alarms are for later. -/
  later : ∀ a ∈ m.alarms, a ∈ l.alarms ∨ l.now < a.due

namespace EventLoop.Onward

variable {Agent : Type} {l m n : EventLoop Agent}

/-- Without anything happening, the event loop goes on. -/
theorem refl (l : EventLoop Agent) : Onward l l :=
  ⟨rfl, List.Subset.refl _, List.Subset.refl _, fun _ ha => .inl ha⟩

/-- What goes on twice goes on. -/
theorem trans (first : Onward l m) (second : Onward m n) : Onward l n where
  now := second.now.trans first.now
  ready := List.Subset.trans first.ready second.ready
  alarms := List.Subset.trans first.alarms second.alarms
  later a ha := by
    rcases second.later a ha with old | later
    · exact first.later a old
    · exact .inr (first.now ▸ later)

/-- Waking somebody makes one more ready. -/
theorem wake (agent : Agent) (l : EventLoop Agent) : Onward l (l.wake agent) :=
  { refl l with ready := List.subset_append_left .. }

/-- So does going on. -/
theorem goOn (agent : Agent) (l : EventLoop Agent) : Onward l (l.goOn agent) :=
  { refl l with ready := List.subset_cons_self .. }

/-- A new alarm is for later. -/
theorem wakeAt {due : Nat} (agent : Agent) (later : l.now < due) :
    Onward l (l.wakeAt due agent) where
  now := rfl
  ready := List.Subset.refl _
  alarms := List.subset_append_left ..
  later a ha := by
    rcases List.mem_append.1 ha with old | new
    · exact .inl old
    · exact .inr (List.mem_singleton.1 new ▸ later)

end EventLoop.Onward

namespace Timer

/-- The millisecond of a time is not reached while the time is to come. -/
theorem Interval.lt_milliOf {now nanos : Nat} :
    now < milliOf nanos ↔ now * Duration.milli < nanos := by
  rw [milliOf, Nat.lt_iff_add_one_le, Nat.le_div_iff_mul_le (by decide)]
  simp only [Duration.milli]
  omega

/-- A pulse waits for a time to come. -/
theorem Source.lt_of_beat_rest {Subscriber : Type} {t : Source Subscriber} (paced : t.Paced)
    {now : Nat} (isAlive : Subscriber → Bool) {id : SubscriptionId} {ms : Nat}
    (rests : (t.beat (now * Duration.milli) isAlive id).1 = .rest ms) : now < ms := by
  cases t with
  | manual t => cases rests
  | interval t =>
    simp only [beat, Interval.beat] at rests
    split at rests
    · cases rests
    · rename_i e found
      split at rests
      · cases rests
        have long : 0 < e.interval :=
          Nat.lt_of_lt_of_le (by decide) (long_of_find? paced found)
        exact Interval.lt_milliOf.2 (Nat.lt_add_of_pos_right long)
      · split_ifs at rests with early
        cases rests
        exact Interval.lt_milliOf.2 early

end Timer

namespace Home

open Deed (Label)
open EventLoop (Onward)

/-- Making a subscription wakes its pulse at most. -/
theorem subscribe_onward (subscriber : Subscriber) (nanos : Nat) (h : Home) :
    h.loop.Onward (h.subscribe subscriber nanos).2.loop := by
  unfold subscribe
  dsimp only [report]
  split
  · exact .wake _ h.loop
  · exact .refl h.loop

/-- Seeing to the subscription of the registry does no more. -/
theorem checkTimer_onward (h : Home) : h.loop.Onward h.checkTimer.loop := by
  unfold checkTimer
  split
  · exact .refl _
  · split
    · exact .refl _
    · exact subscribe_onward ..
    · exact .refl _

/-- So sessions can come and go while the event loop goes on. -/
theorem SeenTo.onward {h g : Home} (seen : SeenTo h g) : h.loop.Onward g.loop := by
  obtain ⟨registry, released, events, -, rfl | rfl⟩ := seen
  · exact .refl _
  · exact checkTimer_onward { h with registry, released }

/-- Arming the schedule wakes its pulse at most. -/
theorem arm_onward (h : Home) : h.loop.Onward h.arm.loop := by
  rcases arm_cases h with same | ⟨s, nanos, -, -, -, -, armed⟩
  · exact same.symm ▸ .refl h.loop
  · exact armed ▸ subscribe_onward ..

/-- Disarming it leaves the event loop alone. -/
theorem loop_disarm (h : Home) : h.disarm.loop = h.loop := by
  rcases disarm_cases h with same | ⟨id, stopped, -, disarmed⟩
  · rw [same]
  · rw [disarmed]
    rfl

/-- Waking the worker makes it ready at most. -/
theorem wakeWorker_onward (h : Home) : h.loop.Onward h.wakeWorker.loop := by
  rcases wakeWorker_cases h with ⟨-, woken⟩ | ⟨-, kept⟩
  · exact woken ▸ .wake .worker h.loop
  · exact kept ▸ .refl h.loop

/-- So does adding a task. -/
theorem addTask_onward (task : Task) (parent : Option Task.Id) (h : Home) :
    h.loop.Onward (h.addTask task parent).2.loop :=
  wakeWorker_onward (({ h with work := (h.work.enqueue task parent).2 } : Home).report _)

/-- So does queueing a fetch. -/
theorem refreshNow_onward (h : Home) : h.loop.Onward (h.refreshNow false).2.loop := by
  have queued := addTask_onward (Refresh.fetchTask h.disarm.service.name true) none h.disarm
  rwa [loop_disarm] at queued

/-- So does letting go of the queue. -/
theorem letGo_onward {release : Home → Home} {h : Home} (same : (release h).loop = h.loop) :
    h.loop.Onward (h.letGo release).loop := by
  rw [← same]
  rcases letGo_cases release h with woken | kept
  · exact woken ▸ wakeWorker_onward _
  · exact kept ▸ .refl _

/-- **Every deed but a beat leaves the event loop to go on.** -/
theorem Deed.onward {label : Label} {h g : Home} (deed : Deed label h g) (other : label ≠ .beat) :
    h.loop.Onward g.loop := by
  cases deed with
  | aside aside =>
    cases aside with
    | createSession h timeout => exact (SeenTo.createSession timeout h).onward
    | removeSession h id => exact (SeenTo.removeSession id h).onward
    | sweep h now => exact (SeenTo.sweep now h).onward
    | checkTimer h => exact checkTimer_onward h
    | rest h ms id => exact absurd rfl other
    | goOn h id => exact .goOn _ _
    | _ => exact .refl _
  | addTask h task parent => exact addTask_onward task parent h
  | spawn h task parent planned => exact addTask_onward task parent h
  | invalidate h id =>
    obtain ⟨events, -, cancelled⟩ := exists_invalidate id h
    exact cancelled ▸ .refl h.loop
  | requestStop h => exact .wake _ _
  | call h index => exact wakeWorker_onward { h.report _ with work := _ }
  | dropWork h => exact letGo_onward rfl
  | dropSchedule h => exact letGo_onward rfl
  | release h gate =>
    rcases release_cases gate h with ⟨rest, -, woken⟩ | opened
    · exact woken ▸ .wake _ h.loop
    · exact opened ▸ .refl h.loop
  | look h looking =>
    have looked := h.looked
    generalize h.look = g at looked ⊢
    cases looked with
    | take => exact .goOn _ h.loop
    | again => exact .goOn _ h.loop
    | _ => exact .refl h.loop
  | putAway h ended => exact .goOn _ _
  | goOn h rest busy planned => exact .goOn _ _
  | sleep h ms rest busy planned later =>
    exact .wakeAt _ (Nat.lt_add_of_pos_right (Nat.pos_of_ne_zero later))
  | await h gate rest busy planned => exact .refl _
  | interrupt h => exact .refl _
  | finish h outcome busy =>
    rcases finish_cases outcome h with ⟨-, same⟩ | ⟨e, armed, -, scheduled, ended⟩
    · exact same.symm ▸ .refl h.loop
    · have before : h.loop.Onward armed.loop := by
        rcases scheduled with ⟨-, rfl⟩ | ⟨-, rfl⟩
        · exact arm_onward h
        · exact .refl armed.loop
      exact ended ▸ before.trans (.goOn _ armed.loop)
  | start h =>
    exact arm_onward { h with schedule := h.schedule.map (Refresh.Schedule.setStopped false) }
  | stop h =>
    have same := loop_disarm
      { h with schedule := h.schedule.map (Refresh.Schedule.setStopped true) }
    exact same ▸ .refl h.loop
  | refresh h => exact refreshNow_onward h
  | tick h armed => exact refreshNow_onward h

/-- Ticks do not come too fast, and no alarm is overdue. -/
structure Timely (h : Home) : Prop where
  /-- Ticks do not come too fast. -/
  paced : h.timer.Paced
  /-- Alarms are for later. -/
  ahead : ∀ a ∈ h.loop.alarms, h.loop.now < a.due

namespace Timely

variable {h g : Home}

/-- A server stays timely while its event loop goes on and ticks do not come faster. -/
theorem of_onward (timely : Timely h) (paced : g.timer.Paced) (onward : h.loop.Onward g.loop) :
    Timely g where
  paced := paced
  ahead a ha := by
    rw [onward.now]
    rcases onward.later a ha with old | later
    · exact timely.ahead a old
    · exact later

/-- A deed leaves a server timely. -/
theorem deed {label : Label} (timely : Timely h) (deed : Deed label h g) (other : label ≠ .beat) :
    Timely g :=
  timely.of_onward (deed.paced timely.paced) (deed.onward other)

/-- So do several. -/
theorem deeds {permits : Label → Prop} (timely : Timely h) (deeds : Deeds permits h g)
    (other : ∀ label, permits label → label ≠ .beat) : Timely g :=
  deeds.keep (fun label _ _ ok deed timely => timely.deed deed (other label ok)) timely

/-- A pulse sets its alarm for the time to come. -/
theorem pollPulse (timely : Timely h) (id : Timer.SubscriptionId) : Timely (h.pollPulse id) := by
  have beaten : Timely { h with timer := (h.timer.beat h.nanos h.isAlive id).2 } :=
    ⟨timely.paced.beat .., timely.ahead⟩
  unfold Home.pollPulse
  dsimp only
  split
  · exact beaten
  · rename_i ms rests
    exact beaten.of_onward beaten.paced
      (.wakeAt _ (Timer.Source.lt_of_beat_rest timely.paced h.isAlive rests))
  · rename_i subscriber _
    let before : Home := { h with timer := (h.timer.beat h.nanos h.isAlive id).2 }
    have ticks : Deeds (fun label => label = .own ∨ label = .tick) before
        (before.tick subscriber) := tick_deeds (.inl rfl) (.inr rfl) subscriber before
    have ticked : Timely (before.tick subscriber) := beaten.deeds ticks fun label ok => by
      rcases ok with rfl | rfl <;> exact nofun
    exact ticked.of_onward ticked.paced (.goOn ..)

/-- **So does the turn of any agent.** -/
theorem poll (timely : Timely h) (agent : Agent) : Timely (poll agent h) := by
  cases agent with
  | worker =>
    exact timely.deeds (poll_deeds .worker h) fun label ok => by
      rcases ok with rfl | rfl <;> exact nofun
  | pulse id => exact timely.pollPulse id
  | call index =>
    exact timely.deeds (poll_deeds (.call index) h) fun label call => by
      rw [show label = .call index from call]
      exact nofun

end Timely

/-! ## Episodes -/

/-- Something that happens in order. -/
inductive Episode where
  /-- Something is asked from outside that takes no time. -/
  | command (command : Command) (atOnce : command.takesTime = false)
  /-- The one at a place among the ready has a turn. -/
  | turn (place : Nat)
  /-- Some milliseconds pass, if nobody is ready. -/
  | pass (ms : Nat)

/-- What is asked for in an episode. -/
def Episode.command? : Episode → Option Command
  | command asked _ => some asked
  | _ => none

/-- The server without an agent that was ready. -/
def leaveOut (place : Nat) (h : Home) : Home :=
  { h with loop := { h.loop with ready := h.loop.ready.eraseIdx place } }

/-- The server after an episode. -/
def undergo (h : Home) : Episode → Home
  | .command command _ => (h.act command).2
  | .turn place =>
    match h.loop.ready[place]? with
    | none => h
    | some agent => poll agent (h.leaveOut place)
  | .pass ms => if h.loop.ready = [] then Live.moveTo (h.loop.now + ms) h else h

/-- The server after an orderly run. -/
def through (h : Home) (episodes : List Episode) : Home := episodes.foldl undergo h

/-- Runs can be taken in two parts. -/
theorem through_append (h : Home) (episodes more : List Episode) :
    h.through (episodes ++ more) = (h.through episodes).through more := List.foldl_append

/-- What every episode keeps, an orderly run keeps. -/
theorem through_keeps {P : Home → Prop} {episodes : List Episode}
    (kept : ∀ e ∈ episodes, ∀ h, P h → P (h.undergo e)) {h : Home} (start : P h) :
    P (h.through episodes) := by
  induction episodes generalizing h with
  | nil => exact start
  | cons first more ih =>
    exact ih (fun e he => kept e (List.mem_cons_of_mem _ he))
      (kept first (List.mem_cons_self ..) h start)

/-- A command that takes no time sends no beat. -/
theorem not_beat_of_permits {command : Command} (atOnce : command.takesTime = false)
    {label : Label} (ok : command.Permits label) : label ≠ .beat := by
  rintro rfl
  exact absurd (atOnce.symm.trans ok) (by decide)

/-- **What all deeds keep, whatever the time and whoever is ready, every episode keeps.** -/
theorem undergo_keeps {P : Home → Prop} (reloop : ∀ loop h, P h → P { h with loop })
    (deed : ∀ label h g, Deed label h g → P h → P g) {h : Home} (start : P h) (e : Episode) :
    P (h.undergo e) := by
  cases e with
  | command command atOnce =>
    exact (act_deeds atOnce h).keep (fun label h g _ => deed label h g) start
  | turn place =>
    unfold undergo
    dsimp only
    split
    · exact start
    · exact (poll_deeds _ (h.leaveOut place)).keep (fun label h g _ => deed label h g)
        (reloop _ h start)
  | pass ms =>
    unfold undergo
    dsimp only
    split
    · exact reloop _ h start
    · exact start

/-- **Every episode is timely.** -/
theorem Timely.undergo {h : Home} (timely : Timely h) (e : Episode) : Timely (h.undergo e) := by
  cases e with
  | command command atOnce =>
    exact timely.deeds (act_deeds atOnce h) fun _ ok => not_beat_of_permits atOnce ok
  | turn place =>
    unfold Home.undergo
    dsimp only
    split
    · exact timely
    · exact Timely.poll (h := h.leaveOut place) ⟨timely.paced, timely.ahead⟩ _
  | pass ms =>
    unfold Home.undergo
    dsimp only
    split
    · refine ⟨timely.paced, fun a ha => ?_⟩
      have later : (!decide (a.due ≤ h.loop.now + ms)) = true := (List.mem_filter.1 ha).2
      rw [Bool.not_eq_true', decide_eq_false_iff_not] at later
      exact Nat.lt_of_not_le later
    · exact timely

/-! ## Commands that wait -/

/-- Turns are had and time passes, in order. -/
def Idles (h g : Home) : Prop :=
  ∃ episodes : List Episode, (∀ e ∈ episodes, e.command? = none) ∧ g = h.through episodes

/-- One episode more in which nothing is asked for. -/
theorem Idles.tail {h g : Home} (idles : Idles h g) {e : Episode} (other : e.command? = none) :
    Idles h (g.undergo e) := by
  obtain ⟨episodes, quiet, rfl⟩ := idles
  refine ⟨episodes ++ [e], fun f hf => ?_, by rw [through_append]; rfl⟩
  rcases List.mem_append.1 hf with old | new
  · exact quiet f old
  · exact List.mem_singleton.1 new ▸ other

/-- The turn of the event loop is an episode: the first of the ready has it. -/
theorem eq_undergo_of_turn? {h g : Home} (turn : Live.turn? h = some g) :
    g = h.undergo (.turn 0) := by
  unfold Live.turn? at turn
  split at turn
  · cases turn
  · rename_i agent rest ready
    cases turn
    unfold undergo leaveOut
    dsimp only
    rw [show h.loop.ready = agent :: rest from ready]
    rfl

/-- **Settling and letting time pass is orderly.** -/
theorem idles_lasting (h : Home) : Live.Lasting fun g => Timely g ∧ Idles h g where
  turn := by
    rintro s t ⟨timely, idles⟩ turn
    obtain ⟨now, less⟩ := effort_lt_of_turn? timely.paced turn
    rw [eq_undergo_of_turn? turn] at now less ⊢
    exact ⟨⟨timely.undergo _, idles.tail rfl⟩, now, less⟩
  loop_withLoop _ _ := rfl
  ahead kept a ha := Nat.le_of_lt (kept.1.ahead a ha)
  moveTo := by
    rintro s time ⟨timely, idles⟩ still later
    have passed : Live.moveTo time s = s.undergo (.pass (time - s.loop.now)) := by
      have now : s.loop.now + (time - s.loop.now) = time := Nat.add_sub_cancel' later
      unfold undergo
      dsimp only
      rw [if_pos (show s.loop.ready = [] from still), now]
    rw [passed]
    exact ⟨timely.undergo _, idles.tail rfl⟩

/-- **A command that waits until everybody waits is orderly.** -/
theorem exists_through_run {h : Home} (timely : Timely h) (still : h.loop.ready = [])
    (command : Command) :
    ∃ episodes : List Episode,
      (∀ e ∈ episodes, ∀ asked, e.command? = some asked → asked = command) ∧
      (h.run true command).2 = h.through episodes ∧
      Timely (h.run true command).2 ∧ (h.run true command).2.loop.ready = [] := by
  -- What is done first, and what settling makes of it.
  have acted : ∃ episodes : List Episode,
      (∀ e ∈ episodes, ∀ asked, e.command? = some asked → asked = command) ∧
        (h.act command).2 = h.through episodes ∧ Timely (h.act command).2 := by
    cases time : command.takesTime with
    | false =>
      refine ⟨[.command command time], fun e he asked same => ?_, rfl, ?_⟩
      · cases List.mem_singleton.1 he
        cases same
        rfl
      · exact timely.undergo (.command command time)
    | true =>
      have idled : Timely (h.act command).2 ∧ Idles h (h.act command).2 := by
        have start : Timely h ∧ Idles h h := ⟨timely, [], nofun, rfl⟩
        cases command with
        | sleep ms => exact (idles_lasting h).sleep ms start
        | jump ms => exact (idles_lasting h).jump ms start still
        | _ => cases time
      obtain ⟨timely, episodes, quiet, same⟩ := idled
      refine ⟨episodes, fun e he asked ask => ?_, same, timely⟩
      cases (quiet e he).symm.trans ask
  obtain ⟨episodes, asks, same, timely⟩ := acted
  obtain ⟨⟨timely, more, quiet, settled⟩, still, -⟩ :=
    (idles_lasting (h.act command).2).settle ⟨timely, [], nofun, rfl⟩
  refine ⟨episodes ++ more, fun e he asked ask => ?_, ?_, timely, still⟩
  · rcases List.mem_append.1 he with old | new
    · exact asks e old asked ask
    · cases (quiet e new).symm.trans ask
  · rw [through_append, ← same]
    exact settled

/-- **Commands that each wait until everybody waits make an orderly run.** -/
theorem exists_through_runs (commands : List Command) {h : Home} (timely : Timely h)
    (still : h.loop.ready = []) :
    ∃ episodes : List Episode,
      (∀ e ∈ episodes, ∀ asked, e.command? = some asked → asked ∈ commands) ∧
      commands.foldl (fun h command => (h.run true command).2) h = h.through episodes ∧
      (h.through episodes).loop.ready = [] := by
  induction commands generalizing h with
  | nil => exact ⟨[], nofun, rfl, still⟩
  | cons command more ih =>
    obtain ⟨first, asks, ran, timely, quiet⟩ := exists_through_run timely still command
    obtain ⟨rest, later, same, settled⟩ := ih timely quiet
    refine ⟨first ++ rest, fun e he asked ask => ?_, ?_, ?_⟩
    · rcases List.mem_append.1 he with old | new
      · exact List.mem_cons.2 (.inl (asks e old asked ask))
      · exact List.mem_cons_of_mem _ (later e new asked ask)
    · rw [through_append, ← ran]
      exact same
    · rw [through_append, ← ran]
      exact settled

end Home
end HomeMedia
