import HomeMedia.Proofs.Home.Exchanges
import HomeMedia.Proofs.Home.Settling
import HomeMedia.Proofs.Work.Rounds
/-!
# How a task ends is nobody else's business

A task completes, is cancelled, fails or panics. The worker reports which
(`Proofs/Work/Rounds.lean`), and that is all that comes of it. To say so, forget how tasks end
(`withoutEnds`): of a body only the steps up to its end are left, and of the log only that a task
has ended. Two servers that are the same then do the same (`poll_withoutEnds`), and so two runs in
which the same is done up to the ends of the tasks go on side by side: the answers are the same, and
at every moment so is everything but the events of the ends (`ends_disturb_nobody`).

Forgetting the ends is an exchange (`Exchange.ofEnds`), which only the worker notices. What it does
after the exchange is what it did before, with the ends forgotten once more: however a task ends,
the worker goes on as if the task had completed (`finish_withoutEnds`). The tasks that are left have
fewer steps, so settling may take one server more turns than the other (`Live.Alike.settle`).
-/

namespace HomeMedia

/-! ## Up to the end -/

namespace Task

/-- Whether a step ends its task at once and does nothing else. -/
def Action.isEnd : Action → Bool
  | .fail _ => true
  | .panic _ => true
  | .giveUp => true
  | .conclude (.error _) => true
  | _ => false

mutual

/-- A step; if it adds a task, the steps of that task up to its end. -/
def Action.untilEnd : Action → Action
  | .spawn header body => .spawn header (untilEnd body)
  | .add header body => .add header (untilEnd body)
  | action => action

/-- The steps of a body up to its end. -/
def untilEnd : List Action → List Action
  | [] => []
  | action :: more => if action.isEnd then [] else action.untilEnd :: untilEnd more

end

/-- Whether a step ends its task is not forgotten. -/
theorem Action.isEnd_untilEnd (action : Action) : action.untilEnd.isEnd = action.isEnd := by
  cases action <;> rfl

mutual

/-- Cutting a step at its end twice is cutting it once. -/
theorem Action.untilEnd_untilEnd (action : Action) :
    action.untilEnd.untilEnd = action.untilEnd := by
  match action with
  | .spawn header body => simp only [Action.untilEnd, Task.untilEnd_untilEnd body]
  | .add header body => simp only [Action.untilEnd, Task.untilEnd_untilEnd body]
  | .check | .note _ | .noteValidity | .sleep _ | .await _ | .fail _ | .panic _ | .invalidate _
  | .giveUp | .rescan _ | .fetch | .interrupt | .conclude _ => rfl

/-- So it is of a body. -/
theorem untilEnd_untilEnd (body : List Action) : untilEnd (untilEnd body) = untilEnd body := by
  match body with
  | [] => rfl
  | action :: more =>
    rw [untilEnd]
    split
    · rfl
    · rename_i goesOn
      rw [untilEnd, Action.isEnd_untilEnd, if_neg goesOn, Action.untilEnd_untilEnd action,
        untilEnd_untilEnd more]

end

/-- What comes after the end does not matter, nor what comes after the end of the rest. -/
theorem untilEnd_append (steps rest : List Action) :
    untilEnd (steps ++ untilEnd rest) = untilEnd (steps ++ rest) := by
  induction steps with
  | nil => exact untilEnd_untilEnd rest
  | cons step steps ih => rw [List.cons_append, List.cons_append, untilEnd, untilEnd, ih]

end Task

namespace Refresh

/-- An ending of which only an answer is left. -/
def Ending.answerOnly : Ending → Ending
  | .answer (.ok changed) => .answer (.ok changed)
  | _ => .panic .other

/-- A refresh that answers in the same way, and fails in one way only. -/
def Script.untilEnd (s : Script) : Script := { s with ending := s.ending.answerOnly }

/-- Cutting a refresh at its end twice is cutting it once. -/
theorem Script.untilEnd_untilEnd (s : Script) : s.untilEnd.untilEnd = s.untilEnd := by
  rcases s with ⟨sleep, gate, cancels, _ | _ | _⟩ <;> rfl

/-- The steps of a refresh are the same up to its end. -/
theorem Script.untilEnd_steps (s : Script) (rest : List Task.Action) :
    Task.untilEnd (s.untilEnd.steps ++ rest) = Task.untilEnd (s.steps ++ rest) := by
  rcases s with ⟨_ | _, _ | _, _ | _, _ | _ | _⟩ <;> rfl

/-- The next refresh is the one that was next, its end forgotten. -/
theorem Service.next_mapScripts (s : Service) :
    (s.mapScripts Script.untilEnd).next =
      (s.next.1.untilEnd, s.next.2.mapScripts Script.untilEnd) := by
  obtain ⟨name, interval, _ | _⟩ := s <;> rfl

end Refresh

/-- An event that does not say how a task ended. -/
def Event.withoutEnd : Event → Event
  | .taskEnded id kind _ => .taskEnded id kind .completed
  | .taskFailed id kind _ => .taskEnded id kind .completed
  | event => event

/-- Forgetting twice how a task ended is forgetting it once. -/
theorem Event.withoutEnd_withoutEnd (event : Event) :
    event.withoutEnd.withoutEnd = event.withoutEnd := by
  cases event <;> rfl

/-- An event that is not the worker's tells of no end. -/
theorem Event.withoutEnd_of_other {event : Event} (other : event.ofWorker = false) :
    event.withoutEnd = event := by
  cases event with
  | taskEnded | taskFailed => cases other
  | _ => rfl

/-- Neither do several. -/
theorem Event.map_withoutEnd {events : List Event} (other : events.filter Event.ofWorker = []) :
    events.map Event.withoutEnd = events := by
  refine (List.map_congr_left fun event mem => ?_).trans (List.map_id events)
  exact withoutEnd_of_other (Bool.eq_false_iff.2 (List.filter_eq_nil_iff.1 other event mem))

namespace Work

variable {f : List Task.Action → List Task.Action} (w : Work)

/-- Cancelling the current task does not depend on its body. -/
theorem interrupt_mapBodies : (w.mapBodies f).interrupt = w.interrupt.mapBodies f := by
  unfold interrupt mapBodies
  cases w.current <;> rfl

/-- Changing all bodies twice is changing them once, if it is so for each. -/
theorem mapBodies_mapBodies (idempotent : ∀ body, f (f body) = f body) :
    (w.mapBodies f).mapBodies f = w.mapBodies f := by
  have entry (e : Entry) : (e.mapBody f).mapBody f = e.mapBody f :=
    congrArg (fun body => { e with body }) (idempotent e.body)
  have worker : (w.worker.mapRest f).mapRest f = w.worker.mapRest f := by
    cases w.worker with
    | running rest => exact congrArg Worker.running (idempotent rest)
    | atGate gate rest => exact congrArg (Worker.atGate gate) (idempotent rest)
    | _ => rfl
  unfold mapBodies
  dsimp only
  rw [List.map_map, Option.map_map, funext (f := Entry.mapBody f ∘ Entry.mapBody f) entry, worker]

end Work

namespace Home

/-- The exchange that forgets how tasks end. -/
def Exchange.ofEnds : Exchange where
  body := Task.untilEnd
  script := Refresh.Script.untilEnd
  log := List.map Event.withoutEnd
  fetch := rfl
  rescan _ := rfl
  report _ _ other := List.map_append.trans (congrArg _ (Event.map_withoutEnd other))

/-- The server, how tasks end forgotten. -/
def withoutEnds (h : Home) : Home := h.exchanged .ofEnds

variable (h : Home)

/-- Forgetting twice how tasks end is forgetting it once. -/
theorem withoutEnds_withoutEnds : h.withoutEnds.withoutEnds = h.withoutEnds := by
  have scripts : (h.service.mapScripts Refresh.Script.untilEnd).mapScripts Refresh.Script.untilEnd =
      h.service.mapScripts Refresh.Script.untilEnd := by
    unfold Refresh.Service.mapScripts
    dsimp only
    rw [List.map_map, funext (f := _ ∘ _) Refresh.Script.untilEnd_untilEnd]
  have events : (h.log.map Event.withoutEnd).map Event.withoutEnd = h.log.map Event.withoutEnd := by
    rw [List.map_map, funext (f := _ ∘ _) Event.withoutEnd_withoutEnd]
  have registry : (h.registry.map (Session.Registry.onAccounts id)).map
      (Session.Registry.onAccounts id) = h.registry.map (Session.Registry.onAccounts id) :=
    Option.map_map ..
  unfold withoutEnds exchanged
  dsimp only [Exchange.ofEnds]
  rw [Work.mapBodies_mapBodies _ Task.untilEnd_untilEnd, scripts, events, registry]

/-! ## The worker -/

/-- The current task is the same up to its end. -/
theorem current_withoutEnds :
    h.withoutEnds.work.current = h.work.current.map (Work.Entry.mapBody Task.untilEnd) := rfl

/-- **However a task ends, it ends in the same way,** once it is forgotten how. -/
theorem finish_withoutEnds (outcome : Except Task.Error Task.Outcome) :
    h.withoutEnds.finish (.ok .completed) = (h.finish outcome).withoutEnds := by
  unfold finish
  rw [current_withoutEnds]
  cases h.work.current with
  | none => rfl
  | some e =>
    have armed : (if e.scheduled then h.withoutEnds.arm else h.withoutEnds) =
        (if e.scheduled then h.arm else h).withoutEnds := by
      rw [show h.withoutEnds.arm = h.arm.withoutEnds from arm_exchanged .ofEnds h]
      split <;> rfl
    have reported (g : Home) :
        g.withoutEnds.report [endEvent (e.mapBody Task.untilEnd) (.ok .completed)] =
          (g.report [endEvent e outcome]).withoutEnds := by
      refine congrArg (fun log => ({ g.withoutEnds with log } : Home)) ?_
      change g.log.map Event.withoutEnd ++ _ = (g.log ++ [endEvent e outcome]).map Event.withoutEnd
      rw [List.map_append]
      cases outcome <;> rfl
    dsimp only [Option.map_some]
    rw [show (e.mapBody Task.untilEnd).scheduled = e.scheduled from rfl, armed, reported]
    rfl

/-- However a task ends, the same is left when its end is forgotten. -/
theorem withoutEnds_finish (outcome other : Except Task.Error Task.Outcome) :
    (h.withoutEnds.finish outcome).withoutEnds = (h.finish other).withoutEnds := by
  rw [← finish_withoutEnds, withoutEnds_withoutEnds, finish_withoutEnds]

/-- A task goes on with whatever is the same up to the end. -/
theorem withoutEnds_continueWith {rest other : List Task.Action}
    (same : Task.untilEnd rest = Task.untilEnd other) :
    (h.withoutEnds.continueWith rest).withoutEnds = (h.continueWith other).withoutEnds := by
  have idle := h.withoutEnds_withoutEnds
  refine (congrArg (fun g : Home => { g with
    work := { g.work with worker := .running (Task.untilEnd rest) }
    loop := g.loop.goOn .worker }) idle).trans ?_
  rw [same]
  rfl

/-- The token of the current task stays. -/
theorem isValid_withoutEnds : h.withoutEnds.work.isValid = h.work.isValid :=
  Work.isValid_mapBodies Task.untilEnd h.work

/-- The ends may be forgotten on either side of a choice. -/
theorem withoutEnds_ite (c : Prop) [Decidable c] (g : Home) :
    (if c then g else h).withoutEnds = if c then g.withoutEnds else h.withoutEnds :=
  apply_ite withoutEnds c g h

/-- A scan goes as it would. -/
theorem scan_withoutEnds (path : Path) :
    (h.withoutEnds.scan path).withoutEnds = (h.scan path).withoutEnds := by
  unfold scan
  dsimp only
  rw [isValid_withoutEnds, show h.withoutEnds.files = h.files from rfl,
    show h.withoutEnds.library = h.library from rfl]
  have quiet := Rescan.run_quiet (libraryStore h.work.isValid) h.files true path h.library
  generalize Rescan.run (libraryStore h.work.isValid) h.files true path h.library = r at quiet ⊢
  have stored : ({ h.withoutEnds with library := r.store } : Home).report r.events =
      (({ h with library := r.store } : Home).report r.events).withoutEnds :=
    report_exchanged .ofEnds { h with library := r.store } (Event.filter_ofWorker quiet)
  have told := (congrArg (announceAny r.announced) stored).trans
    (announceAny_exchanged .ofEnds _ r.announced)
  exact (congrArg (fun g => (finish r.outcome g).withoutEnds) told).trans
    (withoutEnds_finish _ r.outcome r.outcome)

/-- So does the end of a fetch. -/
theorem conclude_withoutEnds (answer : Except Task.Error (List ObjectId)) :
    (h.withoutEnds.conclude answer).withoutEnds = (h.conclude answer).withoutEnds := by
  unfold conclude
  dsimp only
  rw [isValid_withoutEnds, show h.withoutEnds.service.name = h.service.name from rfl]
  have quiet := Refresh.conclude_quiet h.service.name h.work.isValid answer
  generalize Refresh.conclude h.service.name h.work.isValid answer = c at quiet ⊢
  have told : (h.withoutEnds.announceAny c.announced).report c.events =
      ((h.announceAny c.announced).report c.events).withoutEnds :=
    (congrArg (report c.events) (announceAny_exchanged .ofEnds h c.announced)).trans
      (report_exchanged .ofEnds _ (Event.filter_ofWorker quiet))
  rw [told, withoutEnds_finish]

/-- So does the beginning of one. -/
theorem fetch_withoutEnds (e : Work.Entry) (rest : List Task.Action) :
    (h.withoutEnds.fetch (e.mapBody Task.untilEnd) (Task.untilEnd rest)).withoutEnds =
      (h.fetch e rest).withoutEnds := by
  have steps : Task.untilEnd (h.service.next.1.untilEnd.steps ++ Task.untilEnd rest) =
      Task.untilEnd (h.service.next.1.steps ++ rest) := by
    rw [Task.untilEnd_append, Refresh.Script.untilEnd_steps]
  unfold fetch
  rw [show h.withoutEnds.service.next = _ from Refresh.Service.next_mapScripts h.service]
  have asked : ({ h.withoutEnds with
      service := h.service.next.2.mapScripts Refresh.Script.untilEnd } : Home).report
        [.refreshStarted h.service.next.2.name e.scheduled] =
      (({ h with service := h.service.next.2 } : Home).report
        [.refreshStarted h.service.next.2.name e.scheduled]).withoutEnds :=
    report_exchanged .ofEnds { h with service := h.service.next.2 } rfl
  refine (congrArg (fun g => (continueWith (h.service.next.1.untilEnd.steps ++ Task.untilEnd rest)
    (g.leave .refreshed)).withoutEnds) asked).trans ?_
  exact withoutEnds_continueWith ((({ h with service := h.service.next.2 } : Home).report
    [.refreshStarted h.service.next.2.name e.scheduled]).leave .refreshed) steps

/-- So does every step that is not the end. -/
theorem step_withoutEnds (e : Work.Entry) (rest : List Task.Action) {action : Task.Action}
    (goesOn : action.isEnd = false) :
    (h.withoutEnds.step (e.mapBody Task.untilEnd) (Task.untilEnd rest)
      action.untilEnd).withoutEnds = (h.step e rest action).withoutEnds := by
  have continued (g : Home) : (g.withoutEnds.continueWith (Task.untilEnd rest)).withoutEnds =
      (g.continueWith rest).withoutEnds :=
    withoutEnds_continueWith g (Task.untilEnd_untilEnd rest)
  have answered {α : Type} {one other : α × Home} (trace : α → Trace)
      (same : one = (other.1, other.2.withoutEnds)) :
      ((one.2.leave (trace one.1)).continueWith (Task.untilEnd rest)).withoutEnds =
        ((other.2.leave (trace other.1)).continueWith rest).withoutEnds := by
    rw [same]
    exact continued (other.2.leave (trace other.1))
  cases action with
  | fail | panic | giveUp => cases goesOn
  | note text => exact continued (h.leave (.note text))
  | noteValidity =>
    dsimp only [step, Task.Action.untilEnd]
    rw [isValid_withoutEnds]
    exact continued (h.leave (.validity h.work.isValid))
  | interrupt =>
    dsimp only [step, Task.Action.untilEnd]
    rw [show h.withoutEnds.work.interrupt = h.work.interrupt.mapBodies Task.untilEnd from
      Work.interrupt_mapBodies h.work]
    exact continued { h with work := h.work.interrupt }
  | check =>
    dsimp only [step, Task.Action.untilEnd]
    rw [isValid_withoutEnds, withoutEnds_ite, withoutEnds_ite, continued, withoutEnds_finish]
  | sleep ms =>
    dsimp only [step, Task.Action.untilEnd]
    rw [withoutEnds_ite, withoutEnds_ite, continued]
    exact congrArg (ite _ _) (withoutEnds_withoutEnds { h with
      work := { h.work with worker := .running rest }
      loop := h.loop.wakeAt (h.loop.now + ms) .worker })
  | await gate =>
    dsimp only [step, Task.Action.untilEnd]
    rw [withoutEnds_ite, withoutEnds_ite, continued]
    exact congrArg (ite _ _) (withoutEnds_withoutEnds { h with
      work := { h.work with worker := .atGate gate rest } })
  | spawn header body =>
    dsimp only [step, Task.Action.untilEnd]
    rw [withoutEnds_ite, withoutEnds_ite, withoutEnds_finish _ _ (.error queueGone)]
    exact congrArg (fun g => ite _ g _)
      (answered .spawned (addTask_exchanged .ofEnds h { toHeader := header, body } (some e.id)))
  | add header body =>
    dsimp only [step, Task.Action.untilEnd]
    rw [withoutEnds_ite, withoutEnds_ite, withoutEnds_finish _ _ (.error queueGone)]
    exact congrArg (fun g => ite _ g _)
      (answered .added (addTask_exchanged .ofEnds h { toHeader := header, body } none))
  | invalidate id =>
    dsimp only [step, Task.Action.untilEnd]
    rw [withoutEnds_ite, withoutEnds_ite, withoutEnds_finish _ _ (.error queueGone)]
    exact congrArg (fun g => ite _ g _)
      (answered (.invalidated (id.getD e.id)) (invalidate_exchanged .ofEnds h (id.getD e.id)))
  | rescan path => exact scan_withoutEnds h path
  | fetch =>
    dsimp only [step, Task.Action.untilEnd]
    rw [isValid_withoutEnds, withoutEnds_ite, withoutEnds_ite, fetch_withoutEnds,
      withoutEnds_finish]
  | conclude answer => exact conclude_withoutEnds h answer

/-- A step that ends its task. -/
theorem exists_step_of_isEnd (e : Work.Entry) (rest : List Task.Action) {action : Task.Action}
    (ends : action.isEnd = true) : ∃ outcome, h.step e rest action = h.finish outcome := by
  cases action with
  | fail error => exact ⟨_, rfl⟩
  | panic payload => exact ⟨_, rfl⟩
  | giveUp => exact ⟨_, rfl⟩
  | conclude answer =>
    cases answer with
    | error error => exact ⟨.error error, congrArg (finish _) (report_nil h)⟩
    | ok changed => cases ends
  | _ => cases ends

/-- **A turn of the worker goes as it would**, but for how a task ends. -/
theorem pollWorker_withoutEnds :
    h.withoutEnds.pollWorker.withoutEnds = h.pollWorker.withoutEnds := by
  unfold pollWorker
  rw [current_withoutEnds,
    show h.withoutEnds.work.worker = h.work.worker.mapRest Task.untilEnd from rfl]
  cases h.work.worker with
  | looking =>
    have looked := look_exchanged .ofEnds h fun _ _ _ _ _ => List.map_append
    exact (congrArg withoutEnds looked).trans h.look.withoutEnds_withoutEnds
  | ended =>
    exact (congrArg withoutEnds (putAway_exchanged .ofEnds h)).trans
      h.putAway.withoutEnds_withoutEnds
  | parked | atGate | stopped => exact h.withoutEnds_withoutEnds
  | running rest =>
    dsimp only [Work.Worker.mapRest]
    cases h.work.current with
    | none => exact h.withoutEnds_withoutEnds
    | some e =>
      cases rest with
      | nil => exact withoutEnds_finish h _ _
      | cons action rest =>
        dsimp only [Option.map_some, Task.untilEnd]
        cases ends : action.isEnd with
        | true =>
          obtain ⟨outcome, same⟩ := exists_step_of_isEnd h e rest ends
          rw [same]
          exact withoutEnds_finish h _ outcome
        | false => exact step_withoutEnds h e rest ends

/-- **No turn shows how a task has ended.** -/
theorem poll_withoutEnds (agent : Agent) :
    (poll agent h.withoutEnds).withoutEnds = (poll agent h).withoutEnds := by
  cases agent with
  | worker => exact pollWorker_withoutEnds h
  | pulse id =>
    exact (congrArg withoutEnds (pollPulse_exchanged .ofEnds h id)).trans
      (h.pollPulse id).withoutEnds_withoutEnds
  | call index =>
    exact (congrArg withoutEnds (pollCall_exchanged .ofEnds h index)).trans
      (h.pollCall index).withoutEnds_withoutEnds

/-- Being the same but for the ends is kept by whatever happens. -/
theorem alike_withoutEnds : Live.Alike fun h g : Home => h.withoutEnds = g.withoutEnds where
  loop {h g} same := show h.withoutEnds.loop = g.withoutEnds.loop from congrArg Home.loop same
  withLoop loop {h g} same := congrArg (fun k : Home => { k with loop }) same
  poll agent {h g} same := by
    change (poll agent h).withoutEnds = (poll agent g).withoutEnds
    rw [← poll_withoutEnds, same, poll_withoutEnds]

/-! ## Two runs -/

/-- The same, but a task that is added does what it does up to its end. -/
def Happening.untilEnd : Happening → Happening
  | .command asked => .command (asked.mapBody Task.untilEnd)
  | happening => happening

variable {h} {g : Home}

/-- The timer stays paced. -/
theorem paced_next (paced : h.timer.Paced) (happening : Happening) :
    (h.next happening).timer.Paced :=
  next_keeps (P := fun g => g.timer.Paced) (fun _ _ paced => paced)
    (fun _ _ _ _ deed => deed.paced) paced

/-- A command that takes no time is answered the same. -/
theorem act_withoutEnds {asked other : Command} (brief : asked.takesTime = false)
    (same : asked.mapBody Task.untilEnd = other.mapBody Task.untilEnd)
    (alike : h.withoutEnds = g.withoutEnds) :
    (h.act asked).1 = (g.act other).1 ∧
      (h.act asked).2.withoutEnds = (g.act other).2.withoutEnds := by
  have time (command : Command) :
      (command.mapBody Task.untilEnd).takesTime = command.takesTime := by cases command <;> rfl
  have briefly : other.takesTime = false := by rw [← time, ← same, time, brief]
  have one : h.withoutEnds.act (asked.mapBody Task.untilEnd) =
      ((h.act asked).1, (h.act asked).2.withoutEnds) := act_exchanged .ofEnds h brief (.inr rfl)
  have two : g.withoutEnds.act (other.mapBody Task.untilEnd) =
      ((g.act other).1, (g.act other).2.withoutEnds) := act_exchanged .ofEnds g briefly (.inr rfl)
  rw [alike, same, two] at one
  exact ⟨(congrArg Prod.fst one).symm, (congrArg Prod.snd one).symm⟩

/-- **Something happens to both,** and is answered in the same way. -/
theorem undergone_withoutEnds (hPaced : h.timer.Paced) (gPaced : g.timer.Paced)
    (alike : h.withoutEnds = g.withoutEnds) {one other : Happening}
    (same : one.untilEnd = other.untilEnd) :
    (h.undergone one).1 = (g.undergone other).1 ∧
      (h.next one).withoutEnds = (g.next other).withoutEnds := by
  cases one with
  | turn agent =>
    cases other with
    | turn => cases same; exact ⟨rfl, alike_withoutEnds.poll agent alike⟩
    | command | reloop => cases same
  | reloop loop =>
    cases other with
    | reloop => cases same; exact ⟨rfl, alike_withoutEnds.withLoop loop alike⟩
    | command | turn => cases same
  | command asked =>
    cases other with
    | turn | reloop => cases same
    | command asked' =>
      have same : asked.mapBody Task.untilEnd = asked'.mapBody Task.untilEnd :=
        Happening.command.inj same
      cases brief : asked.takesTime with
      | false => exact act_withoutEnds brief same alike
      | true =>
        cases asked with
        | sleep ms =>
          cases asked' <;> cases same
          exact ⟨rfl, alike_withoutEnds.sleep wearing_paced kept_paced ms hPaced gPaced alike⟩
        | jump ms =>
          cases asked' <;> cases same
          exact ⟨rfl, alike_withoutEnds.jump wearing_paced kept_paced ms hPaced gPaced alike⟩
        | _ => cases brief

/-- **Along runs that differ in ends only** the same is answered, and states agree but for the
ends. -/
theorem run_withoutEnds (hPaced : h.timer.Paced) (gPaced : g.timer.Paced)
    (alike : h.withoutEnds = g.withoutEnds) {run other : List Happening}
    (same : run.map Happening.untilEnd = other.map Happening.untilEnd) :
    (h.history run).map Prod.fst = (g.history other).map Prod.fst ∧
      (h.after run).withoutEnds = (g.after other).withoutEnds := by
  induction run generalizing h g other with
  | nil =>
    cases other with
    | nil => exact ⟨rfl, alike⟩
    | cons => cases same
  | cons first more ih =>
    cases other with
    | nil => cases same
    | cons first' more' =>
      obtain ⟨firstSame, moreSame⟩ := List.cons.inj same
      obtain ⟨reply, state⟩ := undergone_withoutEnds hPaced gPaced alike firstSame
      obtain ⟨replies, states⟩ :=
        ih (paced_next hPaced first) (paced_next gPaced first') state moreSame
      have undergone (k : Home) (happening : Happening) :
          (k.undergone happening).2 = k.next happening := by cases happening <;> rfl
      refine ⟨?_, states⟩
      rw [history, history, List.map_cons, List.map_cons, undergone, undergone, replies, reply]

/-- Two servers that show the same, but for how tasks have ended. -/
structure ShowsSame (h g : Home) : Prop where
  /-- The same tasks wait, with the same numbers, -/
  queue : h.work.list = g.work.list
  /-- and the same one is current. -/
  current : h.work.current.map Work.Entry.view = g.work.current.map Work.Entry.view
  /-- The next task gets the same number. -/
  added : h.work.added = g.work.added
  /-- The same tasks were queued, -/
  queued : h.log.filterMap Event.queued? = g.log.filterMap Event.queued?
  /-- the same tasks were started, in the same order, -/
  started : h.log.filterMap Event.started? = g.log.filterMap Event.started?
  /-- and the same ones have ended. -/
  ended : h.log.filterMap Event.ended? = g.log.filterMap Event.ended?
  /-- The logs are the same, the ends of tasks apart. -/
  log : h.log.map Event.withoutEnd = g.log.map Event.withoutEnd
  /-- Tasks have left the same traces. -/
  traces : h.traces = g.traces
  library : h.library = g.library
  registry : h.registry = g.registry
  schedule : h.schedule = g.schedule
  timer : h.timer = g.timer
  loop : h.loop = g.loop

/-- Two servers that are the same but for the ends show the same. -/
theorem ShowsSame.of_withoutEnds (alike : h.withoutEnds = g.withoutEnds) : ShowsSame h g := by
  have log : h.log.map Event.withoutEnd = g.log.map Event.withoutEnd := congrArg Home.log alike
  have told {α : Type} {f : Event → Option α}
      (blind : ∀ event, f (Event.withoutEnd event) = f event) : h.log.filterMap f = g.log.filterMap f := by
    have same := congrArg (List.filterMap f) log
    rwa [List.filterMap_map, List.filterMap_map, funext (f := f ∘ Event.withoutEnd) blind] at same
  have queue (k : Home) : k.withoutEnds.work.list = k.work.list :=
    Work.list_mapBodies Task.untilEnd k.work
  have current (k : Home) : k.withoutEnds.work.current.map Work.Entry.view =
      k.work.current.map Work.Entry.view := Option.map_map ..
  have registry (k : Home) : k.withoutEnds.registry = k.registry := Option.map_id' ..
  exact {
    queue := by rw [← queue, alike, queue]
    current := by rw [← current, alike, current]
    added := congrArg (fun k => k.work.added) alike
    queued := told fun event => by cases event <;> rfl
    started := told fun event => by cases event <;> rfl
    ended := told fun event => by cases event <;> rfl
    log
    traces := congrArg (fun k => k.traces) alike
    library := congrArg (fun k => k.library) alike
    registry := by rw [← registry, alike, registry]
    schedule := congrArg (fun k => k.schedule) alike
    timer := congrArg (fun k => k.timer) alike
    loop := congrArg (fun k => k.loop) alike }

/-- The server with a new queue and a new timer, and nothing logged. -/
def anew (ticks : Bool) (h : Home) : Home :=
  { h with work := {}, log := [], timer := newTimer ticks }

/-- A new timer is paced. -/
theorem paced_anew (ticks : Bool) (h : Home) : (h.anew ticks).timer.Paced := by
  cases ticks <;> exact ⟨⟨List.nodup_nil, nofun⟩, nofun⟩

/-- **However a task ends, that is reported once and disturbs nobody.**  Let a server begin with a
new queue and without a log.

* After every run, the worker has reported one round after the other: the start and the end of task
  1, of task 2, and so on, and the start of the next task while it is busy with that. Each of these
  events is written as a line.
* The end of a task is written as loud as its result is serious, and says why a task has failed.
* They are reported turn by turn: a start with the token of the task as it is then, an end with the
  result of its last step. Runs that let time pass can be spelled out as turns.
* Take another run, from a server that is the same but for the failures of its online service, in
  which the same happens but for the ends of the tasks. All answers are the same, and so is
  everything that the two servers show at corresponding moments: who waits, runs or was run, and
  with which number, the traces and the library, the log without the ends, and all the rest. -/
theorem ends_disturb_nobody (ticks : Bool) (h₀ : Home) (run : List Happening) :
    (∃ rounds begun, TellsRounds ((h₀.anew ticks).after run) rounds begun) ∧
    (∀ event ∈ ((h₀.anew ticks).after run).told, ∃ line, event.line? = some line) ∧
    (∀ (t : Task.Tag) (result : Except Task.Error Task.Outcome), ∃ line,
      (t.finish result).line? = some line ∧ line.level = Task.loudness result ∧
        ∀ error, result = .error error → ("error", error.message) ∈ line.fields) ∧
    (∀ happening : Happening, happening.isBrief = true →
      (((h₀.anew ticks).after run).next happening).told =
        ((h₀.anew ticks).after run).told ++ ((h₀.anew ticks).after run).tells happening) ∧
    (∃ short : List Happening, (∀ happening ∈ short, happening.isBrief = true) ∧
      (h₀.anew ticks).after run = (h₀.anew ticks).after short ∧
        ((h₀.anew ticks).after run).told = (h₀.anew ticks).talesOf short) ∧
    ∀ (h₁ : Home) (other : List Happening),
      (h₁.anew ticks).withoutEnds = (h₀.anew ticks).withoutEnds →
      other.map Happening.untilEnd = run.map Happening.untilEnd →
      ((h₁.anew ticks).history other).map Prod.fst = ((h₀.anew ticks).history run).map Prod.fst ∧
        ∀ n, ShowsSame ((h₁.anew ticks).after (other.take n)) ((h₀.anew ticks).after (run.take n)) ∧
          ((h₁.anew ticks).after (other.take n)).withoutEnds =
            ((h₀.anew ticks).after (run.take n)).withoutEnds := by
  obtain ⟨rounds, begun, tells⟩ := exists_tellsRounds { h₀ with timer := newTimer ticks } run
  obtain ⟨short, brief, same⟩ := exists_brief (h₀.anew ticks) run
  refine ⟨⟨rounds, begun, tells⟩, fun event mem => tells.exists_line mem,
    Task.Tag.exists_line, fun happening brief => told_next_of_isBrief brief,
    ⟨short, brief, same, same ▸ told_after brief⟩, fun h₁ other alike sameRun => ⟨?_, fun n => ?_⟩⟩
  · exact (run_withoutEnds (paced_anew ticks h₁) (paced_anew ticks h₀) alike sameRun).1
  · have sameTake : (other.take n).map Happening.untilEnd = (run.take n).map Happening.untilEnd := by
      rw [List.map_take, sameRun, List.map_take]
    have moment := (run_withoutEnds (paced_anew ticks h₁) (paced_anew ticks h₀) alike sameTake).2
    exact ⟨.of_withoutEnds moment, moment⟩

/-- Two tasks run one after the other; they leave a note each before they end. -/
def twoTasks (first second : List Task.Action) : List Happening :=
  let task (text : String) (more : List Task.Action) : Task :=
    { kind := .generic, description := text, cancellable := true, scheduled := false
      body := .note text :: more }
  [.command (.addTask (task "a" first) none), .command (.addTask (task "b" second) none)] ++
    List.replicate 7 (.turn .worker)

/-- A task that panics and one that ends in order leave the same notes. -/
theorem ends_disturb_nobody_panicking :
    let one := (({} : Home).anew true).after (twoTasks [.panic (.text "oops")] [])
    let other := (({} : Home).anew true).after (twoTasks [] [.giveUp])
    one.told = [.taskStarted 1 .generic "a" true, .taskFailed 1 "generic" (.panicked "oops"),
        .taskStarted 2 .generic "b" true, .taskEnded 2 "generic" .completed] ∧
      other.told = [.taskStarted 1 .generic "a" true, .taskEnded 1 "generic" .completed,
        .taskStarted 2 .generic "b" true, .taskEnded 2 "generic" .cancelled] ∧
      other.traces = one.traces := by
  have alike := (ends_disturb_nobody true {} (twoTasks [.panic (.text "oops")] [])).2.2.2.2.2
    {} (twoTasks [] [.giveUp]) rfl rfl
  exact ⟨by decide, by decide, (alike.2 9).1.traces⟩

end Home
end HomeMedia
