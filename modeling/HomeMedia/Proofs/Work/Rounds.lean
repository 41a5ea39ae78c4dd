import HomeMedia.Proofs.Home.Exchanges
import HomeMedia.Proofs.Work.Order
/-!
# What the worker reports of the tasks that it runs

The worker reports two events of each task that it takes: its start, with the token as it was then,
and its end, which depends on the task's result and on nothing else (`Task.Tag.finish`). These
events come in *rounds*, a start and the end of the same task, and the rounds are those of the tasks
1, 2, 3, … (`exists_tellsRounds`); every change of the queue keeps that up
(`Ledger.Alternates.step`).

When they are reported can be said turn by turn (`told_next`). A turn of the worker reports a start
if the worker takes a task, and an end if the run of its task is over, with the result that the next
step of the task says (`result?`). Nobody else reports any of them. The reason is that nobody else
notices when the log is exchanged (`told_of_unnoticed`): there is no need to look at each command.
-/

namespace HomeMedia

namespace Task

/-- What the worker reports when it takes up a task. -/
def Tag.start (t : Tag) (valid : Bool) : Event := .taskStarted t.id t.kind t.description valid

/-- What the worker reports at the end of a task, depending on the result alone. -/
def Tag.finish (t : Tag) : Except Error Outcome → Event
  | .ok outcome => .taskEnded t.id t.kind.name outcome
  | .error error => .taskFailed t.id t.kind.name error

end Task

/-- How loud the line at the end of a task is. -/
def Task.loudness : Except Error Outcome → Log.Level
  | .ok _ => .info
  | .error error =>
    match error.severity with
    | .critical | .error => .error
    | .warning => .warn
    | .info => .info

/-- The end of a task is worth a line, as loud as its result is serious. -/
theorem Task.Tag.exists_line (t : Tag) (result : Except Error Outcome) :
    ∃ line, (t.finish result).line? = some line ∧ line.level = loudness result ∧
      ∀ error, result = .error error → ("error", error.message) ∈ line.fields := by
  rcases result with error | _ | _
  · refine ⟨Event.failureLine t.id t.kind.name error, rfl, ?_, ?_⟩
    · unfold Event.failureLine loudness
      dsimp only
      cases error.severity <;> rfl
    · rintro same ⟨⟩
      unfold Event.failureLine
      dsimp only
      cases error.severity <;> exact List.mem_cons_self ..
  · exact ⟨_, rfl, rfl, nofun⟩
  · exact ⟨_, rfl, rfl, nofun⟩

/-- A task that was started and has ended. -/
structure Work.Round where
  /-- The task. -/
  tag : Task.Tag
  /-- Whether its token was unset at the start. -/
  valid : Bool
  /-- What came of it. -/
  result : Except Task.Error Task.Outcome

/-- The two events of a round. -/
def Work.Round.events (r : Work.Round) : List Event := [r.tag.start r.valid, r.tag.finish r.result]

/-- Events that are not about the queue are not reported by the worker. -/
theorem Event.filter_ofWorker {events : List Event} (quiet : events.filter Event.ofQueue = []) :
    events.filter Event.ofWorker = [] := by
  refine List.filter_eq_nil_iff.2 fun event mem told => ?_
  refine List.filter_eq_nil_iff.1 quiet event mem ?_
  cases event with
  | taskStarted | taskEnded | taskFailed => rfl
  | _ => cases told

/-! ## Starts and ends alternate -/

namespace Ledger

variable {l m : Ledger}

/-- What the worker has reported. -/
def told (l : Ledger) : List Event := l.events.filter Event.ofWorker

/-- One round after the other, and the start of the task that the worker is busy with. -/
structure Alternates (l : Ledger) (rounds : List Work.Round) (begun : List Event) : Prop where
  told : l.told = rounds.flatMap Work.Round.events ++ begun
  /-- Nothing is begun unless the worker is busy. -/
  idle : l.work.worker.isBusy = false → begun = []
  /-- While the worker is busy, the current task is begun. -/
  busy : l.work.worker.isBusy = true →
    ∃ tag valid, l.work.currentTag = some tag ∧ begun = [tag.start valid]

namespace Alternates

variable {rounds : List Work.Round} {begun : List Event}

/-- What leaves the report and the current task keeps the rounds. -/
theorem of_same (a : Alternates l rounds begun) (told : m.told = l.told)
    (busy : m.work.worker.isBusy = l.work.worker.isBusy)
    (current : m.work.worker.isBusy = true → m.work.currentTag = l.work.currentTag) :
    Alternates m rounds begun where
  told := told.trans a.told
  idle idle := a.idle (busy ▸ idle)
  busy isBusy := by
    rw [current isBusy]
    exact a.busy (busy ▸ isBusy)

/-- **What a change of the queue does to the rounds.** -/
theorem step (a : Alternates l rounds begun) (change : Step l m) :
    ∃ rounds begun, Alternates m rounds begun := by
  have quiet (w : Work) {events : List Event} (none : events.filter Event.ofWorker = []) :
      Ledger.told ⟨w, l.events ++ events⟩ = l.told := by
    rw [Ledger.told, List.filter_append, none, List.append_nil]
    rfl
  cases change with
  | add task parent => exact ⟨_, _, a.of_same (quiet _ rfl) rfl fun _ => rfl⟩
  | notify =>
    have same := Work.notify_eq l.work
    refine ⟨_, _, a.of_same rfl (Work.isBusy_notify _) fun _ => ?_⟩
    rw [same]
    rfl
  | invalidate id =>
    refine ⟨_, _, a.of_same (quiet _ ?_) rfl fun _ => Work.currentTag_invalidate id l.work⟩
    unfold Work.cancellings
    split <;> rfl
  | interrupt => exact ⟨_, _, a.of_same rfl rfl fun _ => Work.currentTag_interrupt l.work⟩
  | call => exact ⟨_, _, a.of_same rfl rfl fun _ => rfl⟩
  | askStop index state => exact ⟨_, _, a.of_same rfl rfl fun _ => rfl⟩
  | @take e queue looking waiting =>
    have nothing : begun = [] := a.idle (looking ▸ rfl)
    refine ⟨rounds, [e.tag.start e.valid], ?_, fun idle => (by cases idle),
      fun _ => ⟨_, _, rfl, rfl⟩⟩
    change (l.events ++ [e.tag.start e.valid]).filter Event.ofWorker = _
    rw [List.filter_append, show l.events.filter Event.ofWorker = _ from a.told, nothing,
      List.append_nil]
    rfl
  | goOn busy rest => exact ⟨_, _, a.of_same rfl busy.symm fun _ => rfl⟩
  | await busy gate rest => exact ⟨_, _, a.of_same rfl busy.symm fun _ => rfl⟩
  | @finish e busy current outcome =>
    obtain ⟨tag, valid, same, rfl⟩ := a.busy busy
    have found : tag = e.tag := by
      rw [Work.currentTag, current] at same
      exact (Option.some.inj same).symm
    subst found
    refine ⟨rounds ++ [⟨e.tag, valid, outcome⟩], [], ?_, fun _ => rfl, fun busy => (by cases busy)⟩
    change (l.events ++ [Home.endEvent e outcome]).filter Event.ofWorker = _
    rw [List.filter_append, show l.events.filter Event.ofWorker = _ from a.told,
      List.flatMap_append, List.append_nil, List.append_assoc]
    cases outcome <;> rfl
  | putAway ended inUse =>
    exact ⟨_, _, a.of_same rfl (congrArg Work.Worker.isBusy ended).symm
      fun busy => (by cases busy)⟩
  | lookAgain looking empty => exact ⟨_, _, a.of_same rfl rfl fun _ => rfl⟩
  | park looking empty =>
    exact ⟨_, _, a.of_same rfl (congrArg Work.Worker.isBusy looking).symm fun _ => rfl⟩
  | stop looking =>
    exact ⟨_, _, a.of_same rfl (congrArg Work.Worker.isBusy looking).symm fun _ => rfl⟩

/-- **Any changes of a ledger go on in rounds.** -/
theorem steps (a : Alternates l rounds begun) (changes : Steps l m) :
    ∃ rounds begun, Alternates m rounds begun := by
  induction changes with
  | refl => exact ⟨_, _, a⟩
  | tail _ change ih =>
    obtain ⟨rounds, begun, a⟩ := ih
    exact a.step change

/-- The rounds, and the task that is begun, are the tasks that were started. -/
theorem started (a : Alternates l rounds begun) :
    l.started = rounds.map Work.Round.tag ++ begun.filterMap Event.started? := by
  have told : l.told.filterMap Event.started? = l.started := by
    unfold Ledger.told Ledger.started
    rw [List.filterMap_filter]
    congr 1
    funext event
    cases event <;> rfl
  have round (r : Work.Round) : r.events.filterMap Event.started? = [r.tag] := by
    obtain ⟨tag, valid, _ | _⟩ := r <;> rfl
  rw [← told, a.told, List.filterMap_append, List.filterMap_flatMap, List.map_eq_flatMap]
  simp only [round]

/-- **The rounds are those of the tasks that were added first,** in that order, and if the worker is
busy, it is with the task after them. -/
theorem of_ordered (a : Alternates l rounds begun) (o : Ordered l) :
    rounds.map Work.Round.tag = l.queued.take rounds.length ∧
      rounds.map (fun r => r.tag.id) = List.range' 1 rounds.length ∧
      (begun = [] ∧ l.work.worker.isBusy = false ∨
        ∃ e valid, l.work.current = some e ∧ l.work.worker.isBusy = true ∧
          e.id = rounds.length + 1 ∧ l.queued[rounds.length]? = some e.tag ∧
          begun = [e.tag.start valid]) := by
  have waiting := o.waiting
  rw [a.started, List.append_assoc] at waiting
  have tags : rounds.map Work.Round.tag = l.queued.take rounds.length := by
    rw [waiting]
    exact (List.take_left' (List.length_map ..)).symm
  have ids := o.ids_of_append waiting
  rw [List.map_map, List.length_map] at ids
  refine ⟨tags, ids, ?_⟩
  cases busy : l.work.worker.isBusy with
  | false => exact .inl ⟨a.idle busy, rfl⟩
  | true =>
    obtain ⟨tag, valid, current, rfl⟩ := a.busy busy
    obtain ⟨e, taken, rfl⟩ := Option.map_eq_some_iff.1 current
    have last := o.last_of_current taken
    have length : l.started.length = rounds.length + 1 := by
      rw [a.started, List.length_append, List.length_map]
      rfl
    refine .inr ⟨e, valid, taken, rfl, last.2.1.trans length, ?_, rfl⟩
    rw [waiting, List.getElem?_append_right (by simp), List.length_map, Nat.sub_self]
    rfl

end Alternates
end Ledger

namespace Home

/-! ## Turn by turn -/

/-- What the worker has reported of tasks. -/
def told (h : Home) : List Event := h.log.filter Event.ofWorker

/-- The result of the current task if its run ends in the next turn of the worker. -/
def result? (h : Home) : List Task.Action → Option (Except Task.Error Task.Outcome)
  | [] => some (.ok .completed)
  | .check :: _ | .fetch :: _ => if h.work.isValid then none else some (.ok .cancelled)
  | .fail error :: _ => some (.error error)
  | .panic payload :: _ => some (.error (.panicked payload.message))
  | .giveUp :: _ => some (.ok .cancelled)
  | .spawn _ _ :: _ | .add _ _ :: _ | .invalidate _ :: _ =>
    if h.usesWork then none else some (.error queueGone)
  | .rescan path :: _ =>
    some (Rescan.run (libraryStore h.work.isValid) h.files true path h.library).outcome
  | .conclude answer :: _ =>
    some (Refresh.conclude h.service.name h.work.isValid answer).outcome
  | _ => none

/-- What the next turn of the worker reports of tasks: a start, if it looks for a task and the queue
is in use; or the end of the current task. -/
def tellsNext (h : Home) : List Event :=
  match h.work.worker, h.work.current, h.work.queue with
  | .looking, _, e :: _ => if h.usesWork then [e.tag.start e.valid] else []
  | .running rest, some e, _ => (h.result? rest).toList.map e.tag.finish
  | _, _, _ => []

/-- What the worker reports of tasks when something happens: nothing, if it is not its turn. -/
def tells (h : Home) : Happening → List Event
  | .turn .worker => h.tellsNext
  | _ => []

variable {h : Home}

/-- What is not the worker's is not told. -/
theorem told_report_of_other {events : List Event} (other : events.filter Event.ofWorker = [])
    (h : Home) : (h.report events).told = h.told := by
  unfold told report
  dsimp only
  rw [List.filter_append, other, List.append_nil]

/-- **What notices no exchange of the log reports nothing in place of the worker.** Put what was
told before the log, once as it is and once as it is found; afterwards both must be the same. -/
theorem told_of_unnoticed {f : Home → Home} (unnoticed : ∀ log report,
    f (h.exchanged (.ofLog log report)) = (f h).exchanged (.ofLog log report)) :
    (f h).told = h.told := by
  have fixed := unnoticed (fun log => h.told ++ log) fun before events _ =>
    (List.append_assoc ..).symm
  have found := unnoticed (fun log => log.filter Event.ofWorker ++ log)
    fun before events other => by
      rw [List.filter_append, other, List.append_nil, List.append_assoc]
  exact List.append_cancel_right (congrArg Home.log (found.symm.trans fixed))

/-- **Nothing that is asked lets the worker report,** unless it takes time. -/
theorem told_act {command : Command} (brief : command.takesTime = false) :
    (h.act command).2.told = h.told := by
  refine told_of_unnoticed (f := fun h => (h.act command).2) fun log report => ?_
  have same := act_exchanged (.ofLog log report) h brief (.inr rfl)
  rw [show (Exchange.ofLog log report).body = id from rfl, Command.mapBody_id] at same
  exact congrArg Prod.snd same

/-- The turn of a pulse tells nothing of tasks. -/
theorem told_pollPulse (id : Timer.SubscriptionId) : (h.pollPulse id).told = h.told :=
  told_of_unnoticed fun log report => pollPulse_exchanged (.ofLog log report) h id

/-- Neither does the turn of a call. -/
theorem told_pollCall (index : Nat) : (h.pollCall index).told = h.told :=
  told_of_unnoticed fun log report => pollCall_exchanged (.ofLog log report) h index

/-- Neither does arming the schedule. -/
theorem told_arm : h.arm.told = h.told :=
  told_of_unnoticed fun log report => arm_exchanged (.ofLog log report) h

/-- Neither does adding a task. -/
theorem told_addTask (task : Task) (parent : Option Task.Id) :
    (h.addTask task parent).2.told = h.told :=
  told_of_unnoticed (f := fun h => (h.addTask task parent).2) fun log report =>
    congrArg Prod.snd (addTask_exchanged (.ofLog log report) h task parent)

/-- Neither does cancelling one. -/
theorem told_invalidate (id : Task.Id) : (h.invalidate id).2.told = h.told :=
  told_of_unnoticed (f := fun h => (h.invalidate id).2) fun log report =>
    congrArg Prod.snd (invalidate_exchanged (.ofLog log report) h id)

/-- Neither does announcing changes. -/
theorem told_announceAny (ids : Option (List ObjectId)) : (h.announceAny ids).told = h.told :=
  told_of_unnoticed fun log report => announceAny_exchanged (.ofLog log report) h ids

/-! ### The worker -/

variable {e : Work.Entry}

/-- The end of a task is told with its result. -/
theorem told_finish (current : h.work.current = some e)
    (result : Except Task.Error Task.Outcome) :
    (h.finish result).told = h.told ++ [e.tag.finish result] := by
  have armed : (if e.scheduled then h.arm else h).told = h.told := by
    split
    · exact told_arm
    · rfl
  unfold finish
  rw [current]
  change ((if e.scheduled then h.arm else h).log ++ [endEvent e result]).filter Event.ofWorker = _
  rw [List.filter_append, show (if e.scheduled then h.arm else h).log.filter _ = _ from armed]
  cases result <;> rfl

/-- A scan is told with the result that it comes to. -/
theorem told_scan (current : h.work.current = some e) (path : Path) :
    (h.scan path).told = h.told ++ [e.tag.finish
      (Rescan.run (libraryStore h.work.isValid) h.files true path h.library).outcome] := by
  unfold scan
  dsimp only
  have quiet := Rescan.run_quiet (libraryStore h.work.isValid) h.files true path h.library
  generalize Rescan.run (libraryStore h.work.isValid) h.files true path h.library = r at quiet ⊢
  rw [told_finish (e := e) (by rw [announceAny_work]; exact current), told_announceAny,
    told_report_of_other (Event.filter_ofWorker quiet)]
  rfl

/-- So is a fetch. -/
theorem told_conclude (current : h.work.current = some e)
    (answer : Except Task.Error (List ObjectId)) :
    (h.conclude answer).told = h.told ++ [e.tag.finish
      (Refresh.conclude h.service.name h.work.isValid answer).outcome] := by
  unfold conclude
  dsimp only
  have quiet := Refresh.conclude_quiet h.service.name h.work.isValid answer
  generalize Refresh.conclude h.service.name h.work.isValid answer = c at quiet ⊢
  rw [told_finish (e := e) (by
      change (h.announceAny c.announced).work.current = _
      rw [announceAny_work]
      exact current),
    told_report_of_other (Event.filter_ofWorker quiet), told_announceAny]

/-- The beginning of a fetch tells nothing. -/
theorem told_fetch (rest : List Task.Action) : (h.fetch e rest).told = h.told := by
  have other : [Event.refreshStarted h.service.next.2.name e.scheduled].filter
      Event.ofWorker = [] := rfl
  exact told_report_of_other other { h with service := h.service.next.2 }

/-- **A step tells the end of the task** if that is its result, and nothing otherwise. -/
theorem told_step (current : h.work.current = some e) (rest : List Task.Action)
    (action : Task.Action) : (h.step e rest action).told =
      h.told ++ (h.result? (action :: rest)).toList.map e.tag.finish := by
  have ends := told_finish current
  have goesOn : ∀ {g : Home}, g.told = h.told →
      (g.continueWith rest).told = h.told ++ [] := fun same =>
    same.trans (List.append_nil _).symm
  cases action with
  | note | noteValidity | interrupt => exact goesOn (g := { h with work := _, traces := _ }) rfl
  | fail | panic | giveUp => exact ends _
  | rescan path => exact told_scan current path
  | conclude answer => exact told_conclude current answer
  | sleep ms =>
    unfold step
    dsimp only
    split <;> exact goesOn (g := h) rfl
  | await gate =>
    unfold step
    dsimp only
    split <;> exact goesOn (g := h) rfl
  | check =>
    unfold step result?
    dsimp only
    split
    · exact goesOn (g := h) rfl
    · exact ends _
  | fetch =>
    unfold step result?
    dsimp only
    split
    · exact (told_fetch rest).trans (List.append_nil _).symm
    · exact ends _
  | spawn header body =>
    unfold step result?
    dsimp only
    split
    · exact goesOn (told_addTask _ _)
    · exact ends _
  | add header body =>
    unfold step result?
    dsimp only
    split
    · exact goesOn (told_addTask _ _)
    · exact ends _
  | invalidate id =>
    unfold step result?
    dsimp only
    split
    · exact goesOn (told_invalidate _)
    · exact ends _

/-- A worker that looks for a task tells what it takes up. -/
theorem told_look (looking : h.work.worker = .looking) : h.look.told = h.told ++ h.tellsNext := by
  have looked := h.looked
  generalize h.look = g at looked ⊢
  unfold tellsNext
  rw [looking]
  cases looked with
  | abandon unused =>
    rw [told_report_of_other rfl]
    cases h.work.queue with
    | nil => exact (List.append_nil _).symm
    | cons e queue => simp [unused]; rfl
  | @take e queue inUse waiting =>
    rw [waiting]
    dsimp only
    rw [if_pos inUse]
    exact List.filter_append ..
  | stop empty | again empty | park empty =>
    rw [empty]
    exact (List.append_nil _).symm

/-- **A turn of the worker tells what the state says it will.** -/
theorem told_pollWorker : h.pollWorker.told = h.told ++ h.tellsNext := by
  unfold pollWorker
  cases worker : h.work.worker with
  | looking => exact told_look worker
  | running rest =>
    unfold tellsNext
    rw [worker]
    cases current : h.work.current with
    | none => exact (List.append_nil _).symm
    | some e =>
      cases rest with
      | nil => exact told_finish current _
      | cons action rest => exact told_step current rest action
  | _ =>
    unfold tellsNext
    rw [worker]
    exact (List.append_nil _).symm

/-- **What happens is told turn by turn.** -/
theorem told_next {happening : Happening}
    (brief : ∀ command, happening = .command command → command.takesTime = false) :
    (h.next happening).told = h.told ++ h.tells happening := by
  cases happening with
  | command command => exact (told_act (brief command rfl)).trans (List.append_nil _).symm
  | reloop loop => exact (List.append_nil _).symm
  | turn agent =>
    cases agent with
    | worker => exact told_pollWorker
    | pulse id => exact (told_pollPulse id).trans (List.append_nil _).symm
    | call index => exact (told_pollCall index).trans (List.append_nil _).symm

/-! ## Whole runs -/

/-- The ledger tells what the server does. -/
theorem told_ledger (h : Home) : h.ledger.told = h.told := by
  unfold Ledger.told ledger told
  rw [List.filter_filter]
  congr 1
  funext event
  cases event <;> rfl

/-- Starts and ends go on in rounds during any run. -/
theorem exists_rounds_after {h : Home} {rounds : List Work.Round} {begun : List Event}
    (a : h.ledger.Alternates rounds begun) (run : List Happening) :
    ∃ rounds begun, (h.after run).ledger.Alternates rounds begun :=
  after_of_next (P := fun g => ∃ rounds begun, g.ledger.Alternates rounds begun)
    (fun happening _ g ⟨_, _, a⟩ => a.steps (next_steps g happening)) ⟨rounds, begun, a⟩

/-- Whether something takes no time. -/
def Happening.isBrief : Happening → Bool
  | .command asked => !asked.takesTime
  | _ => true

/-- What happens in no time tells what the state says it will. -/
theorem told_next_of_isBrief {happening : Happening} (brief : happening.isBrief = true) :
    (h.next happening).told = h.told ++ h.tells happening :=
  told_next fun command same => by
    rw [same] at brief
    exact Bool.not_eq_true' _ ▸ brief

/-- What a run lets the worker report. -/
def talesOf : Home → List Happening → List Event
  | _, [] => []
  | h, happening :: more => h.tells happening ++ (h.next happening).talesOf more

/-- **What was told is what the turns of the worker told,** one after the other. -/
theorem told_after {h : Home} {run : List Happening}
    (brief : ∀ happening ∈ run, happening.isBrief = true) :
    (h.after run).told = h.told ++ h.talesOf run := by
  induction run generalizing h with
  | nil => exact (List.append_nil _).symm
  | cons first more ih =>
    rw [talesOf, ← List.append_assoc,
      ← told_next_of_isBrief (brief first (List.mem_cons_self ..))]
    exact ih fun happening mem => brief happening (List.mem_cons_of_mem first mem)

/-- Every run can be spelled out, so that nothing in it takes time. -/
theorem exists_brief (h : Home) (run : List Happening) :
    ∃ short, (∀ happening ∈ short, happening.isBrief = true) ∧ h.after run = h.after short := by
  refine after_of_next (P := fun g => ∃ short : List Happening,
    (∀ happening ∈ short, happening.isBrief = true) ∧ g = h.after short)
    (fun happening _ g reached => ?_) ⟨[], nofun, rfl⟩
  have extend : ∀ {k : Home} (last : Happening), last.isBrief = true →
      (∃ short : List Happening, (∀ happening ∈ short, happening.isBrief = true) ∧
        k = h.after short) → ∃ short : List Happening,
        (∀ happening ∈ short, happening.isBrief = true) ∧ k.next last = h.after short := by
    rintro _ last brief ⟨short, all, rfl⟩
    refine ⟨short ++ [last], fun happening mem => ?_, (after_concat h short last).symm⟩
    rcases List.mem_append.1 mem with mem | mem
    · exact all happening mem
    · exact List.mem_singleton.1 mem ▸ brief
  have kept : Live.Kept fun k : Home => ∃ short : List Happening,
      (∀ happening ∈ short, happening.isBrief = true) ∧ k = h.after short :=
    ⟨fun loop _ reached => extend (.reloop loop) rfl reached,
      fun agent _ reached => extend (.turn agent) rfl reached⟩
  cases happening with
  | turn | reloop => exact extend _ rfl reached
  | command command =>
    cases command with
    | sleep ms => exact kept.sleep ms reached
    | jump ms => exact kept.jump ms reached
    | _ => exact extend _ rfl reached

/-- The worker has reported one round after the other. -/
structure TellsRounds (h : Home) (rounds : List Work.Round) (begun : List Event) : Prop where
  /-- A start and an end are reported of each round, and then perhaps another start. -/
  told : h.told = rounds.flatMap Work.Round.events ++ begun
  /-- The rounds are those of the tasks that were added first. -/
  tags : rounds.map Work.Round.tag = (h.log.filterMap Event.queued?).take rounds.length
  /-- They are numbered 1, 2, 3, …. -/
  ids : rounds.map (fun r => r.tag.id) = List.range' 1 rounds.length
  /-- Another start is reported as long as the worker is busy: that of the next task, which is the
  current one. -/
  begun : begun = [] ∧ h.work.worker.isBusy = false ∨
    ∃ e valid, h.work.current = some e ∧ h.work.worker.isBusy = true ∧
      e.id = rounds.length + 1 ∧ (h.log.filterMap Event.queued?)[rounds.length]? = some e.tag ∧
      begun = [e.tag.start valid]

/-- **Starts and ends alternate** in every run from a new queue without a log. -/
theorem exists_tellsRounds (h₀ : Home) (run : List Happening) : ∃ rounds begun,
    TellsRounds (({ h₀ with work := {}, log := [] } : Home).after run) rounds begun := by
  have empty : Ledger.Alternates ({ h₀ with work := {}, log := [] } : Home).ledger [] [] :=
    ⟨rfl, fun _ => rfl, nofun⟩
  obtain ⟨rounds, begun, a⟩ := exists_rounds_after empty run
  have o := ordered_after (ordered_new h₀) run
  obtain ⟨tags, ids, rest⟩ := a.of_ordered o
  rw [queued_ledger] at tags rest
  exact ⟨rounds, begun, told_ledger _ ▸ a.told, tags, ids, rest⟩

/-- Everything that is told has a line in the log. -/
theorem TellsRounds.exists_line {h : Home} {rounds : List Work.Round} {begun : List Event}
    (tells : TellsRounds h rounds begun) {event : Event} (mem : event ∈ h.told) :
    ∃ line, event.line? = some line := by
  rw [tells.told, List.mem_append, List.mem_flatMap] at mem
  rcases mem with ⟨r, -, mem⟩ | mem
  · rcases List.mem_cons.1 mem with rfl | mem
    · exact ⟨_, rfl⟩
    · obtain ⟨line, same, -⟩ := r.tag.exists_line r.result
      exact ⟨line, List.mem_singleton.1 mem ▸ same⟩
  · rcases tells.begun with ⟨rfl, -⟩ | ⟨e, valid, -, -, -, -, rfl⟩
    · cases mem
    · rw [List.mem_singleton.1 mem]
      exact ⟨_, rfl⟩

end Home
end HomeMedia
