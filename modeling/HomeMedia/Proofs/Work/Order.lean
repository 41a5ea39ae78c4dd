import HomeMedia.Proofs.Work.Ledger
import Mathlib.Data.List.Range
/-!
# Tasks run one by one, in the order they were added

The ledger of a home server (`Proofs/Work/Ledger.lean`) is *ordered* if it tells of tasks numbered
1, 2, 3, …, of which some first ones were started in that order, the others wait in that order, and
the started ones have ended, but for the last one as long as the worker is busy with it. A new queue
without a log is ordered, and no change of a ledger breaks this, whoever adds and cancels tasks and
whenever: `tasks_one_by_one`. The current task is the one that was started last; it stays current
for a moment when its run has ended.

The proofs follow tasks by their *tags*, which the log and the task list share. Cancelling a task
changes its token and keeps its tag.
-/

namespace HomeMedia

/-- What both the log and the task list tell of a task. -/
structure Task.Tag where
  /-- Its number. -/
  id : Task.Id
  /-- What kind of work it does. -/
  kind : Task.Kind
  /-- Its description. -/
  description : String
  deriving DecidableEq, Repr

/-- The tag of a task in the task list. -/
def Task.View.tag (v : Task.View) : Task.Tag := ⟨v.id, v.kind, v.description⟩

/-- The tag of a task in the queue. -/
def Work.Entry.tag (e : Work.Entry) : Task.Tag := e.view.tag

namespace Event

/-- The task that was added. -/
def queued? : Event → Option Task.Tag
  | .taskQueued id kind description => some ⟨id, kind, description⟩
  | _ => none

/-- The task that was started. -/
def started? : Event → Option Task.Tag
  | .taskStarted id kind description _ => some ⟨id, kind, description⟩
  | _ => none

/-- The task that ended, in whatever way. -/
def ended? : Event → Option Task.Id
  | .taskEnded id _ _ => some id
  | .taskFailed id _ _ => some id
  | _ => none

/-- What is said of tasks stands in the part of the log that is about tasks. -/
theorem filterMap_filter_ofTask {α : Type} {f : Event → Option α}
    (quiet : ∀ event, event.ofTask = false → f event = none) (events : List Event) :
    (events.filter Event.ofTask).filterMap f = events.filterMap f := by
  rw [List.filterMap_filter]
  congr 1
  funext event
  split
  · rfl
  · rename_i other
    rw [quiet event (Bool.eq_false_iff.mpr other)]

/-- An event of another kind is not collected. -/
theorem filterMap_concat_of_none {α : Type} {f : Event → Option α} {event : Event}
    (quiet : f event = none) (events : List Event) :
    (events ++ [event]).filterMap f = events.filterMap f := by
  rw [List.filterMap_append, List.filterMap_cons_none quiet, List.filterMap_nil, List.append_nil]

/-- Neither are cancellings. -/
theorem filterMap_append_cancellings {α : Type} {f : Event → Option α}
    (quiet : ∀ id count, f (.tasksInvalidated id count) = none) (events : List Event)
    (id : Task.Id) (w : Work) :
    (events ++ w.cancellings id).filterMap f = events.filterMap f := by
  unfold Work.cancellings
  split
  · rw [List.append_nil]
  · exact filterMap_concat_of_none (quiet id _) events

end Event

/-- A task that is cancelled has the same tag. -/
@[simp] theorem Work.Entry.tag_hit (id : Task.Id) (e : Work.Entry) : (e.hit id).tag = e.tag := by
  unfold Work.Entry.hit
  split <;> rfl

/-- So have all that are. -/
theorem Work.Entry.tag_comp_hit (id : Task.Id) :
    Work.Entry.tag ∘ Work.Entry.hit id = Work.Entry.tag :=
  funext (Work.Entry.tag_hit id)

namespace Work

/-- The tag of the current task. -/
def currentTag (w : Work) : Option Task.Tag := w.current.map Entry.tag

/-- The tags of the tasks that wait. -/
def waitingTags (w : Work) : List Task.Tag := w.queue.map Entry.tag

/-- The task list shows the tasks that wait. -/
theorem list_map_tag (w : Work) : w.list.map Task.View.tag = w.waitingTags := List.map_map

/-- A task that is added waits behind the others. -/
theorem waitingTags_enqueue (task : Task) (parent : Option Task.Id) (w : Work) :
    (w.enqueue task parent).2.waitingTags =
      w.waitingTags ++ [⟨w.added + 1, task.kind, task.description⟩] := by
  simp [enqueue, waitingTags, Entry.tag, Entry.view, Task.View.tag]

/-- Cancelled tasks still wait. -/
theorem waitingTags_invalidate (id : Task.Id) (w : Work) :
    (w.invalidate id).2.waitingTags = w.waitingTags := by
  simp [invalidate, waitingTags, Entry.tag_comp_hit]

/-- The current task stays when tasks are cancelled. -/
theorem currentTag_invalidate (id : Task.Id) (w : Work) :
    (w.invalidate id).2.currentTag = w.currentTag := by
  simp [invalidate, currentTag, Entry.tag_comp_hit]

/-- Waking the worker makes it no busier. -/
theorem isBusy_notify (w : Work) : w.notify.2.worker.isBusy = w.worker.isBusy := by
  unfold notify
  split
  · rename_i parked
    rw [parked]
    rfl
  · rfl

/-- A wake-up touches only the worker. -/
theorem notify_eq (w : Work) :
    w.notify.2 = { w with worker := w.notify.2.worker, permit := w.notify.2.permit } := by
  unfold notify
  split <;> rfl

/-- The current task stays when its own token is set. -/
theorem currentTag_interrupt (w : Work) : w.interrupt.currentTag = w.currentTag := by
  simp only [interrupt, currentTag, Option.map_map]
  rfl

end Work

namespace Ledger

/-- The tasks that were added. -/
def queued (l : Ledger) : List Task.Tag := l.events.filterMap Event.queued?

/-- The tasks that were started. -/
def started (l : Ledger) : List Task.Tag := l.events.filterMap Event.started?

/-- The tasks that ended. -/
def ended (l : Ledger) : List Task.Id := l.events.filterMap Event.ended?

/-- The tasks that are over: the ones that were started, but for the last one as long as the worker
is busy with it. -/
def past (l : Ledger) : List Task.Tag :=
  if l.work.worker.isBusy then l.started.dropLast else l.started

/-- Tasks are taken from the front of the queue, and end before the next one is taken. -/
structure Ordered (l : Ledger) : Prop where
  /-- Tasks are numbered in the order in which they were added. -/
  numbered : l.queued.map Task.Tag.id = List.range' 1 l.work.added
  /-- A task was started or waits. -/
  waiting : l.queued = l.started ++ l.work.waitingTags
  /-- The tasks that are over have ended, and no others. -/
  finished : l.ended = l.past.map Task.Tag.id
  /-- The current task is the one that was started last. -/
  current : ∀ tag, l.work.currentTag = some tag → l.started.getLast? = some tag
  /-- While the worker is busy there is a current task. -/
  busy : l.work.worker.isBusy = true → l.work.currentTag.isSome = true

namespace Ordered

variable {l m : Ledger}

/-- While the worker is busy, all that were started are over but the last. -/
theorem past_of_busy (busy : l.work.worker.isBusy = true) : l.past = l.started.dropLast :=
  if_pos busy

/-- Otherwise all are. -/
theorem past_of_not_busy (idle : l.work.worker.isBusy = false) : l.past = l.started :=
  if_neg (Bool.eq_false_iff.mp idle)

/-- Which tasks are over depends on the starts and on whether the worker is busy. -/
theorem past_congr (started : m.started = l.started)
    (busy : m.work.worker.isBusy = l.work.worker.isBusy) : m.past = l.past := by
  rw [past, past, started, busy]

/-- A ledger with another queue in which the same tasks wait, and nothing new in the log. -/
theorem of_same (o : Ordered l) (events : m.events = l.events)
    (added : m.work.added = l.work.added) (queue : m.work.waitingTags = l.work.waitingTags)
    (current : m.work.currentTag = none ∨ m.work.currentTag = l.work.currentTag)
    (busy : m.work.worker.isBusy = l.work.worker.isBusy)
    (shown : m.work.worker.isBusy = true → m.work.currentTag = l.work.currentTag) :
    Ordered m where
  numbered := by rw [queued, events, added]; exact o.numbered
  waiting := by rw [queued, started, events, queue]; exact o.waiting
  finished := by
    rw [past_congr (by rw [started, events]; rfl) busy, ended, events]
    exact o.finished
  current tag htag := by
    rw [started, events]
    rcases current with none | same
    · rw [none] at htag
      cases htag
    · exact o.current tag (same ▸ htag)
  busy hbusy := by rw [shown hbusy]; exact o.busy (busy ▸ hbusy)

/-- Reports of cancelled tasks do not count. -/
theorem withCancellings {w : Work} (o : Ordered ⟨w, l.events⟩) (id : Task.Id) :
    Ordered ⟨w, l.events ++ l.work.cancellings id⟩ := by
  have hqueued : queued ⟨w, l.events ++ l.work.cancellings id⟩ = queued ⟨w, l.events⟩ :=
    Event.filterMap_append_cancellings (fun _ _ => rfl) ..
  have hstarted : started ⟨w, l.events ++ l.work.cancellings id⟩ = started ⟨w, l.events⟩ :=
    Event.filterMap_append_cancellings (fun _ _ => rfl) ..
  have hended : ended ⟨w, l.events ++ l.work.cancellings id⟩ = ended ⟨w, l.events⟩ :=
    Event.filterMap_append_cancellings (fun _ _ => rfl) ..
  refine ⟨hqueued ▸ o.numbered, ?_, ?_, fun tag htag => hstarted ▸ o.current tag htag, o.busy⟩
  · rw [hqueued, hstarted]
    exact o.waiting
  · rw [hended, past_congr hstarted rfl]
    exact o.finished

/-- Adding a task keeps the order. -/
theorem add (o : Ordered l) (task : Task) (parent : Option Task.Id) :
    Ordered ⟨(l.work.enqueue task parent).2,
      l.events ++ [.taskQueued (l.work.enqueue task parent).1 task.kind task.description]⟩ := by
  let added : Event := .taskQueued (l.work.added + 1) task.kind task.description
  have hqueued : ∀ w, queued ⟨w, l.events ++ [added]⟩ =
      l.queued ++ [⟨l.work.added + 1, task.kind, task.description⟩] := fun _ =>
    List.filterMap_append
  have hstarted : ∀ w, started ⟨w, l.events ++ [added]⟩ = l.started := fun _ =>
    Event.filterMap_concat_of_none rfl _
  have hended : ∀ w, ended ⟨w, l.events ++ [added]⟩ = l.ended := fun _ =>
    Event.filterMap_concat_of_none rfl _
  refine ⟨?_, ?_, ?_, fun tag htag => (hstarted _).symm ▸ o.current tag htag, o.busy⟩
  · refine (congrArg (List.map Task.Tag.id) (hqueued _)).trans ?_
    rw [List.map_append, o.numbered]
    change _ = List.range' 1 (l.work.added + 1)
    rw [List.range'_1_concat, Nat.add_comm 1]
    rfl
  · refine (hqueued _).trans ?_
    rw [Work.waitingTags_enqueue, ← List.append_assoc, o.waiting]
    exact congrArg (· ++ _ ++ _) (hstarted _).symm
  · exact ((hended _).trans o.finished).trans
      (congrArg (List.map Task.Tag.id) (past_congr (hstarted _) rfl)).symm

/-- The front of the queue becomes the current task. The worker was looking for one, so all tasks
that were started before are over. -/
theorem take (o : Ordered l) {e : Work.Entry} {queue : List Work.Entry}
    (looking : l.work.worker = .looking) (waiting : l.work.queue = e :: queue) :
    Ordered ⟨{ l.work with queue, current := some e, worker := .running e.body },
      l.events ++ [.taskStarted e.id e.kind e.description e.valid]⟩ := by
  have hqueued : ∀ w, queued ⟨w,
      l.events ++ [.taskStarted e.id e.kind e.description e.valid]⟩ = l.queued := fun _ =>
    Event.filterMap_concat_of_none rfl _
  have hstarted : ∀ w, started ⟨w,
      l.events ++ [.taskStarted e.id e.kind e.description e.valid]⟩ = l.started ++ [e.tag] :=
    fun _ => List.filterMap_append
  have hended : ∀ w, ended ⟨w,
      l.events ++ [.taskStarted e.id e.kind e.description e.valid]⟩ = l.ended := fun _ =>
    Event.filterMap_concat_of_none rfl _
  refine ⟨(hqueued _).symm ▸ o.numbered, ?_, ?_, fun tag htag => ?_, fun _ => rfl⟩
  · rw [hqueued, hstarted, o.waiting, Work.waitingTags, waiting]
    exact List.append_cons ..
  · rw [hended, past_of_busy rfl, hstarted, List.dropLast_concat, o.finished,
      past_of_not_busy (looking ▸ rfl)]
  · rw [hstarted, List.getLast?_concat]
    exact htag

/-- The run of the current task ends, and now all tasks that were started are over. -/
theorem finish (o : Ordered l) {e : Work.Entry} (busy : l.work.worker.isBusy = true)
    (current : l.work.current = some e) (outcome : Except Task.Error Task.Outcome) :
    Ordered ⟨{ l.work with worker := .ended }, l.events ++ [Home.endEvent e outcome]⟩ := by
  have hqueued : ∀ w, queued ⟨w, l.events ++ [Home.endEvent e outcome]⟩ = l.queued := fun _ =>
    Event.filterMap_concat_of_none (by cases outcome <;> rfl) _
  have hstarted : ∀ w, started ⟨w, l.events ++ [Home.endEvent e outcome]⟩ = l.started := fun _ =>
    Event.filterMap_concat_of_none (by cases outcome <;> rfl) _
  have hended : ∀ w, ended ⟨w, l.events ++ [Home.endEvent e outcome]⟩ = l.ended ++ [e.id] := by
    intro w
    rw [ended, List.filterMap_append]
    cases outcome <;> rfl
  have last : l.started.getLast? = some e.tag :=
    o.current e.tag (congrArg (Option.map Work.Entry.tag) current)
  refine ⟨(hqueued _).symm ▸ o.numbered, ?_, ?_, fun tag htag => ?_, fun busy => by cases busy⟩
  · rw [hqueued, hstarted]
    exact o.waiting
  · rw [hended, past_of_not_busy rfl, hstarted, o.finished, past_of_busy busy,
      ← List.dropLast_append_getLast? e.tag last, List.dropLast_concat, List.map_append]
    rfl
  · rw [hstarted]
    exact o.current tag htag

/-- **No change of a ledger breaks the order.** -/
theorem step (o : Ordered l) (change : Step l m) : Ordered m := by
  cases change with
  | add task parent => exact o.add task parent
  | notify =>
    have same := Work.notify_eq l.work
    have current : l.work.notify.2.currentTag = l.work.currentTag := by rw [same]; rfl
    exact o.of_same rfl (by rw [same]) (by rw [same]; rfl) (.inr current) (Work.isBusy_notify _)
      fun _ => current
  | invalidate id =>
    have current := Work.currentTag_invalidate id l.work
    have same : Ordered ⟨(l.work.invalidate id).2, l.events⟩ :=
      o.of_same rfl rfl (Work.waitingTags_invalidate ..) (.inr current) rfl fun _ => current
    exact same.withCancellings id
  | interrupt =>
    have current := Work.currentTag_interrupt l.work
    exact o.of_same rfl rfl rfl (.inr current) rfl fun _ => current
  | call => exact o.of_same rfl rfl rfl (.inr rfl) rfl fun _ => rfl
  | askStop index state => exact o.of_same rfl rfl rfl (.inr rfl) rfl fun _ => rfl
  | take looking waiting => exact o.take looking waiting
  | goOn busy rest => exact o.of_same rfl rfl rfl (.inr rfl) busy.symm fun _ => rfl
  | await busy gate rest => exact o.of_same rfl rfl rfl (.inr rfl) busy.symm fun _ => rfl
  | finish busy current outcome => exact o.finish busy current outcome
  | putAway ended inUse =>
    refine o.of_same rfl rfl rfl ?_ (congrArg Work.Worker.isBusy ended).symm fun busy => by cases busy
    cases inUse with
    | true => exact .inl rfl
    | false => exact .inr rfl
  | lookAgain looking empty => exact o.of_same rfl rfl rfl (.inr rfl) rfl fun _ => rfl
  | park looking empty =>
    exact o.of_same rfl rfl rfl (.inr rfl) (congrArg Work.Worker.isBusy looking).symm fun _ => rfl
  | stop looking =>
    exact o.of_same rfl rfl rfl (.inr rfl) (congrArg Work.Worker.isBusy looking).symm fun _ => rfl

/-- **So do any changes of a ledger.** -/
theorem steps (o : Ordered l) (changes : Steps l m) : Ordered m := by
  induction changes with
  | refl => exact o
  | tail _ change ih => exact ih.step change

/-- The tasks of a first part of the list are numbered 1, 2, 3, …. -/
theorem ids_of_append (o : Ordered l) {front back : List Task.Tag}
    (split : l.queued = front ++ back) :
    front.map Task.Tag.id = List.range' 1 front.length := by
  have short : front.length ≤ l.work.added := by
    have lengths := congrArg List.length o.numbered
    rw [split, List.length_map, List.length_append, List.length_range'] at lengths
    omega
  have numbered := congrArg (List.take front.length) o.numbered
  rw [List.take_range'_of_length_ge short, split, ← List.map_take,
    List.take_left' rfl] at numbered
  exact numbered

/-- The current task is the last of the tasks that were started, and is numbered accordingly. -/
theorem last_of_current (o : Ordered l) {e : Work.Entry} (current : l.work.current = some e) :
    0 < l.started.length ∧ e.id = l.started.length ∧
      l.started[l.started.length - 1]? = some e.tag := by
  have found : l.started.getLast? = some e.tag :=
    o.current e.tag (congrArg (Option.map Work.Entry.tag) current)
  rw [List.getLast?_eq_getElem?] at found
  have started : 0 < l.started.length :=
    (Nat.zero_le _).trans_lt (List.getElem?_eq_some_iff.mp found).1
  have length : 1 + 1 * (l.started.length - 1) = l.started.length := by omega
  have numbered := congrArg (fun ids => ids[l.started.length - 1]?) (o.ids_of_append o.waiting)
  rw [List.getElem?_map, found, List.getElem?_range' (Nat.sub_one_lt_of_lt started),
    length] at numbered
  exact ⟨started, Option.some.inj numbered, found⟩

/-- The `k` of an ordered ledger: how many tasks were started. -/
theorem exists_front (o : Ordered l) : ∃ k ≤ l.queued.length,
    l.started = l.queued.take k ∧ l.work.waitingTags = l.queued.drop k ∧
      (∀ e, l.work.current = some e →
        0 < k ∧ e.id = k ∧ l.queued[k - 1]? = some e.tag) ∧
      (l.ended = List.range' 1 k ∧ l.work.worker.isBusy = false ∨
        0 < k ∧ l.ended = List.range' 1 (k - 1) ∧ l.work.worker.isBusy = true ∧
          l.work.current.isSome = true) := by
  have split := o.waiting
  refine ⟨l.started.length, ?_, ?_, ?_, fun e he => ?_, ?_⟩
  · rw [split, List.length_append]
    exact Nat.le_add_right ..
  · rw [split, List.take_left' rfl]
  · rw [split, List.drop_left' rfl]
  · obtain ⟨started, number, found⟩ := o.last_of_current he
    refine ⟨started, number, ?_⟩
    rw [split, List.getElem?_append_left (by omega)]
    exact found
  · have finished := o.finished
    cases hbusy : l.work.worker.isBusy with
    | false =>
      rw [past_of_not_busy hbusy, o.ids_of_append split] at finished
      exact .inl ⟨finished, rfl⟩
    | true =>
      have isSome := o.busy hbusy
      rw [Work.currentTag, Option.isSome_map] at isSome
      obtain ⟨e, he⟩ := Option.isSome_iff_exists.mp isSome
      rw [past_of_busy hbusy, List.map_dropLast, o.ids_of_append split, List.dropLast_eq_take,
        List.length_range', List.take_range'_of_length_ge (Nat.sub_le ..)] at finished
      exact .inr ⟨(o.last_of_current he).1, finished, rfl, isSome⟩

/-- The current task and those that wait have been added one after the other. -/
theorem tags_sublist (o : Ordered l) :
    (l.work.entries.map Work.Entry.tag).Sublist l.queued := by
  rw [o.waiting, Work.entries, List.map_append]
  refine List.Sublist.append ?_ (List.Sublist.refl _)
  cases current : l.work.current with
  | none => exact List.nil_sublist _
  | some e =>
    have last := o.current e.tag (congrArg (Option.map Work.Entry.tag) current)
    exact List.singleton_sublist.2 (List.mem_of_getLast? last)

/-- The tasks that are there have ascending numbers. -/
theorem ids_sublist (o : Ordered l) :
    (l.work.entries.map Work.Entry.id).Sublist (List.range' 1 l.work.added) := by
  have ids := o.tags_sublist.map Task.Tag.id
  rwa [o.numbered, List.map_map] at ids

/-- None of them is yet to come. -/
theorem id_le (o : Ordered l) {e : Work.Entry} (mem : e ∈ l.work.entries) :
    e.id ≤ l.work.added := by
  have numbered : e.id ∈ List.range' 1 l.work.added :=
    o.ids_sublist.subset (List.mem_map_of_mem mem)
  exact Nat.lt_one_add_iff.1 (List.mem_range'_1.1 numbered).2

/-- **No two tasks have the same number.** -/
theorem eq_of_id (o : Ordered l) {d e : Work.Entry} (left : d ∈ l.work.entries)
    (right : e ∈ l.work.entries) (same : d.id = e.id) : d = e :=
  List.inj_on_of_nodup_map (o.ids_sublist.nodup List.nodup_range') left right same

end Ordered
end Ledger

namespace Home

/-- A new queue without a log is ordered. -/
theorem ordered_new (h : Home) : Ledger.Ordered ({ h with work := {}, log := [] } : Home).ledger :=
  ⟨rfl, rfl, rfl, fun _ none => (by cases none), fun busy => (by cases busy)⟩

/-- No run breaks the order. -/
theorem ordered_after {h : Home} (o : h.ledger.Ordered) (run : List Happening) :
    (h.after run).ledger.Ordered :=
  after_of_next (P := fun g => g.ledger.Ordered) (fun happening _ g og =>
    og.steps (next_steps g happening)) o

/-- The ledger's tasks that were added are those of the log. -/
theorem queued_ledger (h : Home) : h.ledger.queued = h.log.filterMap Event.queued? :=
  Event.filterMap_filter_ofTask (by rintro (_ | _) other <;> first | rfl | cases other) h.log

/-- So are those that were started. -/
theorem started_ledger (h : Home) : h.ledger.started = h.log.filterMap Event.started? :=
  Event.filterMap_filter_ofTask (by rintro (_ | _) other <;> first | rfl | cases other) h.log

/-- So are those that ended. -/
theorem ended_ledger (h : Home) : h.ledger.ended = h.log.filterMap Event.ended? :=
  Event.filterMap_filter_ofTask (by rintro (_ | _) other <;> first | rfl | cases other) h.log

/-- **Tasks are run one by one, in the order they were added.**  After every run of a home server
that began with a new queue and no log, let `queued` be the tasks that were added. They are numbered
1, 2, 3, …, and the next one will get the next number. Some `k` first ones were started, in that
order, and the others are the task list, in that order. The current task, if there is one, is task
`k`. Of the `k` started tasks either all have ended, in that order, and the worker is busy with
none; or all but task `k`, and then there is a current task and the worker is busy with it. -/
theorem tasks_one_by_one (h₀ : Home) (run : List Happening) :
    let h := ({ h₀ with work := {}, log := [] } : Home).after run
    let queued := h.log.filterMap Event.queued?
    let ended := h.log.filterMap Event.ended?
    queued.map Task.Tag.id = List.range' 1 queued.length ∧
    (∀ (task : Task) (parent : Option Task.Id),
      (h.addTask task parent).1 = queued.length + 1 ∧
        (h.addTask task parent).2.log =
          h.log ++ [.taskQueued (queued.length + 1) task.kind task.description]) ∧
    ∃ k ≤ queued.length,
      h.log.filterMap Event.started? = queued.take k ∧
      h.work.list.map Task.View.tag = queued.drop k ∧
      (∀ e, h.work.current = some e → 0 < k ∧ e.id = k ∧ queued[k - 1]? = some e.view.tag) ∧
      (ended = List.range' 1 k ∧ h.work.worker.isBusy = false ∨
        0 < k ∧ ended = List.range' 1 (k - 1) ∧ h.work.worker.isBusy = true ∧
          h.work.current.isSome = true) := by
  intro h queued ended
  have o : h.ledger.Ordered := ordered_after (ordered_new h₀) run
  have ids := o.ids_of_append (List.append_nil _).symm
  have front := o.exists_front
  have added : h.work.added = queued.length := by
    have lengths := congrArg List.length o.numbered
    rw [List.length_map, List.length_range', queued_ledger] at lengths
    exact lengths.symm
  rw [queued_ledger] at ids
  rw [queued_ledger, started_ledger, ended_ledger] at front
  refine ⟨ids, fun task parent => ?_, ?_⟩
  · rw [← added]
    exact ⟨rfl, rfl⟩
  · rw [Work.list_map_tag]
    exact front

/-- A task that is added while another one runs waits for it. -/
example :
    let task : Task :=
      { kind := .generic, description := "", cancellable := true, scheduled := false, body := [] }
    let h := ({} : Home).after
      [.command (.addTask task none), .turn .worker, .command (.addTask task none)]
    h.log.filterMap Event.started? = [⟨1, .generic, ""⟩] ∧
      h.work.list.map Task.View.tag = [⟨2, .generic, ""⟩] := by
  decide

end Home
end HomeMedia
